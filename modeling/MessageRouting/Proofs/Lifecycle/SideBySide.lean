import MessageRouting.Proofs.Lifecycle.Reachable
import MessageRouting.Proofs.Lifecycle.UnderLocks
import MessageRouting.Proofs.Program.Runs

/-!
# Calls on the life of a runtime side by side

Any number of calls register routes, start and stop one runtime, each split into its sections, while its routes work. At
every moment each call stands somewhere, and what all stands say together agrees with the engine. So two routes of one
name are never both accepted, a call that is refused has touched no route and no consumer, at most one call starts the
runtime, and when the one that has stopped it comes to its end, all consumers and routes are gone for good.
-/

namespace MessageRouting.Engine

open Time

variable {κ η : Type}

/-! ## Calls -/

/-- A call on the life of a runtime. -/
inductive LifeCall (κ : Type) where
  /-- It registers a route. -/
  | register (definition : Definition κ)
  /-- It starts the runtime. -/
  | start
  /-- It stops the runtime. -/
  | stop

/-- What is given by a call that has come to its end. -/
structure LifeAnswer (κ : Type) where
  /-- The call. -/
  call : LifeCall κ
  /-- What it gives. -/
  given : Except Fault Unit

/-- The work of a call. -/
def LifeCall.work (embedding : Embedding κ η) : LifeCall κ → Work κ η (Except Fault Unit)
  | .register definition => registerRoute embedding definition
  | .start => Engine.start embedding
  | .stop => Engine.stop embedding

/-- Carries a call out. -/
def LifeCall.perform (embedding : Embedding κ η) (call : LifeCall κ) : Work κ η (LifeAnswer κ) := do
  return ⟨call, ← call.work embedding⟩

/-- Calls on the life of a runtime that run side by side. -/
abbrev Living (κ η : Type) := Interleaving (Engine κ η) (Processor κ × Exchange) Outcome (LifeAnswer κ)

/-- What begins is a call. -/
def IsLifeCall (embedding : Embedding κ η) (program : Work κ η (LifeAnswer κ)) : Prop :=
  ∃ call : LifeCall κ, program = call.perform embedding

/-- A call has come to its end. -/
def Returned (now : Living κ η) (n : Nat) (call : LifeCall κ) (given : Except Fault Unit) : Prop :=
  now.programs[n]? = some (.done ⟨call, given⟩)

/-- Where a call stands at its end fits what it gives. -/
def Stand.Fulfils (last : Stand κ) : LifeAnswer κ → Prop
  | ⟨.register definition, given⟩ => last.Registers definition.name given
  | ⟨.start, given⟩ => given = .ok () → last.opened = true
  | ⟨.stop, _⟩ => last.retired = true → last.pending = [] ∧ last.cleared = true

/-- Every call heeds the locks and comes to an end that fits what it gives. -/
theorem heeds_perform (embedding : Embedding κ η) (call : LifeCall κ) :
    Heeds (fun answer last => last.Fulfils answer) .outside (call.perform embedding) := by
  cases call with
  | register definition => exact (heeds_registerRoute embedding definition).bind fun _ _ => id
  | start => exact (heeds_start embedding).bind fun _ _ => id
  | stop => exact (heeds_stop embedding).bind fun _ _ => id

/-! ## What happens beside calls -/

/-- What calls on the life of a runtime go by is as it was, but for timers that have gone on or come to their end. -/
structure Undisturbed (engine after : Engine κ η) : Prop where
  /-- The phase is the same. -/
  phase : after.phase = engine.phase
  /-- The locks are the same. -/
  locks : after.locks = engine.locks
  /-- The routes are the same. -/
  routes : after.routes = engine.routes
  /-- The active consumers are the same. -/
  consumers : after.consumers = engine.consumers
  /-- The tables of direct consumers are the same. -/
  tables : after.tables = engine.tables
  /-- The timers that run have been running. -/
  timers : ∀ timer ∈ after.timers, ∃ other ∈ engine.timers, other.identity = timer.identity

/-- An engine that stays is undisturbed. -/
theorem overTime_undisturbed : OverTime (Undisturbed : Engine κ η → Engine κ η → Prop) where
  refl _ := ⟨rfl, rfl, rfl, rfl, rfl, fun timer running => ⟨timer, running, rfl⟩⟩
  trans first second :=
    ⟨second.phase.trans first.phase, second.locks.trans first.locks, second.routes.trans first.routes,
      second.consumers.trans first.consumers, second.tables.trans first.tables, fun timer running => by
        obtain ⟨other, before, same⟩ := second.timers timer running
        obtain ⟨earlier, there, alike⟩ := first.timers other before
        exact ⟨earlier, there, alike.trans same⟩⟩

/-- Table and timers belong to the same consumers in an engine that is undisturbed. -/
theorem Covered.undisturbed {engine after : Engine κ η} {consumers : List (ActiveConsumer κ)}
    (covered : engine.Covered consumers) (undisturbed : Undisturbed engine after) : after.Covered consumers where
  single := undisturbed.tables ▸ covered.single
  sorted := by
    rw [tableAt, undisturbed.tables]
    exact covered.sorted
  entries := by
    rw [tableAt, undisturbed.tables]
    exact covered.entries
  timers timer running := by
    obtain ⟨other, before, same⟩ := undisturbed.timers timer running
    exact same ▸ covered.timers other before

/-- What spares all that calls keep leaves calls undisturbed. -/
theorem Spares.undisturbed {engine after : Engine κ η} (spares : Spares engine after) : Undisturbed engine after where
  phase := spares.phase
  locks := spares.locks
  routes := spares.routes
  consumers := spares.consumers
  tables := spares.tables
  timers timer running := ⟨timer, spares.timers ▸ running, rfl⟩

/-- Waking the timer that is due first leaves calls undisturbed. -/
theorem undisturbed_wake (limit : Instant) (engine : Engine κ η) : Undisturbed engine (wake limit engine).2 := by
  unfold wake
  split
  · exact ⟨rfl, rfl, rfl, rfl, rfl, fun timer running => ⟨timer, running, rfl⟩⟩
  · dsimp only
    split
    · exact ⟨rfl, rfl, rfl, rfl, rfl, timers_takeTimer _ _⟩
    · refine ⟨rfl, rfl, rfl, rfl, rfl, timers_changeTimer _ ?_ _⟩
      exact fun _ => rfl

/-- Letting a timer rest leaves calls undisturbed. -/
theorem undisturbed_rest (timer : RunningTimer κ) (number : Nat) (engine : Engine κ η) :
    Undisturbed engine (rest timer number engine) := by
  unfold rest
  split
  · exact ⟨rfl, rfl, rfl, rfl, rfl, timers_takeTimer _ _⟩
  · refine ⟨rfl, rfl, rfl, rfl, rfl, timers_changeTimer _ ?_ _⟩
    exact fun _ => rfl

/-- Firing an exchange leaves calls undisturbed. -/
theorem undisturbed_fire (timer : RunningTimer κ) (number : Nat) :
    (fire timer number : Work κ η Unit).Sections Undisturbed := by
  refine .bind (.bind (.atomically fun engine => (spares_scopeFor _ _ engine).undisturbed) fun _ => trivial) fun _ => ?_
  refine (Program.Sections.read overTime_undisturbed _).bind fun now => ?_
  refine .bind (.bind (.ask _) fun _ => trivial) fun _ => ?_
  exact .change (undisturbed_rest timer number)

/-- While time passes, timers fire and leave calls undisturbed. -/
theorem undisturbed_passTime (limit : Instant) (enough : Engine κ η → Bool) (firings : Nat) :
    (passTime limit enough firings : Work κ η Unit).Sections Undisturbed := by
  induction firings with
  | zero => trivial
  | succ firings later =>
    refine (Program.Sections.read overTime_undisturbed _).bind fun done => ?_
    split
    · trivial
    · refine .bind (.atomically (undisturbed_wake limit)) fun woken => ?_
      split
      · trivial
      · exact later
      · exact (undisturbed_fire _ _).bind fun _ => later

/-! ## All calls in step -/

/-- What a call has done in a section shows in where it stands. -/
structure Stand.Accounts (stand : Stand κ) (entry : Passage (Engine κ η)) : Prop where
  /-- It has done nothing if it is calm. -/
  calm : stand.calm = true → SameLife entry.before entry.after
  /-- It has stopped the runtime if it went on before and did not afterwards. -/
  retired : entry.before.phase ≠ .stopped → entry.after.phase = .stopped → stand.retired = true

/-- All calls heed the locks from where they stand, and the engine is as all stands say. -/
structure InStep (sections : List (Passage (Engine κ η))) (stands : List (Stand κ)) (now : Living κ η) : Prop where
  /-- Each call stands somewhere. -/
  aligned : stands.length = now.programs.length
  /-- It heeds the locks from there. -/
  heeds : ∀ (n : Nat) stand program, stands[n]? = some stand → now.programs[n]? = some program →
    Heeds (fun answer last => last.Fulfils answer) stand program
  /-- It relies on nothing without a lock. -/
  fits : ∀ stand ∈ stands, stand.Fits
  /-- The locks are held as the stands say. -/
  locks : LocksAgree stands now.state.locks
  /-- The phase is as the stands say. -/
  phases : PhasesAgree stands now.state.phase
  /-- The routes are as the stands say. -/
  routes : RoutesAgree stands now.state.phase now.state.routes
  /-- Table and timers belong to consumers that are active or under way. -/
  covered : now.state.Covered (now.state.consumers ++ stands.flatMap Stand.pending)
  /-- No consumers are active when the runtime was stopped. -/
  idle : now.state.phase = .stopped → now.state.consumers = []
  /-- What was done shows in where the calls stand. -/
  past : ∀ entry ∈ sections, ∃ stand, stands[entry.program]? = some stand ∧ stand.Accounts entry

section Steps

variable {sections : List (Passage (Engine κ η))} {stands : List (Stand κ)} {now : Living κ η}

/-- The consumers under way are those of one call and those of the others. -/
theorem pending_subset {n : Nat} {stand : Stand κ} (own : stands[n]? = some stand) :
    stands.flatMap Stand.pending ⊆ stand.pending ++ (stands.set n .outside).flatMap Stand.pending := by
  intro active member
  obtain ⟨other, inside, pending⟩ := List.mem_flatMap.mp member
  obtain ⟨m, found⟩ := List.mem_iff_getElem?.mp inside
  by_cases same : n = m
  · subst same
    cases own.symm.trans found
    exact List.mem_append_left _ pending
  · have there : (stands.set n Stand.outside)[m]? = some other := (List.getElem?_set_ne same).trans found
    exact List.mem_append_right _ (List.mem_flatMap.mpr ⟨other, List.mem_of_getElem? there, pending⟩)

/-- The consumers under way of one call that has moved on and those of the others are all under way. -/
theorem subset_pending {n : Nat} {later : Stand κ} (inside : n < stands.length) :
    later.pending ++ (stands.set n .outside).flatMap Stand.pending ⊆ (stands.set n later).flatMap Stand.pending := by
  have own : (stands.set n later)[n]? = some later := List.getElem?_set_self inside
  refine List.append_subset.mpr ⟨fun active member => ?_, fun active member => ?_⟩
  · exact List.mem_flatMap.mpr ⟨later, List.mem_of_getElem? own, member⟩
  · obtain ⟨other, set, pending⟩ := List.mem_flatMap.mp member
    rcases beside_of_mem_set set with rfl | ⟨m, different, found⟩
    · cases pending
    · have there : (stands.set n later)[m]? = some other := (List.getElem?_set_ne different).trans found
      exact List.mem_flatMap.mpr ⟨other, List.mem_of_getElem? there, pending⟩

/-- What a call did before shows in where it stands after it has moved on. -/
theorem Stand.Accounts.moved {stand later : Stand κ} {entry : Passage (Engine κ η)} {engine after : Engine κ η}
    (accounts : stand.Accounts entry) (moves : Moves stand engine later after) : later.Accounts entry where
  calm calm := accounts.calm (moves.calm calm).1
  retired before stopped := moves.phasing.stays_retired (accounts.retired before stopped)

/-- What a call does in a section shows in where it stands afterwards. -/
theorem Moves.accounts {stand later : Stand κ} {engine after : Engine κ η} (moves : Moves stand engine later after)
    (n : Nat) : later.Accounts ⟨n, engine, after⟩ where
  calm calm := (moves.calm calm).2
  retired := moves.phasing.retires

/-- A call goes through a section, and all calls stay in step. -/
theorem InStep.acted (inStep : InStep sections stands now) {n : Nat} {update : Engine κ η → Option (Engine κ η)}
    {next : Engine κ η → Work κ η (LifeAnswer κ)} {after : Engine κ η}
    (turn : now.programs[n]? = some (.act update next)) (took : update now.state = some after)
    (past : List (Nat × Engine κ η)) :
    ∃ stands, InStep (⟨n, now.state, after⟩ :: sections) stands ⟨after, now.programs.set n (next now.state), past⟩ := by
  have inside : n < stands.length := inStep.aligned ▸ (List.getElem?_eq_some_iff.mp turn).1
  obtain ⟨stand, own⟩ : ∃ stand, stands[n]? = some stand := ⟨_, List.getElem?_eq_getElem inside⟩
  have knows : Knows stand now.state :=
    ⟨inStep.fits stand (List.mem_of_getElem? own), inStep.phases.relied stand (List.mem_of_getElem? own)⟩
  obtain ⟨later, moves, follows⟩ := inStep.heeds n stand _ own turn now.state after knows took
  have lasts := inStep.phases.lasts own moves.phasing
  refine ⟨stands.set n later, ?_⟩
  exact {
    aligned := by
      rw [List.length_set, inStep.aligned]
      exact (List.length_set ..).symm
    heeds := fun m other program stands found => by
      rcases getElem?_of_set stands with ⟨rfl, rfl⟩ | ⟨different, before⟩ <;>
        rcases getElem?_of_set found with ⟨same, rfl⟩ | ⟨apart, there⟩
      · exact follows
      · exact absurd rfl apart
      · exact absurd same different
      · exact inStep.heeds m other program before there
    fits := forall_mem_set inStep.fits moves.fits
    locks := inStep.locks.set own moves.locking
    phases := inStep.phases.set own inStep.locks inStep.fits moves.phasing
    routes := inStep.routes.set own inStep.locks inStep.fits inStep.phases lasts moves.routing
    covered := by
      have before := inStep.covered.mono (List.append_subset.mpr ⟨List.subset_append_left _ _,
        List.subset_append_of_subset_right _ (pending_subset own)⟩) rfl rfl
      refine (moves.covered _ before).mono (List.append_subset.mpr ⟨List.subset_append_left _ _,
        List.subset_append_of_subset_right _ (subset_pending inside)⟩) rfl rfl
    idle := moves.idle inStep.idle
    past := List.forall_mem_cons.mpr ⟨⟨later, List.getElem?_set_self inside, moves.accounts n⟩, fun entry member => by
      obtain ⟨other, found, accounts⟩ := inStep.past entry member
      by_cases same : n = entry.program
      · subst same
        cases own.symm.trans found
        exact ⟨later, List.getElem?_set_self inside, accounts.moved moves⟩
      · exact ⟨other, (List.getElem?_set_ne same).trans found, accounts⟩⟩ }

/-- A call begins, and all calls stay in step. -/
theorem InStep.began (inStep : InStep sections stands now) {program : Work κ η (LifeAnswer κ)}
    (heeds : Heeds (fun answer last => last.Fulfils answer) .outside program) :
    InStep sections (stands ++ [.outside]) { now with programs := now.programs ++ [program] } where
  aligned := by simp [inStep.aligned]
  heeds m other follows there found := by
    rcases getElem?_of_concat found with ⟨rfl, rfl⟩ | ⟨before, found⟩
    · rw [← inStep.aligned, List.getElem?_concat_length] at there
      cases there
      exact heeds
    · have below : m < stands.length := inStep.aligned ▸ (List.getElem?_eq_some_iff.mp found).1
      rw [List.getElem?_append_left below] at there
      exact inStep.heeds m other follows there found
  fits := forall_mem_concat inStep.fits ⟨nofun, nofun, fun left => absurd rfl left⟩
  locks := inStep.locks.concat
  phases := inStep.phases.concat
  routes := inStep.routes.concat
  covered := by
    have same : (stands ++ [Stand.outside]).flatMap Stand.pending = stands.flatMap Stand.pending := by
      rw [List.flatMap_append, List.flatMap_singleton]
      exact List.append_nil _
    rw [same]
    exact inStep.covered
  idle := inStep.idle
  past entry member := by
    obtain ⟨stand, found, accounts⟩ := inStep.past entry member
    have below := (List.getElem?_eq_some_iff.mp found).1
    exact ⟨stand, (List.getElem?_append_left below).trans found, accounts⟩

/-- A call gets an answer, and all calls stay in step. -/
theorem InStep.answered (inStep : InStep sections stands now) {n : Nat} {task : Processor κ × Exchange}
    {next : Outcome → Work κ η (LifeAnswer κ)} (turn : now.programs[n]? = some (.call task next)) (answer : Outcome) :
    InStep sections stands { now with programs := now.programs.set n (next answer) } where
  aligned := inStep.aligned.trans (List.length_set ..).symm
  heeds m stand program there found := by
    rcases getElem?_of_set found with ⟨rfl, rfl⟩ | ⟨-, before⟩
    · exact inStep.heeds n stand _ there turn answer
    · exact inStep.heeds m stand program there before
  fits := inStep.fits
  locks := inStep.locks
  phases := inStep.phases
  routes := inStep.routes
  covered := inStep.covered
  idle := inStep.idle
  past := inStep.past

/-- Something happens that leaves calls undisturbed, and all calls stay in step. -/
theorem InStep.changed (inStep : InStep sections stands now) {after : Engine κ η}
    (undisturbed : Undisturbed now.state after) : InStep sections stands { now with state := after } where
  aligned := inStep.aligned
  heeds := inStep.heeds
  fits := inStep.fits
  locks := undisturbed.locks ▸ inStep.locks
  phases := undisturbed.phase ▸ inStep.phases
  routes := by
    change RoutesAgree stands after.phase after.routes
    rw [undisturbed.phase, undisturbed.routes]
    exact inStep.routes
  covered := by
    change after.Covered (after.consumers ++ _)
    rw [undisturbed.consumers]
    exact inStep.covered.undisturbed undisturbed
  idle stopped := undisturbed.consumers.trans (inStep.idle (undisturbed.phase.symm.trans stopped))
  past := inStep.past

end Steps

section Runs

variable {embedding : Embedding κ η} {sections more : List (Passage (Engine κ η))} {stands : List (Stand κ)}
  {now later : Living κ η}

/-- Before any call begins, all calls are in step. -/
theorem inStep_standard (config : Config) (instant : Instant) (state : η) :
    InStep [] [] (⟨.standard config instant state, [], []⟩ : Living κ η) where
  aligned := rfl
  heeds n stand program there := by cases List.mem_of_getElem? there
  fits := List.forall_mem_nil _
  locks := .nil
  phases := .nil _
  routes := .nil _ _
  covered := (settled_standard config instant state).orderly.covered
  idle _ := rfl
  past := List.forall_mem_nil _

/-- Whatever happens while calls run side by side, they stay in step, if all else leaves them undisturbed. -/
theorem InStep.runs (inStep : InStep sections stands now)
    (run : Interleaving.Runs (IsLifeCall embedding) Undisturbed now more later) :
    ∃ stands, InStep (more ++ sections) stands later := by
  induction run with
  | none => exact ⟨stands, inStep⟩
  | acted _ turn took ih =>
    obtain ⟨stands, inStep⟩ := ih
    exact inStep.acted turn took _
  | aside _ next quiet ih =>
    obtain ⟨stands, inStep⟩ := ih
    cases next with
    | began fits =>
      obtain ⟨call, rfl⟩ := fits
      exact ⟨_, inStep.began (heeds_perform embedding call)⟩
    | acted => exact absurd quiet (List.cons_ne_self _ _)
    | answered turn answer => exact ⟨_, inStep.answered turn answer⟩
    | changed undisturbed => exact ⟨_, inStep.changed undisturbed⟩

/-- A call that has come to its end has done so. -/
theorem Returned.runs {n : Nat} {call : LifeCall κ} {given : Except Fault Unit} (returned : Returned now n call given)
    (run : Interleaving.Runs (IsLifeCall embedding) Undisturbed now more later) : Returned later n call given :=
  Interleaving.Runs.done run returned

/-- A call that has come to its end stands where it fits what it gave. -/
theorem InStep.exists_fulfils (inStep : InStep sections stands now) {n : Nat} {call : LifeCall κ}
    {given : Except Fault Unit} (returned : Returned now n call given) :
    ∃ stand, stands[n]? = some stand ∧ stand.Fulfils ⟨call, given⟩ := by
  have inside : n < stands.length := inStep.aligned ▸ (List.getElem?_eq_some_iff.mp returned).1
  have own := List.getElem?_eq_getElem inside
  exact ⟨_, own, inStep.heeds n _ _ own returned⟩

/-! ## After the runtime was stopped -/

/-- The call has taken the runtime to its last phase. -/
def Closes (sections : List (Passage (Engine κ η))) (n : Nat) : Prop :=
  ∃ entry ∈ sections, entry.program = n ∧ entry.before.phase ≠ .stopped ∧ entry.after.phase = .stopped

/-- No consumer runs and no route is there. -/
structure Emptied (engine : Engine κ η) : Prop where
  /-- No consumers are active. -/
  consumers : engine.consumers = []
  /-- The table of direct consumers is empty. -/
  tables : engine.tables = [[]]
  /-- No timers run. -/
  timers : engine.timers = []
  /-- There are no routes. -/
  routes : engine.routes = []

/-- Routes and consumers are the same where there are none. -/
theorem Emptied.sameLife {engine after : Engine κ η} (emptied : engine.Emptied) (still : after.Emptied) :
    SameLife engine after where
  routes := still.routes.trans emptied.routes.symm
  consumers := still.consumers.trans emptied.consumers.symm
  tables := still.tables.trans emptied.tables.symm
  timers := still.timers.trans emptied.timers.symm

/-- The call that has taken the runtime to its last phase stands where it has. -/
theorem InStep.exists_retired (inStep : InStep sections stands now) {n : Nat} (closes : Closes sections n) :
    ∃ stand, stands[n]? = some stand ∧ stand.retired = true := by
  obtain ⟨entry, member, rfl, going, stopped⟩ := closes
  obtain ⟨stand, own, accounts⟩ := inStep.past entry member
  exact ⟨stand, own, accounts.retired going stopped⟩

/-- When the call that has stopped the runtime has come to its end, no consumer runs and no route is there. -/
theorem InStep.emptied (inStep : InStep sections stands now) {n : Nat} {given : Except Fault Unit}
    (returned : Returned now n .stop given) (closes : Closes sections n) : now.state.Emptied := by
  obtain ⟨stand, own, fulfils⟩ := inStep.exists_fulfils returned
  obtain ⟨other, found, retired⟩ := inStep.exists_retired closes
  cases own.symm.trans found
  obtain ⟨handled, cleared⟩ := fulfils retired
  have stopped := inStep.phases.retired stand (List.mem_of_getElem? own) retired
  -- Others have consumers under way only while the runtime goes on.
  have nobody : stands.flatMap Stand.pending = [] := by
    refine List.flatMap_eq_nil_iff.mpr fun other member => ?_
    obtain ⟨m, there⟩ := List.mem_iff_getElem?.mp member
    by_contra left
    rcases (inStep.fits other member).pending left with going | also
    · exact inStep.phases.going there going stopped
    · have same := inStep.phases.closer m n other stand there own also retired
      subst same
      cases own.symm.trans there
      exact left handled
  have covered := inStep.covered
  rw [inStep.idle stopped, nobody] at covered
  exact ⟨inStep.idle stopped, covered.tables_eq, covered.timers_eq_nil,
    (inStep.routes.cleared stand (List.mem_of_getElem? own) cleared).2⟩

/-- From then on it stays so, and no section changes routes or consumers. -/
theorem InStep.stays_emptied (inStep : InStep sections stands now) {n : Nat} {given : Except Fault Unit}
    (returned : Returned now n .stop given) (closes : Closes sections n)
    (run : Interleaving.Runs (IsLifeCall embedding) Undisturbed now more later) :
    later.state.Emptied ∧ ∀ entry ∈ more, SameLife entry.before entry.after := by
  have emptied {more : List (Passage (Engine κ η))} {later : Living κ η}
      (run : Interleaving.Runs (IsLifeCall embedding) Undisturbed now more later) : later.state.Emptied := by
    obtain ⟨stands, after⟩ := inStep.runs run
    obtain ⟨entry, member, own⟩ := closes
    exact after.emptied (returned.runs run) ⟨entry, List.mem_append_right more member, own⟩
  induction run with
  | none => exact ⟨emptied .none, List.forall_mem_nil _⟩
  | acted before turn took ih =>
    have still := emptied (before.acted turn took)
    exact ⟨still, List.forall_mem_cons.mpr ⟨ih.1.sameLife still, ih.2⟩⟩
  | aside before next quiet ih => exact ⟨emptied (before.aside next quiet), ih.2⟩

/-! ## What is promised -/

/-- What is promised of calls on the life of a runtime, however they run side by side. -/
structure LifeHolds (embedding : Embedding κ η) (sections : List (Passage (Engine κ η))) (now : Living κ η) : Prop where
  /-- Two routes of one name are never both accepted. -/
  accepted : ∀ m n first second, Returned now m (.register first) (.ok ()) →
    Returned now n (.register second) (.ok ()) → first.name = second.name → m = n
  /-- A route that was accepted is there until the runtime is stopped. -/
  kept : ∀ n definition, Returned now n (.register definition) (.ok ()) → now.state.phase ≠ .stopped →
    now.state.routes.has definition.name = true
  /-- A registration that is refused has changed no route and no consumer. -/
  refused : ∀ n definition fault, Returned now n (.register definition) (.error fault) →
    ∀ entry ∈ sections, entry.program = n → SameLife entry.before entry.after
  /-- At most one call has started the runtime. -/
  started : ∀ m n, Returned now m .start (.ok ()) → Returned now n .start (.ok ()) → m = n
  /-- At most one call has taken the runtime to its last phase. -/
  closed : ∀ m n, Closes sections m → Closes sections n → m = n
  /-- When the call that has stopped the runtime has come to its end, no consumer runs and no route is there. -/
  stopped : ∀ n given, Returned now n .stop given → Closes sections n → now.state.Emptied
  /-- From then on it stays so, and no section changes routes or consumers. -/
  forever : ∀ n given, Returned now n .stop given → Closes sections n → ∀ more later,
    Interleaving.Runs (IsLifeCall embedding) Undisturbed now more later →
      later.state.Emptied ∧ ∀ entry ∈ more, SameLife entry.before entry.after

end Runs

/-- A runtime is started, two routes of one name are registered side by side, and the runtime is stopped. -/
def racingCalls : List (LifeCall Nat) :=
  [.start, .register ⟨"twice", "direct:first", []⟩, .register ⟨"twice", "direct:second", []⟩, .stop]

/-- The second registration looks for the name before the first one has kept its route. -/
def racingTurns : List Nat :=
  List.replicate 6 0 ++ List.replicate 4 1 ++ List.replicate 4 2 ++ List.replicate 12 1 ++ List.replicate 4 2 ++
    List.replicate 14 3

/-- All calls have come to their ends as expected, and a section of the last one has stopped the runtime. -/
def racedAsExpected (told : List (Passage (Engine Nat Unit)) × Living Nat Unit) : Bool :=
  match told.2.programs with
  | [.done ⟨.start, .ok ()⟩, .done ⟨.register first, .ok ()⟩,
      .done ⟨.register second, .error (.duplicateRoute name)⟩, .done ⟨.stop, .ok ()⟩] =>
    first.name == "twice" && second.name == "twice" && name == "twice" &&
      told.1.any fun entry => entry.program == 3 && entry.before.phase != .stopped && entry.after.phase == .stopped
  | _ => false

end MessageRouting.Engine
