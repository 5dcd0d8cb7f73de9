import MessageRouting.Engine.Sending
import MessageRouting.Proofs.Lifecycle.Starting

/-!
# Where calls arrive

Each call that registers, starts, stops or looks for a producer comes to its end, and leaves an orderly engine if it
meets one. What fails only adds endpoints: a consumer that could not be started was not added, and those that were
started before it are stopped again.
-/

namespace MessageRouting.Engine

variable {κ η : Type} {answer : Processor κ × Exchange → Engine κ η → Option (Outcome × Engine κ η)}
  (embedding : Embedding κ η)

/-! ## Routes -/

/-- A call has ended: the engine is orderly, a success moved the phase in some way, and a failure added endpoints at
most. -/
structure Answered (moves : Phase → Phase → Prop) (engine : Engine κ η) (given : Except Fault Unit)
    (after : Engine κ η) : Prop where
  /-- The engine is orderly. -/
  orderly : after.Orderly
  /-- The locks are as they were. -/
  locks : after.locks = engine.locks
  /-- A success has moved the phase. -/
  succeeded : given = .ok () → moves engine.phase after.phase
  /-- A failure has changed nothing that counts. -/
  failed : ∀ fault, given = .error fault → OnlyGrew engine after

section Answers

variable {moves : Phase → Phase → Prop} {engine after : Engine κ η}

/-- The engine stays orderly under any locks. -/
theorem Orderly.withLocks (orderly : engine.Orderly) (locks : Locks) : ({ engine with locks } : Engine κ η).Orderly :=
  orderly.congr rfl rfl rfl rfl (fun timer running => ⟨timer, running, rfl⟩) fun equipped => equipped.congr rfl rfl

/-- A call that failed with no change. -/
theorem Answered.refused (orderly : engine.Orderly) (fault : Fault) : Answered moves engine (.error fault) engine :=
  ⟨orderly, rfl, fun same => (nomatch same), fun _ _ => .refl engine⟩

/-- A call that failed and added endpoints at most. -/
theorem Answered.grew (orderly : engine.Orderly) (grew : OnlyGrew engine after) (fault : Fault) :
    Answered moves engine (.error fault) after := by
  refine ⟨orderly.grew grew, ?_, fun same => (nomatch same), fun _ _ => grew⟩
  obtain ⟨_, _, _, rfl⟩ := grew.exists_eq
  rfl

/-- A call that is made after endpoints were added at most. -/
theorem Answered.after_grew {middle : Engine κ η} (grew : OnlyGrew engine middle) {given : Except Fault Unit}
    (answered : Answered moves middle given after) : Answered moves engine given after := by
  refine ⟨answered.orderly, ?_, ?_, fun fault same => grew.trans (answered.failed fault same)⟩
  all_goals
    have locks := answered.locks
    have succeeded := answered.succeeded
    obtain ⟨_, _, _, rfl⟩ := grew.exists_eq
    assumption

/-- What grew under other locks has grown when the locks are as before. -/
theorem OnlyGrew.unlocked {inside : Locks} (grew : OnlyGrew { engine with locks := inside } after) :
    OnlyGrew engine { after with locks := engine.locks } := by
  have equipped := grew.equipped
  refine ⟨?_, grew.kept, fun before => (equipped (before.congr rfl rfl)).congr rfl rfl⟩
  obtain ⟨_, _, _, rfl⟩ := grew.exists_eq
  rfl

/-- What ended under other locks has ended when the locks are as before. -/
theorem Answered.unlocked {given : Except Fault Unit} {inside : Locks}
    (answered : Answered moves { engine with locks := inside } given after) :
    Answered moves engine given { after with locks := engine.locks } where
  orderly := answered.orderly.withLocks engine.locks
  locks := rfl
  succeeded := answered.succeeded
  failed fault same := (answered.failed fault same).unlocked

end Answers

/-- Routes stay in order when one is kept under its name. -/
theorem named_insert {engine : Engine κ η} (orderly : engine.Orderly) (route : Route κ) (name : String)
    (found : Route κ) (there : (engine.routes.insert route.name route).find? name = some found) :
    found.name = name := by
  rw [Table.find?_insert] at there
  split at there
  · rename_i same
    cases there
    exact same.symm
  · exact orderly.named name found there

/-- Keeping a route leaves an engine orderly that was not started. -/
theorem orderly_keepRoute {engine : Engine κ η} (orderly : engine.Orderly) (created : engine.phase = .created)
    (route : Route κ) : (keepRoute route engine).Orderly where
  sorted := Table.sorted_insert orderly.sorted
  named := named_insert orderly route
  equipped going := (orderly.equipped going).congr rfl rfl
  idle := orderly.idle
  emptied stopped := nomatch created.symm.trans stopped
  served started := nomatch created.symm.trans started
  serving active member := by
    have idle : engine.consumers = [] := orderly.idle fun started => nomatch created.symm.trans started
    change active ∈ engine.consumers at member
    rw [idle] at member
    cases member
  covered := orderly.covered.mono (List.Subset.refl _) rfl rfl
  entered := orderly.entered

/-- Keeping a route whose consumer was started leaves a running engine orderly. -/
theorem orderly_enrolled {engine after : Engine κ η} (orderly : engine.Orderly) (running : engine.phase = .started)
    {route : Route κ} (free : engine.routes.has route.name = false) {active : ActiveConsumer κ}
    (own : active.IsOf route) (underway : Underway engine (active :: engine.consumers) after) :
    (keepRoute route (activate [active] after)).Orderly := by
  have absent : engine.routes.find? route.name = none := Table.has_eq_false_iff.mp free
  have all (other : ActiveConsumer κ) : other ∈ active :: engine.consumers ↔ other ∈ engine.consumers ++ [active] := by
    simp [or_comm]
  have underway := underway.congr all
  have covered := underway.covered
  have entered := underway.entered
  have equipped := underway.equipped
  obtain ⟨_, _, _, _, _, rfl⟩ := underway.exists_eq
  exact {
    sorted := Table.sorted_insert orderly.sorted
    named := named_insert orderly route
    equipped := fun _ => equipped.congr rfl rfl
    idle := fun idle => absurd running idle
    emptied := fun stopped => nomatch running.symm.trans stopped
    served := fun _ => by
      have before := orderly.served running
      simp only [keepRoute, activate, List.map_append, List.map_cons, List.map_nil]
      refine (List.perm_append_singleton _ _).trans ?_
      refine .trans ?_ (Table.names_insert_perm (Table.find?_eq_none_iff.mp absent)).symm
      rw [own.1]
      exact before.cons _
    serving := fun other member => by
      simp only [keepRoute, activate, Table.find?_insert]
      rcases List.mem_append.mp member with member | new
      · obtain ⟨served, found, isOf⟩ := orderly.serving other member
        refine ⟨served, ?_, isOf⟩
        rw [if_neg, found]
        intro same
        cases (same ▸ absent).symm.trans found
      · cases List.mem_singleton.mp new
        exact ⟨route, if_pos own.1, own⟩
    covered := covered.mono (List.Subset.refl _) rfl rfl
    entered := entered }

/-- Registering a compiled route. -/
theorem arrives_enrol (route : Route κ) {engine : Engine κ η} (orderly : engine.Orderly)
    (open_ : engine.phase ≠ .stopped) :
    (enrol embedding route).Arrives answer engine (Answered Eq engine) := by
  simp only [enrol, Program.arrives_bind, Program.arrives_read]
  cases taken : engine.routes.has route.name with
  | true => exact Program.arrives_pure.mpr (.refused orderly _)
  | false =>
    simp only [Bool.false_eq_true, if_false, Program.arrives_bind, Program.arrives_read]
    split
    · rename_i running
      have underway : Underway engine engine.consumers engine :=
        ⟨rfl, fun _ _ found => found, orderly.equipped open_, orderly.covered, orderly.entered⟩
      refine Program.arrives_bind.mpr ?_
      refine (arrives_startRoute embedding route underway.equipped).mono fun started after ended => ?_
      cases started with
      | error fault => exact Program.arrives_pure.mpr (.grew orderly ended fault)
      | ok active =>
        obtain ⟨own, middle, grew, begun⟩ := ended
        have enrolled := (underway.grew grew).begun own begun
        simp only [Program.arrives_bind, Program.arrives_change, Program.arrives_pure]
        refine ⟨orderly_enrolled orderly running taken own enrolled, ?_, fun _ => ?_, by rintro _ ⟨⟩⟩
        · obtain ⟨_, _, _, _, _, rfl⟩ := enrolled.exists_eq
          rfl
        · obtain ⟨_, _, _, _, _, rfl⟩ := enrolled.exists_eq
          rfl
    · rename_i idle
      have created : engine.phase = .created := by
        cases phase : engine.phase <;> simp_all
      simp only [Program.arrives_bind, Program.arrives_change, Program.arrives_pure]
      exact ⟨orderly_keepRoute orderly created route, rfl, fun _ => rfl, by rintro _ ⟨⟩⟩

/-! ## Under locks -/

section Locks

variable {α : Type} {work : Work κ η α} {expected : α → Engine κ η → Prop} {engine : Engine κ η}

/-- Work that shares the lock of the phase. -/
theorem arrives_sharing (unlocked : engine.locks = {})
    (inside : work.Arrives answer { engine with locks := { sharing := 1 } } fun result after =>
      after.locks = { sharing := 1 } ∧ expected result { after with locks := engine.locks }) :
    (sharing work).Arrives answer engine expected := by
  simp only [sharing, Program.arrives_bind]
  refine (Program.arrives_tryAtomically (by simp only [unlocked]; rfl)).mpr ?_
  refine inside.mono ?_
  rintro result after ⟨locks, holds⟩
  refine Program.arrives_change.mpr (Program.arrives_pure.mpr ?_)
  rw [unlocked] at holds
  simpa only [locks] using holds

/-- Work that holds the lock of the phase. -/
theorem arrives_holding (unlocked : engine.locks = {})
    (inside : work.Arrives answer { engine with locks := { exclusive := true } } fun result after =>
      after.locks = { exclusive := true } ∧ expected result { after with locks := engine.locks }) :
    (holding work).Arrives answer engine expected := by
  simp only [holding, Program.arrives_bind]
  refine (Program.arrives_tryAtomically (by simp only [unlocked]; rfl)).mpr ?_
  refine inside.mono ?_
  rintro result after ⟨locks, holds⟩
  refine Program.arrives_change.mpr (Program.arrives_pure.mpr ?_)
  rw [unlocked] at holds
  simpa only [locks] using holds

/-- Work that holds the lock of the routes. -/
theorem arrives_holdingRoutes (free : engine.locks.routes = false)
    (inside : work.Arrives answer { engine with locks := { engine.locks with routes := true } } fun result after =>
      after.locks = { engine.locks with routes := true } ∧ expected result { after with locks := engine.locks }) :
    (holdingRoutes work).Arrives answer engine expected := by
  simp only [holdingRoutes, Program.arrives_bind]
  refine (Program.arrives_tryAtomically (by simp only [free]; rfl)).mpr ?_
  refine inside.mono ?_
  rintro result after ⟨locks, holds⟩
  refine Program.arrives_change.mpr (Program.arrives_pure.mpr ?_)
  have back : engine.locks = { after.locks with routes := false } := by
    rw [locks]
    simp only [← free]
  rwa [back] at holds

end Locks

/-- The fault of a call that comes after the last phase. -/
def Late {α : Type} (message : String) (engine : Engine κ η) (given : Except Fault α) (after : Engine κ η) : Prop :=
  engine.phase = .stopped → given = .error (.lifecycle message) ∧ after = engine

/-- Under the locks as they were, the engine is as it was. -/
theorem Late.unlocked {α : Type} {message : String} {engine after : Engine κ η} {inside : Locks}
    {given : Except Fault α} (late : Late message { engine with locks := inside } given after) :
    Late message engine given { after with locks := engine.locks } := by
  intro stopped
  obtain ⟨same, rfl⟩ := late stopped
  exact ⟨same, rfl⟩

/-- Registering a route while the phase does not change. -/
theorem arrives_registerShared (definition : Definition κ) {engine : Engine κ η} (orderly : engine.Orderly)
    (free : engine.locks.routes = false) :
    (registerShared embedding definition).Arrives answer engine fun given after => Answered Eq engine given after ∧
      Late "cannot register routes on a stopped runtime" engine given after := by
  simp only [registerShared, Program.arrives_bind, Program.arrives_read]
  split
  · exact Program.arrives_pure.mpr ⟨.refused orderly _, fun _ => ⟨rfl, rfl⟩⟩
  · rename_i going
    have never {given : Except Fault Unit} {after : Engine κ η} :
        Late "cannot register routes on a stopped runtime" engine given after := fun stopped => absurd stopped going
    simp only [Program.arrives_bind, Program.arrives_read]
    split
    · exact Program.arrives_pure.mpr ⟨.refused orderly _, never⟩
    · have numbered : OnlyGrew engine (compileRoute definition engine).2 := onlyGrew_of_made engine _ _
      simp only [Program.arrives_bind, Program.arrives_atomically]
      cases (compileRoute definition engine).1 with
      | error fault => exact Program.arrives_pure.mpr ⟨.grew orderly numbered fault, never⟩
      | ok route =>
        have compiled := (orderly.grew numbered).withLocks { engine.locks with routes := true }
        refine arrives_holdingRoutes free ((arrives_enrol embedding route compiled going).mono ?_)
        exact fun given after ended => ⟨ended.locks, .after_grew numbered ended.unlocked, never⟩

/-- Registering a route. -/
theorem arrives_registerRoute (definition : Definition κ) {engine : Engine κ η} (orderly : engine.Orderly)
    (unlocked : engine.locks = {}) :
    (registerRoute embedding definition).Arrives answer engine fun given after => Answered Eq engine given after ∧
      Late "cannot register routes on a stopped runtime" engine given after := by
  have locked := orderly.withLocks { sharing := 1 }
  refine arrives_sharing unlocked ((arrives_registerShared embedding definition locked rfl).mono ?_)
  rintro given after ⟨ended, late⟩
  exact ⟨ended.locks, ended.unlocked, late.unlocked⟩

/-! ## Phases -/

/-- The consumers of all routes bear the names of the routes, and each is that of its route. -/
theorem served_of_each {routes : Table (Route κ)} (named : ∀ entry ∈ routes, entry.2.name = entry.1)
    {consumers : List (ActiveConsumer κ)} (each : List.Forall₂ ActiveConsumer.IsOf consumers (routes.map Prod.snd)) :
    consumers.map ActiveConsumer.route = routes.names ∧
      ∀ active ∈ consumers, ∃ entry ∈ routes, active.route = entry.1 ∧ active.IsOf entry.2 := by
  induction routes generalizing consumers with
  | nil =>
    cases each
    exact ⟨rfl, nofun⟩
  | cons entry rest later =>
    obtain ⟨first, others⟩ := List.forall_mem_cons.mp named
    cases each with
    | @cons active _ more _ own each =>
      obtain ⟨names, serving⟩ := later others each
      have same : active.route = entry.1 := own.1.trans first
      refine ⟨by simp only [List.map_cons, Table.names, same, names], List.forall_mem_cons.mpr ⟨?_, ?_⟩⟩
      · exact ⟨entry, List.mem_cons_self, same, own⟩
      · intro other member
        obtain ⟨found, inside, isOf⟩ := serving other member
        exact ⟨found, List.mem_cons_of_mem _ inside, isOf⟩

/-- Starting a runtime moves it from its first phase to the next. -/
abbrev Starts (phase next : Phase) : Prop := phase = .created ∧ next = .started

/-- When all routes were started, the engine is a running one. -/
theorem orderly_started {engine after : Engine κ η} (orderly : engine.Orderly) (created : engine.phase = .created)
    {consumers : List (ActiveConsumer κ)} (underway : Underway engine consumers after)
    (each : List.Forall₂ ActiveConsumer.IsOf consumers (engine.routes.map Prod.snd)) :
    ({ activate consumers after with phase := .started } : Engine κ η).Orderly := by
  have quiet : engine.consumers = [] := orderly.idle fun started => nomatch created.symm.trans started
  have named (entry : String × Route κ) (member : entry ∈ engine.routes) : entry.2.name = entry.1 :=
    orderly.named entry.1 entry.2 (Table.find?_of_mem orderly.sorted member)
  obtain ⟨names, serving⟩ := served_of_each named each
  have covered := underway.covered
  have entered := underway.entered
  have equipped := underway.equipped
  obtain ⟨_, _, _, _, _, rfl⟩ := underway.exists_eq
  exact {
    sorted := orderly.sorted
    named := orderly.named
    equipped := fun _ => equipped.congr rfl rfl
    idle := fun idle => absurd rfl idle
    emptied := fun stopped => nomatch stopped
    served := fun _ => by
      simp only [activate, quiet, List.nil_append, names]
      exact .refl _
    serving := fun active member => by
      simp only [activate, quiet, List.nil_append] at member
      obtain ⟨entry, inside, same, own⟩ := serving active member
      exact ⟨entry.2, same ▸ Table.find?_of_mem orderly.sorted inside, own⟩
    covered := covered.mono (by simp [activate, quiet]) rfl rfl
    entered := by
      simp only [activate, quiet, List.nil_append]
      exact entered }

/-- Starting a runtime. -/
theorem arrives_start {engine : Engine κ η} (orderly : engine.Orderly) (unlocked : engine.locks = {}) :
    (start embedding).Arrives answer engine fun given after => Answered Starts engine given after ∧
      Late "a stopped runtime cannot be started again" engine given after := by
  have locked := orderly.withLocks { exclusive := true }
  suffices inside : (startHolding embedding).Arrives answer { engine with locks := { exclusive := true } }
      fun given after => Answered Starts { engine with locks := { exclusive := true } } given after ∧
        Late "a stopped runtime cannot be started again" { engine with locks := { exclusive := true } } given after from
    arrives_holding unlocked <| inside.mono <| by
      rintro given after ⟨ended, late⟩
      exact ⟨ended.locks, ended.unlocked, late.unlocked⟩
  generalize ({ engine with locks := { exclusive := true } } : Engine κ η) = engine at locked ⊢
  simp only [startHolding, Program.arrives_bind, Program.arrives_read]
  cases phase : engine.phase with
  | started => exact Program.arrives_pure.mpr ⟨.refused locked _, fun stopped => by cases phase.symm.trans stopped⟩
  | stopped => exact Program.arrives_pure.mpr ⟨.refused locked _, fun _ => ⟨rfl, rfl⟩⟩
  | created =>
    have going : engine.phase ≠ .stopped := by
      rw [phase]
      decide
    have unstarted : engine.phase ≠ .started := by
      rw [phase]
      decide
    have never {given : Except Fault Unit} {after : Engine κ η} :
        Late "a stopped runtime cannot be started again" engine given after :=
      fun stopped => absurd stopped going
    have quiet : engine.Covered [] := by
      have covered := locked.covered
      rwa [locked.idle unstarted] at covered
    have underway : Underway engine [] engine :=
      ⟨rfl, fun _ _ found => found, locked.equipped going, quiet, List.forall_mem_nil _⟩
    simp only [Program.arrives_bind, Program.arrives_read]
    refine (arrives_startAll embedding quiet underway).mono fun all after ended => ?_
    cases all with
    | error fault => exact Program.arrives_pure.mpr ⟨.grew locked ended fault, never⟩
    | ok consumers =>
      obtain ⟨underway, more, same, each⟩ := ended
      obtain rfl : consumers = more := same
      simp only [Program.arrives_bind, Program.arrives_change, Program.arrives_pure]
      have running := orderly_started locked phase underway each
      refine ⟨⟨running, ?_, fun _ => ⟨phase, rfl⟩, by rintro _ ⟨⟩⟩, never⟩
      obtain ⟨_, _, _, _, _, rfl⟩ := underway.exists_eq
      rfl

/-- Emptying the registries takes the routes away and leaves consumers, table and timers. -/
theorem arrives_clearAll {engine : Engine κ η} (free : engine.locks.routes = false) :
    (clearAll : Work κ η Unit).Arrives answer engine fun _ after =>
      after.routes = [] ∧ after.phase = engine.phase ∧ after.consumers = engine.consumers ∧
        after.tables = engine.tables ∧ after.timers = engine.timers ∧ after.locks = engine.locks := by
  simp only [clearAll, clearConverters, changeConverters, Program.arrives_bind]
  refine arrives_holdingRoutes free (Program.arrives_change.mpr ⟨rfl, ?_⟩)
  simp only [Program.arrives_change, and_self]

/-- An engine that was stopped and cleared is orderly. -/
theorem orderly_stopped {engine : Engine κ η} (phase : engine.phase = .stopped) (routes : engine.routes = [])
    (consumers : engine.consumers = []) (covered : engine.Covered []) : engine.Orderly where
  sorted := by
    rw [routes]
    exact Table.sorted_nil
  named name route found := by
    rw [routes] at found
    cases found
  equipped going := absurd phase going
  idle _ := consumers
  emptied _ := routes
  served started := nomatch phase.symm.trans started
  serving := by
    rw [consumers]
    exact nofun
  covered := by
    rw [consumers]
    exact covered
  entered := by
    rw [consumers]
    exact nofun

/-- Stopping a runtime. -/
theorem arrives_stop {engine : Engine κ η} (orderly : engine.Orderly) (unlocked : engine.locks = {}) :
    (stop embedding).Arrives answer engine fun given after =>
      after.Orderly ∧ after.locks = engine.locks ∧ after.phase = .stopped ∧
        (engine.phase = .stopped → given = .ok () ∧ after = engine) := by
  simp only [stop, Program.arrives_bind]
  refine arrives_holding unlocked ?_
  simp only [retireHolding, Program.arrives_bind, Program.arrives_read]
  split
  · rename_i stopped
    exact Program.arrives_pure.mpr ⟨rfl, Program.arrives_pure.mpr ⟨orderly, rfl, stopped, fun _ => ⟨rfl, rfl⟩⟩⟩
  · rename_i going
    simp only [Program.arrives_bind, Program.arrives_atomically, retire]
    refine Program.arrives_pure.mpr ⟨rfl, ?_⟩
    simp only [Program.arrives_bind]
    have left : (retire engine).2.Covered engine.consumers.reverse :=
      orderly.covered.mono (fun _ => List.mem_reverse.mpr) rfl rfl
    refine (arrives_stopAll embedding left).mono ?_
    rintro fault middle ⟨⟨tables, timers, state, rfl⟩, covered⟩
    refine (arrives_clearAll (by simp only [retire, unlocked])).mono ?_
    rintro _ after ⟨routes, phase, consumers, same, going, locks⟩
    have nothing := covered.mono (List.Subset.refl _) same going
    exact Program.arrives_pure.mpr
      ⟨orderly_stopped phase routes consumers nothing, locks, phase, fun stopped => absurd stopped ‹_›⟩

/-! ## Sending -/

/-- Looking for a producer adds an endpoint at most. -/
theorem arrives_producerShared (uri : String) (engine : Engine κ η) :
    (producerShared embedding uri).Arrives answer engine fun found after => OnlyGrew engine after ∧
      Late "runtime is stopped" engine found after := by
  simp only [producerShared, Program.arrives_bind, Program.arrives_read]
  split
  · exact Program.arrives_pure.mpr ⟨.refl engine, fun _ => ⟨rfl, rfl⟩⟩
  · rename_i going
    simp only [Program.arrives_bind]
    refine (arrives_resolve embedding uri engine).mono ?_
    rintro found middle ⟨grew, -⟩
    cases found with
    | error fault => exact Program.arrives_pure.mpr ⟨grew, fun stopped => absurd stopped going⟩
    | ok endpoint =>
      refine (arrives_makeProducer embedding endpoint middle).mono fun _ after more => ?_
      exact ⟨grew.trans more, fun stopped => absurd stopped going⟩

/-- Looking for a producer under the lock of the phase adds an endpoint at most. -/
theorem arrives_sharing_producerShared (uri : String) {engine : Engine κ η} (unlocked : engine.locks = {}) :
    (sharing (producerShared embedding uri)).Arrives answer engine fun found after => OnlyGrew engine after ∧
      Late "runtime is stopped" engine found after := by
  refine arrives_sharing unlocked ((arrives_producerShared embedding uri _).mono ?_)
  rintro found after ⟨grew, late⟩
  refine ⟨?_, grew.unlocked, late.unlocked⟩
  obtain ⟨_, _, _, rfl⟩ := grew.exists_eq
  rfl

end MessageRouting.Engine
