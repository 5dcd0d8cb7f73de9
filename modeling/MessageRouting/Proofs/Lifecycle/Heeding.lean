import MessageRouting.Proofs.Engine.Sections
import MessageRouting.Proofs.Lifecycle.Stands
import MessageRouting.Proofs.Lifecycle.Starting
import Mathlib.Tactic.Tauto

/-!
# Calls that heed the locks

Whatever happens beside a call on the life of a runtime, each of its sections moves it on in one of the ways that keep
all stands together: it relies on the phase and on free names only under their locks, has consumers under way only while
the runtime goes on or after stopping it, and comes to its end with a stand that fits its answer.
-/

namespace MessageRouting.Engine

variable {κ η α β : Type}

/-! ## Heeding -/

/-- What a call may take for granted where it stands. -/
structure Knows (stand : Stand κ) (engine : Engine κ η) : Prop where
  /-- It relies on nothing without the lock for it. -/
  fits : stand.Fits
  /-- The phase is the one that it relies on. -/
  phase : ∀ known, stand.phase = some known → engine.phase = known

/-- Whatever happens between its sections, the call moves on from a stand as it may, and comes to an end as wanted. -/
def Heeds (ends : α → Stand κ → Prop) : Stand κ → Work κ η α → Prop
  | stand, .done result => ends result stand
  | stand, .act update next => ∀ engine after, Knows stand engine → update engine = some after →
    ∃ later, Moves stand engine later after ∧ Heeds ends later (next engine)
  | stand, .call _ next => ∀ answer, Heeds ends stand (next answer)

section Rules

variable {ends : α → Stand κ → Prop} {stand : Stand κ}

/-- A call that heeds the locks may be followed by another one. -/
theorem Heeds.bind {goal : β → Stand κ → Prop} {work : Work κ η α} {next : α → Work κ η β}
    (first : Heeds ends stand work) (later : ∀ result last, ends result last → Heeds goal last (next result)) :
    Heeds goal stand (work >>= next) := by
  change Heeds goal stand (Program.bind work next)
  induction work generalizing stand with
  | done result => exact later result stand first
  | act update rest ih =>
    intro engine after knows took
    obtain ⟨last, moves, follows⟩ := first engine after knows took
    exact ⟨last, moves, ih engine follows⟩
  | call task rest ih => exact fun answer => ih answer (first answer)

/-- What is wanted of the end may be weakened. -/
theorem Heeds.mono {weaker : α → Stand κ → Prop} {work : Work κ η α} (heeds : Heeds ends stand work)
    (implies : ∀ result last, ends result last → weaker result last) : Heeds weaker stand work := by
  induction work generalizing stand with
  | done result => exact implies result stand heeds
  | act update rest ih =>
    intro engine after knows took
    obtain ⟨last, moves, follows⟩ := heeds engine after knows took
    exact ⟨last, moves, ih engine follows⟩
  | call task rest ih => exact fun answer => ih answer (heeds answer)

/-- A section heeds the locks if it moves the call on as it may. -/
theorem Heeds.atomically {f : Engine κ η → α × Engine κ η}
    (moves : ∀ engine, Knows stand engine → ∃ later, Moves stand engine later (f engine).2 ∧ ends (f engine).1 later) :
    Heeds ends stand (Program.atomically f) := by
  intro engine after knows took
  cases took
  exact moves engine knows

/-- Reading heeds the locks if it moves the call on as it may. -/
theorem Heeds.read {f : Engine κ η → α}
    (moves : ∀ engine, Knows stand engine → ∃ later, Moves stand engine later engine ∧ ends (f engine) later) :
    Heeds ends stand (Program.read f) := by
  intro engine after knows took
  cases took
  exact moves engine knows

/-- A change heeds the locks if it moves the call on as it may. -/
theorem Heeds.change {ends : Unit → Stand κ → Prop} {f : Engine κ η → Engine κ η}
    (moves : ∀ engine, Knows stand engine → ∃ later, Moves stand engine later (f engine) ∧ ends () later) :
    Heeds ends stand (Program.change f) := by
  intro engine after knows took
  cases took
  exact moves engine knows

/-- A section that may block heeds the locks if it moves the call on as it may wherever it takes place. -/
theorem Heeds.tryAtomically {f : Engine κ η → Option (α × Engine κ η)} {absent : α}
    (moves : ∀ engine result after, Knows stand engine → f engine = some (result, after) →
      ∃ later, Moves stand engine later after ∧ ends result later) :
    Heeds ends stand (Program.tryAtomically f absent) := by
  intro engine after knows took
  obtain ⟨⟨result, final⟩, ran, rfl⟩ := Option.map_eq_some_iff.mp took
  obtain ⟨later, moved, holds⟩ := moves engine result final knows ran
  refine ⟨later, moved, ?_⟩
  change ends ((f engine).elim absent Prod.fst) later
  rw [ran]
  exact holds

end Rules

/-! ## Sections that touch nothing -/

/-- Nothing has changed that calls on the life of a runtime go by. -/
structure Quiet (engine after : Engine κ η) : Prop extends SameLife engine after where
  /-- The phase is the same. -/
  phase : after.phase = engine.phase
  /-- The locks are the same. -/
  locks : after.locks = engine.locks

/-- A call may stay where it stands while it touches nothing. -/
theorem Moves.quiet {stand : Stand κ} {engine after : Engine κ η} (fits : stand.Fits) (quiet : Quiet engine after) :
    Moves stand engine stand after where
  locking := quiet.locks ▸ .same
  phasing := quiet.phase ▸ .left (.inl rfl) rfl rfl
  routing := quiet.routes ▸ .left (.inl rfl) rfl rfl
  covered others covered := by
    rw [quiet.consumers]
    exact covered.mono (List.Subset.refl _) quiet.tables quiet.timers
  idle none stopped := quiet.consumers.trans (none (quiet.phase.symm.trans stopped))
  calm calm := ⟨calm, quiet.toSameLife⟩
  fits := fits

/-- Nothing is quieter than an engine that stays. -/
theorem overTime_quiet : OverTime (Quiet : Engine κ η → Engine κ η → Prop) where
  refl _ := ⟨⟨rfl, rfl, rfl, rfl⟩, rfl, rfl⟩
  trans first second :=
    ⟨⟨second.routes.trans first.routes, second.consumers.trans first.consumers, second.tables.trans first.tables,
      second.timers.trans first.timers⟩, second.phase.trans first.phase, second.locks.trans first.locks⟩

/-- A call whose sections touch nothing stays where it stands. -/
theorem Heeds.quiet {stand : Stand κ} {work : Work κ η α} (quiet : work.Sections Quiet) :
    Heeds (fun _ last => last = stand) stand work := by
  induction work with
  | done result => rfl
  | act update next ih =>
    intro engine after knows took
    exact ⟨stand, .quiet knows.fits (quiet.1 engine after took), ih engine (quiet.2 engine)⟩
  | call task next ih => exact fun answer => ih answer (quiet answer)

variable (embedding : Embedding κ η)

/-- Making an endpoint touches nothing. -/
theorem quiet_makeKept (text : String) (component : Component κ) (uri : Uri) (engine : Engine κ η) :
    Quiet engine (makeKept embedding text component uri engine).2 := by
  unfold makeKept
  split
  · exact overTime_quiet.refl engine
  · simp only [makeEndpoint]
    cases (roleFor embedding component uri engine.embedding).1 <;> exact ⟨⟨rfl, rfl, rfl, rfl⟩, rfl, rfl⟩

/-- Looking for an endpoint touches nothing. -/
theorem quiet_resolve (text : String) : (resolve embedding text).Sections Quiet :=
  sections_resolve overTime_quiet fun uri _ component => quiet_makeKept embedding text component uri

/-- Asking the embedding program touches nothing. -/
theorem quiet_request (code : κ) (wanted : ComponentRequest κ) : (request embedding code wanted).Sections Quiet :=
  .atomically fun _ => ⟨⟨rfl, rfl, rfl, rfl⟩, rfl, rfl⟩

/-- Making a consumer touches nothing. -/
theorem quiet_makeConsumer (endpoint : Endpoint κ) (context : ConsumerContext κ) :
    (makeConsumer embedding endpoint context).Sections Quiet :=
  sections_makeConsumer (.atomically fun _ => ⟨⟨rfl, rfl, rfl, rfl⟩, rfl, rfl⟩) (quiet_request embedding) endpoint
    context

/-! ## Starting and stopping consumers -/

/-- The consumer may have something in the first table or among the timers. -/
def runs : Consumer κ → Bool
  | .direct _ _ _ active => active
  | _ => true

/-- Those of some consumers that may have something in the first table or among the timers. -/
def running (consumers : List (ActiveConsumer κ)) : List (ActiveConsumer κ) := consumers.filter (runs ·.consumer)

/-- The call stands where it stood but for the consumers that it has under way. -/
def Stand.withPending (stand : Stand κ) (pending : List (ActiveConsumer κ)) : Stand κ :=
  { stand with pending, calm := false }

/-- The call stands where it stood but for the consumers that it has under way, and for having touched some. -/
def Stand.Handles (stand later : Stand κ) : Prop :=
  later = { stand with pending := later.pending, calm := later.calm }

/-- A call that tried to start a consumer has it under way in addition if it has anything in table or timers. -/
def Stand.Tries (stand : Stand κ) (later : Stand κ) : Except Fault (ActiveConsumer κ) → Prop
  | .error _ => later = stand
  | .ok active => later = stand ∨ runs active.consumer = true ∧ later = stand.withPending (active :: stand.pending)

section Consumers

variable {stand : Stand κ} {engine after : Engine κ η} {pending : List (ActiveConsumer κ)}

/-- A call may start and stop consumers while the runtime goes on, or after it has stopped it. -/
theorem Moves.consumers (fits : stand.Fits) (may : stand.Open ∨ stand.retired = true)
    (phase : after.phase = engine.phase) (locks : after.locks = engine.locks) (routes : after.routes = engine.routes)
    (consumers : after.consumers = engine.consumers)
    (covers : ∀ others, engine.Covered (stand.pending ++ others) → after.Covered (pending ++ others)) :
    Moves stand engine (stand.withPending pending) after where
  locking := locks ▸ .same
  phasing := phase ▸ .left (.inl rfl) rfl rfl
  routing := routes ▸ .left (.inl rfl) rfl rfl
  covered others covered := by
    have swapped : engine.Covered (stand.pending ++ (engine.consumers ++ others)) :=
      covered.mono (by intro active; simp only [List.mem_append]; tauto) rfl rfl
    refine (covers _ swapped).mono ?_ rfl rfl
    rw [consumers]
    intro active
    simp only [List.mem_append, Stand.withPending]
    tauto
  idle none stopped := consumers.trans (none (phase.symm.trans stopped))
  calm calm := nomatch calm
  fits := ⟨fits.phase, fits.free, fun _ => may⟩

/-- Starting a consumer adds it to those under way, or else changes nothing. -/
theorem heeds_startConsumer (route : String) (consumer : Consumer κ) (may : stand.Open ∨ stand.retired = true) :
    Heeds (fun given later => stand.Tries later (given.map (⟨route, ·⟩))) stand (startConsumer embedding consumer) := by
  cases consumer with
  | direct name table processor active =>
    let running : ActiveConsumer κ := ⟨route, .direct name table processor true⟩
    have entering : Heeds (fun given later => stand.Tries later (given.map fun _ => running)) stand
        (Program.atomically (enter table name processor) : Work κ η (Except Fault Unit)) := by
      refine .atomically fun engine knows => ?_
      unfold enter
      split
      · exact ⟨stand, .quiet knows.fits (overTime_quiet.refl engine), rfl⟩
      · exact ⟨_, .consumers knows.fits may rfl rfl rfl rfl fun others => Covered.enter, .inr ⟨rfl, rfl⟩⟩
    refine entering.bind fun given later tries => ?_
    cases given <;> exact tries
  | timer identity settings context active stopped =>
    simp only [startConsumer]
    split
    · rfl
    · split
      · exact .inl rfl
      · let running : ActiveConsumer κ := ⟨route, .timer identity settings context true stopped⟩
        have going : Heeds (fun _ later => later = stand.withPending (running :: stand.pending)) stand
            (Program.change (setGoing identity settings context) : Work κ η Unit) :=
          .change fun engine knows =>
            ⟨_, .consumers knows.fits may rfl rfl rfl rfl fun others => Covered.setGoing, rfl⟩
        exact going.bind fun _ later same => .inr ⟨rfl, same⟩
  | custom code =>
    refine (Heeds.quiet (quiet_request embedding code .start)).bind fun given later same => ?_
    cases given with
    | error fault => exact same
    | ok code => exact .inl same

/-- Starting a route adds its consumer to those under way, or else changes nothing. -/
theorem heeds_startRoute (route : Route κ) (may : stand.Open ∨ stand.retired = true) :
    Heeds (fun given later => stand.Tries later given) stand (startRoute embedding route) := by
  refine (Heeds.quiet (quiet_resolve embedding route.source)).bind ?_
  rintro found _ rfl
  cases found with
  | error fault => rfl
  | ok endpoint =>
    refine (Heeds.quiet (Program.Sections.read overTime_quiet _)).bind ?_
    rintro context _ rfl
    refine (Heeds.quiet (quiet_makeConsumer embedding endpoint context)).bind ?_
    rintro made _ rfl
    cases made with
    | error fault => rfl
    | ok consumer =>
      exact (heeds_startConsumer embedding route.name consumer may).bind fun given later tries => tries

/-- Consumers that have nothing in table and timers need not be there. -/
theorem Covered.running {consumers others : List (ActiveConsumer κ)} (covered : engine.Covered (consumers ++ others)) :
    engine.Covered (running consumers ++ others) where
  single := covered.single
  sorted := covered.sorted
  entries name processor found := by
    obtain ⟨active, member, same⟩ := covered.entries name processor found
    refine ⟨active, ?_, same⟩
    exact (List.mem_append.mp member).elim
      (fun own => List.mem_append_left _ (List.mem_filter.mpr ⟨own, by rw [same]; rfl⟩)) (List.mem_append_right _)
  timers timer going := by
    obtain ⟨active, member, own⟩ := covered.timers timer going
    refine ⟨active, ?_, own⟩
    have runs : runs active.consumer = true := by
      revert own
      cases active.consumer <;> first | exact fun _ => rfl | exact False.elim
    exact (List.mem_append.mp member).elim
      (fun inside => List.mem_append_left _ (List.mem_filter.mpr ⟨inside, runs⟩)) (List.mem_append_right _)

/-- Stopping a consumer leaves the others under way. -/
theorem heeds_stopConsumer {active : ActiveConsumer κ} {others : List (ActiveConsumer κ)}
    (may : stand.Open ∨ stand.retired = true) (pending : stand.pending ⊆ running (active :: others)) :
    Heeds (fun _ later => stand.Handles later ∧ later.pending ⊆ running others) stand
      (stopConsumer embedding active.consumer) := by
  -- A section that takes everything away of the consumer leaves what belongs to the others.
  have leaves {engine after : Engine κ η} (knows : Knows stand engine) (runs : runs active.consumer = true)
      (phase : after.phase = engine.phase) (locks : after.locks = engine.locks) (routes : after.routes = engine.routes)
      (consumers : after.consumers = engine.consumers)
      (covers : ∀ rest, engine.Covered (active :: rest) → after.Covered rest) :
      ∃ later, Moves stand engine later after ∧ stand.Handles later ∧ later.pending ⊆ running others := by
    refine ⟨_, .consumers knows.fits may phase locks routes consumers fun rest covered => covers _ ?_, rfl,
      List.Subset.refl _⟩
    have first : running (active :: others) = active :: running others := List.filter_cons_of_pos runs
    rw [first] at pending
    have others : rest ⊆ (active :: running others) ++ rest := List.subset_append_right _ _
    exact covered.mono (List.append_subset.mpr ⟨List.subset_append_of_subset_left rest pending, others⟩) rfl rfl
  obtain ⟨route, consumer⟩ := active
  cases consumer with
  | direct name table processor active =>
    cases active with
    | true =>
      have erasing : Heeds (fun _ later => stand.Handles later ∧ later.pending ⊆ running others) stand
          (Program.change (changeTable table (·.erase name)) : Work κ η Unit) :=
        .change fun engine knows => leaves knows rfl rfl rfl rfl rfl fun rest => Covered.erase
      exact erasing.bind fun _ _ => id
    | false => exact ⟨rfl, pending⟩
  | timer identity settings context active stopped =>
    have taking : Heeds (fun _ later => stand.Handles later ∧ later.pending ⊆ running others) stand
        (Program.change (takeTimer identity) : Work κ η Unit) :=
      .change fun engine knows => leaves knows rfl rfl rfl rfl rfl fun rest => Covered.takeTimer
    exact taking.bind fun _ _ => id
  | custom code =>
    have asking : Heeds (fun _ later => stand.Handles later ∧ later.pending ⊆ running others) stand
        (request embedding code .stop) := by
      refine .atomically fun engine knows => leaves knows rfl rfl rfl rfl rfl fun rest covered => ?_
      exact (covered.without (by rintro _ _ ⟨⟩) fun _ => id).mono (List.Subset.refl _) rfl rfl
    refine asking.bind fun given later left => ?_
    cases given <;> exact left

/-- A call that handles consumers and goes on to do so handles them. -/
theorem Stand.Handles.trans {first second third : Stand κ} (before : first.Handles second)
    (after : second.Handles third) : first.Handles third := by
  unfold Handles at *
  rw [after, before]

/-- A call may handle consumers as before after it has handled some. -/
theorem Stand.Handles.may {later : Stand κ} (handles : stand.Handles later)
    (may : stand.Open ∨ stand.retired = true) : later.Open ∨ later.retired = true := by
  rw [handles]
  exact may

/-- Stopping all consumers that are under way leaves none. -/
theorem heeds_stopAll {consumers : List (ActiveConsumer κ)} (may : stand.Open ∨ stand.retired = true)
    (pending : stand.pending ⊆ running consumers) :
    Heeds (fun _ later => stand.Handles later ∧ later.pending = []) stand (stopAll embedding consumers) := by
  induction consumers generalizing stand with
  | nil => exact ⟨rfl, List.eq_nil_of_subset_nil pending⟩
  | cons active others ih =>
    refine (heeds_stopConsumer embedding may pending).bind fun _ middle ⟨handled, left⟩ => ?_
    refine (ih (handled.may may) left).bind fun _ later ⟨handles, stopped⟩ => ?_
    exact ⟨handled.trans handles, stopped⟩

/-- Starting some routes adds their consumers to those under way; if one fails, there are none under way afterwards. -/
theorem heeds_startAll {started : List (ActiveConsumer κ)} {routes : List (Route κ)} (going : stand.Open)
    (pending : stand.pending ⊆ running started) :
    Heeds (fun given later => stand.Handles later ∧ match given with
      | .error _ => later.pending = []
      | .ok all => later.pending ⊆ all) stand (startAll embedding started routes) := by
  induction routes generalizing stand started with
  | nil =>
    refine ⟨rfl, fun active member => List.mem_reverse.mpr ?_⟩
    exact (List.mem_filter.mp (pending member)).1
  | cons route rest ih =>
    refine (heeds_startRoute embedding route (.inl going)).bind fun given middle tries => ?_
    cases given with
    | error fault =>
      obtain rfl : middle = stand := tries
      exact (heeds_stopAll embedding (.inl going) pending).bind fun _ later stopped => stopped
    | ok active =>
      have more : stand.pending ⊆ running (active :: started) := fun other member => by
        obtain ⟨before, runs⟩ := List.mem_filter.mp (pending member)
        exact List.mem_filter.mpr ⟨List.mem_cons_of_mem _ before, runs⟩
      obtain ⟨handled, own⟩ : stand.Handles middle ∧ middle.pending ⊆ running (active :: started) := by
        rcases tries with rfl | ⟨runs, rfl⟩
        · exact ⟨rfl, more⟩
        · exact ⟨rfl, List.cons_subset.mpr ⟨List.mem_filter.mpr ⟨List.mem_cons_self, runs⟩, more⟩⟩
      have relies : middle.Open := by
        rw [handled]
        exact going
      exact (ih relies own).mono fun given later ⟨handles, ended⟩ => ⟨handled.trans handles, ended⟩

end Consumers

end MessageRouting.Engine
