import MessageRouting.Pattern.TryCatch
import MessageRouting.Proofs.Program.Yielding

/-!
# Which parts of a try run

The parts of a try write themselves down when they are through: which part it was, the exchange with which it was
entered, and what it left. Writing this down changes nothing in what the try does, and what was written tells which
parts ran, in which order and with what. Nothing is assumed about the parts: each may set or clear the error, panic,
hand over tasks and work on the shared state, and others may change that state meanwhile.
-/

namespace MessageRouting.Pattern

/-! ## Writing down -/

/-- A part of a try, with its place among those of its sort. -/
inductive Part where
  /-- A step that is tried. -/
  | step (place : Nat)
  /-- A handler of errors. -/
  | handler (place : Nat)
  /-- One of the last steps. -/
  | last (place : Nat)
  deriving DecidableEq

/-- A part that was run. -/
structure Visit where
  /-- The part. -/
  part : Part
  /-- The exchange with which it was entered. -/
  entered : Exchange
  /-- What it left. -/
  left : Outcome

namespace Visit

/-- The error after the part was run: the one that it left, or its panic. -/
def error (visit : Visit) : Option Raised := visit.left.contained.error

/-- The part panicked or left an error. -/
def Failed (visit : Visit) : Prop := visit.left.panic.isSome = true ∨ visit.left.exchange.isError = true

/-- A part failed exactly if there is an error after it. -/
theorem failed_iff (visit : Visit) : visit.Failed ↔ visit.error.isSome = true := by
  obtain ⟨part, entered, ⟨x, panic⟩⟩ := visit
  cases panic with
  | none => simp [Failed, error, Outcome.contained, Exchange.isError]
  | some panic => simp [Failed, error, Outcome.contained, Exchange.fail, Exchange.setError]

end Visit

variable {m : Type → Type} [Monad m]

/-- A behaviour that writes itself down when it is through. -/
def recorded (part : Part) (child : Behaviour m) : Behaviour (StateT (List Visit) m) := fun x => do
  let o ← StateT.lift (child x)
  modify fun visits => visits ++ [⟨part, x, o⟩]
  return o

/-- Behaviours that write themselves down with their places. -/
def recordedEach (part : Nat → Part) (children : List (Behaviour m)) : List (Behaviour (StateT (List Visit) m)) :=
  children.mapIdx fun place child => recorded (part place) child

/-- Handlers that write themselves down with their places. -/
def recordedHandlers (part : Nat → Part) (handlers : List (Handler m)) : List (Handler (StateT (List Visit) m)) :=
  handlers.mapIdx fun place handler => ⟨handler.accepts, recorded (part place) handler.behaviour⟩

/-- A try whose parts write themselves down. -/
def recordedTry (steps : List (Behaviour m)) (handlers : List (Handler m)) (last : List (Behaviour m)) (x : Exchange) :
    m (Outcome × List Visit) :=
  (tryCatch (recordedEach .step steps) (recordedHandlers .handler handlers) (recordedEach .last last) x).run []

/-- The first behaviour has the first place, and the others have the places after theirs. -/
theorem recordedEach_cons (part : Nat → Part) (child : Behaviour m) (rest : List (Behaviour m)) :
    recordedEach part (child :: rest) =
      recorded (part 0) child :: recordedEach (fun place => part (place + 1)) rest := by
  rw [recordedEach, List.mapIdx_cons, recordedEach]

/-- The same of handlers. -/
theorem recordedHandlers_cons (part : Nat → Part) (handler : Handler m) (rest : List (Handler m)) :
    recordedHandlers part (handler :: rest) =
      ⟨handler.accepts, recorded (part 0) handler.behaviour⟩ ::
        recordedHandlers (fun place => part (place + 1)) rest := by
  rw [recordedHandlers, List.mapIdx_cons, recordedHandlers]

variable [LawfulMonad m]

/-- A part that writes itself down is run and then written down. -/
theorem run_invoke_recorded (part : Part) (child : Behaviour m) (x : Exchange) (visits : List Visit) :
    (invoke (recorded part child) x).run visits = do
      let o ← child x
      return (o.contained, visits ++ [⟨part, x, o⟩]) := by
  simp [invoke, recorded, StateT.run_bind, StateT.run_lift]

/-! ## What was written does not show -/

/-- Without what it wrote down, a program is another one. -/
def Forgets {α : Type} (program : StateT (List Visit) m α) (plain : m α) : Prop :=
  ∀ visits, Prod.fst <$> program.run visits = plain

/-- An end writes nothing down. -/
theorem Forgets.pure {α : Type} (result : α) :
    Forgets (Pure.pure result : StateT (List Visit) m α) (Pure.pure result) :=
  fun visits => by rw [StateT.run_pure, map_pure]

/-- What follows a program follows the other one. -/
theorem Forgets.bind {α β : Type} {program : StateT (List Visit) m α} {plain : m α}
    {next : α → StateT (List Visit) m β} {follow : α → m β} (first : Forgets program plain)
    (later : ∀ result, Forgets (next result) (follow result)) : Forgets (program >>= next) (plain >>= follow) := by
  intro visits
  have each : ∀ ended : α × List Visit, Prod.fst <$> (next ended.1).run ended.2 = follow ended.1 :=
    fun ended => later ended.1 ended.2
  rw [StateT.run_bind, map_bind, ← first visits, bind_map_left]
  exact bind_congr each

/-- A part does what it does without writing itself down. -/
theorem forgets_invoke (part : Part) (child : Behaviour m) (x : Exchange) :
    Forgets (invoke (recorded part child) x) (invoke child x) := by
  intro visits
  rw [run_invoke_recorded, map_bind, invoke]
  exact bind_congr fun o => map_pure ..

/-- So do the steps that are tried. -/
theorem forgets_runUntilError (part : Nat → Part) (steps : List (Behaviour m)) (x : Exchange) :
    Forgets (runUntilError (recordedEach part steps) x) (runUntilError steps x) := by
  induction steps generalizing part x with
  | nil => exact .pure x
  | cons step rest later =>
    rw [recordedEach_cons, runUntilError, runUntilError]
    refine (forgets_invoke (part 0) step x).bind fun y => ?_
    by_cases raised : y.isError = true
    · rw [if_pos raised, if_pos raised]
      exact .pure y
    · rw [if_neg raised, if_neg raised]
      exact later _ y

omit [LawfulMonad m] in
/-- The first handler that accepts an error is the same, whether handlers write themselves down or not; those before
it do not accept the error. -/
theorem find?_recordedHandlers (part : Nat → Part) (handlers : List (Handler m)) (e : Raised) :
    (handlers.find? (·.accepts e) = none ∧ (recordedHandlers part handlers).find? (·.accepts e) = none ∧
        ∀ handler ∈ handlers, handler.accepts e = false) ∨
      ∃ place handler, handlers[place]? = some handler ∧ handler.accepts e = true ∧
        (∀ other ∈ handlers.take place, other.accepts e = false) ∧ handlers.find? (·.accepts e) = some handler ∧
        (recordedHandlers part handlers).find? (·.accepts e) =
          some ⟨handler.accepts, recorded (part place) handler.behaviour⟩ := by
  induction handlers generalizing part with
  | nil => exact .inl ⟨rfl, rfl, fun _ member => absurd member List.not_mem_nil⟩
  | cons handler rest later =>
    rw [recordedHandlers_cons]
    by_cases accepts : handler.accepts e = true
    · right
      have found : (handler :: rest).find? (·.accepts e) = some handler := by simp only [List.find?_cons, accepts]
      refine ⟨0, handler, rfl, accepts, fun _ member => absurd member List.not_mem_nil, found, ?_⟩
      simp only [List.find?_cons, accepts]
    · have refuses : handler.accepts e = false := Bool.eq_false_iff.mpr accepts
      simp only [List.find?_cons, refuses]
      rcases later fun place => part (place + 1) with
        ⟨none, alike, all⟩ | ⟨place, one, there, takes, before, found, alike⟩
      · exact .inl ⟨none, alike, List.forall_mem_cons.mpr ⟨refuses, all⟩⟩
      · right
        refine ⟨place + 1, one, there, takes, ?_, found, alike⟩
        rw [List.take_succ_cons]
        exact List.forall_mem_cons.mpr ⟨refuses, before⟩

/-- So do the handlers. -/
theorem forgets_handle (part : Nat → Part) (handlers : List (Handler m)) (x : Exchange) :
    Forgets (handle (recordedHandlers part handlers) x) (handle handlers x) := by
  unfold handle
  cases x.error with
  | none => exact .pure x
  | some caught =>
    rcases find?_recordedHandlers part handlers caught with ⟨none, alike, -⟩ | ⟨place, handler, -, -, -, found, alike⟩
    · simp only [none, alike]
      exact .pure x
    · simp only [found, alike]
      exact (forgets_invoke (part place) handler.behaviour _).bind fun y => .pure _

/-- So do the last steps. -/
theorem forgets_runLast (part : Nat → Part) (last : List (Behaviour m)) (first : Option Raised) (x : Exchange) :
    Forgets (runLast first (recordedEach part last) x) (runLast first last x) := by
  induction last generalizing part first x with
  | nil => exact .pure _
  | cons step rest later =>
    rw [recordedEach_cons, runLast, runLast]
    exact (forgets_invoke (part 0) step x).bind fun y => later _ _ _

/-- So does all that comes last. -/
theorem forgets_finish (part : Nat → Part) (last : List (Behaviour m)) (x : Exchange) :
    Forgets (finish (recordedEach part last) x) (finish last x) := by
  have empty : (recordedEach part last).isEmpty = last.isEmpty := by
    cases last with
    | nil => rfl
    | cons step rest => rw [recordedEach_cons, List.isEmpty_cons, List.isEmpty_cons]
  rw [finish, finish, empty]
  by_cases none : last.isEmpty = true
  · rw [if_pos none, if_pos none]
    exact .pure x
  · rw [if_neg none, if_neg none]
    exact (forgets_runLast part last _ _).bind fun ended => .pure _

/-- A try does what it does without its parts being written down. -/
theorem fst_recordedTry (steps : List (Behaviour m)) (handlers : List (Handler m)) (last : List (Behaviour m))
    (x : Exchange) : Prod.fst <$> recordedTry steps handlers last x = tryCatch steps handlers last x :=
  (forgets_runUntilError .step steps x).bind (fun y => (forgets_handle .handler handlers y).bind fun z =>
    (forgets_finish .last last z).bind fun _ => .pure _) []

/-! ## What was written -/

/-- Parts were run one after the other from an exchange to another: each was entered with what the one before it left,
made ready for it. -/
def Chained (ready : Exchange → Exchange) : Exchange → List Visit → Exchange → Prop
  | x, [], y => y = x
  | x, visit :: rest, y => visit.entered = x ∧ Chained ready (ready visit.left.contained) rest y

/-- Of so many steps those were tried that come up to the first one that failed, this one included, or all. -/
structure Tried (part : Nat → Part) (count : Nat) (x : Exchange) (visits : List Visit) (y : Exchange) : Prop where
  /-- The steps ran in their order, each once. -/
  inOrder : visits.map Visit.part = (List.range visits.length).map part
  /-- There are no more than the steps. -/
  within : visits.length ≤ count
  /-- Each was entered with what the one before it left. -/
  chained : Chained id x visits y
  /-- None but the last one failed. -/
  calm : ∀ visit ∈ visits.dropLast, ¬ visit.Failed
  /-- Where none failed, all of them ran. -/
  whole : (∀ visit ∈ visits, ¬ visit.Failed) → visits.length = count
  /-- An error in the end is that of the last one. -/
  raised : ∀ e, y.error = some e → ∃ visit, visits.getLast? = some visit ∧ visit.error = some e

/-- The handler of an error that was raised is the first one that accepts the error, if there is one. -/
inductive Handled (handlers : List (Handler m)) (y : Exchange) : List Visit → Exchange → Prop
  /-- No error was raised, and no handler ran. -/
  | calm (none : y.error = none) : Handled handlers y [] y
  /-- No handler accepts the error, and none ran. -/
  | unmatched {e : Raised} (raised : y.error = some e) (none : ∀ handler ∈ handlers, handler.accepts e = false) :
    Handled handlers y [] y
  /-- The first handler that accepts the error ran once, with the error in the property for it. What it left stays
  pending, but not the instance that it handled. -/
  | caught {e : Raised} {place : Nat} {handler : Handler m} {visit : Visit} (raised : y.error = some e)
    (there : handlers[place]? = some handler) (accepts : handler.accepts e = true)
    (first : ∀ other ∈ handlers.take place, other.accepts e = false) (part : visit.part = .handler place)
    (entered : visit.entered = y.setProperty caughtProperty (.error e)) :
    Handled handlers y [visit]
      { visit.left.contained with error := visit.error.filter fun error => !error.same e }

/-- The error in the end, from the one that is pending and the first one of the last steps. -/
def Settled : Option Raised → Option Raised → Option Raised → Prop
  | some earlier, some later, error => ∃ own, error = some (.mk own (.fault (.finallyFailed earlier later)))
  | none, some later, error => error = some later
  | pending, none, error => error = pending

/-- All of so many last steps ran, each without an error to begin with, and the error in the end was settled. -/
structure Finished (part : Nat → Part) (count : Nat) (z : Exchange) (visits : List Visit) (w : Exchange) : Prop where
  /-- All of them ran in their order, each once. -/
  inOrder : visits.map Visit.part = (List.range count).map part
  /-- Each was entered without an error. -/
  ready : ∀ visit ∈ visits, visit.entered.error = none
  /-- Each was entered with what the one before it left but its error, and the last one left what is settled. -/
  chained : ∃ v, Chained Exchange.clearError z.clearError visits v ∧
    w = settle v z.error (visits.findSome? Visit.error)
  /-- The error in the end. -/
  error : Settled z.error (visits.findSome? Visit.error) w.error

/-- What a try comes to that was entered without an error, and what its parts wrote down: first the steps that were
tried, then the handler, which found the very instance that it handled in the property for it, then the last steps. -/
def TryRan (steps : Nat) (handlers : List (Handler m)) (last : Nat) (x : Exchange) (o : Outcome)
    (visits : List Visit) : Prop :=
  ∃ tried handled finished y z, visits = tried ++ handled ++ finished ∧ Tried .step steps x tried y ∧
    Handled handlers y handled z ∧
    (∀ visit ∈ handled, ∃ e, y.error = some e ∧ visit.entered.property? caughtProperty = some (.error e)) ∧
    Finished .last last z finished o.exchange ∧ o.panic = none

omit [Monad m] [LawfulMonad m] in
/-- A handler finds the very instance that it handles in the property for it. -/
theorem Handled.property {handlers : List (Handler m)} {y z : Exchange} {visits : List Visit}
    (handled : Handled handlers y visits z) {visit : Visit} (member : visit ∈ visits) :
    ∃ e, y.error = some e ∧ visit.entered.property? caughtProperty = some (.error e) := by
  cases handled with
  | calm none => cases member
  | unmatched raised none => cases member
  | caught raised there accepts first part entered =>
    cases List.mem_singleton.mp member
    refine ⟨_, raised, ?_⟩
    rw [entered]
    exact Table.find?_insert_self ..

/-- Steps that are entered without an error and leave none are all entered without one. -/
theorem Chained.ready {visits : List Visit} {x y : Exchange} (chained : Chained Exchange.clearError x visits y)
    (calm : x.error = none) : ∀ visit ∈ visits, visit.entered.error = none := by
  induction visits generalizing x with
  | nil => exact fun _ member => absurd member List.not_mem_nil
  | cons visit rest later =>
    obtain ⟨entered, chained⟩ := chained
    have here : visit.entered.error = none := by rw [entered, calm]
    exact List.forall_mem_cons.mpr ⟨here, later chained rfl⟩

/-- What is settled is the error in the end. -/
theorem settled_settle (v : Exchange) (pending later : Option Raised) :
    Settled pending later (settle v pending later).error := by
  cases pending with
  | none => cases later <;> rfl
  | some earlier =>
    cases later with
    | none => rfl
    | some error => exact ⟨v.nextIdentity, rfl⟩

/-- A handler's exchange without the instance that was handled. -/
theorem cleared_eq (caught : Raised) (x : Exchange) :
    (if x.error.any (·.same caught) then x.clearError else x) =
      { x with error := x.error.filter fun error => !error.same caught } := by
  obtain ⟨identity, made, original, properties, message, error, scope⟩ := x
  cases error with
  | none => rfl
  | some error =>
    by_cases same : error.same caught = true
    · simp only [Option.any_some, same, if_true, Exchange.clearError, Option.filter_some, Bool.not_true,
        Bool.false_eq_true, if_false]
    · simp only [Option.any_some, same, Bool.false_eq_true, if_false, Option.filter_some, Bool.not_false, if_true]

/-! ## Steps that are tried -/

/-- No step was tried where there is none. -/
theorem tried_nil (part : Nat → Part) {x : Exchange} (calm : x.error = none) : Tried part 0 x [] x where
  inOrder := rfl
  within := Nat.le_refl 0
  chained := rfl
  calm := fun _ member => absurd member List.not_mem_nil
  whole := fun _ => rfl
  raised := fun e raised => by rw [calm] at raised; cases raised

/-- A step that fails is the last one to be tried. -/
theorem tried_failed (part : Nat → Part) (count : Nat) {x : Exchange} {o : Outcome}
    (failed : o.contained.isError = true) : Tried part (count + 1) x [⟨part 0, x, o⟩] o.contained where
  inOrder := rfl
  within := Nat.le_add_left 1 count
  chained := ⟨rfl, rfl⟩
  calm := fun _ member => absurd member List.not_mem_nil
  whole := fun all => absurd ((Visit.failed_iff ⟨part 0, x, o⟩).mpr failed) (all _ List.mem_cons_self)
  raised := fun _ raised => ⟨_, rfl, raised⟩

/-- After a step that does not fail the others are tried. -/
theorem Tried.cons {part : Nat → Part} {count : Nat} {x y : Exchange} {o : Outcome} {visits : List Visit}
    (calm : o.contained.isError = false)
    (later : Tried (fun place => part (place + 1)) count o.contained visits y) :
    Tried part (count + 1) x (⟨part 0, x, o⟩ :: visits) y where
  inOrder := by
    have order := later.inOrder
    simp only [List.map_cons, List.length_cons, List.range_succ_eq_map, List.map_map, order]
    rfl
  within := Nat.succ_le_succ later.within
  chained := ⟨rfl, later.chained⟩
  calm := by
    have first : ¬ (⟨part 0, x, o⟩ : Visit).Failed := fun failed =>
      Bool.noConfusion (calm.symm.trans ((Visit.failed_iff _).mp failed))
    cases visits with
    | nil => exact fun _ member => absurd member List.not_mem_nil
    | cons visit rest =>
      rw [List.dropLast_cons_cons]
      exact List.forall_mem_cons.mpr ⟨first, later.calm⟩
  whole all := by
    have others := later.whole fun visit member => all visit (List.mem_cons_of_mem _ member)
    rw [List.length_cons, others]
  raised e raised := by
    obtain ⟨visit, last, error⟩ := later.raised e raised
    refine ⟨visit, ?_, error⟩
    rw [List.getLast?_cons, last, Option.getD_some]

/-! ## What a try comes to -/

section Yields

variable {σ τ ρ : Type} {states : σ → Prop} {answers : τ → ρ → Prop}

/-- A part that writes itself down comes to what it left, contained, with the visit behind those before. -/
theorem yields_invoke {α : Type} {good : α × List Visit → Prop} (part : Part) (child : Behaviour (Program σ τ ρ))
    (x : Exchange) (visits : List Visit) {next : Exchange → StateT (List Visit) (Program σ τ ρ) α}
    (later : ∀ o, ((next o.contained).run (visits ++ [⟨part, x, o⟩])).Yields states answers good) :
    ((invoke (recorded part child) x >>= next).run visits).Yields states answers good := by
  rw [StateT.run_bind, run_invoke_recorded, bind_assoc]
  refine Program.Yields.bind (Program.Yields.any (child x)) fun o _ => ?_
  rw [pure_bind]
  exact later o

/-- The steps of a try are tried up to the first one that fails. -/
theorem yields_runUntilError (part : Nat → Part) (steps : List (Behaviour (Program σ τ ρ))) {x : Exchange}
    (calm : x.error = none) (visits : List Visit) :
    ((runUntilError (recordedEach part steps) x).run visits).Yields states answers fun ended =>
      ∃ tried, ended.2 = visits ++ tried ∧ Tried part steps.length x tried ended.1 := by
  induction steps generalizing part x visits with
  | nil => exact ⟨[], (List.append_nil visits).symm, tried_nil part calm⟩
  | cons step rest later =>
    rw [recordedEach_cons, runUntilError]
    refine yields_invoke (part 0) step x visits fun o => ?_
    by_cases raised : o.contained.isError = true
    · rw [if_pos raised]
      exact ⟨[⟨part 0, x, o⟩], rfl, tried_failed part rest.length raised⟩
    · rw [if_neg raised]
      have none : o.contained.error = none := by
        rw [Exchange.isError, Bool.not_eq_true, Option.isSome_eq_false_iff] at raised
        exact Option.isNone_iff_eq_none.mp raised
      refine (later (fun place => part (place + 1)) none (visits ++ [⟨part 0, x, o⟩])).mono ?_
      rintro ⟨y, written⟩ ⟨tried, rfl, ran⟩
      exact ⟨⟨part 0, x, o⟩ :: tried, List.append_assoc .., ran.cons (Bool.eq_false_iff.mpr raised)⟩

/-- An error that was raised goes to the first handler that accepts it. -/
theorem yields_handle (handlers : List (Handler (Program σ τ ρ))) (y : Exchange) (visits : List Visit) :
    ((handle (recordedHandlers .handler handlers) y).run visits).Yields states answers fun ended =>
      ∃ handled, ended.2 = visits ++ handled ∧ Handled handlers y handled ended.1 := by
  unfold handle
  cases raised : y.error with
  | none => exact ⟨[], (List.append_nil visits).symm, .calm raised⟩
  | some caught =>
    rcases find?_recordedHandlers .handler handlers caught with
      ⟨-, alike, refuse⟩ | ⟨place, handler, there, accepts, first, -, alike⟩
    · simp only [alike]
      exact ⟨[], (List.append_nil visits).symm, .unmatched raised refuse⟩
    · simp only [alike]
      refine yields_invoke (.handler place) handler.behaviour _ visits fun o => ⟨_, rfl, ?_⟩
      rw [cleared_eq]
      exact .caught raised there accepts first rfl rfl

/-- All of the last steps run, and the first error among theirs is found. -/
theorem yields_runLast (part : Nat → Part) (last : List (Behaviour (Program σ τ ρ))) (first : Option Raised)
    (x : Exchange) (visits : List Visit) :
    ((runLast first (recordedEach part last) x).run visits).Yields states answers fun ended =>
      ∃ finished v, ended.2 = visits ++ finished ∧ finished.map Visit.part = (List.range last.length).map part ∧
        Chained Exchange.clearError x finished v ∧ ended.1 = (v, first.or (finished.findSome? Visit.error)) := by
  induction last generalizing part first x visits with
  | nil => exact ⟨[], x, (List.append_nil visits).symm, rfl, rfl, by rw [List.findSome?_nil, Option.or_none]⟩
  | cons step rest later =>
    rw [recordedEach_cons, runLast]
    refine yields_invoke (part 0) step x visits fun o => ?_
    refine (later (fun place => part (place + 1)) _ _ _).mono ?_
    rintro ⟨found, written⟩ ⟨finished, v, rfl, order, chained, rfl⟩
    refine ⟨⟨part 0, x, o⟩ :: finished, v, List.append_assoc .., ?_, ⟨rfl, chained⟩, ?_⟩
    · rw [List.map_cons, order, List.length_cons, List.range_succ_eq_map, List.map_cons, List.map_map]
      rfl
    · have next : (Visit.mk (part 0) x o :: finished).findSome? Visit.error =
          o.contained.error.or (finished.findSome? Visit.error) := by
        cases raised : o.contained.error <;> simp only [List.findSome?_cons, Visit.error, raised, Option.or]
      rw [next, Option.or_assoc]

/-- All that comes last runs, and the error in the end is settled. -/
theorem yields_finish (last : List (Behaviour (Program σ τ ρ))) (z : Exchange) (visits : List Visit) :
    ((finish (recordedEach .last last) z).run visits).Yields states answers fun ended =>
      ∃ finished, ended.2 = visits ++ finished ∧ Finished .last last.length z finished ended.1 := by
  cases last with
  | nil =>
    have kept : z = settle z.clearError z.error none := by
      obtain ⟨identity, made, original, properties, message, error, scope⟩ := z
      cases error <;> rfl
    refine ⟨[], (List.append_nil visits).symm, rfl, fun _ member => absurd member List.not_mem_nil, ⟨_, rfl, kept⟩, ?_⟩
    cases z.error <;> rfl
  | cons step rest =>
    have some : (recordedEach Part.last (step :: rest)).isEmpty = false := by
      rw [recordedEach_cons, List.isEmpty_cons]
    rw [finish, some, if_neg Bool.false_ne_true, StateT.run_bind]
    refine (yields_runLast .last (step :: rest) none z.clearError visits).bind ?_
    rintro ⟨found, written⟩ ⟨finished, v, rfl, order, chained, rfl⟩
    exact ⟨finished, rfl, order, chained.ready rfl, ⟨v, chained, rfl⟩, settled_settle v z.error _⟩

end Yields

/-- A try over any parts that is entered without an error does what its parts write down. The steps run in their order
up to and including the first one that panics or leaves an error. The handler of that error is the first one that
accepts it and runs once, with the error in the property for it; where there is no error, or no handler for it, none
runs. Each of the last steps runs once, in their order and without an error to begin with. The error in the end is that
of the steps or of the handler and the first of the last steps, together if there are both. -/
theorem tryCatch_ran {σ τ ρ : Type} (steps : List (Behaviour (Program σ τ ρ)))
    (handlers : List (Handler (Program σ τ ρ))) (last : List (Behaviour (Program σ τ ρ))) {x : Exchange}
    (calm : x.error = none) :
    Prod.fst <$> recordedTry steps handlers last x = tryCatch steps handlers last x ∧
      (recordedTry steps handlers last x).Yields (fun _ => True) (fun _ _ => True) fun ended =>
        TryRan steps.length handlers last.length x ended.1 ended.2 := by
  refine ⟨fst_recordedTry steps handlers last x, ?_⟩
  rw [recordedTry, tryCatch, StateT.run_bind]
  refine (yields_runUntilError .step steps calm []).bind ?_
  rintro ⟨y, tried⟩ ⟨_, rfl, ran⟩
  rw [StateT.run_bind]
  refine (yields_handle handlers y _).bind ?_
  rintro ⟨z, written⟩ ⟨handled, rfl, took⟩
  rw [StateT.run_bind]
  refine (yields_finish last z _).bind ?_
  rintro ⟨w, written⟩ ⟨finished, rfl, ended⟩
  exact ⟨tried, handled, finished, y, z, rfl, ran, took, fun visit member => took.property member, ended, rfl⟩

/-- A step that leaves an exchange as it is. -/
def leavingStep : Behaviour (Program Unit Unit Outcome) := fun x => return .returned x

/-- A step that leaves an error. -/
def raisingStep (e : Raised) : Behaviour (Program Unit Unit Outcome) := fun x => return .returned (x.setError e)

/-- A step that panics. -/
def panickingStep : Behaviour (Program Unit Unit Outcome) := fun x => return .panicked x (.text "handler")

/-- A handler for another error, one for a given error that panics, and one that comes too late for it. -/
def handlersForBoom : List (Handler (Program Unit Unit Outcome)) :=
  [⟨fun e => e.identity == [6], leavingStep⟩, ⟨fun e => e.identity == [5], panickingStep⟩, ⟨fun _ => true, leavingStep⟩]

/-- An exchange that comes to a try. -/
def triedExchange : Exchange := .create [8] (.root [9]) [] .null

/-- The second step fails, its handler panics, and the first of the last steps fails, too: the error in the end holds
the panic and the last failure. -/
theorem tryCatch_ran_handlerPanics : triedExchange.error = none ∧ ∃ o visits,
    (recordedTry [leavingStep, raisingStep (.mk [5] (.plain "boom")), leavingStep] handlersForBoom
      [raisingStep (.mk [7] (.plain "cleanup")), leavingStep] triedExchange) = pure (o, visits) ∧
    visits.map Visit.part = [.step 0, .step 1, .handler 1, .last 0, .last 1] ∧
    o.exchange.error.map Raised.messages =
      some ["Finally block failed: cleanup (original error: Processor panicked: handler)",
        "Processor panicked: handler"] ∧
    TryRan 3 handlersForBoom 2 triedExchange o visits := by
  have calm : triedExchange.error = none := rfl
  obtain ⟨-, ran⟩ := tryCatch_ran [leavingStep, raisingStep (.mk [5] (.plain "boom")), leavingStep] handlersForBoom
    [raisingStep (.mk [7] (.plain "cleanup")), leavingStep] calm
  exact ⟨calm, _, _, rfl, rfl, by decide +kernel, ran⟩

end MessageRouting.Pattern
