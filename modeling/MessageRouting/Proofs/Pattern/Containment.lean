import MessageRouting.Pattern.Loop
import MessageRouting.Pattern.Multicast
import MessageRouting.Pattern.TryCatch

/-!
# Panics that stay inside patterns

Trying, multicasts and loops run their children in such a way that no panic of a child comes out. A panic becomes the
pending error of the exchange that the child was working on, with all that the child did to it, and the pattern goes on
as if the child had set this error itself and returned. So a pattern returns whatever its children do, and whatever
panics inside them; only the question that a loop asks can make it panic.
-/

namespace MessageRouting.Pattern

variable {m : Type → Type} [Monad m]

/-! ## What is promised -/

/-- The program comes back with an exchange and without a panic. -/
def ComesBack (program : m Outcome) : Prop := ∃ inner : m Exchange, program = Outcome.returned <$> inner

/-- The behaviour comes back without a panic on every exchange. -/
def Returns (behaviour : Behaviour m) : Prop := ∀ x, ComesBack (behaviour x)

/-- The question is answered or fails, on every exchange, but does not panic. -/
def NeverPanics {α : Type} (query : Query m α) : Prop :=
  ∀ x, ∃ program : m (Except Fault α), query x = Ending.ofExcept <$> program

/-- The child, but that it sets the error itself where it panicked, and returns. -/
def settingError (child : Behaviour m) : Behaviour m := fun x => do
  let o ← child x
  match o.panic with
  | none => return o
  | some panic => return .returned (o.exchange.fail (.panicked panic.message))

/-- The handler, but that it sets the error itself where it panicked, and returns. -/
def Handler.settingError (handler : Handler m) : Handler m :=
  { handler with behaviour := Pattern.settingError handler.behaviour }

/-- The exchange is as it was left, but that a new error is pending, which carries the text of the panic, or the fixed
text if it had none. -/
def HasSet (panic : Panic) (left x : Exchange) : Prop :=
  ∃ error : Raised, x = { left.afterMaking with error := some error } ∧ error.identity = left.nextIdentity ∧
    match panic with
    | .text message => error.fault? = some (.panicked message)
    | .other => error.fault? = some (.panicked "non-string panic payload")

/-- Patterns contain the panics of their children. -/
structure ContainsPanics : Prop where
  /-- What a panic leads to is an error with its text, and nothing else. -/
  sets : ∀ (panic : Panic) (x : Exchange), HasSet panic x (x.fail (.panicked panic.message))
  /-- Trying, whatever panics among the steps, the handlers and the last steps. -/
  tries : ∀ (m : Type → Type) [Monad m] [LawfulMonad m] (steps : List (Behaviour m)) (handlers : List (Handler m))
    (last : List (Behaviour m)), Returns (tryCatch steps handlers last) ∧
    tryCatch steps handlers last =
      tryCatch (steps.map settingError) (handlers.map Handler.settingError) (last.map settingError)
  /-- Multicasts of either mode, whatever panics among the outputs, and whatever the aggregator does. -/
  multicasts : ∀ (m : Type → Type) [Monad m] [LawfulMonad m] (mode : Mode) (aggregator : Option (Aggregator m))
    (outputs : List (Behaviour m)), Returns (multicast mode aggregator outputs) ∧
    multicast mode aggregator outputs = multicast mode aggregator (outputs.map settingError)
  /-- Aggregators that panic, whatever stopped the multicast: its exchange gets the error. -/
  aggregates : ∀ (m : Type → Type) [Monad m] [LawfulMonad m] (aggregate : Aggregator m) (branches : Branches)
    (joined : m Panic), foldBranches aggregate none branches.ended = Except.error <$> joined →
    gather (some aggregate) branches = (fun panic => branches.source.fail (.panicked panic.message)) <$> joined
  /-- Counting loops, whatever the body does. -/
  counts : ∀ (m : Type → Type) [Monad m] [LawfulMonad m] (count : Query m Value) (body : Behaviour m),
    NeverPanics count →
    Returns (countLoop count body) ∧ countLoop count body = countLoop count (settingError body)
  /-- Loops with a condition, whatever the body does. -/
  whiles : ∀ (m : Type → Type) [Monad m] [LawfulMonad m] (stuck : Behaviour m) (patience : Nat)
    (condition : Query m Bool) (policy : ConditionPolicy) (body : Behaviour m), Returns stuck →
    NeverPanics condition →
    Returns (whileLoop stuck patience condition policy body) ∧
    whileLoop stuck patience condition policy body = whileLoop stuck patience condition policy (settingError body)

/-! ## Children that set the error themselves -/

/-- What a panic leads to is an error with its text. -/
theorem hasSet_fail (panic : Panic) (x : Exchange) : HasSet panic x (x.fail (.panicked panic.message)) := by
  refine ⟨(Fault.panicked panic.message).raise x.nextIdentity, rfl, rfl, ?_⟩
  cases panic with
  | text message => rfl
  | other => rfl

variable [LawfulMonad m]

/-- An end without a panic comes back. -/
theorem ComesBack.returned (x : Exchange) : ComesBack (return .returned x : m Outcome) := ⟨pure x, (map_pure _ _).symm⟩

/-- What is followed by what comes back comes back. -/
theorem ComesBack.bind {α : Type} (program : m α) {next : α → m Outcome} (later : ∀ a, ComesBack (next a)) :
    ComesBack (program >>= next) := by
  refine ⟨program >>= fun a => (later a).choose, ?_⟩
  rw [map_bind]
  congr 1
  funext a
  exact (later a).choose_spec

/-- Run with containment, a child does the same as when it sets the error itself. -/
theorem invoke_settingError (child : Behaviour m) : invoke (settingError child) = invoke child := by
  funext x
  simp only [invoke, settingError, bind_assoc]
  congr 1
  funext o
  unfold Outcome.contained
  cases found : o.panic with
  | none => simp only [pure_bind, found]
  | some panic => simp only [pure_bind, Outcome.returned]

/-! ## Trying -/

/-- Steps are tried as if they set the errors themselves. -/
theorem runUntilError_settingError (steps : List (Behaviour m)) :
    runUntilError (steps.map settingError) = runUntilError steps := by
  induction steps with
  | nil => rfl
  | cons step rest later =>
    funext x
    simp only [List.map_cons, runUntilError, invoke_settingError, later]

/-- An error is handled as if handlers set the errors themselves. -/
theorem handle_settingError (handlers : List (Handler m)) :
    handle (handlers.map Handler.settingError) = handle handlers := by
  funext x
  unfold handle
  cases x.error with
  | none => rfl
  | some caught =>
    have found : (handlers.map Handler.settingError).find? (·.accepts caught) =
        (handlers.find? (·.accepts caught)).map Handler.settingError := List.find?_map ..
    simp only [found]
    cases handlers.find? (·.accepts caught) with
    | none => rfl
    | some handler => simp only [Option.map_some, Handler.settingError, invoke_settingError]

/-- Last steps run as if they set the errors themselves. -/
theorem runLast_settingError (steps : List (Behaviour m)) (first : Option Raised) (x : Exchange) :
    runLast first (steps.map settingError) x = runLast first steps x := by
  induction steps generalizing first x with
  | nil => rfl
  | cons step rest later => simp only [List.map_cons, runLast, invoke_settingError, later]

/-- Last steps with the pending error set aside run as if they set the errors themselves. -/
theorem finish_settingError (last : List (Behaviour m)) : finish (last.map settingError) = finish last := by
  funext x
  simp only [finish, List.isEmpty_map, runLast_settingError]

/-- Trying comes to an end without a panic. -/
theorem returns_tryCatch (steps : List (Behaviour m)) (handlers : List (Handler m)) (last : List (Behaviour m)) :
    Returns (tryCatch steps handlers last) :=
  fun _ => .bind _ fun _ => .bind _ fun _ => .bind _ fun z => .returned z

/-! ## Multicasts -/

/-- Outputs run one after the other as if they set the errors themselves. -/
theorem runInTurn_settingError (stopOnError : Bool) (outputs : List (Behaviour m)) :
    runInTurn stopOnError (outputs.map settingError) = runInTurn stopOnError outputs := by
  induction outputs with
  | nil => rfl
  | cons output rest later =>
    funext x
    simp only [List.map_cons, runInTurn, invoke_settingError, later]

/-- The forks for outputs are those for outputs that set the errors themselves. -/
theorem forksFor_settingError (outputs : List (Behaviour m)) (x : Exchange) :
    forksFor (outputs.map settingError) x = forksFor outputs x := by
  induction outputs generalizing x with
  | nil => rfl
  | cons output rest later => simp only [List.map_cons, forksFor, invoke_settingError, later]

/-- Outputs run side by side as if they set the errors themselves. -/
theorem runSideBySide_settingError (order : List Nat) (outputs : List (Behaviour m)) :
    runSideBySide order (outputs.map settingError) = runSideBySide order outputs := by
  funext x
  simp only [runSideBySide, forksFor_settingError, List.length_map]

/-- A multicast runs its outputs as if they set the errors themselves. -/
theorem multicast_settingError (mode : Mode) (aggregator : Option (Aggregator m)) (outputs : List (Behaviour m)) :
    multicast mode aggregator (outputs.map settingError) = multicast mode aggregator outputs := by
  funext x
  cases mode with
  | inTurn stopOnError => simp only [multicast, runInTurn_settingError]
  | sideBySide order => simp only [multicast, runSideBySide_settingError]

/-- A multicast comes to an end without a panic. -/
theorem returns_multicast (mode : Mode) (aggregator : Option (Aggregator m)) (outputs : List (Behaviour m)) :
    Returns (multicast mode aggregator outputs) := by
  intro x
  cases mode with
  | inTurn stopOnError => exact .bind _ fun _ => .bind _ fun y => .returned y
  | sideBySide order => exact .bind _ fun _ => .bind _ fun y => .returned y

/-- Where the aggregator panics, the exchange of the multicast gets the error. -/
theorem gather_of_panic {aggregate : Aggregator m} {branches : Branches} {joined : m Panic}
    (panics : foldBranches aggregate none branches.ended = Except.error <$> joined) :
    gather (some aggregate) branches = (fun panic => branches.source.fail (.panicked panic.message)) <$> joined := by
  simp only [gather, panics, bind_map_left]
  rw [map_eq_pure_bind]

/-! ## Loops -/

/-- An iteration runs its body as if it set the errors itself. -/
theorem iterate_settingError (body : Behaviour m) (index : Nat) :
    iterate (settingError body) index = iterate body index := by
  funext x
  simp only [iterate, invoke_settingError]

/-- Counted iterations run their body as if it set the errors itself. -/
theorem countFrom_settingError (body : Behaviour m) (n index : Nat) :
    countFrom (settingError body) n index = countFrom body n index := by
  induction n generalizing index with
  | zero => rfl
  | succ n later =>
    funext x
    simp only [countFrom, iterate_settingError, later]

/-- Counted iterations come to an end without a panic. -/
theorem returns_countFrom (body : Behaviour m) (n index : Nat) : Returns (countFrom body n index) := by
  induction n generalizing index with
  | zero => exact fun x => .returned x
  | succ n later =>
    refine fun x => .bind _ fun y => ?_
    split
    · exact .returned y
    · exact later (index + 1) y

/-- A counting loop comes to an end without a panic, if the question for its count does. -/
theorem returns_countLoop {count : Query m Value} (body : Behaviour m) (calm : NeverPanics count) :
    Returns (countLoop count body) := by
  intro x
  obtain ⟨asked, answered⟩ := calm x
  simp only [countLoop, answered, bind_map_left]
  refine .bind _ fun answer => ?_
  cases answer with
  | error fault => exact .returned _
  | ok value =>
    simp only [Ending.ofExcept, Ending.bind]
    cases timesOf value with
    | error fault => exact .returned _
    | ok times => exact returns_countFrom body times 0 x

/-- Iterations under a condition run their body as if it set the errors itself. -/
theorem whileFrom_settingError (stuck : Behaviour m) (condition : Query m Bool) (policy : ConditionPolicy)
    (body : Behaviour m) (patience index : Nat) :
    whileFrom stuck condition policy (settingError body) patience index =
      whileFrom stuck condition policy body patience index := by
  induction patience generalizing index with
  | zero => rfl
  | succ patience later =>
    funext x
    simp only [whileFrom, iterate_settingError, later]

/-- Iterations under a condition come to an end without a panic, if the question for the condition does. -/
theorem returns_whileFrom {stuck : Behaviour m} {condition : Query m Bool} (policy : ConditionPolicy)
    (body : Behaviour m) (rest : Returns stuck) (calm : NeverPanics condition) (patience index : Nat) :
    Returns (whileFrom stuck condition policy body patience index) := by
  induction patience generalizing index with
  | zero => exact rest
  | succ patience later =>
    intro x
    obtain ⟨asked, answered⟩ := calm (atIndex index x)
    simp only [whileFrom, answered, bind_map_left]
    refine .bind _ fun answer => ?_
    match answer with
    | .ok true =>
      refine .bind _ fun y => ?_
      split
      · exact .returned y
      · exact later (index + 1) y
    | .ok false => exact .returned _
    | .error fault => cases policy <;> exact .returned _

/-! ## All patterns -/

/-- Whatever panics among the children of a pattern or in an aggregator, at any depth, the pattern returns. Each panic
becomes an error with its text on the exchange that was worked on, which keeps what was done to it before, and the
pattern goes on as if its child had set that error and returned. -/
theorem panics_contained : ContainsPanics where
  sets := hasSet_fail
  tries _ _ _ steps handlers last := by
    refine ⟨returns_tryCatch steps handlers last, ?_⟩
    funext x
    simp only [tryCatch, runUntilError_settingError, handle_settingError, finish_settingError]
  multicasts _ _ _ mode aggregator outputs :=
    ⟨returns_multicast mode aggregator outputs, (multicast_settingError mode aggregator outputs).symm⟩
  aggregates _ _ _ _ _ _ panics := gather_of_panic panics
  counts _ _ _ count body calm := by
    refine ⟨returns_countLoop body calm, ?_⟩
    funext x
    simp only [countLoop, countFrom_settingError]
  whiles _ _ _ stuck patience condition policy body rest calm :=
    ⟨returns_whileFrom policy body rest calm patience 0,
      (whileFrom_settingError stuck condition policy body patience 0).symm⟩

end MessageRouting.Pattern
