import MessageRouting.Pattern.Loop
import MessageRouting.Pattern.Multicast
import MessageRouting.Pattern.TryCatch

/-!
# Patterns on an exchange with a pending error

A pattern is to react to the errors of its own children. Children that leave the error slot alone and do not panic
raise none, so all of them should run. This is what happens on an exchange without a pending error. A pending error,
though, passes for one of the children's: only the first step, iteration or output runs, and a handler handles it.
-/

namespace MessageRouting.Pattern

variable {m : Type → Type} [Monad m]

/-! ## Children that raise nothing -/

/-- Every exchange that comes out of a program has a property. -/
def Ensures (property : Exchange → Prop) (program : m Exchange) : Prop :=
  ∃ inner : m { x // property x }, program = Subtype.val <$> inner

/-- A child that does not panic and leaves the error slot as it was. -/
def Neutral (child : Behaviour m) : Prop :=
  ∀ x, ∃ program : m Exchange, Ensures (·.error = x.error) program ∧ child x = Outcome.returned <$> program

/-- All steps, one after the other, whatever errors there are. -/
def runAll : List (Behaviour m) → Exchange → m Exchange
  | [], x => return x
  | step :: rest, x => do runAll rest (← invoke step x)

/-- Exactly so many iterations from an index on, whatever errors there are. -/
def countAll (body : Behaviour m) : Nat → Nat → Behaviour m
  | 0, _, x => return .returned x
  | n + 1, index, x => do countAll body n (index + 1) (← iterate body index x)

/-- Iterations from an index on until a condition does not hold, whatever errors there are; when the patience is used
up the given behaviour stands for the rest. -/
def whileAll (stuck : Behaviour m) (condition : Query m Bool) (policy : ConditionPolicy) (body : Behaviour m) :
    Nat → Nat → Behaviour m
  | 0, _, x => stuck x
  | patience + 1, index, x => do
    let x := atIndex index x
    match ← condition x with
    | .returned true => whileAll stuck condition policy body patience (index + 1) (← iterate body index x)
    | .returned false => return .returned x
    | .failed fault =>
      match policy with
      | .clearAndStop => return .returned x.clearError
      | .propagate => return .returned (x.fail fault)
    | .panicked panic => return .panicked x panic

/-- Runs the first handler that accepts an error, and clears the error. -/
def handleAndClear (handlers : List (Handler m)) (error : Raised) (x : Exchange) : m Exchange :=
  match handlers.find? (·.accepts error) with
  | none => return x
  | some handler => Exchange.clearError <$> invoke handler.behaviour (x.setProperty caughtProperty (.error error))

/-- On an exchange the patterns react only to the errors that their own children raise: where these raise none, all
of them run and no handler does. -/
structure ReactsToChildren (x : Exchange) : Prop where
  /-- All steps that are tried run, and no handler does. -/
  tries : ∀ (m : Type → Type) [Monad m] [LawfulMonad m] (steps : List (Behaviour m)) (handlers : List (Handler m))
    (last : List (Behaviour m)), (∀ step ∈ steps, Neutral step) →
    tryCatch steps handlers last x = do
      let y ← runAll steps x
      return .returned (← finish last y)
  /-- A counting loop runs all its iterations. -/
  counts : ∀ (m : Type → Type) [Monad m] [LawfulMonad m] (body : Behaviour m) (n : Nat), Neutral body →
    countFrom body n 0 x = countAll body n 0 x
  /-- A conditional loop runs until its condition does not hold. -/
  whiles : ∀ (m : Type → Type) [Monad m] [LawfulMonad m] (stuck : Behaviour m) (condition : Query m Bool)
    (policy : ConditionPolicy) (body : Behaviour m) (patience : Nat), Neutral body →
    whileLoop stuck patience condition policy body x = whileAll stuck condition policy body patience 0 x
  /-- A multicast that is to stop on errors runs all its outputs. -/
  outputs : ∀ (m : Type → Type) [Monad m] [LawfulMonad m] (aggregator : Option (Aggregator m))
    (outputs : List (Behaviour m)), (∀ output ∈ outputs, Neutral output) →
    multicast (.inTurn true) aggregator outputs x = multicast (.inTurn false) aggregator outputs x

/-- On an exchange with a pending error the patterns react to that error: no more than the first of their children
run, and the first handler that accepts the error runs and clears it. -/
structure ReactsToPending (pending : Raised) (x : Exchange) : Prop where
  /-- Only the first of the steps that are tried runs. -/
  tries : ∀ (m : Type → Type) [Monad m] [LawfulMonad m] (steps : List (Behaviour m)) (handlers : List (Handler m))
    (last : List (Behaviour m)), (∀ step ∈ steps, Neutral step) →
    (∀ handler ∈ handlers, Neutral handler.behaviour) →
    tryCatch steps handlers last x = do
      let y ← runAll (steps.take 1) x
      let y ← handleAndClear handlers pending y
      return .returned (← finish last y)
  /-- A counting loop runs at most one iteration. -/
  counts : ∀ (m : Type → Type) [Monad m] [LawfulMonad m] (body : Behaviour m) (n : Nat), Neutral body →
    countFrom body n 0 x = countAll body (min n 1) 0 x
  /-- A conditional loop does not ask for its condition again after an iteration. -/
  whiles : ∀ (m : Type → Type) [Monad m] [LawfulMonad m] (stuck : Behaviour m) (condition : Query m Bool)
    (policy : ConditionPolicy) (body : Behaviour m) (patience : Nat), Neutral body →
    whileLoop stuck (patience + 1) condition policy body x =
      whileAll (fun y => return .returned y) condition policy body 1 0 x
  /-- A multicast that is to stop on errors runs its first output only, and takes over the pending error. -/
  outputs : ∀ (m : Type → Type) [Monad m] [LawfulMonad m] (aggregator : Option (Aggregator m))
    (output : Behaviour m) (rest : List (Behaviour m)), Neutral output →
    multicast (.inTurn true) aggregator (output :: rest) x = do
      let branch ← invoke output x.fork
      return .returned (← gather aggregator ⟨x.afterMaking, [branch], some pending⟩)

variable [LawfulMonad m]

/-- What follows a program may rely on what the program ensures. -/
theorem Ensures.bind_congr {α : Type} {property : Exchange → Prop} {program : m Exchange}
    (ensured : Ensures property program) {f g : Exchange → m α} (same : ∀ x, property x → f x = g x) :
    program >>= f = program >>= g := by
  obtain ⟨inner, rfl⟩ := ensured
  simp only [bind_map_left]
  congr 1
  funext x
  exact same x.1 x.2

/-- A program that ends at once ensures what holds of its result. -/
theorem Ensures.pure {property : Exchange → Prop} {x : Exchange} (holds : property x) :
    Ensures property (Pure.pure x : m Exchange) :=
  ⟨Pure.pure ⟨x, holds⟩, by simp⟩

/-- A program ensures what its second part does. -/
theorem Ensures.bind {property later : Exchange → Prop} {program : m Exchange} (ensured : Ensures property program)
    {f : Exchange → m Exchange} (next : ∀ x, property x → Ensures later (f x)) : Ensures later (program >>= f) := by
  obtain ⟨inner, rfl⟩ := ensured
  refine ⟨inner >>= fun x => (next x.1 x.2).choose, ?_⟩
  simp only [bind_map_left, map_bind]
  congr 1
  funext x
  exact (next x.1 x.2).choose_spec

/-- A neutral child leaves the error slot as it was. -/
theorem Neutral.keeps_error {child : Behaviour m} (neutral : Neutral child) (x : Exchange) :
    Ensures (·.error = x.error) (invoke child x) := by
  obtain ⟨program, ensured, ran⟩ := neutral x
  have same : invoke child x = program := by
    simp [invoke, ran, Outcome.returned, Outcome.contained]
  rwa [same]

/-- An exchange is in error exactly if an error is pending. -/
theorem isError_of_error {x : Exchange} {error : Option Raised} (holds : x.error = error) :
    x.isError = error.isSome := by
  rw [Exchange.isError, holds]

/-! ## Trying -/

/-- Neutral steps leave the error slot as it was. -/
theorem runAll_keeps_error {steps : List (Behaviour m)} (neutral : ∀ step ∈ steps, Neutral step) (x : Exchange) :
    Ensures (·.error = x.error) (runAll steps x) := by
  induction steps generalizing x with
  | nil => exact .pure rfl
  | cons step rest later =>
    obtain ⟨first, others⟩ := List.forall_mem_cons.mp neutral
    refine (first.keeps_error x).bind fun y kept => ?_
    have ensured := later others y
    rwa [kept] at ensured

/-- Without a pending error all neutral steps are tried. -/
theorem runUntilError_of_none {steps : List (Behaviour m)} (neutral : ∀ step ∈ steps, Neutral step) {x : Exchange}
    (quiet : x.error = none) : runUntilError steps x = runAll steps x := by
  induction steps generalizing x with
  | nil => rfl
  | cons step rest later =>
    obtain ⟨first, others⟩ := List.forall_mem_cons.mp neutral
    refine (first.keeps_error x).bind_congr fun y kept => ?_
    have quiet : y.error = none := kept.trans quiet
    simp only [isError_of_error quiet, Option.isSome_none, Bool.false_eq_true, ↓reduceIte]
    exact later others quiet

/-- With a pending error at most the first neutral step is tried. -/
theorem runUntilError_of_some {steps : List (Behaviour m)} (neutral : ∀ step ∈ steps, Neutral step) {x : Exchange}
    {pending : Raised} (filled : x.error = some pending) : runUntilError steps x = runAll (steps.take 1) x := by
  cases steps with
  | nil => rfl
  | cons step rest =>
    refine ((neutral step List.mem_cons_self).keeps_error x).bind_congr fun y kept => ?_
    simp [isError_of_error (kept.trans filled), runAll]

omit [LawfulMonad m] in
/-- Without a pending error nothing is handled. -/
theorem handle_of_none (handlers : List (Handler m)) {x : Exchange} (quiet : x.error = none) :
    handle handlers x = pure x := by
  simp only [handle, quiet]

/-- With a pending error the first handler that accepts it runs, and the error is cleared. -/
theorem handle_of_some {handlers : List (Handler m)} (neutral : ∀ handler ∈ handlers, Neutral handler.behaviour)
    {x : Exchange} {pending : Raised} (filled : x.error = some pending) :
    handle handlers x = handleAndClear handlers pending x := by
  simp only [handle, filled, handleAndClear]
  cases found : handlers.find? (·.accepts pending) with
  | none => rfl
  | some handler =>
    have ensured := (neutral handler (List.mem_of_find?_eq_some found)).keeps_error
      (x.setProperty caughtProperty (.error pending))
    simp only [map_eq_pure_bind]
    refine ensured.bind_congr fun y kept => ?_
    have kept : y.error = some pending := kept.trans filled
    simp [kept, Raised.same]

/-! ## Loops -/

/-- An iteration of a neutral body leaves the error slot as it was. -/
theorem iterate_keeps_error {body : Behaviour m} (neutral : Neutral body) (index : Nat) (x : Exchange) :
    Ensures (·.error = x.error) (iterate body index x) :=
  (neutral.keeps_error (atIndex index x).copy).bind fun _ kept => .pure kept

/-- Without a pending error a counting loop runs all its iterations. -/
theorem countFrom_of_none {body : Behaviour m} (neutral : Neutral body) (n index : Nat) {x : Exchange}
    (quiet : x.error = none) : countFrom body n index x = countAll body n index x := by
  induction n generalizing index x with
  | zero => rfl
  | succ n later =>
    refine (iterate_keeps_error neutral index x).bind_congr fun y kept => ?_
    have quiet : y.error = none := kept.trans quiet
    simp only [isError_of_error quiet, Option.isSome_none, Bool.false_eq_true, ↓reduceIte]
    exact later (index + 1) quiet

/-- With a pending error a counting loop runs at most one iteration. -/
theorem countFrom_of_some {body : Behaviour m} (neutral : Neutral body) (n index : Nat) {x : Exchange}
    {pending : Raised} (filled : x.error = some pending) :
    countFrom body n index x = countAll body (min n 1) index x := by
  cases n with
  | zero => rfl
  | succ n =>
    rw [show min (n + 1) 1 = 0 + 1 by omega]
    refine (iterate_keeps_error neutral index x).bind_congr fun y kept => ?_
    simp [isError_of_error (kept.trans filled), countAll]

/-- Without a pending error a conditional loop runs until its condition does not hold. -/
theorem whileFrom_of_none (stuck : Behaviour m) (condition : Query m Bool) (policy : ConditionPolicy)
    {body : Behaviour m} (neutral : Neutral body) (patience index : Nat) {x : Exchange} (quiet : x.error = none) :
    whileFrom stuck condition policy body patience index x =
      whileAll stuck condition policy body patience index x := by
  induction patience generalizing index x with
  | zero => rfl
  | succ patience later =>
    simp only [whileFrom, whileAll]
    congr 1
    funext held
    match held with
    | .returned true =>
      refine (iterate_keeps_error neutral index (atIndex index x)).bind_congr fun y kept => ?_
      have quiet : y.error = none := kept.trans quiet
      simp only [isError_of_error quiet, Option.isSome_none, Bool.false_eq_true, ↓reduceIte]
      exact later (index + 1) quiet
    | .returned false => rfl
    | .failed fault => rfl
    | .panicked panic => rfl

/-- With a pending error a conditional loop ends after an iteration. -/
theorem whileFrom_of_some (stuck : Behaviour m) (condition : Query m Bool) (policy : ConditionPolicy)
    {body : Behaviour m} (neutral : Neutral body) (patience index : Nat) {x : Exchange} {pending : Raised}
    (filled : x.error = some pending) :
    whileFrom stuck condition policy body (patience + 1) index x =
      whileAll (fun y => return .returned y) condition policy body 1 index x := by
  simp only [whileFrom, whileAll]
  congr 1
  funext held
  match held with
  | .returned true =>
    refine (iterate_keeps_error neutral index (atIndex index x)).bind_congr fun y kept => ?_
    simp [isError_of_error (kept.trans filled)]
  | .returned false => rfl
  | .failed fault => rfl
  | .panicked panic => rfl

/-! ## Multicasts -/

/-- Without a pending error all neutral outputs run. -/
theorem runInTurn_of_none {outputs : List (Behaviour m)} (neutral : ∀ output ∈ outputs, Neutral output)
    {x : Exchange} (quiet : x.error = none) : runInTurn true outputs x = runInTurn false outputs x := by
  induction outputs generalizing x with
  | nil => rfl
  | cons output rest later =>
    obtain ⟨first, others⟩ := List.forall_mem_cons.mp neutral
    refine (first.keeps_error x.fork).bind_congr fun branch kept => ?_
    have kept : branch.error = none := kept.trans quiet
    have later := later (x := x.afterMaking) others quiet
    simp only [isError_of_error kept, Option.isSome_none, Bool.and_false, Bool.false_eq_true, ↓reduceIte, later]

/-- With a pending error the first neutral output stops the others. -/
theorem runInTurn_of_some {output : Behaviour m} (neutral : Neutral output) (rest : List (Behaviour m))
    {x : Exchange} {pending : Raised} (filled : x.error = some pending) :
    runInTurn true (output :: rest) x = do
      let branch ← invoke output x.fork
      return ⟨x.afterMaking, [branch], some pending⟩ := by
  refine (neutral.keeps_error x.fork).bind_congr fun branch kept => ?_
  have kept : branch.error = some pending := kept.trans filled
  simp [isError_of_error kept, kept]

/-! ## All patterns -/

/-- Without a pending error the patterns react only to what their children raise. -/
theorem reactsToChildren_of_none {x : Exchange} (quiet : x.error = none) : ReactsToChildren x where
  tries m _ _ steps handlers last neutral := by
    simp only [tryCatch, runUntilError_of_none neutral quiet]
    refine (runAll_keeps_error neutral x).bind_congr fun y kept => ?_
    simp only [handle_of_none handlers (kept.trans quiet), pure_bind]
  counts m _ _ body n neutral := countFrom_of_none neutral n 0 quiet
  whiles m _ _ stuck condition policy body patience neutral :=
    whileFrom_of_none stuck condition policy neutral patience 0 quiet
  outputs m _ _ aggregator outputs neutral := by
    simp only [multicast, runInTurn_of_none neutral quiet]

/-- With a pending error the patterns react to it. -/
theorem reactsToPending_of_some {x : Exchange} {pending : Raised} (filled : x.error = some pending) :
    ReactsToPending pending x where
  tries m _ _ steps handlers last neutral neutralHandlers := by
    have few : ∀ step ∈ steps.take 1, Neutral step := fun step member => neutral step (List.mem_of_mem_take member)
    simp only [tryCatch, runUntilError_of_some neutral filled]
    refine (runAll_keeps_error few x).bind_congr fun y kept => ?_
    rw [handle_of_some neutralHandlers (kept.trans filled)]
  counts m _ _ body n neutral := countFrom_of_some neutral n 0 filled
  whiles m _ _ stuck condition policy body patience neutral :=
    whileFrom_of_some stuck condition policy neutral patience 0 filled
  outputs m _ _ aggregator output rest neutral := by
    simp only [multicast, runInTurn_of_some neutral rest filled, bind_assoc, pure_bind]

/-- A child that only counts how often it runs. -/
def tick : Behaviour (StateM Nat) := fun x => do
  modify (· + 1)
  return .returned x

/-- Counting leaves the error slot alone. -/
theorem tick_neutral : Neutral tick := fun x =>
  ⟨modify (· + 1) *> pure x, ⟨modify (· + 1) *> pure ⟨x, rfl⟩, rfl⟩, rfl⟩

/-- All iterations of a loop are counted. -/
theorem countAll_tick (n index : Nat) (x : Exchange) (before : Nat) :
    ((countAll tick n index x).run before).2 = before + n := by
  induction n generalizing index x before with
  | zero => rfl
  | succ n later =>
    change ((countAll tick n (index + 1) _).run (before + 1)).2 = before + (n + 1)
    rw [later]
    omega

/-- With a pending error a loop that is to count to more than one does not. -/
theorem countFrom_tick_ne {x : Exchange} {pending : Raised} (filled : x.error = some pending) (n : Nat) :
    countFrom tick (n + 2) 0 x ≠ countAll tick (n + 2) 0 x := by
  intro same
  rw [countFrom_of_some tick_neutral (n + 2) 0 filled] at same
  have counts := congrArg (fun program => (program.run 0).2) same
  simp only [countAll_tick] at counts
  omega

/-- The patterns react only to what their children raise exactly on exchanges without a pending error; on the others
they react to the pending error. -/
theorem reactsToChildren_iff (x : Exchange) :
    (ReactsToChildren x ↔ x.error = none) ∧ ∀ pending, x.error = some pending → ReactsToPending pending x := by
  refine ⟨⟨fun reacts => ?_, reactsToChildren_of_none⟩, fun pending filled => reactsToPending_of_some filled⟩
  cases filled : x.error with
  | none => rfl
  | some pending => exact absurd (reacts.counts _ tick 2 tick_neutral) (countFrom_tick_ne filled 0)

/-- An exchange that enters a loop with an error of an earlier step. -/
def pendingExchange : Exchange := (Exchange.create (.root 0) (.root (.root 1)) [] .null).fail .cancelled

/-- A loop that is to count to three runs its neutral body once, and so does not react only to its children. -/
theorem not_reactsToChildren_pendingExchange :
    ¬ ReactsToChildren pendingExchange ∧ ((countFrom tick 3 0 pendingExchange).run 0).2 = 1 :=
  ⟨fun reacts => countFrom_tick_ne rfl 1 (reacts.counts _ tick 3 tick_neutral), rfl⟩

end MessageRouting.Pattern
