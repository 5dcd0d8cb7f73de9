import MessageRouting.Pattern.Multicast

/-!
# What a multicast makes of its exchange

Outputs that are functions of their own exchange, each announced before it works. One after the other, they work
up to the first branch that is left in error, if that stops the multicast, and else all. Side by side, all of them
work, and neither the order in which they finish nor anything else but the order of their declaration shows in
what is made of them.
-/

namespace MessageRouting.Pattern

variable {m : Type → Type} [Monad m]

/-- The exchange after so many forks were made from it. -/
def afterForks (forks : Nat) (x : Exchange) : Exchange := { x with made := x.made + forks }

/-- The branches of functions: what each leaves of a fork of the exchange. -/
def branchesOf (outputs : List (Exchange → Outcome)) (x : Exchange) : List Exchange :=
  outputs.mapIdx fun i output => (output (afterForks i x).fork).contained

/-- A function as an output that is announced with its place before it works. -/
def announced (announce : Nat → m Unit) (outputs : List (Exchange → Outcome)) : List (Behaviour m) :=
  outputs.mapIdx fun i output x => do
    announce i
    return output x

/-- A function as an output. -/
def working (outputs : List (Exchange → Outcome)) : List (Behaviour m) :=
  outputs.map fun output x => return output x

/-- The branches that come to run one after the other: up to the first that is left in error, or all. -/
def runningBranches (stopOnError : Bool) (branches : List Exchange) : List Exchange :=
  if stopOnError then branches.take (branches.findIdx Exchange.isError + 1) else branches

/-- The error that stops a multicast: that of the first branch that is left in error. -/
def stoppingError (stopOnError : Bool) (branches : List Exchange) : Option Raised :=
  if stopOnError then (branches.find? Exchange.isError).bind Exchange.error else none

/-- Branches folded from the left, beginning with nothing. -/
def folded (aggregator : Option (Aggregator m)) (branches : List Exchange) :
    m (Except Panic (Option Exchange)) :=
  match aggregator with
  | none => return .ok none
  | some aggregate =>
    (branches.foldlM (fun before branch => some <$> ExceptT.mk (aggregate before branch)) none :
      ExceptT Panic m (Option Exchange)).run

/-- What a multicast leaves of its exchange after so many forks, with the error that stopped it. -/
def leaves (x : Exchange) (forks : Nat) (failure : Option Raised) :
    Except Panic (Option Exchange) → Exchange
  | .ok none => { x with made := x.made + forks, error := failure.or x.error }
  | .ok (some result) =>
    { x with
      made := x.made + forks
      message := { x.message with headers := result.headers, body := result.body }
      properties := result.properties
      error := failure.or result.error }
  | .error panic =>
    { x with
      made := x.made + forks + 1
      error := some (.mk (x.identity.made (x.made + forks)) (.fault (.panicked panic.message))) }

/-! ## Branches -/

/-- The first branch works on a fork of the exchange, the others on forks made after it. -/
theorem branchesOf_cons (output : Exchange → Outcome) (rest : List (Exchange → Outcome)) (x : Exchange) :
    branchesOf (output :: rest) x = (output x.fork).contained :: branchesOf rest x.afterMaking := by
  simp only [branchesOf, List.mapIdx_cons, afterForks, Exchange.afterMaking, Nat.add_zero, Nat.add_assoc,
    Nat.add_comm 1]

/-- There is a branch for each output. -/
@[simp] theorem length_branchesOf (outputs : List (Exchange → Outcome)) (x : Exchange) :
    (branchesOf outputs x).length = outputs.length := by
  simp [branchesOf]

/-- The first output is announced with place zero, the others with the places after theirs. -/
theorem announced_cons (announce : Nat → m Unit) (output : Exchange → Outcome)
    (rest : List (Exchange → Outcome)) :
    announced announce (output :: rest) =
      (fun x => do announce 0; return output x) :: announced (fun i => announce (i + 1)) rest := by
  simp only [announced, List.mapIdx_cons]

/-- Making one more fork before others. -/
@[simp] theorem afterForks_afterMaking (forks : Nat) (x : Exchange) :
    afterForks forks x.afterMaking = afterForks (forks + 1) x := by
  simp only [afterForks, Exchange.afterMaking, Nat.add_assoc, Nat.add_comm 1]

/-! ## One after the other -/

variable [LawfulMonad m]

/-- An announced output is announced and leaves its branch. -/
theorem invoke_announced (announcement : m Unit) (output : Exchange → Outcome) (x : Exchange) :
    invoke (fun x => do announcement; return output x) x = do
      announcement
      return (output x).contained := by
  simp [invoke]

/-- Announcing nothing does nothing. -/
theorem forM_nothing (places : List Nat) : places.forM (fun _ => (pure () : m Unit)) = pure () := by
  induction places with
  | nil => rfl
  | cons place rest later => simpa using later

/-- Outputs that work unannounced announce nothing. -/
theorem working_eq_announced (outputs : List (Exchange → Outcome)) :
    (working outputs : List (Behaviour m)) = announced (fun _ => pure ()) outputs := by
  simp only [working, announced, pure_bind]
  apply List.ext_getElem?
  simp

/-- The places up to one more begin with zero. -/
theorem forM_range_succ (count : Nat) (announce : Nat → m Unit) :
    (List.range (count + 1)).forM announce =
      announce 0 >>= fun _ => (List.range count).forM fun i => announce (i + 1) := by
  simp [List.range_succ_eq_map]

/-- A branch left in error is the last that runs, if errors stop the multicast; others go on with the rest. -/
theorem runningBranches_cons (stopOnError : Bool) (branch : Exchange) (rest : List Exchange) :
    runningBranches stopOnError (branch :: rest) =
      if stopOnError && branch.isError then [branch] else branch :: runningBranches stopOnError rest := by
  cases stopOnError <;> cases failed : branch.isError <;> simp [runningBranches, List.findIdx_cons, failed]

/-- A branch left in error stops the multicast, if errors do, before any after it. -/
theorem stoppingError_cons (stopOnError : Bool) (branch : Exchange) (rest : List Exchange) :
    stoppingError stopOnError (branch :: rest) =
      if stopOnError && branch.isError then branch.error else stoppingError stopOnError rest := by
  cases stopOnError <;> cases failed : branch.isError <;> simp [stoppingError, failed]

/-- Outputs that run one after the other are announced up to the last that runs, and leave their branches. -/
theorem runInTurn_announced (stopOnError : Bool) (announce : Nat → m Unit)
    (outputs : List (Exchange → Outcome)) (x : Exchange) :
    runInTurn stopOnError (announced announce outputs) x = do
      let running := runningBranches stopOnError (branchesOf outputs x)
      (List.range running.length).forM announce
      return ⟨afterForks running.length x, running, stoppingError stopOnError (branchesOf outputs x)⟩ := by
  induction outputs generalizing announce x with
  | nil =>
    cases stopOnError <;>
      simp [announced, branchesOf, runInTurn, runningBranches, stoppingError, afterForks]
  | cons output rest later =>
    rw [announced_cons, branchesOf_cons, runningBranches_cons, stoppingError_cons, runInTurn]
    simp only [invoke_announced, bind_assoc, pure_bind]
    by_cases stops : (stopOnError && (output x.fork).contained.isError) = true
    · simp [stops, afterForks, Exchange.afterMaking]
    · simp only [stops, Bool.false_eq_true, ↓reduceIte, later, bind_assoc, pure_bind, List.length_cons,
        forM_range_succ, afterForks_afterMaking]

/-! ## Side by side -/

/-- The forks for announced outputs announce them and leave their branches. -/
theorem forksFor_announced (announce : Nat → m Unit) (outputs : List (Exchange → Outcome)) (x : Exchange) :
    forksFor (announced announce outputs) x =
      ((branchesOf outputs x).mapIdx fun i branch => do announce i; return branch,
        afterForks outputs.length x) := by
  induction outputs generalizing announce x with
  | nil => rfl
  | cons output rest later =>
    rw [announced_cons, branchesOf_cons, forksFor, later]
    simp only [invoke_announced, List.mapIdx_cons, afterForks_afterMaking, List.length_cons]

/-- Branches at places that exist run in the order of the places. -/
theorem runAt_announced (announce : Nat → m Unit) (branches : List Exchange) (value : Nat → Exchange)
    (order : List Nat) (found : ∀ place ∈ order, branches[place]? = some (value place)) :
    runAt (branches.mapIdx fun i branch => do announce i; return branch) order = do
      order.forM announce
      return order.map fun place => (place, value place) := by
  induction order with
  | nil => simp [runAt]
  | cons place rest later =>
    have here : (branches.mapIdx fun i branch => do announce i; return branch)[place]? =
        some (do announce place; return value place) := by
      simp [List.getElem?_mapIdx, found place List.mem_cons_self]
    have later := later fun i member => found i (List.mem_cons_of_mem place member)
    simp only [runAt, here, later, bind_assoc, pure_bind, List.forM_eq_forM, List.forM_cons, List.map_cons]

/-- What was gathered for a place is found again. -/
theorem lookup_map {α : Type} (value : Nat → α) {order : List Nat} {place : Nat} (member : place ∈ order) :
    (order.map fun place => (place, value place)).lookup place = some (value place) := by
  induction order with
  | nil => simp at member
  | cons first rest later =>
    by_cases same : place = first
    · simp [same]
    · have member := (List.mem_cons.mp member).resolve_left same
      have different : (place == first) = false := by simpa using same
      simp [List.lookup_cons, different, later member]

/-- What was gathered for places is found again in any order. -/
theorem filterMap_lookup {α : Type} (value : Nat → α) (order places : List Nat)
    (gathered : ∀ place ∈ places, place ∈ order) :
    places.filterMap (List.lookup · (order.map fun place => (place, value place))) = places.map value := by
  induction places with
  | nil => rfl
  | cons place rest later =>
    have here := lookup_map value (gathered place List.mem_cons_self)
    have later := later fun i member => gathered i (List.mem_cons_of_mem place member)
    simp only [List.filterMap_cons, here, later, List.map_cons]

/-- The values of a list, found by their places. -/
theorem map_getD_range {α : Type} (values : List α) (absent : α) :
    ((List.range values.length).map fun place => values.getD place absent) = values := by
  apply List.ext_getElem
  · simp
  · intro place inside _
    have inside : place < values.length := by simpa using inside
    simp [List.getElem?_eq_getElem inside]

/-- Outputs that run side by side are announced in the order in which they finish, and leave their branches in
the order of their declaration. -/
theorem runSideBySide_announced (announce : Nat → m Unit) (outputs : List (Exchange → Outcome)) (x : Exchange)
    {order : List Nat} (all : order.Perm (List.range outputs.length)) :
    runSideBySide order (announced announce outputs) x = do
      order.forM announce
      return ⟨afterForks outputs.length x, branchesOf outputs x, none⟩ := by
  let value (place : Nat) : Exchange := (branchesOf outputs x).getD place x
  have found : ∀ place ∈ order, (branchesOf outputs x)[place]? = some (value place) := by
    intro place member
    have inside : place < (branchesOf outputs x).length := by
      simpa using all.mem_iff.mp member
    simp [value, List.getElem?_eq_getElem inside]
  have gathered :
      (List.range outputs.length).filterMap
        (List.lookup · (order.map fun place => (place, value place))) = branchesOf outputs x := by
    rw [filterMap_lookup value order _ fun place member => all.mem_iff.mpr member,
      ← length_branchesOf outputs x]
    exact map_getD_range _ x
  have length : (announced announce outputs).length = outputs.length := by simp [announced]
  simp only [runSideBySide, forksFor_announced, runAt_announced announce _ value order found, length, bind_assoc,
    pure_bind, gathered]

/-! ## What becomes of the exchange -/

/-- Branches are folded from the left. -/
theorem foldBranches_eq_foldlM (aggregate : Aggregator m) (before : Option Exchange) (branches : List Exchange) :
    foldBranches aggregate before branches =
      (branches.foldlM (fun before branch => some <$> ExceptT.mk (aggregate before branch)) before :
        ExceptT Panic m (Option Exchange)).run := by
  induction branches generalizing before with
  | nil => rfl
  | cons branch rest later =>
    simp only [foldBranches, List.foldlM_cons, ExceptT.run_bind, ExceptT.run_mk, bind_map_left]
    congr 1
    funext result
    cases result with
    | error panic => rfl
    | ok next => exact later (some next)

/-- Branches are gathered by what their fold leaves of the exchange. -/
theorem gather_eq_leaves (aggregator : Option (Aggregator m)) (x : Exchange) (forks : Nat)
    (branches : List Exchange) (failure : Option Raised) :
    gather aggregator ⟨afterForks forks x, branches, failure⟩ = do
      let result ← folded aggregator branches
      return leaves x forks failure result := by
  cases aggregator with
  | none => cases failure <;> simp [gather, folded, leaves, withFailure, afterForks, Exchange.setError]
  | some aggregate =>
    simp only [gather, folded, foldBranches_eq_foldlM]
    congr 1
    funext result
    cases result with
    | error panic => rfl
    | ok taken => cases taken <;> cases failure <;> rfl

/-- A multicast leaves of its exchange what the branches that ran make of it, folded in the order of their outputs;
outputs side by side leave the same in every order of finishing as one after the other, if no error stops these. -/
theorem multicast_eq_leaves (announce : Nat → m Unit) (aggregator : Option (Aggregator m))
    (outputs : List (Exchange → Outcome)) (x : Exchange) (order : List Nat)
    (all : order.Perm (List.range outputs.length)) :
    multicast (.sideBySide order) aggregator (working outputs) x =
        multicast (.inTurn false) aggregator (working outputs) x ∧
      (multicast (.sideBySide order) aggregator (announced announce outputs) x = do
        let branches := branchesOf outputs x
        order.forM announce
        let result ← folded aggregator branches
        return .returned (leaves x branches.length none result)) ∧
      ∀ stopOnError,
        multicast (.inTurn stopOnError) aggregator (announced announce outputs) x = do
          let branches := branchesOf outputs x
          let running := runningBranches stopOnError branches
          (List.range running.length).forM announce
          let result ← folded aggregator running
          return .returned (leaves x running.length (stoppingError stopOnError branches) result) := by
  have sideBySide (announce : Nat → m Unit) :
      (multicast (.sideBySide order) aggregator (announced announce outputs) x = do
        let branches := branchesOf outputs x
        order.forM announce
        let result ← folded aggregator branches
        return .returned (leaves x branches.length none result)) := by
    simp only [multicast, runSideBySide_announced announce outputs x all, bind_assoc, pure_bind, gather_eq_leaves,
      length_branchesOf]
  have inTurn (announce : Nat → m Unit) (stopOnError : Bool) :
      (multicast (.inTurn stopOnError) aggregator (announced announce outputs) x = do
        let branches := branchesOf outputs x
        let running := runningBranches stopOnError branches
        (List.range running.length).forM announce
        let result ← folded aggregator running
        return .returned (leaves x running.length (stoppingError stopOnError branches) result)) := by
    simp only [multicast, runInTurn_announced, bind_assoc, pure_bind, gather_eq_leaves]
  refine ⟨?_, sideBySide announce, inTurn announce⟩
  rw [working_eq_announced, sideBySide, inTurn]
  simp [runningBranches, stoppingError, forM_nothing]

/-- An output that gives a body, one that panics and one that fails. -/
def threeOutputs : List (Exchange → Outcome) :=
  [fun x => .returned (x.setBody (.string "done")), fun x => .panicked x (.text "no"),
    fun x => .returned (x.fail .cancelled)]

/-- An exchange for the three outputs. -/
def forThreeOutputs : Exchange := .create (.root 0) (.root (.root 1)) [] .null

/-- Three outputs finish in another order than that of their declaration, and stop at the second in turn. -/
theorem multicast_eq_leaves_threeOutputs :
    [2, 0, 1].Perm (List.range threeOutputs.length) ∧
      (multicast (.sideBySide [2, 0, 1]) none (announced (fun i => modify (i :: ·)) threeOutputs)
          forThreeOutputs : StateM (List Nat) Outcome).run [] =
        (.returned (afterForks 3 forThreeOutputs), [1, 0, 2]) ∧
      (multicast (.inTurn true) none (announced (fun i => modify (i :: ·)) threeOutputs)
          forThreeOutputs : StateM (List Nat) Outcome).run [] =
        (.returned (withFailure ((afterForks 1 forThreeOutputs).fork.fail (.panicked "no")).error
          (afterForks 2 forThreeOutputs)), [1, 0]) := by
  obtain ⟨-, sideBySide, inTurn⟩ :=
    multicast_eq_leaves (m := StateM (List Nat)) (fun i => modify (i :: ·)) none threeOutputs forThreeOutputs
      [2, 0, 1] (by decide)
  refine ⟨by decide, ?_, ?_⟩
  · rw [sideBySide]
    rfl
  · rw [inTurn true]
    rfl

end MessageRouting.Pattern
