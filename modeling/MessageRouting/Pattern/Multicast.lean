import MessageRouting.Pattern.Outcome

/-!
# Multicasts

Every output works on a fork of the exchange, one after the other or side by side. The branches are folded in
the order in which the outputs were declared, whatever the order in which they finished.
-/

namespace MessageRouting.Pattern

variable {m : Type → Type} [Monad m]

/-- Takes a branch into what was made of the branches before it; it may panic. -/
abbrev Aggregator (m : Type → Type) : Type := Option Exchange → Exchange → m (Except Panic Exchange)

/-- The branches of a multicast. -/
structure Branches where
  /-- The exchange after the forks were made from it. -/
  source : Exchange
  /-- The branches that ran, in the order of their outputs. -/
  ended : List Exchange
  /-- The error that stopped the multicast. -/
  failure : Option Raised

/-- Runs outputs one after the other. -/
def runInTurn (stopOnError : Bool) : List (Behaviour m) → Exchange → m Branches
  | [], x => return ⟨x, [], none⟩
  | output :: rest, x => do
    let branch ← invoke output x.fork
    let source := x.afterMaking
    if stopOnError && branch.isError then return ⟨source, [branch], branch.error⟩
    else
      let more ← runInTurn stopOnError rest source
      return { more with ended := branch :: more.ended }

/-- The forks for outputs, and the exchange after they were made from it. -/
def forksFor : List (Behaviour m) → Exchange → List (m Exchange) × Exchange
  | [], x => ([], x)
  | output :: rest, x =>
    let (forks, source) := forksFor rest x.afterMaking
    (invoke output x.fork :: forks, source)

/-- Runs the branches at the given places, in that order. -/
def runAt (branches : List (m Exchange)) : List Nat → m (List (Nat × Exchange))
  | [] => return []
  | place :: rest =>
    match branches[place]? with
    | none => runAt branches rest
    | some branch => do
      let ended ← branch
      return (place, ended) :: (← runAt branches rest)

/-- Runs outputs side by side; the order says which branch finishes after which. -/
def runSideBySide (order : List Nat) (outputs : List (Behaviour m)) (x : Exchange) : m Branches := do
  let (branches, source) := forksFor outputs x
  let ended ← runAt branches order
  return ⟨source, (List.range outputs.length).filterMap (List.lookup · ended), none⟩

/-- Folds branches. -/
def foldBranches (aggregate : Aggregator m) :
    Option Exchange → List Exchange → m (Except Panic (Option Exchange))
  | folded, [] => return .ok folded
  | folded, branch :: rest => do
    match ← aggregate folded branch with
    | .ok next => foldBranches aggregate (some next) rest
    | .error panic => return .error panic

/-- The exchange with the error that stopped the multicast. -/
def withFailure (failure : Option Raised) (x : Exchange) : Exchange :=
  match failure with
  | some error => x.setError error
  | none => x

/-- Takes the branches into the exchange. -/
def gather (aggregator : Option (Aggregator m)) (branches : Branches) : m Exchange :=
  match aggregator with
  | none => return withFailure branches.failure branches.source
  | some aggregate => do
    match ← foldBranches aggregate none branches.ended with
    | .ok (some folded) => return withFailure branches.failure (branches.source.absorb folded)
    | .ok none => return withFailure branches.failure branches.source
    | .error panic => return branches.source.fail (.panicked panic.message)

/-- How the outputs of a multicast run. -/
inductive Mode where
  /-- One after the other. -/
  | inTurn (stopOnError : Bool)
  /-- Side by side, finishing in the given order. -/
  | sideBySide (order : List Nat)

/-- Runs all outputs on forks of the exchange. -/
def multicast (mode : Mode) (aggregator : Option (Aggregator m)) (outputs : List (Behaviour m)) :
    Behaviour m := fun x => do
  let branches ←
    match mode with
    | .inTurn stopOnError => runInTurn stopOnError outputs x
    | .sideBySide order => runSideBySide order outputs x
  return .returned (← gather aggregator branches)

end MessageRouting.Pattern
