import MessageRouting.Number.IntegerText
import MessageRouting.Pattern.Outcome
import MessageRouting.Text.Property

/-!
# Loops

The body of a loop works on a copy of the exchange, which the exchange then takes over. A property holds the
index of the iteration. An error ends the loop.
-/

namespace MessageRouting.Pattern

variable {m : Type → Type} [Monad m]

/-- The property that holds the index of the iteration. -/
def indexProperty : String := "CAMEL_LOOP_INDEX"

/-- What a loop does when its condition fails. -/
inductive ConditionPolicy where
  /-- It forgets the error and ends. -/
  | clearAndStop
  /-- It ends with the error. -/
  | propagate
  deriving Repr, DecidableEq

/-- Notes the index of an iteration. -/
def atIndex (index : Nat) (x : Exchange) : Exchange := x.setProperty indexProperty (.ofNat index)

/-- One iteration. -/
def iterate (body : Behaviour m) (index : Nat) (x : Exchange) : m Exchange := do
  let noted := atIndex index x
  let branch ← invoke body noted.copy
  return noted.afterMaking.absorb branch

/-- The index that was noted. -/
theorem property?_atIndex (index : Nat) (x : Exchange) :
    (atIndex index x).property? indexProperty = some (.ofNat index) :=
  Table.find?_insert_self ..

/-- Of two indices noted one after the other the last one stays. -/
theorem atIndex_atIndex (index other : Nat) (x : Exchange) : atIndex index (atIndex other x) = atIndex index x :=
  congrArg (fun properties => { x with properties }) (Table.insert_insert ..)

/-- Noting the index beforehand changes nothing in an iteration. -/
theorem iterate_atIndex (body : Behaviour m) (index : Nat) (x : Exchange) :
    iterate body index (atIndex index x) = iterate body index x := by
  rw [iterate, atIndex_atIndex, ← iterate]

/-- Iterations from an index on, so many at most. -/
def countFrom (body : Behaviour m) : Nat → Nat → Behaviour m
  | 0, _, x => return .returned x
  | n + 1, index, x => do
    let x ← iterate body index x
    if x.isError then return .returned x else countFrom body n (index + 1) x

/-- Iterations from an index on while a condition holds; when the patience is used up the given behaviour
stands for the rest. -/
def whileFrom (stuck : Behaviour m) (condition : Query m Bool) (policy : ConditionPolicy)
    (body : Behaviour m) : Nat → Nat → Behaviour m
  | 0, _, x => stuck x
  | patience + 1, index, x => do
    let x := atIndex index x
    match ← condition x with
    | .returned true =>
      let x ← iterate body index x
      if x.isError then return .returned x
      else whileFrom stuck condition policy body patience (index + 1) x
    | .returned false => return .returned x
    | .failed fault =>
      match policy with
      | .clearAndStop => return .returned x.clearError
      | .propagate => return .returned (x.fail fault)
    | .panicked panic => return .panicked x panic

/-- The number of iterations that a value asks for. -/
def timesOf (value : Value) : Except Fault Nat :=
  let refuse (message : String) : Except Fault Nat :=
    .error (.conversion value.kind.name "loop count" message)
  let natural (n : Int64) : Except Fault Nat :=
    if n < 0 then refuse "must not be negative" else .ok n.toInt.toNat
  match value with
  | .int n => natural n
  | .string text =>
    match Number.readInt64 (Text.trim text) with
    | .ok n => natural n
    | .error _ => refuse "not an integer"
  | .float x =>
    if Number.isWhole x then natural (Number.truncate x)
    else refuse "not an integer"
  | _ => refuse "not an integer"

/-- Runs a body as often as a query says. -/
def countLoop (count : Query m Value) (body : Behaviour m) : Behaviour m := fun x => do
  match (← count x).bind fun value => .ofExcept (timesOf value) with
  | .returned times => countFrom body times 0 x
  | .failed fault => return .returned (x.fail fault)
  | .panicked panic => return .panicked x panic

/-- Runs a body while a condition holds. -/
def whileLoop (stuck : Behaviour m) (patience : Nat) (condition : Query m Bool)
    (policy : ConditionPolicy) (body : Behaviour m) : Behaviour m :=
  whileFrom stuck condition policy body patience 0

end MessageRouting.Pattern
