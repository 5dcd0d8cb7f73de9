import MessageRouting.Expr.Syntax
import MessageRouting.Number.FloatText
import MessageRouting.Number.IntegerText
import MessageRouting.Text.LetterCase
import MessageRouting.Text.Search
import MessageRouting.Value.Printed
import MessageRouting.Value.Truth

/-!
# Operations on values

What the operators and functions of the expression language do with values, and why they refuse some.
Integers never wrap around: a result out of bounds is refused.
-/

namespace MessageRouting.Expr

/-- Why an expression has no value. -/
inductive EvalFault where
  /-- The negation of the least integer. -/
  | negationOverflow
  /-- A value that is no number is negated. -/
  | cannotNegate (kind : Kind)
  /-- The pattern of `matches` is no string. -/
  | patternKind (kind : Kind)
  /-- The pattern of `matches` is not well formed. -/
  | invalidPattern (source diagnostics : String)
  /-- A value has no members. -/
  | noMember (name : String) (kind : Kind)
  /-- A value has no items with such an index. -/
  | noItem (base index : Kind)
  /-- A value has no length. -/
  | noLength (kind : Kind)
  /-- A function on strings is given something else. -/
  | stringExpected (function : String) (kind : Kind)
  /-- An integer result is out of bounds. -/
  | integerOverflow (operation : String)
  /-- A sum of durations is out of bounds. -/
  | durationOverflow
  /-- A difference of durations is negative. -/
  | negativeDuration
  /-- A point in time is out of range. -/
  | timeOverflow (operation : String)
  /-- The later point in time is taken from the earlier one. -/
  | negativeTimeDifference
  /-- A divisor is zero. -/
  | divisionByZero
  /-- An operator does not work on these kinds. -/
  | unsupported (operator : String) (left right : Kind)
  /-- Values of these kinds, or a NaN, have no order. -/
  | incomparable (left right : Kind)
  /-- A value holds nothing that could be looked for. -/
  | noContainer (kind : Kind)
  /-- A value cannot be converted. -/
  | conversion (source target message : String)
  deriving Repr, DecidableEq

/-- The wording of a refusal. -/
def EvalFault.message : EvalFault → String
  | .negationOverflow => "integer overflow in negation"
  | .cannotNegate kind => s!"cannot negate a {kind.name} value"
  | .patternKind kind => s!"matches expects a string pattern, got {kind.name}"
  | .invalidPattern source diagnostics => s!"invalid regex '{source}': {diagnostics}"
  | .noMember name kind => s!"cannot access member '{name}' of a {kind.name} value"
  | .noItem base position => s!"cannot index a {base.name} value with a {position.name} value"
  | .noLength kind => s!"len() is not defined for {kind.name} values"
  | .stringExpected function kind => s!"{function}() expects a string, got {kind.name}"
  | .integerOverflow operation => s!"integer overflow in {operation}"
  | .durationOverflow => "duration overflow in addition"
  | .negativeDuration => "negative duration in subtraction"
  | .timeOverflow operation => s!"time overflow in {operation}"
  | .negativeTimeDifference => "negative duration in time subtraction"
  | .divisionByZero => "division by zero"
  | .unsupported operator left right =>
    s!"unsupported operand types for {operator}: {left.name} and {right.name}"
  | .incomparable left right => s!"cannot compare a {left.name} value with a {right.name} value"
  | .noContainer kind => s!"contains is not defined for {kind.name} values"
  | .conversion _ _ message => message

/-- The framework's fault for a refusal inside the expression with the given source. -/
def EvalFault.toFault (source : String) : EvalFault → Fault
  | .conversion kind target message => .conversion kind target message
  | fault => .expression s!"{fault.message} (in '{source}')"

/-- The meaning of a value as a condition. -/
def truthOf (value : Value) : Except EvalFault Bool :=
  match value.truth with
  | .ok b => .ok b
  | .error (.conversion source target message) => .error (.conversion source target message)
  | .error fault => .error (.conversion value.kind.name "bool" fault.message)

/-- An integer within the bounds of 64 bits. -/
def bounded? (n : Int) : Option Int64 :=
  if -9223372036854775808 ≤ n ∧ n ≤ 9223372036854775807 then some (Int64.ofInt n) else none

/-! ## Arithmetic -/

/-- An operator on numbers. -/
inductive Arithmetic where
  | add
  | sub
  | mul
  | div
  | rem
  deriving Repr, DecidableEq

/-- The name of an operator in messages. -/
def Arithmetic.name : Arithmetic → String
  | .add => "Add"
  | .sub => "Sub"
  | .mul => "Mul"
  | .div => "Div"
  | .rem => "Rem"

/-- The operator divides. -/
def Arithmetic.divides : Arithmetic → Bool
  | .div => true
  | .rem => true
  | _ => false

/-- An operator on two integers, the divisor not being zero: quotients go toward zero, remainders have
the sign of the dividend. The remainder of the least integer by -1 is refused with its quotient. -/
def Arithmetic.onInts (operator : Arithmetic) (l r : Int64) : Option Int64 :=
  match operator with
  | .add => bounded? (l.toInt + r.toInt)
  | .sub => bounded? (l.toInt - r.toInt)
  | .mul => bounded? (l.toInt * r.toInt)
  | .div => bounded? (l.toInt.tdiv r.toInt)
  | .rem => (bounded? (l.toInt.tdiv r.toInt)).bind fun _ => bounded? (l.toInt.tmod r.toInt)

/-- An operator on two floats, the divisor not being zero. -/
def Arithmetic.onFloats (operator : Arithmetic) (l r : Float) : Float :=
  match operator with
  | .add => l + r
  | .sub => l - r
  | .mul => l * r
  | .div => l / r
  | .rem => Number.remainder l r

/-- An operator on two numbers. -/
def arithmetic (operator : Arithmetic) (left right : Value) : Except EvalFault Value :=
  match left, right with
  | .int l, .int r =>
    if operator.divides && r == 0 then .error .divisionByZero
    else
      match operator.onInts l r with
      | some result => .ok (.int result)
      | none => .error (.integerOverflow operator.name)
  | left, right =>
    match left.float?, right.float? with
    | some l, some r =>
      if operator.divides && r == 0 then .error .divisionByZero
      else .ok (.float (operator.onFloats l r))
    | _, _ => .error (.unsupported operator.name left.kind right.kind)

/-- A point in time moved forward. -/
def laterTime (t : Time.Timestamp) (d : Time.Duration) : Except EvalFault Value :=
  match t.add? d with
  | some result => .ok (.time result)
  | none => .error (.timeOverflow "addition")

/-- The sum of two values: texts are joined to anything, lists to lists, durations go with durations and
points in time. -/
def add (left right : Value) : Except EvalFault Value :=
  match left, right with
  | .string l, r => .ok (.string (l ++ r.text))
  | l, .string r => .ok (.string (l.text ++ r))
  | .int l, .int r =>
    match bounded? (l.toInt + r.toInt) with
    | some result => .ok (.int result)
    | none => .error (.integerOverflow "addition")
  | .duration l, .duration r =>
    match l.add? r with
    | some result => .ok (.duration result)
    | none => .error .durationOverflow
  | .time t, .duration d => laterTime t d
  | .duration d, .time t => laterTime t d
  | .list l, .list r => .ok (.list (l ++ r))
  | l, r => arithmetic .add l r

/-- The difference of two values. -/
def subtract (left right : Value) : Except EvalFault Value :=
  match left, right with
  | .duration l, .duration r =>
    match l.sub? r with
    | some result => .ok (.duration result)
    | none => .error .negativeDuration
  | .time t, .duration d =>
    match t.sub? d with
    | some result => .ok (.time result)
    | none => .error (.timeOverflow "subtraction")
  | .time l, .time r =>
    match l.since? r with
    | some result => .ok (.duration result)
    | none => .error .negativeTimeDifference
  | l, r => arithmetic .sub l r

/-- The negation of a number. -/
def negate : Value → Except EvalFault Value
  | .int i =>
    match bounded? (-i.toInt) with
    | some result => .ok (.int result)
    | none => .error .negationOverflow
  | .float x => .ok (.float (-x))
  | other => .error (.cannotNegate other.kind)

/-! ## Order and search -/

/-- The order of two floats, unless one is a NaN. -/
def compareFloats (l r : Float) : Option Ordering :=
  if l < r then some .lt else if l == r then some .eq else if r < l then some .gt else none

/-- The order of two values, if they have one. -/
def compare? (left right : Value) : Option Ordering :=
  match left, right with
  | .int l, .int r => some (compare l.toInt r.toInt)
  | .string l, .string r => some (compareOfLessAndEq l r)
  | .time l, .time r => some (l.compare r)
  | .duration l, .duration r => some (compare l.nanos r.nanos)
  | .bool l, .bool r => some (compare l.toNat r.toNat)
  | l, r =>
    match l.float?, r.float? with
    | some l, some r => compareFloats l r
    | _, _ => none

/-- The order of two values meets a condition. -/
def ordered (meets : Ordering → Bool) (left right : Value) : Except EvalFault Value :=
  match compare? left right with
  | some ordering => .ok (.bool (meets ordering))
  | none => .error (.incomparable left.kind right.kind)

/-- A value holds another one: a text a piece, a list an item, a map a name, an error a piece of its full
message. -/
def contains (container item : Value) : Except EvalFault Bool :=
  match container with
  | .null => .ok false
  | .string s => .ok (!item.isNull && Text.contains s item.text)
  | .list items => .ok (items.any (· == item))
  | .map entries =>
    .ok (match item with
      | .string key => Table.has key entries
      | _ => false)
  | .error e => .ok (Text.contains e.fullMessage item.text)
  | other => .error (.noContainer other.kind)

/-- An operator between two values. -/
def BinaryOp.apply (operator : BinaryOp) (left right : Value) : Except EvalFault Value :=
  match operator with
  | .add => Expr.add left right
  | .sub => subtract left right
  | .mul => arithmetic .mul left right
  | .div => arithmetic .div left right
  | .rem => arithmetic .rem left right
  | .eq => .ok (.bool (left == right))
  | .notEq => .ok (.bool (!(left == right)))
  | .lt => ordered (· == .lt) left right
  | .le => ordered (· != .gt) left right
  | .gt => ordered (· == .gt) left right
  | .ge => ordered (· != .lt) left right
  | .contains => (Expr.contains left right).map .bool
  | .in => (Expr.contains right left).map .bool
  | .startsWith => .ok (.bool (!left.isNull && Text.startsWith left.text right.text))
  | .endsWith => .ok (.bool (!left.isNull && Text.endsWith left.text right.text))

/-- An operator before a value. -/
def UnaryOp.apply (operator : UnaryOp) (value : Value) : Except EvalFault Value :=
  match operator with
  | .not => (truthOf value).map fun b => .bool (!b)
  | .neg => negate value

/-! ## Functions -/

/-- The refusal of a value that cannot be read as a number. -/
def unreadable (value : Value) (target : String) : EvalFault :=
  .conversion value.kind.name target s!"'{value.text}' is not a valid {target}"

/-- A function on strings, which lets null pass. -/
def onString (function : Builtin) (f : String → String) (value : Value) : Except EvalFault Value :=
  match value with
  | .null => .ok .null
  | .string s => .ok (.string (f s))
  | other => .error (.stringExpected function.name other.kind)

/-- The number of characters, octets, items or entries. -/
def length : Value → Except EvalFault Value
  | .null => .ok (.int 0)
  | .string s => .ok (.ofNat s.length)
  | .bytes octets => .ok (.ofNat octets.size)
  | .list items => .ok (.ofNat items.length)
  | .map entries => .ok (.ofNat entries.length)
  | other => .error (.noLength other.kind)

/-- A value as an integer; decimals are cut off. -/
def toInt (value : Value) : Except EvalFault Value :=
  match value with
  | .null => .ok (.int 0)
  | .int i => .ok (.int i)
  | .bool b => .ok (.int (if b then 1 else 0))
  | .float x =>
    if Number.isFinite x then .ok (.int (Number.truncate x)) else .error (unreadable value "int")
  | .string s =>
    match Number.readInt64 (Text.trim s), Number.readFloat (Text.trim s) with
    | .ok i, _ => .ok (.int i)
    | .error _, .ok x => .ok (.int (Number.truncate x))
    | .error _, .error _ => .error (unreadable value "int")
  | other => .error (unreadable other "int")

/-- A value as a float. -/
def toFloat (value : Value) : Except EvalFault Value :=
  match value with
  | .null => .ok (.float 0)
  | .int i => .ok (.float (Number.ofInt64 i))
  | .float x => .ok (.float x)
  | .string s =>
    match Number.readFloat (Text.trim s) with
    | .ok x => .ok (.float x)
    | .error _ => .error (unreadable value "float")
  | other => .error (unreadable other "float")

/-- A function applied to a value. -/
def Builtin.apply (function : Builtin) (value : Value) : Except EvalFault Value :=
  match function with
  | .len => Expr.length value
  | .upper => onString .upper Text.toUpper value
  | .lower => onString .lower Text.toLower value
  | .trim => onString .trim Text.trim value
  | .string => .ok (.string (if value.isNull then "" else value.text))
  | .int => toInt value
  | .float => toFloat value
  | .bool => (truthOf value).map .bool

/-! ## Parts of values -/

/-- A member of a value by name. Null has every member, and it is null. -/
def memberOf (base : Value) (name : String) : Except EvalFault Value :=
  match base with
  | .null => .ok .null
  | .map entries => .ok ((Table.find? name entries).getD .null)
  | .error e => if name = "message" then .ok (.string e.message) else .error (.noMember name .error)
  | other => .error (.noMember name other.kind)

/-- An item of a value by index; negative indices count from the end. -/
def itemOf (base key : Value) : Except EvalFault Value :=
  match base, key with
  | .null, _ => .ok .null
  | .map entries, .string name => .ok ((Table.find? name entries).getD .null)
  | .list items, .int i =>
    let place := if i.toInt < 0 then items.length + i.toInt else i.toInt
    .ok (if place < 0 then .null else (items[place.toNat]?).getD .null)
  | base, key => .error (.noItem base.kind key.kind)

end MessageRouting.Expr
