import MessageRouting.Value.Basic

/-!
# Truth of values

Which values may stand where a condition is asked for, and what they mean there.
-/

namespace MessageRouting

/-- The spellings of true. -/
def trueTexts : List String := ["1", "t", "T", "true", "TRUE", "True"]

/-- The spellings of false. -/
def falseTexts : List String := ["0", "f", "F", "false", "FALSE", "False"]

/-- The meaning of a value as a condition. -/
def Value.truth : Value → Except Fault Bool
  | .null => .ok false
  | .bool b => .ok b
  | .int i => .ok (i != 0)
  | .float x => .ok (x != 0)
  | .string text =>
    if trueTexts.contains text then .ok true
    else if falseTexts.contains text then .ok false
    else .error (.conversion "string" "bool" s!"'{text}' is not a boolean")
  | other => .error (.conversion other.kind.name "bool" "value has no boolean interpretation")

end MessageRouting
