/-!
# Reading bounded integers

Decimal text is read from the left, and the first character that spoils the reading names the fault: a
character that is no digit, or the digit that carries the value out of its bounds.
-/

namespace MessageRouting.Number

/-- Why a text is no integer within its bounds. -/
inductive IntegerFault where
  /-- The text is empty. -/
  | empty
  /-- A character is no decimal digit, or a sign stands alone. -/
  | invalidDigit
  /-- The value is above the greatest one. -/
  | tooLarge
  /-- The value is below the least one. -/
  | tooSmall
  deriving Repr, DecidableEq

/-- The wording of a fault. -/
def IntegerFault.message : IntegerFault → String
  | .empty => "cannot parse integer from empty string"
  | .invalidDigit => "invalid digit found in string"
  | .tooLarge => "number too large to fit in target type"
  | .tooSmall => "number too small to fit in target type"

/-- The bounds of an integer type, both of them inside. -/
structure Bounds where
  /-- The least value. -/
  least : Int
  /-- The greatest value. -/
  greatest : Int
  deriving Repr, DecidableEq

/-- Signed 64-bit integers. -/
def Bounds.signed64 : Bounds := ⟨-9223372036854775808, 9223372036854775807⟩

/-- Unsigned 64-bit integers. -/
def Bounds.unsigned64 : Bounds := ⟨0, 18446744073709551615⟩

/-- The value of an ASCII decimal digit. -/
def digit? (c : Char) : Option Nat :=
  if '0' ≤ c ∧ c ≤ '9' then some (c.toNat - '0'.toNat) else none

/-- Reads digits onto a value that is so far within bounds; `sign` is 1 or -1. -/
def readDigits (bounds : Bounds) (sign : Int) : Int → List Char → Except IntegerFault Int
  | value, [] => .ok value
  | value, c :: rest =>
    match digit? c with
    | none => .error .invalidDigit
    | some d =>
      let next := value * 10 + sign * d
      if next > bounds.greatest then .error .tooLarge
      else if next < bounds.least then .error .tooSmall
      else readDigits bounds sign next rest

/-- Reads an integer with an optional sign; a minus sign needs bounds that reach below zero. -/
def readInteger (bounds : Bounds) : List Char → Except IntegerFault Int
  | [] => .error .empty
  | ['+'] => .error .invalidDigit
  | ['-'] => .error .invalidDigit
  | '+' :: rest => readDigits bounds 1 0 rest
  | '-' :: rest =>
    if bounds.least < 0 then readDigits bounds (-1) 0 rest else .error .invalidDigit
  | text => readDigits bounds 1 0 text

/-- Reads a signed 64-bit integer. -/
def readInt64 (text : String) : Except IntegerFault Int64 :=
  (readInteger .signed64 text.toList).map Int64.ofInt

/-- Reads an unsigned 64-bit integer. -/
def readUInt64 (text : String) : Except IntegerFault Nat :=
  (readInteger .unsigned64 text.toList).map Int.toNat

end MessageRouting.Number
