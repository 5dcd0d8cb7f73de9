import MessageRouting.Number.IntegerText

/-!
# Reading the parts of a date and time

The readers take a part from the front of a text and return what follows it. They tell a text that ends
too early from one that goes on wrongly.
-/

namespace MessageRouting.Time

/-- Why a text is no point in time. -/
inductive TimeFault where
  /-- A part is outside its bounds. -/
  | outOfRange
  /-- Two parts contradict each other. -/
  | impossible
  /-- Parts are missing. -/
  | notEnough
  /-- A character does not belong where it stands. -/
  | invalid
  /-- The text ends too early. -/
  | tooShort
  /-- The text goes on after its end. -/
  | tooLong
  /-- The pattern itself is wrong. -/
  | badPattern
  deriving Repr, DecidableEq

/-- The wording of a fault. -/
def TimeFault.message : TimeFault → String
  | .outOfRange => "input is out of range"
  | .impossible => "no possible date and time matching input"
  | .notEnough => "input is not enough for unique date and time"
  | .invalid => "input contains invalid characters"
  | .tooShort => "premature end of input"
  | .tooLong => "trailing input"
  | .badPattern => "bad or unsupported format string"

/-- The length of a text in octets. -/
def octetLength (text : List Char) : Nat := text.foldl (fun length c => length + c.utf8Size) 0

/-- Takes up to `most` digits onto a value, which must stay below 2^63. -/
def takeDigits : Nat → Nat → List Char → Except TimeFault (Nat × Nat × List Char)
  | 0, value, rest => .ok (value, 0, rest)
  | _ + 1, value, [] => .ok (value, 0, [])
  | most + 1, value, c :: rest =>
    match Number.digit? c with
    | none => .ok (value, 0, c :: rest)
    | some d =>
      let next := value * 10 + d
      if next < 9223372036854775808 then
        (takeDigits most next rest).map fun (whole, count, tail) => (whole, count + 1, tail)
      else .error .outOfRange

/-- Reads a number of at least `least` and at most `most` digits. -/
def readNumber (least most : Nat) (text : List Char) : Except TimeFault (Nat × List Char) := do
  if octetLength text < least then throw .tooShort
  let (value, count, rest) ← takeDigits most 0 text
  if count < least then throw .invalid
  pure (value, rest)

/-- Reads one given character. -/
def readChar (expected : Char) : List Char → Except TimeFault (List Char)
  | [] => .error .tooShort
  | c :: rest => if c == expected then .ok rest else .error .invalid

/-- Reads a decimal fraction of a second as nanoseconds; digits beyond the ninth are passed over. -/
def readFraction (text : List Char) : Except TimeFault (Nat × List Char) := do
  if text.isEmpty then throw .tooShort
  let (value, count, rest) ← takeDigits 9 0 text
  if count == 0 then throw .invalid
  pure (value * Nat.pow 10 (9 - count), rest.dropWhile (Number.digit? · |>.isSome))

/-- How the offset from universal time may be written. -/
structure OffsetStyle where
  /-- A colon between hours and minutes is required; otherwise colons and blanks are passed over. -/
  strictColon : Bool
  /-- The letter `Z` stands for no offset. -/
  allowZulu : Bool
  /-- The minutes may be missing. -/
  optionalMinutes : Bool

/-- Reads an offset from universal time in seconds. -/
def readOffset (style : OffsetStyle) (isBlank : Char → Bool) (text : List Char) :
    Except TimeFault (Int × List Char) := do
  let zulu := style.allowZulu && (text.head?.any fun c => c == 'Z' || c == 'z')
  if zulu then return (0, text.drop 1)
  let (sign, text) ← match text with
    | [] => throw .tooShort
    | '+' :: rest => pure ((1 : Int), rest)
    | '-' :: rest => pure (-1, rest)
    | '−' :: rest => pure (-1, rest)
    | _ => throw .invalid
  if octetLength text < 2 then throw .tooShort
  let (hours, text) ← match text with
    | a :: b :: rest =>
      match Number.digit? a, Number.digit? b with
      | some a, some b => pure (a * 10 + b, rest)
      | _, _ => throw .invalid
    | _ => throw .invalid
  let text ← if style.strictColon then readChar ':' text
    else pure (text.dropWhile fun c => c == ':' || isBlank c)
  if octetLength text < 2 then
    if style.optionalMinutes && text.isEmpty then pure (sign * (hours * 3600 : Nat), [])
    else throw .tooShort
  else
    match text with
    | a :: b :: rest =>
      match Number.digit? a, Number.digit? b with
      | some a, some b =>
        if a < 6 then pure (sign * (hours * 3600 + (a * 10 + b) * 60 : Nat), rest)
        else throw .outOfRange
      | _, _ => throw .invalid
    | _ => throw .invalid

end MessageRouting.Time
