import MessageRouting.Text.Property
import MessageRouting.Time.Reading
import MessageRouting.Time.Timestamp

/-!
# Times in RFC 3339 form

The written form has as many decimals of the second as needed, in threes. The read form also takes a
blank or a small letter between date and time, any number of decimals and any offset below a day.
-/

namespace MessageRouting.Time

/-- A number with zeros in front up to a width. -/
def zeroPadded (width value : Nat) : String :=
  let digits := Nat.toDigits 10 value
  String.ofList (List.replicate (width - digits.length) '0' ++ digits)

/-- A year of four digits, or a sign and at least four digits outside 0 to 9999. -/
def yearText (year : Int) : String :=
  if 0 ≤ year ∧ year ≤ 9999 then zeroPadded 4 year.natAbs
  else (if year < 0 then "-" else "+") ++ zeroPadded 4 year.natAbs

/-- The decimals of a second: none, three, six or nine. -/
def fractionText (nanos : Nat) : String :=
  if nanos == 0 then ""
  else if nanos % 1000000 == 0 then "." ++ zeroPadded 3 (nanos / 1000000)
  else if nanos % 1000 == 0 then "." ++ zeroPadded 6 (nanos / 1000)
  else "." ++ zeroPadded 9 nanos

/-- Date and time without an offset. -/
def Timestamp.localText (t : Timestamp) : String :=
  let d := t.date
  s!"{yearText d.year}-{zeroPadded 2 d.month}-{zeroPadded 2 d.day}T" ++
    s!"{zeroPadded 2 t.hour}:{zeroPadded 2 t.minute}:{zeroPadded 2 t.second}{fractionText t.fraction}"

/-- The text of a point in time, in universal time with its offset in digits. -/
def Timestamp.text (t : Timestamp) : String := t.localText ++ "+00:00"

/-- The text of a point in time in a structured description. -/
def Timestamp.described (t : Timestamp) : String := t.localText ++ "Z"

/-- The value of a digit at a place of a text. -/
def digitAt (text : List Char) (place : Nat) : Except TimeFault Nat :=
  match (text[place]?).bind Number.digit? with
  | some d => .ok d
  | none => .error .invalid

/-- The value of two digits at a place of a text. -/
def pairAt (text : List Char) (place : Nat) : Except TimeFault Nat := do
  pure ((← digitAt text place) * 10 + (← digitAt text (place + 1)))

/-- One of the given characters stands at a place of a text. -/
def charAt (text : List Char) (place : Nat) (expected : List Char) : Except TimeFault Unit :=
  if (text[place]?).any expected.contains then .ok () else .error .invalid

/-- The number of characters of a date and time up to the second. -/
def secondsLength : Nat := 19

/-- The greatest offset, in seconds. -/
def greatestOffset : Int := (23 * 60 + 59) * 60

/-- Reads a point in time. -/
def Timestamp.read (text : String) : Except TimeFault Timestamp := do
  let text := text.toList
  if octetLength text < secondsLength then throw .tooShort
  let year := (← pairAt text 0) * 100 + (← pairAt text 2)
  charAt text 4 ['-']
  let month ← pairAt text 5
  charAt text 7 ['-']
  let date : Date := ⟨year, month, ← pairAt text 8⟩
  if !date.isValid then throw .outOfRange
  charAt text 10 ['T', 't', ' ']
  let hour ← pairAt text 11
  charAt text 13 [':']
  let minute ← pairAt text 14
  charAt text 16 [':']
  let given ← pairAt text 17
  let (second, leap) := if given == 60 then (59, 1000000000) else (given, 0)
  let (fraction, rest) ← match text.drop secondsLength with
    | '.' :: rest => readFraction rest
    | rest => pure (0, rest)
  if 23 < hour || 59 < minute || 59 < second then throw .outOfRange
  let (offset, rest) ← readOffset ⟨true, true, false⟩ Text.isBlank rest
  if !rest.isEmpty then throw .tooLong
  if offset < -greatestOffset || greatestOffset < offset then throw .outOfRange
  let seconds := date.number * secondsPerDay + (hour * 3600 + minute * 60 + second : Nat) - offset
  match Timestamp.ofParts? seconds (leap + fraction) with
  | some t => pure t
  | none => throw .outOfRange

end MessageRouting.Time
