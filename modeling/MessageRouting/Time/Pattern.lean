import MessageRouting.Time.Fields
import MessageRouting.Time.Rfc3339

/-!
# Patterns of dates and times

A pattern is a text with percent directives. It is parsed into items once; one function writes a point in
time by them and another reads one. A directive that is unknown makes the pattern unusable: writing has no
answer, reading fails when it arrives there.
-/

namespace MessageRouting.Time

/-- What fills a number up to its width. -/
inductive Padding where
  | none
  | zero
  | space
  deriving Repr, DecidableEq

/-- A number of a date or time. -/
inductive Quantity where
  | year
  | century
  | yearOfCentury
  | weekYear
  | weekYearOfCentury
  | quarter
  | month
  | day
  | weekFromSunday
  | weekFromMonday
  | numberedWeek
  | daysFromSunday
  | weekdayNumber
  | ordinal
  | hour
  | hourOfHalf
  | minute
  | second
  | nanos
  | timestamp
  deriving Repr, DecidableEq

/-- One part of a pattern. -/
inductive Item where
  /-- Characters that stand for themselves. -/
  | literal (text : List Char)
  /-- White space. -/
  | blank (text : List Char)
  /-- A number. -/
  | number (quantity : Quantity) (padding : Padding)
  /-- The name of the month, whole or shortened. -/
  | monthName (whole : Bool)
  /-- The name of the weekday, whole or shortened. -/
  | weekdayName (whole : Bool)
  /-- The half of the day, in capitals or not. -/
  | half (capitals : Bool)
  /-- The decimals of the second with a point: as many as needed, or a fixed number. -/
  | fraction (places : Option Nat)
  /-- A fixed number of decimals without a point. -/
  | bareFraction (places : Nat)
  /-- The name of the time zone. -/
  | zoneName
  /-- The offset from universal time, with so many colons; three stand for the hours alone. -/
  | offset (colons : Nat)
  /-- An offset that is only read, with the minutes optional. -/
  | looseOffset
  /-- The mark between a date and a time. -/
  | mark
  /-- The offset from universal time, or a name for it. -/
  | zone
  /-- A directive that is unknown. -/
  | unknown
  deriving Repr, DecidableEq

/-- A number filled with zeros. -/
def Item.zeros (quantity : Quantity) : Item := .number quantity .zero

/-- Hours, minutes and seconds. -/
def clockItems : List Item :=
  [.zeros .hour, .literal [':'], .zeros .minute, .literal [':'], .zeros .second]

/-- Month, day and year of the century. -/
def slashedItems : List Item :=
  [.zeros .month, .literal ['/'], .zeros .day, .literal ['/'], .zeros .yearOfCentury]

/-- The items of a directive of one letter. -/
def directive : Char → List Item
  | 'A' => [.weekdayName true]
  | 'B' => [.monthName true]
  | 'C' => [.zeros .century]
  | 'D' => slashedItems
  | 'F' => [.zeros .year, .literal ['-'], .zeros .month, .literal ['-'], .zeros .day]
  | 'G' => [.zeros .weekYear]
  | 'H' => [.zeros .hour]
  | 'I' => [.zeros .hourOfHalf]
  | 'M' => [.zeros .minute]
  | 'P' => [.half false]
  | 'R' => [.zeros .hour, .literal [':'], .zeros .minute]
  | 'S' => [.zeros .second]
  | 'T' => clockItems
  | 'U' => [.zeros .weekFromSunday]
  | 'V' => [.zeros .numberedWeek]
  | 'W' => [.zeros .weekFromMonday]
  | 'X' => clockItems
  | 'Y' => [.zeros .year]
  | 'Z' => [.zoneName]
  | 'a' => [.weekdayName false]
  | 'b' => [.monthName false]
  | 'c' => [.weekdayName false, .blank [' '], .monthName false, .blank [' '], .number .day .space,
      .blank [' ']] ++ clockItems ++ [.blank [' '], .zeros .year]
  | 'd' => [.zeros .day]
  | 'e' => [.number .day .space]
  | 'f' => [.zeros .nanos]
  | 'g' => [.zeros .weekYearOfCentury]
  | 'h' => [.monthName false]
  | 'j' => [.zeros .ordinal]
  | 'k' => [.number .hour .space]
  | 'l' => [.number .hourOfHalf .space]
  | 'm' => [.zeros .month]
  | 'n' => [.blank ['\n']]
  | 'p' => [.half true]
  | 'q' => [.number .quarter .none]
  | 'r' => [.zeros .hourOfHalf, .literal [':'], .zeros .minute, .literal [':'], .zeros .second,
      .blank [' '], .half true]
  | 's' => [.number .timestamp .none]
  | 't' => [.blank ['\t']]
  | 'u' => [.number .weekdayNumber .none]
  | 'v' => [.number .day .space, .literal ['-'], .monthName false, .literal ['-'], .zeros .year]
  | 'w' => [.number .daysFromSunday .none]
  | 'x' => slashedItems
  | 'y' => [.zeros .yearOfCentury]
  | 'z' => [.offset 0]
  | '+' => [.zeros .year, .blank [], .literal ['-'], .zeros .month, .blank [], .literal ['-'],
      .zeros .day, .mark, .zeros .hour, .blank [], .literal [':'], .zeros .minute, .blank [],
      .literal [':'], .zeros .second, .fraction none, .blank [], .zone]
  | '%' => [.literal ['%']]
  | _ => [.unknown]

/-- The items after a percent sign and the text that follows them. -/
def directiveItems : List Char → List Item × List Char
  | [] => ([.unknown], [])
  | '-' :: c :: rest => (padded c .none, rest)
  | '0' :: c :: rest => (padded c .zero, rest)
  | '_' :: c :: rest => (padded c .space, rest)
  | '-' :: [] => ([.unknown], [])
  | '0' :: [] => ([.unknown], [])
  | '_' :: [] => ([.unknown], [])
  | '#' :: 'z' :: rest => ([.looseOffset], rest)
  | '#' :: rest => ([.unknown], rest.drop 1)
  | ':' :: ':' :: ':' :: 'z' :: rest => ([.offset 3], rest)
  | ':' :: ':' :: 'z' :: rest => ([.offset 2], rest)
  | ':' :: 'z' :: rest => ([.offset 1], rest)
  | '.' :: 'f' :: rest => ([.fraction none], rest)
  | '.' :: '3' :: 'f' :: rest => ([.fraction (some 3)], rest)
  | '.' :: '6' :: 'f' :: rest => ([.fraction (some 6)], rest)
  | '.' :: '9' :: 'f' :: rest => ([.fraction (some 9)], rest)
  | '3' :: 'f' :: rest => ([.bareFraction 3], rest)
  | '6' :: 'f' :: rest => ([.bareFraction 6], rest)
  | '9' :: 'f' :: rest => ([.bareFraction 9], rest)
  | c :: rest => (directive c, rest)
where
  /-- A directive with another padding, which only a single number takes. -/
  padded (c : Char) (padding : Padding) : List Item :=
    match directive c with
    | [.number quantity _] => [.number quantity padding]
    | _ => [.unknown]

/-- Parses a pattern; the first argument bounds the number of steps. -/
def patternItems : Nat → List Char → List Item
  | 0, _ => []
  | _, [] => []
  | fuel + 1, '%' :: rest =>
    let (items, tail) := directiveItems rest
    items ++ patternItems fuel tail
  | fuel + 1, c :: rest =>
    if Text.isBlank c then
      .blank ((c :: rest).takeWhile Text.isBlank) ::
        patternItems fuel ((c :: rest).dropWhile Text.isBlank)
    else
      let plain (d : Char) : Bool := !(Text.isBlank d || d == '%')
      .literal ((c :: rest).takeWhile plain) :: patternItems fuel ((c :: rest).dropWhile plain)

/-- The items of a pattern. -/
def itemsOf (pattern : String) : List Item :=
  patternItems (pattern.toList.length + 1) pattern.toList

/-! ## Writing -/

/-- A number with a sign where needed, filled up to a width. -/
def numberText (padding : Padding) (width : Nat) (value : Int) (plus : Bool) : String :=
  let sign := if value < 0 then "-" else if plus then "+" else ""
  let width := if plus then width + 1 else width
  let digits := toString value.natAbs
  let missing := width - sign.length - digits.length
  match padding with
  | .none => sign ++ digits
  | .zero => sign ++ String.ofList (List.replicate missing '0') ++ digits
  | .space => String.ofList (List.replicate missing ' ') ++ sign ++ digits

/-- A year: four digits, and a sign outside 0 to 9999. -/
def yearNumber (padding : Padding) (year : Int) : String :=
  numberText padding 4 year (!(0 ≤ year && year ≤ 9999))

/-- The hour of twelve. -/
def Timestamp.hourOfHalf (t : Timestamp) : Nat := if t.hour % 12 == 0 then 12 else t.hour % 12

/-- A number of a point in time. -/
def quantityText (t : Timestamp) (padding : Padding) : Quantity → String
  | .year => yearNumber padding t.date.year
  | .century => numberText padding 2 (t.date.year.fdiv 100) false
  | .yearOfCentury => numberText padding 2 (t.date.year.fmod 100) false
  | .weekYear => yearNumber padding t.date.numberedWeek.1
  | .weekYearOfCentury => numberText padding 2 (t.date.numberedWeek.1.fmod 100) false
  | .quarter => toString ((t.date.month + 2) / 3)
  | .month => numberText padding 2 t.date.month false
  | .day => numberText padding 2 t.date.day false
  | .weekFromSunday => numberText padding 2 (t.date.weekFrom 6) false
  | .weekFromMonday => numberText padding 2 (t.date.weekFrom 0) false
  | .numberedWeek => numberText padding 2 t.date.numberedWeek.2 false
  | .daysFromSunday => toString ((t.date.weekday + 1) % 7)
  | .weekdayNumber => toString (t.date.weekday + 1)
  | .ordinal => numberText padding 3 t.date.ordinal false
  | .hour => numberText padding 2 t.hour false
  | .hourOfHalf => numberText padding 2 t.hourOfHalf false
  | .minute => numberText padding 2 t.minute false
  | .second => numberText padding 2 t.second false
  | .nanos => numberText padding 9 t.fraction false
  | .timestamp => numberText padding 9 t.seconds false

/-- The text of one item; `none` where an item cannot be written. -/
def Item.write (t : Timestamp) : Item → Option String
  | .literal text => some (String.ofList text)
  | .blank text => some (String.ofList text)
  | .number quantity padding => some (quantityText t padding quantity)
  | .monthName whole =>
    (monthNames[t.date.month - 1]?).map fun name => if whole then name else shortName name
  | .weekdayName whole =>
    (weekdayNames[t.date.weekday]?).map fun name => if whole then name else shortName name
  | .half capitals =>
    let letters := if t.hour < 12 then "am" else "pm"
    some (if capitals then letters.map Char.toUpper else letters)
  | .fraction none => some (fractionText t.fraction)
  | .fraction (some places) => some ("." ++ zeroPadded places (t.fraction / Nat.pow 10 (9 - places)))
  | .bareFraction places => some (zeroPadded places (t.fraction / Nat.pow 10 (9 - places)))
  | .zoneName => some "UTC"
  | .offset 0 => some "+0000"
  | .offset 1 => some "+00:00"
  | .offset 2 => some "+00:00:00"
  | .offset _ => some "+00"
  | .looseOffset => none
  | .mark => some "T"
  | .zone => some "+00:00"
  | .unknown => none

/-- The text of a point in time by a pattern; `none` for an unusable pattern. -/
def Timestamp.write? (t : Timestamp) (pattern : String) : Option String :=
  ((itemsOf pattern).mapM (Item.write t)).map String.join

/-! ## Reading -/

/-- The greatest number of digits of a quantity and whether it may have a sign. -/
def Quantity.shape : Quantity → Nat × Bool
  | .year => (4, true)
  | .weekYear => (4, true)
  | .quarter => (1, false)
  | .daysFromSunday => (1, false)
  | .weekdayNumber => (1, false)
  | .ordinal => (3, false)
  | .nanos => (9, false)
  | .timestamp => (1000000, false)
  | _ => (2, false)

/-- Gives the fields a number that was read. -/
def Quantity.give (f : Fields) (v : Int) : Quantity → Except TimeFault Fields
  | .year => f.setYear v
  | .century => f.setCentury v
  | .yearOfCentury => f.setYearOfCentury v
  | .weekYear => f.setWeekYear v
  | .weekYearOfCentury => f.setWeekYearOfCentury v
  | .quarter => if 1 ≤ v ∧ v ≤ 4 then .ok f else .error .outOfRange
  | .month => f.setMonth v
  | .day => f.setDay v
  | .weekFromSunday => f.setWeekFromSunday v
  | .weekFromMonday => f.setWeekFromMonday v
  | .numberedWeek => f.setNumberedWeek v
  | .daysFromSunday => if v == 0 then f.setWeekday 6 else f.setWeekday (v - 1)
  | .weekdayNumber => f.setWeekday (v - 1)
  | .ordinal => f.setOrdinal v
  | .hour => f.setHour v
  | .hourOfHalf => f.setHourOfHalf v
  | .minute => f.setMinute v
  | .second => f.setSecond v
  | .nanos => f.setNanos v
  | .timestamp => f.setTimestamp v

/-- The rest of a text after a word, in letters of either case. -/
def afterWord? (word : String) (text : List Char) : Option (List Char) :=
  let letters := word.toList.map Char.toLower
  if letters.isPrefixOf (text.map Char.toLower) then some (text.drop letters.length) else none

/-- Reads one of some names, whole or shortened; only the short form when `whole` is false. -/
def readName (names : List String) (whole : Bool) (text : List Char) : Except TimeFault (Nat × List Char) := do
  if octetLength text < 3 then throw .tooShort
  match names.findIdx? (fun name => (afterWord? (shortName name) text).isSome) with
  | none => throw .invalid
  | some position =>
    match (if whole then (names[position]?).bind (afterWord? · text) else none) with
    | some rest => pure (position, rest)
    | none => pure (position, text.drop 3)

/-- Reads a fixed number of decimals as nanoseconds. -/
def readPlaces (places : Nat) (text : List Char) : Except TimeFault (Nat × List Char) := do
  let (value, rest) ← readNumber places places text
  pure (value * Nat.pow 10 (9 - places), rest)

/-- Reads one item. -/
def Item.read (f : Fields) (text : List Char) : Item → Except TimeFault (Fields × List Char)
  | .literal expected =>
    if octetLength text < octetLength expected then .error .tooShort
    else if expected.isPrefixOf text then .ok (f, text.drop expected.length)
    else .error .invalid
  | .blank _ => .ok (f, Text.trimLeft text)
  | .number quantity _ => do
    let (width, signed) := quantity.shape
    let text := Text.trimLeft text
    let (value, rest) ← match signed, text with
      | true, '-' :: tail => do
        let (value, rest) ← readNumber 1 1000000 tail
        pure (-(value : Int), rest)
      | true, '+' :: tail => do
        let (value, rest) ← readNumber 1 1000000 tail
        pure ((value : Int), rest)
      | _, _ => do
        let (value, rest) ← readNumber 1 width text
        pure ((value : Int), rest)
    pure (← quantity.give f value, rest)
  | .monthName whole => do
    let (position, rest) ← readName monthNames whole text
    pure (← f.setMonth (position + 1), rest)
  | .weekdayName whole => do
    let (position, rest) ← readName weekdayNames whole text
    pure (← f.setWeekday position, rest)
  | .half _ => do
    if octetLength text < 2 then throw .tooShort
    match afterWord? "am" text, afterWord? "pm" text with
    | some rest, _ => pure (← f.setAfternoon false, rest)
    | none, some rest => pure (← f.setAfternoon true, rest)
    | none, none => throw .invalid
  | .fraction places =>
    match text with
    | '.' :: rest => do
      let (nanos, rest) ← match places with
        | none => readFraction rest
        | some places => readPlaces places rest
      pure (← f.setNanos nanos, rest)
    | _ => .ok (f, text)
  | .bareFraction places => do
    let (nanos, rest) ← readPlaces places text
    pure (← f.setNanos nanos, rest)
  | .zoneName => .ok (f, text.dropWhile (!Text.isBlank ·))
  | .offset _ => do
    let (distance, rest) ← readOffset ⟨false, false, false⟩ Text.isBlank (Text.trimLeft text)
    pure (← f.setOffset distance, rest)
  | .looseOffset => do
    let (distance, rest) ← readOffset ⟨false, true, true⟩ Text.isBlank (Text.trimLeft text)
    pure (← f.setOffset distance, rest)
  | .mark =>
    match text with
    | [] => .error .tooShort
    | c :: rest => if c == 'T' || c == 't' || c == ' ' then .ok (f, rest) else .error .invalid
  | .zone => do
    let (distance, rest) ← match afterWord? "utc" text with
      | some rest => pure (0, rest)
      | none => readOffset ⟨false, true, false⟩ Text.isBlank text
    pure (← f.setOffset distance, rest)
  | .unknown => .error .badPattern

/-- Reads the items of a pattern in order, up to the end of the text. -/
def readItems : Fields → List Char → List Item → Except TimeFault Fields
  | f, text, [] => if text.isEmpty then .ok f else .error .tooLong
  | f, text, item :: rest => do
    let (f, text) ← item.read f text
    readItems f text rest

/-- Reads a date and time by a pattern and takes it as universal time. -/
def Timestamp.readBy (pattern text : String) : Except TimeFault Timestamp := do
  (← readItems {} text.toList (itemsOf pattern)).universal

end MessageRouting.Time
