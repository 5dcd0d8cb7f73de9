import MessageRouting.Time.Reading
import MessageRouting.Time.Timestamp

/-!
# Dates and times from their parts

A text may give a date and time in many redundant ways: with year, month and day, with the day of the
year, with a week and a weekday, or as seconds since 1970. The fields collect what was given; resolving
them finds the one point in time and checks that everything given agrees with it.
-/

namespace MessageRouting.Time

/-- What a text says about a date and time. -/
structure Fields where
  year : Option Int := none
  century : Option Int := none
  yearOfCentury : Option Int := none
  weekYear : Option Int := none
  weekCentury : Option Int := none
  weekYearOfCentury : Option Int := none
  month : Option Nat := none
  weekFromSunday : Option Nat := none
  weekFromMonday : Option Nat := none
  numberedWeek : Option Nat := none
  weekday : Option Nat := none
  ordinal : Option Nat := none
  day : Option Nat := none
  afternoon : Option Nat := none
  hourOfHalf : Option Nat := none
  minute : Option Nat := none
  second : Option Nat := none
  nanos : Option Nat := none
  timestamp : Option Int := none
  offset : Option Int := none

namespace Fields

/-- A field with a further value: a value that differs from an earlier one is impossible. -/
def agree {α : Type} [DecidableEq α] (old : Option α) (new : α) : Except TimeFault (Option α) :=
  match old with
  | none => .ok (some new)
  | some value => if value = new then .ok old else .error .impossible

/-- A value within bounds, or a fault. -/
def within (least greatest value : Int) : Except TimeFault Unit :=
  if least ≤ value ∧ value ≤ greatest then .ok () else .error .outOfRange

/-- Gives the year. -/
def setYear (f : Fields) (v : Int) : Except TimeFault Fields := do
  within (-2147483648) 2147483647 v
  pure { f with year := ← agree f.year v }

/-- Gives the century. -/
def setCentury (f : Fields) (v : Int) : Except TimeFault Fields := do
  within 0 2147483647 v
  pure { f with century := ← agree f.century v }

/-- Gives the year of the century. -/
def setYearOfCentury (f : Fields) (v : Int) : Except TimeFault Fields := do
  within 0 99 v
  pure { f with yearOfCentury := ← agree f.yearOfCentury v }

/-- Gives the year of the numbered week. -/
def setWeekYear (f : Fields) (v : Int) : Except TimeFault Fields := do
  within (-2147483648) 2147483647 v
  pure { f with weekYear := ← agree f.weekYear v }

/-- Gives the year of the century of the numbered week. -/
def setWeekYearOfCentury (f : Fields) (v : Int) : Except TimeFault Fields := do
  within 0 99 v
  pure { f with weekYearOfCentury := ← agree f.weekYearOfCentury v }

/-- Gives the month. -/
def setMonth (f : Fields) (v : Int) : Except TimeFault Fields := do
  within 1 12 v
  pure { f with month := ← agree f.month v.toNat }

/-- Gives the day of the month. -/
def setDay (f : Fields) (v : Int) : Except TimeFault Fields := do
  within 1 31 v
  pure { f with day := ← agree f.day v.toNat }

/-- Gives the week counted from the first Sunday. -/
def setWeekFromSunday (f : Fields) (v : Int) : Except TimeFault Fields := do
  within 0 53 v
  pure { f with weekFromSunday := ← agree f.weekFromSunday v.toNat }

/-- Gives the week counted from the first Monday. -/
def setWeekFromMonday (f : Fields) (v : Int) : Except TimeFault Fields := do
  within 0 53 v
  pure { f with weekFromMonday := ← agree f.weekFromMonday v.toNat }

/-- Gives the number of the numbered week. -/
def setNumberedWeek (f : Fields) (v : Int) : Except TimeFault Fields := do
  within 1 53 v
  pure { f with numberedWeek := ← agree f.numberedWeek v.toNat }

/-- Gives the weekday, 0 for Monday. -/
def setWeekday (f : Fields) (v : Int) : Except TimeFault Fields := do
  within 0 6 v
  pure { f with weekday := ← agree f.weekday v.toNat }

/-- Gives the day of the year. -/
def setOrdinal (f : Fields) (v : Int) : Except TimeFault Fields := do
  within 1 366 v
  pure { f with ordinal := ← agree f.ordinal v.toNat }

/-- Gives the half of the day. -/
def setAfternoon (f : Fields) (v : Bool) : Except TimeFault Fields := do
  pure { f with afternoon := ← agree f.afternoon (if v then 1 else 0) }

/-- Gives the hour of twelve. -/
def setHourOfHalf (f : Fields) (v : Int) : Except TimeFault Fields := do
  within 1 12 v
  pure { f with hourOfHalf := ← agree f.hourOfHalf (v.toNat % 12) }

/-- Gives the hour of the day. -/
def setHour (f : Fields) (v : Int) : Except TimeFault Fields := do
  within 0 23 v
  let afternoon ← agree f.afternoon (v.toNat / 12)
  pure { f with afternoon, hourOfHalf := ← agree f.hourOfHalf (v.toNat % 12) }

/-- Gives the minute. -/
def setMinute (f : Fields) (v : Int) : Except TimeFault Fields := do
  within 0 59 v
  pure { f with minute := ← agree f.minute v.toNat }

/-- Gives the second; 60 is a leap second. -/
def setSecond (f : Fields) (v : Int) : Except TimeFault Fields := do
  within 0 60 v
  pure { f with second := ← agree f.second v.toNat }

/-- Gives the nanoseconds. -/
def setNanos (f : Fields) (v : Int) : Except TimeFault Fields := do
  within 0 999999999 v
  pure { f with nanos := ← agree f.nanos v.toNat }

/-- Gives the seconds since 1970. -/
def setTimestamp (f : Fields) (v : Int) : Except TimeFault Fields := do
  pure { f with timestamp := ← agree f.timestamp v }

/-- Gives the offset from universal time in seconds. -/
def setOffset (f : Fields) (v : Int) : Except TimeFault Fields := do
  within (-2147483648) 2147483647 v
  pure { f with offset := ← agree f.offset v }

/-- The full year from the year, the century and the year of the century; two digits alone mean the
years 1970 to 2069. -/
def resolveYear : Option Int → Option Int → Option Int → Except TimeFault (Option Int)
  | year, none, none => .ok year
  | some year, century, ofCentury =>
    if year < 0 then .error .impossible
    else if century.all (· == year / 100) && ofCentury.all (· == year % 100) then .ok (some year)
    else .error .impossible
  | none, some century, some ofCentury =>
    if century * 100 + ofCentury < 2147483648 then .ok (some (century * 100 + ofCentury))
    else .error .outOfRange
  | none, none, some ofCentury =>
    .ok (some (if ofCentury < 70 then 2000 + ofCentury else 1900 + ofCentury))
  | none, some _, none => .error .notEnough

/-- A year inside the calendar. -/
def knownYear (year : Int) : Bool := -262143 ≤ year && year ≤ 262142

/-- A date agrees with what is given of year, month and day. -/
def agreesWithMonth (f : Fields) (d : Date) : Bool :=
  let century := if d.year ≥ 0 then some (d.year / 100) else none
  let ofCentury := if d.year ≥ 0 then some (d.year % 100) else none
  f.year.all (· == d.year) && f.century.all (some · == century) &&
    f.yearOfCentury.all (some · == ofCentury) && f.month.all (· == d.month) && f.day.all (· == d.day)

/-- A date agrees with what is given of its numbered week. -/
def agreesWithNumberedWeek (f : Fields) (d : Date) : Bool :=
  let (year, week) := d.numberedWeek
  let century := if year ≥ 0 then some (year / 100) else none
  let ofCentury := if year ≥ 0 then some (year % 100) else none
  f.weekYear.all (· == year) && f.weekCentury.all (some · == century) &&
    f.weekYearOfCentury.all (some · == ofCentury) && f.numberedWeek.all (· == week) &&
    f.weekday.all (· == d.weekday)

/-- A date agrees with what is given of the day of the year and the plain weeks. -/
def agreesWithOrdinal (f : Fields) (d : Date) : Bool :=
  f.ordinal.all (· == d.ordinal) && f.weekFromSunday.all (· == d.weekFrom 6) &&
    f.weekFromMonday.all (· == d.weekFrom 0)

/-- The date of a weekday in a week of the year, when weeks begin on the given weekday. -/
def ofWeek (year : Int) (week weekday first : Nat) : Except TimeFault Date :=
  if !knownYear year then .error .outOfRange
  else
    let begins := (Date.mk year 1 1).weekday
    let ordinal : Int := 1 + ((first + 7 - begins) % 7 : Nat) + ((week : Int) - 1) * 7 +
      ((weekday + 7 - first) % 7 : Nat)
    if ordinal ≤ 0 then .error .impossible
    else
      match Date.ofOrdinal? year ordinal.toNat with
      | some date => .ok date
      | none => .error .impossible

/-- The date that the fields give. -/
def date (f : Fields) : Except TimeFault Date := do
  let year ← resolveYear f.year f.century f.yearOfCentury
  let weekYear ← resolveYear f.weekYear f.weekCentury f.weekYearOfCentury
  let checked (good : Bool) (d : Date) : Except TimeFault Date :=
    if good then .ok d else .error .impossible
  match year, f.month, f.day with
  | some year, some month, some day =>
    let d := Date.mk year month day
    if !(knownYear year && d.isValid) then throw .outOfRange
    return ← checked (f.agreesWithNumberedWeek d && f.agreesWithOrdinal d) d
  | _, _, _ => pure ()
  let whole (d : Date) : Except TimeFault Date :=
    checked (f.agreesWithMonth d && f.agreesWithNumberedWeek d && f.agreesWithOrdinal d) d
  match year, f.ordinal with
  | some year, some ordinal =>
    match knownYear year, Date.ofOrdinal? year ordinal with
    | true, some d => return ← whole d
    | _, _ => throw .outOfRange
  | _, _ => pure ()
  match year, f.weekFromSunday, f.weekday with
  | some year, some week, some weekday => return ← whole (← ofWeek year week weekday 6)
  | _, _, _ => pure ()
  match year, f.weekFromMonday, f.weekday with
  | some year, some week, some weekday => return ← whole (← ofWeek year week weekday 0)
  | _, _, _ => pure ()
  match weekYear, f.numberedWeek, f.weekday with
  | some year, some week, some weekday =>
    match knownYear year, Date.ofNumberedWeek? year week weekday with
    | true, some d => checked (f.agreesWithMonth d && f.agreesWithOrdinal d) d
    | _, _ => throw .outOfRange
  | _, _, _ => throw .notEnough

/-- The second of the day and the nanoseconds that the fields give. -/
def time (f : Fields) : Except TimeFault (Nat × Nat) := do
  let some half := f.afternoon | throw .notEnough
  let some hour := f.hourOfHalf | throw .notEnough
  let some minute := f.minute | throw .notEnough
  let (second, leap) := match f.second with
    | some 60 => (59, 1000000000)
    | other => (other.getD 0, 0)
  let nanos ← match f.nanos with
    | none => pure leap
    | some n => if f.second.isSome then pure (leap + n) else throw .notEnough
  pure ((half * 12 + hour) * 3600 + minute * 60 + second, nanos)

/-- The seconds since 1970 and the nanoseconds of a date and a time of day. -/
def combine (d : Date) (secondOfDay : Nat) : Int := d.number * secondsPerDay + secondOfDay

/-- The local date and time that the fields give, as seconds since 1970 and nanoseconds; `offset` is
their distance from universal time. Seconds since 1970 stand in where parts are missing. -/
def localTime (f : Fields) (offset : Int) : Except TimeFault (Int × Nat) :=
  match f.date, f.time with
  | .ok date, .ok (secondOfDay, nanos) =>
    let seconds := combine date secondOfDay
    match f.timestamp with
    | none => .ok (seconds, nanos)
    | some given =>
      let here := seconds - offset
      if given == here || (nanos ≥ 1000000000 && given == here + 1) then .ok (seconds, nanos)
      else .error .impossible
  | date, time =>
    match f.timestamp with
    | none => do
      let d ← date
      let (secondOfDay, nanos) ← time
      pure (combine d secondOfDay, nanos)
    | some given => do
      let faults := [date.toOption.isNone, time.toOption.isNone]
      let has (fault : TimeFault) : Bool :=
        (match date with | .error e => e == fault | .ok _ => false) ||
          (match time with | .error e => e == fault | .ok _ => false)
      if faults.any id && has .outOfRange then throw .outOfRange
      if faults.any id && has .impossible then throw .impossible
      let seconds := given + offset
      let some instant := Timestamp.ofParts? seconds 0 | throw .outOfRange
      let (instant, f) ←
        if f.second == some 60 then
          match instant.second with
          | 59 => pure (instant, f)
          | 0 =>
            match Timestamp.ofParts? (seconds - 1) 0 with
            | some before => pure (before, f)
            | none => throw .outOfRange
          | _ => throw .impossible
        else do pure (instant, ← f.setSecond instant.second)
      let f ← f.setYear instant.date.year
      let f ← f.setOrdinal instant.date.ordinal
      let f ← f.setHour instant.hour
      let f ← f.setMinute instant.minute
      let d ← f.date
      let (secondOfDay, nanos) ← f.time
      pure (combine d secondOfDay, nanos)

/-- The point in time of a local time that is taken as universal time. -/
def universal (f : Fields) : Except TimeFault Timestamp := do
  let (seconds, nanos) ← f.localTime 0
  match Timestamp.ofParts? seconds nanos with
  | some t => pure t
  | none => throw .outOfRange

end Fields

end MessageRouting.Time
