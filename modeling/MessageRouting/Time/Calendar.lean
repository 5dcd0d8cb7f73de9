/-!
# The Gregorian calendar

Days are counted from 1970-01-01 and carried back and forth between their number, year with month and
day, year with day of the year, and year with week, in the calendar extended to all years.
-/

namespace MessageRouting.Time

/-- A day of a month of a year. -/
structure Date where
  /-- The year; 0 is the year before 1. -/
  year : Int
  /-- The month, 1 to 12. -/
  month : Nat
  /-- The day of the month, from 1. -/
  day : Nat
  deriving Repr, DecidableEq

/-- A year with 366 days. -/
def isLeapYear (year : Int) : Bool := year % 4 == 0 && (year % 100 != 0 || year % 400 == 0)

/-- The length of a month. -/
def daysInMonth (year : Int) (month : Nat) : Nat :=
  match month with
  | 2 => if isLeapYear year then 29 else 28
  | 4 | 6 | 9 | 11 => 30
  | _ => 31

/-- The length of a year. -/
def daysInYear (year : Int) : Nat := if isLeapYear year then 366 else 365

/-- The day exists. -/
def Date.isValid (date : Date) : Bool :=
  1 ≤ date.month && date.month ≤ 12 && 1 ≤ date.day && date.day ≤ daysInMonth date.year date.month

/-- The number of a day, counted from 1970-01-01. Years begin with March here, so that the leap day
stands at their end. -/
def Date.number (date : Date) : Int :=
  let year := if date.month ≤ 2 then date.year - 1 else date.year
  let era := year.fdiv 400
  let yearOfEra := year - era * 400
  let month : Int := ((date.month + 9) % 12 : Nat)
  let dayOfYear := (153 * month + 2) / 5 + date.day - 1
  let dayOfEra := yearOfEra * 365 + yearOfEra / 4 - yearOfEra / 100 + dayOfYear
  era * 146097 + dayOfEra - 719468

/-- The date of a day given by its number. -/
def Date.ofNumber (number : Int) : Date :=
  let shifted := number + 719468
  let era := shifted.fdiv 146097
  let dayOfEra := shifted - era * 146097
  let yearOfEra := (dayOfEra - dayOfEra / 1460 + dayOfEra / 36524 - dayOfEra / 146096) / 365
  let dayOfYear := dayOfEra - (365 * yearOfEra + yearOfEra / 4 - yearOfEra / 100)
  let month := (5 * dayOfYear + 2) / 153
  let day := dayOfYear - (153 * month + 2) / 5 + 1
  let civil := if month < 10 then month + 3 else month - 9
  ⟨yearOfEra + era * 400 + (if civil ≤ 2 then 1 else 0), civil.toNat, day.toNat⟩

/-- The day of the year, from 1. -/
def Date.ordinal (date : Date) : Nat :=
  (date.number - (Date.mk date.year 1 1).number + 1).toNat

/-- The date with a given day of the year, if the year is that long. -/
def Date.ofOrdinal? (year : Int) (ordinal : Nat) : Option Date :=
  if 1 ≤ ordinal && ordinal ≤ daysInYear year then
    some (Date.ofNumber ((Date.mk year 1 1).number + ordinal - 1))
  else none

/-- The day of the week, 0 for Monday to 6 for Sunday. -/
def Date.weekday (date : Date) : Nat := ((date.number + 3) % 7).toNat

/-- The week of the year when weeks begin on the given weekday; the days before the first of them are
in week 0. -/
def Date.weekFrom (first : Nat) (date : Date) : Nat :=
  (date.ordinal + 6 - (date.weekday + 7 - first) % 7) / 7

/-- How many numbered weeks a year has: 53 when it begins on a Thursday, or on a Wednesday and is a leap
year. -/
def weeksInYear (year : Int) : Nat :=
  let begins := (Date.mk year 1 1).weekday
  if begins == 3 || (begins == 2 && isLeapYear year) then 53 else 52

/-- The year and number of the week a day belongs to. Weeks begin on Monday and belong to the year of
their Thursday. -/
def Date.numberedWeek (date : Date) : Int × Nat :=
  let week := (date.ordinal + 9 - date.weekday) / 7
  if week == 0 then (date.year - 1, weeksInYear (date.year - 1))
  else if weeksInYear date.year < week then (date.year + 1, 1)
  else (date.year, week)

/-- The date of a weekday in a numbered week, if the year has that week. -/
def Date.ofNumberedWeek? (year : Int) (week weekday : Nat) : Option Date :=
  if 1 ≤ week && week ≤ weeksInYear year then
    let fourth := Date.mk year 1 4
    some (Date.ofNumber (fourth.number - fourth.weekday + ((week - 1) * 7 + weekday : Nat)))
  else none

/-- The names of the months. -/
def monthNames : List String :=
  ["January", "February", "March", "April", "May", "June", "July", "August", "September", "October",
   "November", "December"]

/-- The names of the days of the week, from Monday. -/
def weekdayNames : List String :=
  ["Monday", "Tuesday", "Wednesday", "Thursday", "Friday", "Saturday", "Sunday"]

/-- The three letters a name of a month or a weekday is shortened to. -/
def shortName (name : String) : String := (name.take 3).toString

end MessageRouting.Time
