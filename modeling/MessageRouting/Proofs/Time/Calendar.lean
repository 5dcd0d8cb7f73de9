import Mathlib.Tactic.IntervalCases
import MessageRouting.Time.Calendar

/-!
# Dates and their numbers

Days are counted in eras of 400 years, which all have the same number of days, and the years of an era begin with March,
so that a leap day is the last day of its year. Each number is that of a day that exists, and it is got back from the
date.
-/

namespace MessageRouting.Time

/-- Dividing by a positive number goes down. -/
theorem fdiv_of_pos (n : Int) {d : Int} (positive : 0 < d) : n.fdiv d = n / d :=
  Int.fdiv_eq_ediv_of_nonneg n (Int.le_of_lt positive)

/-- The leap days at the end of a year of an era: one or none. -/
def leapDays (year : Int) : Int := ((year + 1) / 4 - year / 4) - ((year + 1) / 100 - year / 100) + (year + 1) / 400

/-- Just the leap years end with a leap day. -/
theorem leapDays_eq (era : Int) {year : Int} (bounds : 0 ≤ year ∧ year < 400) :
    leapDays year = if isLeapYear (year + era * 400 + 1) then 1 else 0 := by
  simp only [leapDays, isLeapYear, Bool.and_eq_true, Bool.or_eq_true, beq_iff_eq, bne_iff_ne]
  split <;> omega

/-- The year that is found for a day of an era is one of its 400, begins at or before the day and is not over then. -/
theorem yearOfEra_bounds {dayOfEra year : Int} (least : 0 ≤ dayOfEra) (greatest : dayOfEra < 146097)
    (found : (dayOfEra - dayOfEra / 1460 + dayOfEra / 36524 - dayOfEra / 146096) / 365 = year) :
    (0 ≤ year ∧ year < 400) ∧ 0 ≤ dayOfEra - (365 * year + year / 4 - year / 100) ∧
      dayOfEra - (365 * year + year / 4 - year / 100) ≤ 364 + leapDays year := by
  have bounds : 0 ≤ year ∧ year < 400 := by omega
  have centuries : dayOfEra / 36524 = year / 100 ∧ year / 100 < 4 ∨ dayOfEra = 146096 ∧ year / 100 = 3 := by omega
  have quarters : dayOfEra / 1460 = year / 4 ∨ dayOfEra / 1460 = year / 4 + 1 := by omega
  -- Only after the last of four years, or of a hundred, there is a difference to the leap days before the year.
  have fourth : (year + 1) / 4 = year / 4 ∨ year + 1 = 4 * (year / 4 + 1) := by omega
  have hundredth : (year + 1) / 100 = year / 100 ∨ year + 1 = 100 * (year / 100 + 1) := by omega
  refine ⟨bounds, by omega, ?_⟩
  unfold leapDays
  rcases hundredth with _ | _ <;> rcases fourth with _ | _ <;> omega

/-- The month that is found for a day of the year, the first of March being day 0, begins at or before the day and is
not over then. -/
theorem exists_month_and_day {ordinal : Nat} (bounded : ordinal ≤ 365) :
    ∃ month day, month < 12 ∧ (153 * month + 2) / 5 + day = ordinal ∧ ordinal < (153 * (month + 1) + 2) / 5 ∧
      (5 * (ordinal : Int) + 2) / 153 = month ∧ ordinal - (153 * (month : Int) + 2) / 5 + 1 = (day + 1 : Nat) := by
  refine ⟨(5 * ordinal + 2) / 153, ordinal - (153 * ((5 * ordinal + 2) / 153) + 2) / 5, ?_⟩
  omega

/-- The lengths of the months from March to January are those by which they begin. -/
theorem daysInMonth_eq_of_lt (year : Int) {month : Nat} (early : month < 11) :
    daysInMonth year (if month < 10 then month + 3 else month - 9) =
      (153 * (month + 1) + 2) / 5 - (153 * month + 2) / 5 := by
  interval_cases month <;> rfl

/-- No month has more than 31 days. -/
theorem daysInMonth_le (year : Int) (month : Nat) : daysInMonth year month ≤ 31 := by
  unfold daysInMonth
  repeat' split
  all_goals decide

/-- A day of an era exists, by its year, its month from 0 for March and the day of the month from 0. -/
structure InEra (year : Int) (month day : Nat) : Prop where
  /-- An era has 400 years. -/
  yearBounds : 0 ≤ year ∧ year < 400
  /-- A year has twelve months. -/
  monthBound : month < 12
  /-- The next month has not begun. -/
  monthLasts : (153 * month + 2) / 5 + day < (153 * (month + 1) + 2) / 5
  /-- The year is not over. -/
  yearLasts : ((153 * month + 2) / 5 + day : Nat) ≤ 364 + leapDays year

/-- A day of an era by its year, its month from 0 for March and the day of the month from 0. -/
def Date.fromMarch (era year : Int) (month day : Nat) : Date :=
  if month < 10 then ⟨year + era * 400, month + 3, day + 1⟩ else ⟨year + era * 400 + 1, month - 9, day + 1⟩

/-- The number of a day of an era counts the days of the eras, years and months before it. -/
theorem Date.number_fromMarch (era : Int) {year : Int} {month day : Nat} (inEra : InEra year month day) :
    (Date.fromMarch era year month day).number =
      era * 146097 + (year * 365 + year / 4 - year / 100 + ((153 * month + 2) / 5 + day : Nat)) - 719468 := by
  obtain ⟨yearBounds, monthBound, -, -⟩ := inEra
  have eraOf : (year + era * 400).fdiv 400 = era := by
    rw [fdiv_of_pos _ (by decide)]
    omega
  unfold Date.fromMarch Date.number
  by_cases early : month < 10
  · have march : ¬month + 3 ≤ 2 := by omega
    have back : (month + 3 + 9) % 12 = month := by omega
    simp only [early, if_true, march, if_false, eraOf, back]
    omega
  · have january : month - 9 ≤ 2 := by omega
    have back : (month - 9 + 9) % 12 = month := by omega
    simp only [early, if_false, january, if_true, Int.add_sub_cancel, eraOf, back]
    omega

/-- A day of an era is a day of its month. -/
theorem Date.isValid_fromMarch (era : Int) {year : Int} {month day : Nat} (inEra : InEra year month day) :
    (Date.fromMarch era year month day).isValid = true := by
  obtain ⟨yearBounds, monthBound, monthLasts, yearLasts⟩ := inEra
  have fits : day + 1 ≤ daysInMonth (if month < 10 then year + era * 400 else year + era * 400 + 1)
      (if month < 10 then month + 3 else month - 9) := by
    by_cases early : month < 11
    · rw [daysInMonth_eq_of_lt _ early]
      omega
    · obtain rfl : month = 11 := by omega
      rw [leapDays_eq era yearBounds] at yearLasts
      change day + 1 ≤ if isLeapYear (year + era * 400 + 1) then 29 else 28
      by_cases leapYear : isLeapYear (year + era * 400 + 1)
      · rw [if_pos leapYear] at yearLasts ⊢
        omega
      · rw [if_neg leapYear] at yearLasts ⊢
        omega
  have months : 1 ≤ (if month < 10 then month + 3 else month - 9) ∧
      (if month < 10 then month + 3 else month - 9) ≤ 12 := by
    split <;> omega
  unfold Date.fromMarch Date.isValid
  by_cases early : month < 10
  · simp only [early, if_true] at fits months ⊢
    simp only [months, fits, Nat.le_add_left, decide_true, Bool.and_true]
  · simp only [early, if_false] at fits months ⊢
    simp only [months, fits, Nat.le_add_left, decide_true, Bool.and_true]

/-- The date of a number is the day of an era with that number. -/
theorem Date.ofNumber_eq_fromMarch (number : Int) : ∃ era year month day,
    Date.ofNumber number = Date.fromMarch era year month day ∧ InEra year month day ∧
      number = era * 146097 + (year * 365 + year / 4 - year / 100 + ((153 * month + 2) / 5 + day : Nat)) - 719468 := by
  simp only [Date.ofNumber, fdiv_of_pos _ (show (0 : Int) < 146097 by decide)]
  generalize eraIs : (number + 719468) / 146097 = era
  generalize dayIs : number + 719468 - era * 146097 = dayOfEra
  generalize yearIs : (dayOfEra - dayOfEra / 1460 + dayOfEra / 36524 - dayOfEra / 146096) / 365 = year
  obtain ⟨yearBounds, begun, yearLasts⟩ := yearOfEra_bounds (by omega) (by omega) yearIs
  generalize ofYear : dayOfEra - (365 * year + year / 4 - year / 100) = ordinal at *
  obtain ⟨ordinal, rfl⟩ := Int.eq_ofNat_of_zero_le begun
  have bounded : ordinal ≤ 365 := by
    have oneOrNone := leapDays_eq 0 yearBounds
    split at oneOrNone <;> omega
  obtain ⟨month, day, monthBound, rfl, monthLasts, monthIs, dayOfMonthIs⟩ := exists_month_and_day bounded
  refine ⟨era, year, month, day, ?_, ⟨yearBounds, monthBound, monthLasts, yearLasts⟩, by omega⟩
  rw [monthIs, dayOfMonthIs]
  unfold Date.fromMarch
  clear * - monthBound
  by_cases early : month < 10
  · have march : ¬(month : Int) + 3 ≤ 2 := by omega
    rw [if_pos early, if_pos (show (month : Int) < 10 by omega), if_neg march, Int.add_zero]
    rfl
  · have january : (month : Int) - 9 ≤ 2 := by omega
    rw [if_neg early, if_neg (show ¬(month : Int) < 10 by omega), if_pos january, Date.mk.injEq]
    exact ⟨rfl, by omega, rfl⟩

/-- The number of a date is got back from it. -/
theorem Date.number_ofNumber (number : Int) : (Date.ofNumber number).number = number := by
  obtain ⟨era, year, month, day, same, inEra, count⟩ := Date.ofNumber_eq_fromMarch number
  rw [same, Date.number_fromMarch era inEra, ← count]

/-- The date of a number exists. -/
theorem Date.isValid_ofNumber (number : Int) : (Date.ofNumber number).isValid = true := by
  obtain ⟨era, year, month, day, same, inEra, -⟩ := Date.ofNumber_eq_fromMarch number
  rw [same]
  exact Date.isValid_fromMarch era inEra

/-- The month and the day of a number are those of a calendar. -/
theorem Date.ofNumber_le (number : Int) : (Date.ofNumber number).month ≤ 12 ∧ (Date.ofNumber number).day ≤ 31 := by
  have valid := Date.isValid_ofNumber number
  simp only [Date.isValid, Bool.and_eq_true, decide_eq_true_eq] at valid
  exact ⟨valid.1.1.2, valid.2.trans (daysInMonth_le ..)⟩

end MessageRouting.Time
