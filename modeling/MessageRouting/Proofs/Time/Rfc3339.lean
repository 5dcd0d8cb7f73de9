import MessageRouting.Proofs.Number.IntegerText
import MessageRouting.Proofs.Time.Calendar
import MessageRouting.Time.Rfc3339

/-!
# Times that are read back

A number with zeros in front is a row of digits, and each row is read where it stands: those of a date and a time of day
at their places, and those of a fraction up to the offset.
-/

namespace MessageRouting.Time

open Number

/-! ## Digits -/

/-- The last digits of a number, so many as there are places. -/
def lastDigits : Nat → Nat → List Char
  | 0, _ => []
  | width + 1, value => lastDigits width (value / 10) ++ [Nat.digitChar (value % 10)]

/-- Zero has zeros at all places. -/
theorem lastDigits_zero (width : Nat) : lastDigits width 0 = List.replicate width '0' := by
  induction width with
  | zero => rfl
  | succ width ih =>
    rw [lastDigits, Nat.zero_div, ih, List.replicate_succ']
    rfl

/-- A number that has no more digits than places is filled up with zeros in front. -/
theorem toList_zeroPadded {width value : Nat} (fits : value < 10 ^ (width + 1)) :
    (zeroPadded (width + 1) value).toList = lastDigits (width + 1) value := by
  rw [zeroPadded, String.toList_ofList]
  induction width generalizing value with
  | zero =>
    have small : value < 10 := fits
    rw [Nat.toDigits_of_lt_base small, lastDigits, Nat.mod_eq_of_lt small]
    rfl
  | succ width ih =>
    rw [lastDigits]
    by_cases small : value < 10
    · rw [Nat.toDigits_of_lt_base small, Nat.div_eq_of_lt small, lastDigits_zero, Nat.mod_eq_of_lt small]
      rfl
    · have shorter : value / 10 < 10 ^ (width + 1) := by
        rw [Nat.pow_succ] at fits
        omega
      rw [← ih shorter, Nat.toDigits_of_base_le (by decide) (Nat.le_of_not_lt small), List.append_assoc]
      congr 2
      rw [List.length_append, List.length_singleton]
      omega

/-- A digit is read. -/
theorem digit?_digitChar {d : Nat} (small : d < 10) : digit? (Nat.digitChar d) = some d := by
  have each : ∀ d < 10, digit? (Nat.digitChar d) = some d := by decide
  exact each d small

/-- Four digits are two and two. -/
theorem lastDigits_four (value : Nat) :
    lastDigits 4 value = lastDigits 2 (value / 100) ++ lastDigits 2 (value % 100) := by
  have thousands : value / 10 / 10 / 10 % 10 = value / 100 / 10 % 10 := by omega
  have hundreds : value / 10 / 10 % 10 = value / 100 % 10 := by omega
  have tens : value / 10 % 10 = value % 100 / 10 % 10 := by omega
  have ones : value % 10 = value % 100 % 10 := by omega
  simp only [lastDigits, thousands, hundreds, ← tens, ← ones, List.nil_append, List.cons_append]

/-- Two digits are read as a number. -/
theorem pairAt_eq {text : List Char} {place value : Nat} (small : value < 100)
    (first : text[place]? = some (Nat.digitChar (value / 10 % 10)))
    (second : text[place + 1]? = some (Nat.digitChar (value % 10))) : pairAt text place = .ok value := by
  have digit (n : Nat) : digit? (Nat.digitChar (n % 10)) = some (n % 10) := digit?_digitChar (Nat.mod_lt n (by decide))
  have both : value / 10 % 10 * 10 + value % 10 = value := by omega
  simp only [pairAt, digitAt, first, second, Option.bind_some, digit]
  exact congrArg Except.ok both

/-! ## Fractions -/

/-- The digits of a number are taken onto a value, if what comes after them can be taken onto the outcome. -/
theorem takeDigits_lastDigits {width more start value : Nat} {rest tail : List Char} {whole count : Nat}
    (fits : value < 10 ^ width) (bounded : start * 10 ^ width + value < 9223372036854775808)
    (later : takeDigits more (start * 10 ^ width + value) rest = .ok (whole, count, tail)) :
    takeDigits (more + width) start (lastDigits width value ++ rest) = .ok (whole, count + width, tail) := by
  induction width generalizing more value rest count with
  | zero =>
    obtain rfl : value = 0 := Nat.lt_one_iff.mp fits
    rwa [Nat.pow_zero, Nat.mul_one] at later
  | succ width ih =>
    rw [Nat.pow_succ] at fits bounded later
    have shifted : (start * 10 ^ width + value / 10) * 10 + value % 10 = start * (10 ^ width * 10) + value := by
      rw [Nat.add_mul, Nat.mul_assoc]
      omega
    have step : takeDigits (more + 1) (start * 10 ^ width + value / 10) (Nat.digitChar (value % 10) :: rest) =
        .ok (whole, count + 1, tail) := by
      rw [takeDigits, digit?_digitChar (Nat.mod_lt _ (by decide))]
      simp only [shifted, if_pos bounded, later]
      rfl
    rw [lastDigits, List.append_assoc, List.singleton_append]
    have taken := ih (show value / 10 < 10 ^ width by omega) (by omega) step
    rwa [Nat.add_assoc, Nat.add_assoc, Nat.add_comm 1 width] at taken

/-- The letters of an offset of zero. -/
def noOffset : List Char := ['+', '0', '0', ':', '0', '0']

/-- Up to nine decimals before an offset are read as nanoseconds. -/
theorem readFraction_lastDigits {width value : Nat} (some : 0 < width) (most : width ≤ 9)
    (fits : value < 10 ^ width) :
    readFraction (lastDigits width value ++ noOffset) = .ok (value * 10 ^ (9 - width), noOffset) := by
  have room : 10 ^ width ≤ 10 ^ 9 := Nat.pow_le_pow_right (by decide) most
  have stops : takeDigits (9 - width) (0 * 10 ^ width + value) noOffset = .ok (value, 0, noOffset) := by
    rw [Nat.zero_mul, Nat.zero_add]
    cases 9 - width <;> rfl
  have taken := takeDigits_lastDigits fits (by omega) stops
  rw [Nat.sub_add_cancel most, Nat.zero_add] at taken
  have begun : (lastDigits width value ++ noOffset).isEmpty = false := by
    rw [List.isEmpty_eq_false_iff]
    exact List.append_ne_nil_of_right_ne_nil _ (List.cons_ne_nil _ _)
  have counted : (width == 0) = false := beq_eq_false_iff_ne.mpr some.ne'
  have unread : noOffset.dropWhile (digit? · |>.isSome) = noOffset := rfl
  simp only [readFraction, begun, taken, bind, Except.bind, pure, Except.pure, counted, Bool.false_eq_true, if_false,
    unread]
  rfl

/-- The decimals of a second are read, if there are any. -/
theorem fractionText_cases {nanos : Nat} (fits : nanos < 1000000000) :
    fractionText nanos = "" ∧ nanos = 0 ∨
      ∃ digits, (fractionText nanos).toList = '.' :: digits ∧
        readFraction (digits ++ noOffset) = .ok (nanos, noOffset) := by
  have inThrees : nanos = 0 ∨ ∃ width value, 0 < width ∧ width ≤ 9 ∧ value < 10 ^ width ∧
      value * 10 ^ (9 - width) = nanos ∧ fractionText nanos = "." ++ zeroPadded width value := by
    unfold fractionText
    by_cases none : nanos = 0
    · exact .inl none
    by_cases millis : nanos % 1000000 = 0
    · exact .inr ⟨3, nanos / 1000000, by decide, by decide, by omega, by omega, by simp [none, millis]⟩
    by_cases micros : nanos % 1000 = 0
    · exact .inr ⟨6, nanos / 1000, by decide, by decide, by omega, by omega, by simp [none, millis, micros]⟩
    · exact .inr ⟨9, nanos, by decide, by decide, by omega, by omega, by simp [none, millis, micros]⟩
  obtain rfl | ⟨width, value, some, most, within, rfl, same⟩ := inThrees
  · exact .inl ⟨rfl, rfl⟩
  · refine .inr ⟨lastDigits width value, ?_, readFraction_lastDigits some most within⟩
    obtain ⟨width, rfl⟩ := Nat.exists_eq_succ_of_ne_zero some.ne'
    rw [same, String.toList_append, toList_zeroPadded within]
    rfl

/-! ## Times -/

/-- There are no more characters than octets. -/
theorem length_le_octetLength (text : List Char) : text.length ≤ octetLength text := by
  have grows (start : Nat) : start + text.length ≤ text.foldl (fun length c => length + c.utf8Size) start := by
    induction text generalizing start with
    | nil => exact Nat.le_refl start
    | cons c rest ih =>
      have some := c.utf8Size_pos
      have later := ih (start + c.utf8Size)
      rw [List.foldl_cons, List.length_cons]
      omega
  have all := grows 0
  rwa [Nat.zero_add] at all

/-- The digits of a year of four digits. -/
theorem yearText_eq {year : Int} (least : 0 ≤ year) (greatest : year ≤ 9999) :
    (yearText year).toList = lastDigits 4 year.natAbs := by
  rw [yearText, if_pos ⟨least, greatest⟩, toList_zeroPadded (by omega)]

/-- The parts of a point in time have at most two digits each. -/
theorem Timestamp.parts_bounds (t : Timestamp) :
    t.date.month < 100 ∧ t.date.day < 100 ∧ t.hour < 24 ∧ t.minute < 60 ∧ t.second < 61 := by
  have calendar : t.date.month ≤ 12 ∧ t.date.day ≤ 31 := Date.ofNumber_le _
  have nanos := t.nanosBounded
  have ofDay : t.secondOfDay < 86400 := by
    unfold Timestamp.secondOfDay secondsPerDay
    rw [Int.fmod_eq_emod_of_nonneg _ (by decide)]
    omega
  unfold Timestamp.hour Timestamp.minute Timestamp.second
  omega

/-- The letters of a point in time in a year of four digits. -/
theorem Timestamp.toList_text {t : Timestamp} (least : 0 ≤ t.date.year) (greatest : t.date.year ≤ 9999) :
    t.text.toList = lastDigits 4 t.date.year.natAbs ++ '-' :: (lastDigits 2 t.date.month ++ '-' ::
      (lastDigits 2 t.date.day ++ 'T' :: (lastDigits 2 t.hour ++ ':' :: (lastDigits 2 t.minute ++ ':' ::
        (lastDigits 2 t.second ++ ((fractionText t.fraction).toList ++ noOffset)))))) := by
  have two {value : Nat} (small : value < 100) : (zeroPadded 2 value).toList = lastDigits 2 value :=
    toList_zeroPadded small
  obtain ⟨month, day, hour, minute, second⟩ := t.parts_bounds
  simp only [Timestamp.text, Timestamp.localText, toString, String.toList_append, yearText_eq least greatest,
    two month, two day, two (show t.hour < 100 by omega), two (show t.minute < 100 by omega),
    two (show t.second < 100 by omega), List.append_assoc]
  simp [noOffset]

/-- The parts of a point in time stand at their places, and the decimals and an offset of zero follow. -/
structure Timestamp.Stands (letters : List Char) (date : Date) (hour minute second : Nat) (decimals : String) :
    Prop where
  /-- The letters reach as far as the seconds. -/
  long : ¬octetLength letters < secondsLength
  /-- The year is written in two pairs of digits. -/
  year : pairAt letters 0 = .ok (date.year.natAbs / 100) ∧ pairAt letters 2 = .ok (date.year.natAbs % 100)
  /-- The month follows a dash. -/
  month : charAt letters 4 ['-'] = .ok () ∧ pairAt letters 5 = .ok date.month
  /-- The day follows a dash. -/
  day : charAt letters 7 ['-'] = .ok () ∧ pairAt letters 8 = .ok date.day
  /-- The hour follows the mark between date and time. -/
  hour : charAt letters 10 ['T', 't', ' '] = .ok () ∧ pairAt letters 11 = .ok hour
  /-- The minute follows a colon. -/
  minute : charAt letters 13 [':'] = .ok () ∧ pairAt letters 14 = .ok minute
  /-- The second follows a colon. -/
  second : charAt letters 16 [':'] = .ok () ∧ pairAt letters 17 = .ok second
  /-- The rest is the decimals and the offset. -/
  rest : letters.drop secondsLength = decimals.toList ++ noOffset

/-- The parts of a point in time in a year of four digits stand in its text. -/
theorem Timestamp.stands_text {t : Timestamp} (least : 0 ≤ t.date.year) (greatest : t.date.year ≤ 9999) :
    Stands t.text.toList t.date t.hour t.minute t.second (fractionText t.fraction) := by
  obtain ⟨month, day, hour, minute, second⟩ := t.parts_bounds
  have two (value : Nat) : lastDigits 2 value = [Nat.digitChar (value / 10 % 10), Nat.digitChar (value % 10)] := rfl
  have letters := t.toList_text least greatest
  have long := length_le_octetLength t.text.toList
  rw [lastDigits_four] at letters
  simp only [two, List.cons_append, List.nil_append] at letters
  rw [letters] at long ⊢
  simp only [List.length_cons] at long
  exact {
    long := by unfold secondsLength; omega
    year := ⟨pairAt_eq (by omega) rfl rfl, pairAt_eq (by omega) rfl rfl⟩
    month := ⟨rfl, pairAt_eq month rfl rfl⟩
    day := ⟨rfl, pairAt_eq day rfl rfl⟩
    hour := ⟨rfl, pairAt_eq (by omega) rfl rfl⟩
    minute := ⟨rfl, pairAt_eq (by omega) rfl rfl⟩
    second := ⟨rfl, pairAt_eq (by omega) rfl rfl⟩
    rest := rfl }

/-- There are no blanks around the text of a point in time in a year of four digits. -/
theorem Timestamp.trim_text {t : Timestamp} (least : 0 ≤ t.date.year) (greatest : t.date.year ≤ 9999) :
    Text.trim t.text = t.text := by
  apply Text.trim_eq_self
  · rw [t.toList_text least greatest]
    rintro c ⟨⟩
    have digit (n : Nat) : (Nat.digitChar (n % 10)).isDigit = true := by
      rw [Nat.isDigit_digitChar, decide_eq_true_eq]
      exact Nat.mod_lt n (by decide)
    exact Text.isBlank_of_isDigit (digit _)
  · have last : t.text.toList.getLast? = some '0' := by
      rw [Timestamp.text, String.toList_append, List.getLast?_append]
      rfl
    rw [last]
    rintro c ⟨⟩
    decide

/-- A point in time is read from its parts. -/
theorem Timestamp.read_of_stands {text : String} {date : Date} {hour minute second nanos : Nat}
    (stands : Stands text.toList date hour minute second (fractionText nanos)) (valid : date.isValid = true)
    (year : 0 ≤ date.year) (hours : hour < 24) (minutes : minute < 60) (seconds : second < 61)
    (within : nanos < 1000000000) :
    Timestamp.read text =
      match Timestamp.ofParts? (date.number * secondsPerDay + (hour * 3600 + minute * 60 + min second 59 : Nat))
        ((if second = 60 then 1000000000 else 0) + nanos) with
      | some t => .ok t
      | none => .error .outOfRange := by
  have whole : Date.mk (date.year.natAbs / 100 * 100 + date.year.natAbs % 100 : Nat) date.month date.day = date := by
    rw [Date.mk.injEq]
    omega
  have leap : (if (second == 60) = true then (59, 1000000000) else (second, 0)) =
      (min second 59, if second = 60 then 1000000000 else 0) := by
    by_cases sixty : second = 60
    · rw [sixty]
      rfl
    · rw [if_neg (by simpa using sixty), if_neg sixty, Nat.min_eq_left (by omega)]
  have inTime : (decide (23 < hour) || decide (59 < minute) || decide (59 < min second 59)) = false := by
    simp only [Bool.or_eq_false_iff, decide_eq_false_iff_not]
    omega
  have offset : readOffset ⟨true, true, false⟩ Text.isBlank noOffset = .ok (0, []) := by rfl
  have smallOffset : (decide ((0 : Int) < -greatestOffset) || decide (greatestOffset < 0)) = false := by decide
  unfold Timestamp.read
  simp only [stands.long, if_false, pure_bind, stands.year, stands.month, stands.day, stands.hour, stands.minute,
    stands.second, stands.rest]
  simp only [bind, Except.bind, pure, Except.pure, whole, valid, Bool.not_true, Bool.false_eq_true, if_false]
  rw [leap]
  rcases fractionText_cases within with ⟨empty, rfl⟩ | ⟨digits, point, read⟩
  · rw [empty, String.toList_empty, List.nil_append]
    split
    · rename_i pointed
      exact absurd (List.cons.inj pointed).1 (by decide)
    · simp only [inTime, offset, List.isEmpty_nil, smallOffset, Bool.not_true, Bool.false_eq_true, if_false,
        Int.sub_zero]
      rfl
  · simp only [point, List.cons_append, read, inTime, offset, List.isEmpty_nil, smallOffset, Bool.not_true,
      Bool.false_eq_true, if_false, Int.sub_zero]
    rfl

/-- A point in time is made of its seconds and nanoseconds, and only it is. -/
theorem Timestamp.ofParts?_eq_some_iff {seconds : Int} {nanos : Nat} {t : Timestamp} :
    Timestamp.ofParts? seconds nanos = some t ↔ seconds = t.seconds ∧ nanos = t.nanos := by
  unfold Timestamp.ofParts?
  constructor
  · intro made
    split at made
    · cases made
      exact ⟨rfl, rfl⟩
    · cases made
  · rintro ⟨rfl, rfl⟩
    rw [dif_pos ⟨t.inRange, t.nanosBounded⟩]

/-- A point in time is in no leap second, or in one that ends its minute. A leap second within a minute has no text of
its own: it is written as the second after it. -/
def Timestamp.OnClock (t : Timestamp) : Prop := t.nanos < 1000000000 ∨ t.seconds % 60 = 59

/-- A point in time in a year of four digits is read back from its text, unless it is in a leap second within a minute.
-/
theorem Timestamp.read_text_iff {t : Timestamp} (least : 0 ≤ t.date.year) (greatest : t.date.year ≤ 9999) :
    Timestamp.read t.text = .ok t ↔ t.OnClock := by
  obtain ⟨-, -, hours, minutes, seconds⟩ := t.parts_bounds
  have bounded := t.nanosBounded
  have within : t.fraction < 1000000000 := Nat.mod_lt _ (by decide)
  have days : t.date.number = t.seconds.fdiv secondsPerDay := Date.number_ofNumber _
  have read := read_of_stands (stands_text least greatest) (Date.isValid_ofNumber _) least hours minutes seconds within
  rw [read, days]
  have same (made : Option Timestamp) :
      (match made with | some t => Except.ok t | none => .error TimeFault.outOfRange) = .ok t ↔ made = some t := by
    cases made <;> simp
  rw [same, ofParts?_eq_some_iff, OnClock]
  simp only [Timestamp.hour, Timestamp.minute, Timestamp.second, Timestamp.secondOfDay, Timestamp.fraction,
    secondsPerDay, fdiv_of_pos _ (show (0 : Int) < 86400 by decide),
    Int.fmod_eq_emod_of_nonneg _ (show (0 : Int) ≤ 86400 by decide)]
  split <;> omega

end MessageRouting.Time
