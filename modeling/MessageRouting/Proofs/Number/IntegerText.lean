import MessageRouting.Number.IntegerText
import MessageRouting.Text.Property

/-!
# Integers that are read back

Digits are read onto a value, with either sign, as far as the bounds go. So each integer of 64 bits is read back from
its text, the least one included, whose digits alone would be beyond the bounds.
-/

namespace MessageRouting

namespace Number

/-! ## Digits -/

/-- A decimal digit has its value. -/
theorem digit?_of_isDigit {c : Char} (digit : c.isDigit = true) : digit? c = some (c.toNat - '0'.toNat) := by
  simp only [Char.isDigit, Bool.and_eq_true, decide_eq_true_eq] at digit
  exact if_pos digit

/-- The characters of a number are digits. -/
theorem isDigit_of_mem_toDigits {n : Nat} : ∀ c ∈ Nat.toDigits 10 n, c.isDigit = true :=
  fun _ => Nat.isDigit_of_mem_toDigits (by decide) (by decide)

/-- More digits never make a number less. -/
theorem le_ofDigitChars (value : Nat) (digits : List Char) : value ≤ Nat.ofDigitChars 10 digits value := by
  induction digits generalizing value with
  | nil => exact Nat.le_refl value
  | cons c rest later =>
    rw [Nat.ofDigitChars_cons]
    exact Nat.le_trans (by omega) (later _)

/-- Digits with a sign that stay within the bounds are read. -/
theorem readDigits_digits {bounds : Bounds} (zero : bounds.least ≤ 0 ∧ 0 ≤ bounds.greatest) {sign : Int}
    (unit : sign = 1 ∨ sign = -1) {digits : List Char} (all : ∀ c ∈ digits, c.isDigit = true) {value : Nat}
    (fits : bounds.least ≤ sign * Nat.ofDigitChars 10 digits value ∧
      sign * Nat.ofDigitChars 10 digits value ≤ bounds.greatest) :
    readDigits bounds sign (sign * value) digits = .ok (sign * Nat.ofDigitChars 10 digits value) := by
  induction digits generalizing value with
  | nil => rfl
  | cons c rest later =>
    obtain ⟨first, more⟩ := List.forall_mem_cons.mp all
    rw [Nat.ofDigitChars_cons] at fits ⊢
    have grows := le_ofDigitChars (10 * value + (c.toNat - '0'.toNat)) rest
    have next : sign * (value : Int) * 10 + sign * ((c.toNat - '0'.toNat : Nat) : Int) =
        sign * (10 * value + (c.toNat - '0'.toNat) : Nat) := by
      rcases unit with rfl | rfl <;> omega
    have within : bounds.least ≤ sign * (10 * value + (c.toNat - '0'.toNat) : Nat) ∧
        sign * (10 * value + (c.toNat - '0'.toNat) : Nat) ≤ bounds.greatest := by
      rcases unit with rfl | rfl <;> omega
    simp only [readDigits, digit?_of_isDigit first, next]
    rw [if_neg (Int.not_lt.mpr within.2), if_neg (Int.not_lt.mpr within.1)]
    exact later more fits

/-- Digits without a sign are read as they are. -/
theorem readInteger_digits (bounds : Bounds) {digits : List Char} (some : digits ≠ [])
    (all : ∀ c ∈ digits, c.isDigit = true) : readInteger bounds digits = readDigits bounds 1 0 digits := by
  unfold readInteger
  split
  · contradiction
  all_goals
    first
    | rfl
    | exact absurd (all _ List.mem_cons_self) (by decide)

/-- Digits after a minus sign are read downwards. -/
theorem readInteger_minus {digits : List Char} (some : digits ≠ []) :
    readInteger .signed64 ('-' :: digits) = readDigits .signed64 (-1) 0 digits := by
  obtain ⟨c, rest, rfl⟩ := List.exists_cons_of_ne_nil some
  rfl

/-! ## Integers and their texts -/

/-- The decimal digits of a whole number, after a sign where it is negative. -/
theorem toList_toString (n : Int) :
    (toString n).toList = if n < 0 then '-' :: Nat.toDigits 10 n.natAbs else Nat.toDigits 10 n.natAbs := by
  cases n with
  | ofNat m =>
    have positive : ¬Int.ofNat m < 0 := Int.not_lt.mpr (Int.natCast_nonneg m)
    rw [if_neg positive]
    exact (congrArg String.toList Nat.repr_eq_ofList_toDigits).trans String.toList_ofList
  | negSucc m =>
    have written : toString (Int.negSucc m) = "-" ++ (m + 1).repr := rfl
    rw [if_pos (Int.negSucc_lt_zero m), written, String.toList_append, Nat.repr_eq_ofList_toDigits]
    exact congrArg ('-' :: ·) String.toList_ofList

/-- The digits of an integer of 64 bits are read as the integer, with its sign. -/
theorem readDigits_toDigits (i : Int64) {sign : Int} (unit : sign = 1 ∨ sign = -1)
    (signed : sign * i.toInt.natAbs = i.toInt) :
    readDigits .signed64 sign 0 (Nat.toDigits 10 i.toInt.natAbs) = .ok i.toInt := by
  have value : Nat.ofDigitChars 10 (Nat.toDigits 10 i.toInt.natAbs) 0 = i.toInt.natAbs :=
    Nat.ofDigitChars_toDigits (by decide) (by decide)
  have least := i.le_toInt
  have greatest := i.toInt_lt
  have read : readDigits .signed64 sign (sign * (0 : Nat)) (Nat.toDigits 10 i.toInt.natAbs) = _ :=
    readDigits_digits (by decide) unit isDigit_of_mem_toDigits
      (by rw [value, signed]; simp only [Bounds.signed64]; omega)
  rwa [value, signed, Int.natCast_zero, Int.mul_zero] at read

/-- An integer of 64 bits is read back from its text. -/
theorem readInt64_toString (i : Int64) : readInt64 (toString i.toInt) = .ok i := by
  have integer : readInteger .signed64 (toString i.toInt).toList = .ok i.toInt := by
    rw [toList_toString]
    by_cases negative : i.toInt < 0
    · rw [if_pos negative, readInteger_minus Nat.toDigits_ne_nil]
      exact readDigits_toDigits i (.inr rfl) (by omega)
    · rw [if_neg negative, readInteger_digits _ Nat.toDigits_ne_nil isDigit_of_mem_toDigits]
      exact readDigits_toDigits i (.inl rfl) (by omega)
  rw [readInt64, integer]
  exact congrArg Except.ok i.ofInt_toInt

end Number

/-! ## Blanks around texts -/

namespace Text

/-- A text that neither begins nor ends with a blank is not shortened. -/
theorem trim_eq_self {text : String} (first : ∀ c ∈ text.toList.head?, isBlank c = false)
    (last : ∀ c ∈ text.toList.getLast?, isBlank c = false) : trim text = text := by
  have kept : ∀ letters : List Char,
      (∀ c ∈ letters.head?, isBlank c = false) → letters.dropWhile isBlank = letters := by
    rintro (_ | ⟨c, rest⟩) visible
    · rfl
    · exact List.dropWhile_cons_of_neg (Bool.eq_false_iff.mp (visible c rfl))
  rw [← List.head?_reverse] at last
  rw [trim, trimLeft, trimRight, kept _ first, kept _ last, List.reverse_reverse, String.ofList_toList]

/-- No digit is a blank. -/
theorem isBlank_of_isDigit {c : Char} (digit : c.isDigit = true) : isBlank c = false := by
  have visible : ∀ code < 58, 48 ≤ code → isBlank (Char.ofNat code) = false := by decide
  simp only [Char.isDigit, Bool.and_eq_true, decide_eq_true_eq] at digit
  have bounds : 48 ≤ c.toNat ∧ c.toNat ≤ 57 := digit
  rw [← c.ofNat_toNat]
  exact visible c.toNat (by omega) bounds.1

/-- There are no blanks around the text of an integer. -/
theorem trim_toString (n : Int) : trim (toString n) = toString n := by
  have visible : ∀ c ∈ (toString n).toList, isBlank c = false := by
    have digits : ∀ c ∈ Nat.toDigits 10 n.natAbs, isBlank c = false :=
      fun c listed => isBlank_of_isDigit (Number.isDigit_of_mem_toDigits c listed)
    rw [Number.toList_toString]
    split
    · exact List.forall_mem_cons.mpr ⟨by decide, digits⟩
    · exact digits
  exact trim_eq_self (fun c listed => visible c (List.mem_of_mem_head? listed))
    (fun c listed => visible c (List.mem_of_mem_getLast? listed))

end Text

end MessageRouting
