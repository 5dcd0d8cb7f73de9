import MessageRouting.Json.Number
import MessageRouting.Proofs.Text.Utf8

/-!
# Whole numbers that are written and read

A whole number below 2^64 is read back from its decimal digits, if what follows them does not go on as a number.
-/

namespace MessageRouting.Json

open Text.Utf8

/-- The octets do not go on with a number. -/
def EndsNumber : List UInt8 → Prop
  | [] => True
  | octet :: _ => decimal? octet = none ∧ octet ≠ 0x2E ∧ octet ≠ 0x65 ∧ octet ≠ 0x45

/-- The number of digits that follow a number. -/
def extended (value : Nat) (digits : List Nat) : Nat := digits.foldl (fun value digit => value * 10 + digit) value

/-- Digits are those of a number, without a leading zero. -/
structure AreDigits (m : Nat) (digits : List Nat) : Prop where
  /-- They are written as the number is. -/
  octets : encoded (Nat.toDigits 10 m) = digits.map fun digit => UInt8.ofNat (0x30 + digit)
  /-- Each is below ten. -/
  small : ∀ digit ∈ digits, digit < 10
  /-- There are some. -/
  some : digits ≠ []
  /-- A zero comes first only where it is all. -/
  leading : ∀ others, digits = 0 :: others → others = []
  /-- They come to the number. -/
  value : extended 0 digits = m

/-- A digit is one octet. -/
theorem encode_digitChar : ∀ digit < 10, String.utf8EncodeChar (Nat.digitChar digit) = [UInt8.ofNat (0x30 + digit)] := by
  decide

/-- Every number has its digits. -/
theorem exists_digits (m : Nat) : ∃ digits, AreDigits m digits := by
  induction m using Nat.strongRecOn with
  | ind m earlier =>
    by_cases single : m < 10
    · refine ⟨[m], ?_, by simpa using single, List.cons_ne_nil _ _, ?_, by simp [extended]⟩
      · rw [Nat.toDigits_of_lt_base single, encoded_cons, encode_digitChar m single, encoded_nil]
        rfl
      · rintro others ⟨⟩
        rfl
    · obtain ⟨digits, are⟩ := earlier (m / 10) (by omega)
      have last : m % 10 < 10 := Nat.mod_lt _ (by decide)
      refine ⟨digits ++ [m % 10], ?_, ?_, ?_, ?_, ?_⟩
      · rw [Nat.toDigits_of_base_le (by decide) (Nat.not_lt.mp single), encoded_append, are.octets, encoded_cons,
          encode_digitChar _ last, encoded_nil, List.map_append]
        rfl
      · exact List.forall_mem_append.mpr ⟨are.small, List.forall_mem_singleton.mpr last⟩
      · exact List.append_ne_nil_of_right_ne_nil _ (List.cons_ne_nil _ _)
      · -- If the digits but the last one began with a zero, they would come to nothing.
        intro others same
        rcases List.append_eq_cons_iff.mp same with ⟨none, _⟩ | ⟨more, rfl, _⟩
        · exact absurd none are.some
        · obtain rfl := are.leading more rfl
          have := are.value
          simp only [extended, List.foldl_cons, List.foldl_nil] at this
          omega
      · have before := are.value
        rw [extended] at before ⊢
        rw [List.foldl_append, before, List.foldl_cons, List.foldl_nil]
        omega

/-- The digits at the start of octets are cut off. -/
theorem cutDigits_append {digits : List Nat} (small : ∀ digit ∈ digits, digit < 10) {rest : List UInt8}
    (ends : EndsNumber rest) :
    cutDigits ((digits.map fun digit => UInt8.ofNat (0x30 + digit)) ++ rest) = (digits, rest) := by
  have read : ∀ digit < 10, decimal? (UInt8.ofNat (0x30 + digit)) = some digit := by decide
  induction digits with
  | nil =>
    cases rest with
    | nil => rfl
    | cons octet more => simp [cutDigits, ends.1]
  | cons digit others later =>
    obtain ⟨first, more⟩ := List.forall_mem_cons.mp small
    have cut := later more
    simp only [cutDigits, Prod.mk.injEq] at cut ⊢
    simp only [List.map_cons, List.cons_append, List.takeWhile_cons, List.dropWhile_cons, read digit first,
      Option.isSome_some, if_true, List.filterMap_cons, cut, and_self]

/-- A number is not above the same number with more digits. -/
theorem le_extended (value : Nat) (digits : List Nat) : value ≤ extended value digits := by
  induction digits generalizing value with
  | nil => exact Nat.le_refl _
  | cons digit others later => exact Nat.le_trans (by omega) (later (value * 10 + digit))

/-- All digits of a number below 2^64 are taken. -/
theorem gather_eq {value : Nat} {digits : List Nat} (fits : extended value digits < 18446744073709551616) :
    gather value digits = (extended value digits, 0) := by
  induction digits generalizing value with
  | nil => rfl
  | cons digit others later =>
    have below := le_extended (value * 10 + digit) others
    rw [gather, if_pos (Nat.lt_of_le_of_lt below fits)]
    exact later fits

/-- A number is read back from its digits. -/
theorem readNumber_digits (negative : Bool) {m : Nat} (fits : m < 18446744073709551616) {rest : List UInt8}
    (ends : EndsNumber rest) :
    readNumber negative (encoded (Nat.toDigits 10 m) ++ rest) = .ok (wholeNumber negative m, rest) := by
  obtain ⟨digits, are⟩ := exists_digits m
  rw [are.octets]
  have cut := cutDigits_append are.small ends
  have whole : readTail negative m 0 rest = .ok (wholeNumber negative m, rest) := by
    cases rest with
    | nil => rfl
    | cons octet more =>
      obtain ⟨_, point, small, large⟩ := ends
      rw [readTail]
      · rfl
      · rintro _ ⟨⟩
        exact point rfl
      · rintro _ ⟨⟩
        exact small rfl
      · rintro _ ⟨⟩
        exact large rfl
  have gathered : gather 0 digits = (m, 0) := by
    rw [gather_eq (are.value ▸ fits), are.value]
  unfold readNumber
  rw [cut]
  split
  · rename_i none _
    exact absurd (Prod.mk.inj none).1 are.some
  · rename_i none _
    exact absurd (Prod.mk.inj none).1 are.some
  · rename_i leading
    exact nomatch are.leading _ (Prod.mk.inj leading).1
  · rename_i same _ _
    obtain ⟨rfl, rfl⟩ := Prod.mk.inj same
    rw [gathered]
    exact whole

end MessageRouting.Json
