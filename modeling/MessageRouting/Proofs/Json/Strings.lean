import MessageRouting.Json.Printer
import MessageRouting.Json.Text
import MessageRouting.Proofs.Text.Utf8

/-!
# Strings that are written and read

A string is read back from its written form, whatever characters it has: each of them is read back from its escape or
from its octets.
-/

namespace MessageRouting.Json

open Text.Utf8

/-- An octet that stands for itself inside a string. -/
def StandsForItself (octet : UInt8) : Prop := octet ≠ 0x22 ∧ octet ≠ 0x5C ∧ 0x20 ≤ octet.toNat

/-- Octets that stand for themselves are taken over. -/
theorem scanString_plain {octets : List UInt8} (plain : ∀ octet ∈ octets, StandsForItself octet)
    (reversed rest : List UInt8) :
    scanString 0 reversed (octets ++ rest) = scanString 0 (octets.reverse ++ reversed) rest := by
  induction octets generalizing reversed with
  | nil => rfl
  | cons octet others later =>
    obtain ⟨⟨quote, backslash, printed⟩, more⟩ := List.forall_mem_cons.mp plain
    have visible : ¬octet < 0x20 := UInt8.not_lt.mpr (UInt8.le_iff_toNat_le.mpr printed)
    rw [List.cons_append, scanString, if_neg (by simpa using quote), if_neg (by simpa using backslash),
      if_neg visible, later more, List.reverse_cons, List.append_assoc, List.singleton_append]

/-- Octets of an escape that were read already are passed over. -/
theorem scanString_inside (octets reversed rest : List UInt8) :
    scanString octets.length reversed (octets ++ rest) = scanString 0 reversed rest := by
  induction octets with
  | nil => rfl
  | cons octet others later => rw [List.length_cons, List.cons_append, scanString, later]

/-- An escape is read as what it stands for. -/
theorem scanString_escape {octets stands rest : List UInt8}
    (reads : readEscape (octets ++ rest) = .ok (stands, octets.length)) (reversed : List UInt8) :
    scanString 0 reversed (0x5C :: octets ++ rest) = scanString 0 (stands.reverse ++ reversed) rest := by
  rw [List.cons_append, scanString, if_neg (by decide), if_pos (by decide), reads]
  exact scanString_inside octets _ rest

/-- The octets of a character are its number or none of those of ASCII. -/
theorem octets_of_char (c : Char) : ∀ octet ∈ String.utf8EncodeChar c, octet.toNat = c.toNat ∨ 0x80 ≤ octet.toNat := by
  have high {n : Nat} (low : 0x80 ≤ n) (small : n < 0x100) : 0x80 ≤ (UInt8.ofNat n).toNat := by
    rwa [toNat_octet small]
  rw [String.utf8EncodeChar]
  split
  · intro octet member
    rw [List.mem_singleton.mp member, toNat_octet (by omega)]
    exact .inl rfl
  · split
    · simp only [List.forall_mem_cons, List.not_mem_nil, false_imp_iff, implies_true, and_true]
      exact ⟨.inr (high (by omega) (by omega)), .inr (high (by omega) (by omega))⟩
    · split
      · simp only [List.forall_mem_cons, List.not_mem_nil, false_imp_iff, implies_true, and_true]
        exact ⟨.inr (high (by omega) (by omega)), .inr (high (by omega) (by omega)), .inr (high (by omega) (by omega))⟩
      · simp only [List.forall_mem_cons, List.not_mem_nil, false_imp_iff, implies_true, and_true]
        exact ⟨.inr (high (by omega) (by omega)), .inr (high (by omega) (by omega)), .inr (high (by omega) (by omega)),
          .inr (high (by omega) (by omega))⟩

/-- The escape by number of each control has four digits, which are the number of the control. -/
theorem hexDigits_of_control : ∀ n < 0x20,
    let digits := encoded ('0' :: '0' :: Number.hexPair n.toUInt8)
    digits.length = 4 ∧ Number.numberIn? 16 (digits.map fun octet => Char.ofNat octet.toNat) = some n := by
  decide

/-- The escape by number of a control is read back. -/
theorem readEscape_control {n : Nat} (small : n < 0x20) (rest : List UInt8) :
    readEscape (0x75 :: encoded ('0' :: '0' :: Number.hexPair n.toUInt8) ++ rest) = .ok (octetsOf n, 5) := by
  obtain ⟨four, number⟩ := hexDigits_of_control n small
  generalize encoded ('0' :: '0' :: Number.hexPair n.toUInt8) = digits at *
  match digits, four with
  | [a, b, c, d], _ =>
    have unit : codeUnit (a :: b :: c :: d :: rest) = .ok n := by rw [codeUnit, number]
    have low : ¬(0xDC00 ≤ n ∧ n ≤ 0xDFFF) := by omega
    have high : ¬(0xD800 ≤ n ∧ n ≤ 0xDBFF) := by omega
    simp only [List.cons_append, List.nil_append, readEscape, unit, if_neg low, if_neg high]

/-- The octets of the number of a character are its own. -/
theorem octetsOf_toNat (c : Char) : octetsOf c.toNat = String.utf8EncodeChar c := by
  rw [octetsOf, Char.ofNat_toNat, toList_toUTF8, String.toList_singleton, encoded_cons, encoded_nil, List.append_nil]

/-- The characters with an escape by letter. -/
def shortlyEscaped : List Char := ['"', '\\', '\x08', '\x0c', '\n', '\r', '\t']

/-- All other characters are written by number or as they are. -/
theorem escapeChar_of_not_mem {c : Char} (others : c ∉ shortlyEscaped) :
    escapeChar c = if c.toNat < 0x20 then '\\' :: 'u' :: '0' :: '0' :: Number.hexPair c.toNat.toUInt8 else [c] := by
  simp only [shortlyEscaped, List.mem_cons, List.not_mem_nil, or_false, not_or] at others
  obtain ⟨quote, backslash, back, feed, line, return_, tab⟩ := others
  simp only [escapeChar, beq_iff_eq, quote, backslash, back, feed, line, return_, tab, if_false]
  rfl

/-- Each character of a string is read back. -/
theorem scanString_escapeChar (c : Char) (reversed rest : List UInt8) :
    scanString 0 reversed (encoded (escapeChar c) ++ rest) =
      scanString 0 ((String.utf8EncodeChar c).reverse ++ reversed) rest := by
  by_cases short : c ∈ shortlyEscaped
  · have letter {octet : UInt8} (reads : readEscape ([octet] ++ rest) = .ok (String.utf8EncodeChar c, [octet].length)) :
        scanString 0 reversed ([0x5C, octet] ++ rest) = scanString 0 ((String.utf8EncodeChar c).reverse ++ reversed) rest :=
      scanString_escape reads reversed
    simp only [shortlyEscaped, List.mem_cons, List.not_mem_nil, or_false] at short
    rcases short with rfl | rfl | rfl | rfl | rfl | rfl | rfl <;> exact letter rfl
  · rw [escapeChar_of_not_mem short]
    simp only [shortlyEscaped, List.mem_cons, List.not_mem_nil, or_false, not_or] at short
    split
    · rename_i control
      have reads := readEscape_control control rest
      have four := (hexDigits_of_control _ control).1
      rw [octetsOf_toNat, ← show (0x75 :: encoded ('0' :: '0' :: Number.hexPair c.toNat.toUInt8)).length = 5 from
        congrArg (· + 1) four] at reads
      exact scanString_escape reads reversed
    · rename_i printed
      rw [encoded_cons, encoded_nil, List.append_nil]
      refine scanString_plain (fun octet member => ?_) reversed rest
      have number := octets_of_char c octet member
      refine ⟨?_, ?_, by omega⟩
      · rintro rfl
        exact short.1 (Char.toNat_inj.mp (number.resolve_right (by decide)).symm)
      · rintro rfl
        exact short.2.1 (Char.toNat_inj.mp (number.resolve_right (by decide)).symm)

/-- A string is read back. -/
theorem readString_quoted (text : String) (rest : List UInt8) :
    readString (encoded (text.toList.flatMap escapeChar) ++ 0x22 :: rest) = .ok (text, rest) := by
  have scanned (chars : List Char) (reversed : List UInt8) :
      scanString 0 reversed (encoded (chars.flatMap escapeChar) ++ 0x22 :: rest) =
        .ok ((encoded chars).reverse ++ reversed, rest) := by
    induction chars generalizing reversed with
    | nil => rfl
    | cons c others later =>
      rw [List.flatMap_cons, encoded_append, List.append_assoc, scanString_escapeChar, later, encoded_cons,
        List.reverse_append, List.append_assoc]
  have octets : (⟨(encoded text.toList).toArray⟩ : ByteArray) = text.toUTF8 := by
    rw [← toList_inj, toList_toUTF8, toList_eq_data]
  rw [readString, scanned, List.append_nil]
  simp only [List.reverse_reverse, octets]
  rw [decode_eq_ok_iff.mpr rfl]

end MessageRouting.Json
