import MessageRouting.Text.Utf8

/-!
# Octets that are UTF-8

A text is read back from its octets, and only octets of a text are read as one.
-/

namespace MessageRouting.Text.Utf8

/-- The octets of characters. -/
def encoded (chars : List Char) : List UInt8 := chars.flatMap String.utf8EncodeChar

@[simp] theorem encoded_nil : encoded [] = [] := rfl

@[simp] theorem encoded_cons (c : Char) (chars : List Char) :
    encoded (c :: chars) = String.utf8EncodeChar c ++ encoded chars := rfl

@[simp] theorem encoded_append (first second : List Char) :
    encoded (first ++ second) = encoded first ++ encoded second :=
  List.flatMap_append

/-- The octets of an array are its items. -/
theorem toList_eq_data (octets : ByteArray) : octets.toList = octets.data.toList := by
  suffices steps : ∀ i reversed, ByteArray.toList.loop octets i reversed =
      reversed.reverse ++ octets.data.toList.drop i from
    steps 0 []
  intro i reversed
  fun_induction ByteArray.toList.loop octets i reversed with
  | case1 i reversed inside later =>
    have here : i < octets.data.toList.length := inside
    rw [later, List.drop_eq_getElem_cons here]
    simp [ByteArray.get!, inside]
  | case2 i reversed outside =>
    have done : octets.data.toList.length ≤ i := Nat.not_lt.mp outside
    rw [List.drop_eq_nil_of_le done, List.append_nil]

/-- Arrays with the same octets are the same. -/
theorem toList_inj {first second : ByteArray} : first.toList = second.toList ↔ first = second := by
  rw [toList_eq_data, toList_eq_data, Array.toList_inj, ByteArray.ext_iff]

/-- The octets of a text are those of its characters. -/
theorem toList_toUTF8 (text : String) : text.toUTF8.toList = encoded text.toList := by
  have same : text.toUTF8 = text.toList.utf8Encode := by
    rw [← String.toByteArray_ofList, String.ofList_toList]
    rfl
  rw [toList_eq_data, same, List.utf8Encode, List.toList_data_toByteArray]
  rfl

/-! ## Reading characters -/

/-- A character of several octets is begun. -/
theorem scan_first {octet : UInt8} {s : Started} (begins : start octet = .inr s) (rest : List UInt8) :
    scan none (octet :: rest) = scan (some s) rest := by
  rw [scan, begins]

section Steps

variable {octet least greatest : UInt8} {n bits seen missing : Nat} (number : octet.toNat = n + 0x80)
  (low : least.toNat ≤ octet.toNat) (high : octet.toNat ≤ greatest.toNat) (rest : List UInt8)

include number low high

/-- A character goes on. -/
theorem scan_next : scan (some ⟨bits, seen, missing + 2, least, greatest⟩) (octet :: rest) =
    scan (some ⟨bits * 64 + n, seen + 1, missing + 1, 0x80, 0xBF⟩) rest := by
  have fits : (least ≤ octet && octet ≤ greatest) = true := by
    rw [Bool.and_eq_true, decide_eq_true_iff, decide_eq_true_iff]
    exact ⟨low, high⟩
  rw [scan, if_pos fits, if_neg (by simp), number, Nat.add_sub_cancel]
  rfl

/-- A character is complete. -/
theorem scan_last : scan (some ⟨bits, seen, 1, least, greatest⟩) (octet :: rest) =
    .char (Char.ofNat (bits * 64 + n)) :: scan none rest := by
  have fits : (least ≤ octet && octet ≤ greatest) = true := by
    rw [Bool.and_eq_true, decide_eq_true_iff, decide_eq_true_iff]
    exact ⟨low, high⟩
  rw [scan, if_pos fits, if_pos (Nat.le_refl _), number, Nat.add_sub_cancel]

end Steps

/-- An octet of a small number. -/
theorem toNat_octet {n : Nat} (small : n < 256) : (UInt8.ofNat n).toNat = n := by
  rw [UInt8.toNat_ofNat', Nat.mod_eq_of_lt small]

/-- The number of a character is below the surrogates or above them. -/
theorem toNat_bounds (c : Char) : c.toNat < 0xD800 ∨ 0xDFFF < c.toNat ∧ c.toNat < 0x110000 := c.valid

/-- How a character of one octet begins. -/
theorem start_one {n : Nat} (small : n < 0x80) : start (UInt8.ofNat n) = .inl (.char (Char.ofNat n)) := by
  rw [start, toNat_octet (by omega), if_pos small]

/-- How a character of two octets begins. -/
theorem start_two {n : Nat} (low : 2 ≤ n) (high : n < 0x20) :
    start (UInt8.ofNat (n + 0xC0)) = .inr ⟨n, 1, 1, 0x80, 0xBF⟩ := by
  rw [start, toNat_octet (by omega), if_neg (by omega), if_neg (by omega), if_pos (by omega), Nat.add_sub_cancel]

/-- How a character of three octets begins. -/
theorem start_three {n : Nat} (high : n < 0x10) :
    start (UInt8.ofNat (n + 0xE0)) =
      .inr ⟨n, 1, 2, if n = 0 then 0xA0 else 0x80, if n = 0xD then 0x9F else 0xBF⟩ := by
  rw [start, toNat_octet (by omega), if_neg (by omega), if_neg (by omega), if_neg (by omega), if_pos (by omega),
    Nat.add_sub_cancel]
  simp

/-- How a character of four octets begins. -/
theorem start_four {n : Nat} (high : n < 5) :
    start (UInt8.ofNat (n + 0xF0)) =
      .inr ⟨n, 1, 3, if n = 0 then 0x90 else 0x80, if n = 4 then 0x8F else 0xBF⟩ := by
  rw [start, toNat_octet (by omega), if_neg (by omega), if_neg (by omega), if_neg (by omega), if_neg (by omega),
    if_pos (by omega), Nat.add_sub_cancel]
  simp

/-- A character is read from its octets. -/
theorem scan_encoded (c : Char) (rest : List UInt8) :
    scan none (String.utf8EncodeChar c ++ rest) = .char c :: scan none rest := by
  have bounds := toNat_bounds c
  have same {n : Nat} (number : n = c.toNat) : Char.ofNat n = c := number ▸ Char.ofNat_toNat c
  have further (n : Nat) : (UInt8.ofNat (n % 64 + 0x80)).toNat = n % 64 + 0x80 := toNat_octet (by omega)
  have low (n : Nat) : (0x80 : UInt8).toNat ≤ (UInt8.ofNat (n % 64 + 0x80)).toNat := by
    rw [further]
    exact Nat.le_add_left _ _
  have high (n : Nat) : (UInt8.ofNat (n % 64 + 0x80)).toNat ≤ (0xBF : UInt8).toNat := by
    rw [further]
    exact Nat.add_le_add_right (Nat.le_of_lt_succ (Nat.mod_lt _ (by decide))) _
  -- The cases are those of the encoding: one to four octets.
  fun_cases String.utf8EncodeChar c with
  | case1 v small =>
    have number : v = c.toNat := rfl
    rw [List.singleton_append, scan, start_one (by omega), same number]
  | case2 v large small =>
    have number : v = c.toNat := rfl
    clear_value v
    have first : v / 64 % 32 = v / 64 := by omega
    rw [List.cons_append, List.singleton_append, first, scan_first (start_two (by omega) (by omega)),
      scan_last (further _) (low _) (high _), same (by omega)]
  | case3 v large larger small =>
    have number : v = c.toNat := rfl
    clear_value v
    have first : v / 4096 % 16 = v / 4096 := by omega
    rw [List.cons_append, List.cons_append, List.singleton_append, first, scan_first (start_three (by omega)),
      scan_next (further _) ?_ ?_, scan_last (further _) (low _) (high _), same (by omega)]
    · split
      · rw [further]
        change 0xA0 ≤ _
        omega
      · exact low _
    · split
      · rw [further]
        change _ ≤ 0x9F
        omega
      · exact high _
  | case4 v large larger largest =>
    have number : v = c.toNat := rfl
    clear_value v
    have first : v / 262144 % 8 = v / 262144 := by omega
    rw [List.cons_append, List.cons_append, List.cons_append, List.singleton_append, first,
      scan_first (start_four (by omega)), scan_next (further _) ?_ ?_, scan_next (further _) (low _) (high _),
      scan_last (further _) (low _) (high _), same (by omega)]
    · split
      · rw [further]
        change 0x90 ≤ _
        omega
      · exact low _
    · split
      · rw [further]
        change _ ≤ 0x8F
        omega
      · exact high _

/-- A text is read from its octets. -/
theorem collect_scan_encoded (chars : List Char) (position : Nat) :
    collect position (scan none (encoded chars)) = .ok chars := by
  induction chars generalizing position with
  | nil => rfl
  | cons c rest later => rw [encoded_cons, scan_encoded, collect, later, Except.map]

/-! ## Octets that are read -/

/-- Octets bring reading to a place inside a character. -/
inductive Began : List UInt8 → Started → Prop
  /-- The first octet does. -/
  | first {octet : UInt8} {s : Started} (begins : start octet = .inr s) : Began [octet] s
  /-- So does an octet that goes on and is not the last one. -/
  | next {before : List UInt8} {s : Started} (began : Began before s) {octet : UInt8}
    (low : s.least.toNat ≤ octet.toNat) (high : octet.toNat ≤ s.greatest.toNat) (more : 1 < s.missing) :
    Began (before ++ [octet]) ⟨s.bits * 64 + (octet.toNat - 0x80), s.seen + 1, s.missing - 1, 0x80, 0xBF⟩

/-- One of two octets is not below the bound of both, and not below that of the first one where it is that one. -/
theorem le_ite {p : Prop} [Decidable p] {m n : Nat} {first second : UInt8} (both : m ≤ first.toNat ∧ n ≤ first.toNat)
    (other : m ≤ second.toNat) :
    m ≤ (if p then first else second).toNat ∧ (p → n ≤ (if p then first else second).toNat) := by
  split
  · exact ⟨both.1, fun _ => both.2⟩
  · exact ⟨other, fun holds => absurd holds ‹_›⟩

/-- One of two octets is not above the bound of both, and not above that of the first one where it is that one. -/
theorem ite_le {p : Prop} [Decidable p] {m n : Nat} {first second : UInt8} (both : first.toNat ≤ m ∧ first.toNat ≤ n)
    (other : second.toNat ≤ m) :
    (if p then first else second).toNat ≤ m ∧ (p → (if p then first else second).toNat ≤ n) := by
  split
  · exact ⟨both.1, fun _ => both.2⟩
  · exact ⟨other, fun holds => absurd holds ‹_›⟩

/-- How a character of several octets can begin. -/
theorem exists_of_start {octet : UInt8} {s : Started} (begins : start octet = .inr s) :
    (octet.toNat = s.bits + 0xC0 ∧ 2 ≤ s.bits ∧ s.bits < 0x20 ∧ s.missing = 1 ∧ 0x80 ≤ s.least.toNat ∧
      s.greatest.toNat ≤ 0xBF) ∨
    (octet.toNat = s.bits + 0xE0 ∧ s.bits < 0x10 ∧ s.missing = 2 ∧
      (0x80 ≤ s.least.toNat ∧ (s.bits = 0 → 0xA0 ≤ s.least.toNat)) ∧
      s.greatest.toNat ≤ 0xBF ∧ (s.bits = 0xD → s.greatest.toNat ≤ 0x9F)) ∨
    (octet.toNat = s.bits + 0xF0 ∧ s.bits < 5 ∧ s.missing = 3 ∧
      (0x80 ≤ s.least.toNat ∧ (s.bits = 0 → 0x90 ≤ s.least.toNat)) ∧
      s.greatest.toNat ≤ 0xBF ∧ (s.bits = 4 → s.greatest.toNat ≤ 0x8F)) := by
  have octetOf {n : Nat} (number : octet.toNat = n) : octet = UInt8.ofNat n := by
    rw [← number, UInt8.ofNat_toNat]
  by_cases ascii : octet.toNat < 0x80
  · simp [start, ascii] at begins
  by_cases lone : octet.toNat < 0xC2
  · simp [start, ascii, lone] at begins
  by_cases two : octet.toNat < 0xE0
  · obtain ⟨n, number⟩ : ∃ n, octet.toNat = n + 0xC0 := ⟨octet.toNat - 0xC0, by omega⟩
    have enough : 2 ≤ n ∧ n < 0x20 := by omega
    rw [octetOf number, start_two enough.1 enough.2] at begins
    obtain rfl := Sum.inr.inj begins
    exact .inl ⟨number, enough.1, enough.2, rfl, Nat.le_refl _, Nat.le_refl _⟩
  by_cases three : octet.toNat < 0xF0
  · obtain ⟨n, number⟩ : ∃ n, octet.toNat = n + 0xE0 := ⟨octet.toNat - 0xE0, by omega⟩
    have small : n < 0x10 := by omega
    rw [octetOf number, start_three small] at begins
    obtain rfl := Sum.inr.inj begins
    refine .inr (.inl ⟨number, small, rfl, ?_, ?_⟩)
    · exact le_ite (by decide) (by decide)
    · exact ite_le (by decide) (by decide)
  by_cases four : octet.toNat < 0xF5
  · obtain ⟨n, number⟩ : ∃ n, octet.toNat = n + 0xF0 := ⟨octet.toNat - 0xF0, by omega⟩
    have small : n < 5 := by omega
    rw [octetOf number, start_four small] at begins
    obtain rfl := Sum.inr.inj begins
    refine .inr (.inr ⟨number, small, rfl, ?_, ?_⟩)
    · exact le_ite (by decide) (by decide)
    · exact ite_le (by decide) (by decide)
  · simp [start, ascii, lone, two, three, four] at begins

/-- At most three octets are missing. -/
theorem Began.missing_le {before : List UInt8} {s : Started} (began : Began before s) : s.missing ≤ 3 := by
  induction began with
  | first begins => rcases exists_of_start begins with two | three | four <;> omega
  | next began _ _ more later => exact Nat.le_trans (Nat.sub_le _ _) later

/-- The number of the character of a number that is no surrogate. -/
theorem toNat_ofNat {n : Nat} (valid : n < 0xD800 ∨ 0xDFFF < n ∧ n < 0x110000) : (Char.ofNat n).val.toNat = n := by
  rw [Char.ofNat, dif_pos valid]
  rfl

/-- The octets of the character that was begun and comes to its last octet. -/
theorem Began.encoding {before : List UInt8} {s : Started} (began : Began before s) {octet : UInt8}
    (low : s.least.toNat ≤ octet.toNat) (high : octet.toNat ≤ s.greatest.toNat) (last : s.missing ≤ 1) :
    String.utf8EncodeChar (Char.ofNat (s.bits * 64 + (octet.toNat - 0x80))) = before ++ [octet] := by
  have octetIs {n : Nat} {octet : UInt8} (number : n = octet.toNat) : UInt8.ofNat n = octet := by
    rw [number, UInt8.ofNat_toNat]
  have least : (0x80 : UInt8).toNat = 0x80 := rfl
  have greatest : (0xBF : UInt8).toNat = 0xBF := rfl
  cases began with
  | first begins =>
    rcases exists_of_start begins with two | three | four
    · rw [String.utf8EncodeChar, toNat_ofNat (by omega), if_neg (by omega), if_pos (by omega), octetIs, octetIs]
      · rfl
      · omega
      · omega
    · omega
    · omega
  | next began under above more =>
    simp only at low high last ⊢
    cases began with
    | first begins =>
      rcases exists_of_start begins with two | three | four
      · omega
      · rw [String.utf8EncodeChar, toNat_ofNat (by omega), if_neg (by omega), if_neg (by omega), if_pos (by omega),
          octetIs, octetIs, octetIs]
        · rfl
        · omega
        · omega
        · omega
      · omega
    | next began less greater further =>
      simp only at under above more last ⊢
      cases began with
      | first begins =>
        rcases exists_of_start begins with two | three | four
        · omega
        · omega
        · rw [String.utf8EncodeChar, toNat_ofNat (by omega), if_neg (by omega), if_neg (by omega), if_neg (by omega),
            octetIs, octetIs, octetIs, octetIs]
          · rfl
          · omega
          · omega
          · omega
          · omega
      | next began =>
        have := began.missing_le
        simp only at further more
        omega

/-- What a single octet is found to be: a character of one octet or a broken piece. -/
theorem encoding_of_start {octet : UInt8} {piece : Piece} (begins : start octet = .inl piece) :
    piece = .broken 1 ∨ ∃ c, piece = .char c ∧ String.utf8EncodeChar c = [octet] := by
  by_cases ascii : octet.toNat < 0x80
  · rw [start, if_pos ascii] at begins
    refine .inr ⟨Char.ofNat octet.toNat, (Sum.inl.inj begins).symm, ?_⟩
    rw [String.utf8EncodeChar, toNat_ofNat (by omega), if_pos (by omega), UInt8.ofNat_toNat]
  · simp only [start, if_neg ascii] at begins
    repeat' split at begins
    all_goals first
      | exact .inl (Sum.inl.inj begins).symm
      | cases begins

/-- Pieces that begin with a character are a text if the others are. -/
theorem exists_of_collect_char {position : Nat} {c : Char} {pieces : List Piece} {chars : List Char}
    (read : collect position (.char c :: pieces) = .ok chars) :
    ∃ rest, chars = c :: rest ∧ collect (position + c.utf8Size) pieces = .ok rest := by
  rw [collect] at read
  cases later : collect (position + c.utf8Size) pieces with
  | error fault =>
    rw [later] at read
    cases read
  | ok rest =>
    rw [later] at read
    cases read
    exact ⟨rest, rfl, rfl⟩

/-- Octets that are read as characters, from the start or from inside a character, are those of the characters. -/
theorem encoded_of_collect_scan (octets : List UInt8) : ∀ (position : Nat) (chars : List Char),
    (collect position (scan none octets) = .ok chars → octets = encoded chars) ∧
    ∀ before s, Began before s → collect position (scan (some s) octets) = .ok chars →
      before ++ octets = encoded chars := by
  induction octets with
  | nil =>
    intro position chars
    refine ⟨fun read => ?_, fun before s began read => nomatch read⟩
    cases read
    rfl
  | cons octet rest later =>
    intro position chars
    constructor
    · intro read
      cases begins : start octet with
      | inl piece =>
        rw [scan, begins] at read
        obtain rfl | ⟨c, rfl, single⟩ := encoding_of_start begins
        · cases read
        · obtain ⟨others, rfl, more⟩ := exists_of_collect_char read
          rw [encoded_cons, single, (later _ _).1 more, List.singleton_append]
      | inr s =>
        rw [scan_first begins] at read
        exact (later _ _).2 [octet] s (.first begins) read
    · intro before s began read
      rw [scan] at read
      split at read
      · rename_i fits
        rw [Bool.and_eq_true, decide_eq_true_iff, decide_eq_true_iff] at fits
        obtain ⟨low, high⟩ := fits
        rw [List.append_cons]
        split at read
        · rename_i last
          obtain ⟨others, rfl, more⟩ := exists_of_collect_char read
          rw [encoded_cons, began.encoding low high last, (later _ _).1 more]
        · rename_i more
          exact (later _ _).2 _ _ (began.next low high (Nat.not_le.mp more)) read
      · cases read

/-- Octets are read as a text just if they are those of the text. -/
theorem decode_eq_ok_iff {octets : ByteArray} {text : String} : decode octets = .ok text ↔ text.toUTF8 = octets := by
  constructor
  · intro read
    rw [decode, pieces] at read
    cases found : collect 0 (scan none octets.toList) with
    | error fault =>
      rw [found] at read
      cases read
    | ok chars =>
      rw [found] at read
      cases read
      have same := (encoded_of_collect_scan octets.toList 0 chars).1 found
      rw [← toList_inj, same, toList_toUTF8, String.toList_ofList]
  · rintro rfl
    rw [decode, pieces, toList_toUTF8, collect_scan_encoded, Except.map, String.ofList_toList]

/-- Octets are read as a text just if they are valid. -/
theorem decode_eq_ok_iff_fromUTF8? {octets : ByteArray} {text : String} :
    decode octets = .ok text ↔ String.fromUTF8? octets = some text := by
  rw [decode_eq_ok_iff, String.fromUTF8?]
  constructor
  · rintro rfl
    have valid : text.toUTF8.IsValidUTF8 := text.isValidUTF8
    rw [dif_pos valid]
    rfl
  · intro valid
    split at valid
    · cases valid
      rfl
    · cases valid

end MessageRouting.Text.Utf8
