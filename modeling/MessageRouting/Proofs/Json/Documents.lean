import MessageRouting.Json.Parser
import MessageRouting.Proofs.Json.Numbers
import MessageRouting.Proofs.Json.Strings
import MessageRouting.Proofs.Number.IntegerText

/-!
# Documents that are written and read

A document without floats is read back from its text in either layout, if it is nested no deeper than documents may be.
What is shown of a document is shown of its items and members first: its text at any depth, with anything behind it that
does not go on with a number, is read as the document, and reading stops where the text ends.
-/

namespace MessageRouting.Json

open Text.Utf8

/-- What holds of the items of lists and the members of objects before it holds of them holds of all documents. -/
theorem induct {motive : Json → Prop} (null : motive null) (bool : ∀ b, motive (bool b))
    (integer : ∀ n, motive (integer n)) (float : ∀ x, motive (float x)) (string : ∀ text, motive (string text))
    (array : ∀ items, (∀ item ∈ items, motive item) → motive (array items))
    (object : ∀ members, (∀ member ∈ members, motive member.2) → motive (object members)) (json : Json) :
    motive json :=
  Json.rec null bool integer float string (fun items each => array items each) (fun members each => object members each)
    (fun _ member => nomatch member) (fun _ _ first others => List.forall_mem_cons.mpr ⟨first, others⟩)
    (fun _ member => nomatch member) (fun _ _ first others => List.forall_mem_cons.mpr ⟨first, others⟩)
    (fun _ _ inside => inside) json

mutual

/-- How deep lists and objects are nested in a document. -/
def depth : Json → Nat
  | array items => depthOfItems items + 1
  | object members => depthOfMembers members + 1
  | _ => 0

/-- How deep they are nested in items. -/
def depthOfItems : List Json → Nat
  | [] => 0
  | item :: rest => max item.depth (depthOfItems rest)

/-- How deep they are nested in members. -/
def depthOfMembers : List (String × Json) → Nat
  | [] => 0
  | (_, item) :: rest => max item.depth (depthOfMembers rest)

end

/-- Items are not nested deeper than all of them together. -/
theorem depthOfItems_le_iff {items : List Json} {n : Nat} : depthOfItems items ≤ n ↔ ∀ item ∈ items, item.depth ≤ n := by
  induction items with
  | nil => simp [depthOfItems]
  | cons item rest later => rw [depthOfItems, Nat.max_le, later, List.forall_mem_cons]

/-- Members are not nested deeper than all of them together. -/
theorem depthOfMembers_le_iff {members : List (String × Json)} {n : Nat} :
    depthOfMembers members ≤ n ↔ ∀ member ∈ members, member.2.depth ≤ n := by
  induction members with
  | nil => simp [depthOfMembers]
  | cons member rest later => rw [depthOfMembers, Nat.max_le, later, List.forall_mem_cons]

mutual

/-- A document is kept exactly by its text: it holds no floats, its whole numbers are within the bounds of reading, and
the members of its objects are in order. -/
def Exact : Json → Prop
  | float _ => False
  | integer n => -9223372036854775808 ≤ n ∧ n < 18446744073709551616
  | array items => ExactItems items
  | object members => Table.Sorted members ∧ ExactMembers members
  | _ => True

/-- All items are kept exactly. -/
def ExactItems : List Json → Prop
  | [] => True
  | item :: rest => item.Exact ∧ ExactItems rest

/-- All members are kept exactly. -/
def ExactMembers : List (String × Json) → Prop
  | [] => True
  | (_, item) :: rest => item.Exact ∧ ExactMembers rest

end

/-- Items are kept exactly if each of them is. -/
theorem exactItems_iff {items : List Json} : ExactItems items ↔ ∀ item ∈ items, item.Exact := by
  induction items with
  | nil => simp [ExactItems]
  | cons item rest later => simp [ExactItems, later]

/-- Members are kept exactly if each of them is. -/
theorem exactMembers_iff {members : List (String × Json)} : ExactMembers members ↔ ∀ member ∈ members, member.2.Exact := by
  induction members with
  | nil => simp [ExactMembers]
  | cons member rest later => simp [ExactMembers, later]

/-! ## The places of items -/

/-- What is written behind the first item: each further one behind a comma, and the bracket that closes them. -/
def behind (layout : Layout) (depth : Nat) (right : Char) (items : List (List Char)) : List Char :=
  (items.flatMap fun item => ',' :: (layout.lineStart (depth + 1) ++ item)) ++ (layout.lineStart depth ++ [right])

/-- What stands between brackets is the first item and what is behind it. -/
theorem bracketed_cons (layout : Layout) (depth : Nat) (left right : Char) (first : List Char)
    (rest : List (List Char)) :
    bracketed layout depth left right (first :: rest) =
      left :: (layout.lineStart (depth + 1) ++ (first ++ behind layout depth right rest)) := by
  have joined : [','].intercalate ((first :: rest).map (layout.lineStart (depth + 1) ++ ·)) =
      layout.lineStart (depth + 1) ++
        (first ++ rest.flatMap fun item => ',' :: (layout.lineStart (depth + 1) ++ item)) := by
    induction rest generalizing first with
    | nil => simp [List.intercalate]
    | cons second rest later =>
      have next := later second
      simp only [List.intercalate, List.map_cons, List.intersperse_cons_cons, List.flatten_cons] at next ⊢
      rw [next]
      simp
  rw [bracketed, joined]
  · simp [behind]
  · rintro ⟨⟩

section Octets

variable (layout : Layout) (depth : Nat)

/-- The octets behind the first item where there is a further one. -/
theorem encoded_behind_cons (right : Char) (first : List Char) (rest : List (List Char)) :
    encoded (behind layout depth right (first :: rest)) =
      0x2C :: (encoded (layout.lineStart (depth + 1)) ++ (encoded first ++ encoded (behind layout depth right rest))) := by
  rw [behind, List.flatMap_cons, List.append_assoc, List.cons_append, encoded_cons, List.append_assoc,
    encoded_append, encoded_append]
  rfl

/-- The octets between brackets where there is an item. -/
theorem encoded_bracketed_cons {left : Char} {bracket : UInt8} (single : String.utf8EncodeChar left = [bracket])
    (right : Char) (first : List Char) (rest : List (List Char)) :
    encoded (bracketed layout depth left right (first :: rest)) =
      bracket :: (encoded (layout.lineStart (depth + 1)) ++
        (encoded first ++ encoded (behind layout depth right rest))) := by
  rw [bracketed_cons, encoded_cons, single, encoded_append, encoded_append]
  rfl

/-- Something is behind the first item. -/
theorem behind_pos (right : Char) (items : List (List Char)) : 0 < (encoded (behind layout depth right items)).length := by
  have bracket : 0 < (encoded [right]).length := by
    rw [encoded_cons, encoded_nil, List.append_nil]
    exact List.length_pos_iff.mpr String.utf8EncodeChar_ne_nil
  rw [behind, encoded_append, encoded_append, List.length_append, List.length_append]
  omega

end Octets

/-- Blanks before octets are left out. -/
theorem skipBlanks_append {blanks : List UInt8} (blank : ∀ octet ∈ blanks, isBlank octet = true) (rest : List UInt8) :
    skipBlanks (blanks ++ rest) = skipBlanks rest := by
  induction blanks with
  | nil => rfl
  | cons octet others later =>
    obtain ⟨first, more⟩ := List.forall_mem_cons.mp blank
    rw [skipBlanks, List.cons_append, List.dropWhile_cons_of_pos first]
    exact later more

/-- What stands before an item is blank. -/
theorem blank_lineStart (layout : Layout) (depth : Nat) : ∀ octet ∈ encoded (layout.lineStart depth), isBlank octet = true := by
  cases layout with
  | compact => exact fun _ member => nomatch member
  | lines =>
    have line : ∀ octet ∈ String.utf8EncodeChar '\n', isBlank octet = true :=
      List.forall_mem_singleton (a := 0x0A).mpr rfl
    have space : ∀ octet ∈ String.utf8EncodeChar ' ', isBlank octet = true :=
      List.forall_mem_singleton (a := 0x20).mpr rfl
    rw [Layout.lineStart, encoded_cons]
    refine List.forall_mem_append.mpr ⟨line, ?_⟩
    induction 2 * depth with
    | zero => exact fun _ member => nomatch member
    | succ n later =>
      rw [List.replicate_succ, encoded_cons]
      exact List.forall_mem_append.mpr ⟨space, later⟩

/-- What stands before an item is left out. -/
theorem skipBlanks_lineStart (layout : Layout) (depth : Nat) (rest : List UInt8) :
    skipBlanks (encoded (layout.lineStart depth) ++ rest) = skipBlanks rest :=
  skipBlanks_append (blank_lineStart layout depth) rest

/-- What is behind an item does not go on with a number. -/
theorem endsNumber_behind (layout : Layout) (depth : Nat) {right : Char} (closes : right = ']' ∨ right = '\x7d')
    (items : List (List Char)) (rest : List UInt8) :
    EndsNumber (encoded (behind layout depth right items) ++ rest) := by
  have ends (octet : UInt8) (other : decimal? octet = none ∧ octet ≠ 0x2E ∧ octet ≠ 0x65 ∧ octet ≠ 0x45)
      (more : List UInt8) : EndsNumber (octet :: more) := other
  cases items with
  | cons => exact ends 0x2C (by decide) _
  | nil =>
    cases layout with
    | lines => exact ends 0x0A (by decide) _
    | compact =>
      rcases closes with rfl | rfl
      · exact ends 0x5D (by decide) _
      · exact ends 0x7D (by decide) _

/-- The text of a document begins with an octet that is neither blank nor a closing bracket. -/
theorem exists_begin (layout : Layout) (depth : Nat) (json : Json) (exact : json.Exact) :
    ∃ octet more, encoded (json.write layout depth) = octet :: more ∧ isBlank octet = false ∧ octet ≠ 0x5D := by
  have bracket (left right : Char) (items : List (List Char)) :
      ∃ more, bracketed layout depth left right items = left :: more := by
    cases items with
    | nil => exact ⟨_, rfl⟩
    | cons first rest => exact ⟨_, bracketed_cons ..⟩
  cases json with
  | null => exact ⟨_, _, rfl, by decide, by decide⟩
  | bool b => cases b <;> exact ⟨_, _, rfl, by decide, by decide⟩
  | float x => exact exact.elim
  | string text => exact ⟨_, _, rfl, by decide, by decide⟩
  | array items =>
    obtain ⟨more, same⟩ := bracket '[' ']' (writeItems layout (depth + 1) items)
    rw [write, same]
    exact ⟨_, _, rfl, by decide, by decide⟩
  | object members =>
    obtain ⟨more, same⟩ := bracket '\x7b' '\x7d' (writeMembers layout (depth + 1) members)
    rw [write, same]
    exact ⟨_, _, rfl, by decide, by decide⟩
  | integer n =>
    rw [write, Number.toList_toString]
    split
    · exact ⟨_, _, rfl, by decide, by decide⟩
    · obtain ⟨digits, are⟩ := exists_digits n.natAbs
      rw [are.octets]
      cases digits with
      | nil => exact absurd rfl are.some
      | cons digit others =>
        have each : ∀ digit < 10, isBlank (UInt8.ofNat (0x30 + digit)) = false ∧ UInt8.ofNat (0x30 + digit) ≠ 0x5D := by
          decide
        have first := each digit (are.small digit List.mem_cons_self)
        exact ⟨_, _, rfl, first.1, first.2⟩

/-! ## Reading -/

/-- The text of a document is read as the document at any depth that it fits in, with enough fuel, whatever follows it
without going on with a number. -/
def ReadsBack (layout : Layout) (json : Json) : Prop :=
  ∀ (line depth fuel : Nat) (rest : List UInt8), json.depth ≤ depth →
    2 * (encoded (json.write layout line)).length < fuel → EndsNumber rest →
      readValue fuel depth (encoded (json.write layout line) ++ rest) = .ok (json, rest)

/-- What begins with a digit is read as a number. -/
theorem readValue_digit {digit : Nat} (small : digit < 10) (fuel depth : Nat) (rest : List UInt8) :
    readValue (fuel + 1) depth (UInt8.ofNat (0x30 + digit) :: rest) =
      readNumber false (UInt8.ofNat (0x30 + digit) :: rest) := by
  have each : ∀ digit < 10, isBlank (UInt8.ofNat (0x30 + digit)) = false ∧ UInt8.ofNat (0x30 + digit) ≠ 0x6E ∧
      UInt8.ofNat (0x30 + digit) ≠ 0x74 ∧ UInt8.ofNat (0x30 + digit) ≠ 0x66 ∧ UInt8.ofNat (0x30 + digit) ≠ 0x2D ∧
      (decimal? (UInt8.ofNat (0x30 + digit))).isSome = true := by
    decide
  obtain ⟨visible, null, yes, no, sign, decimal⟩ := each digit small
  simp only [readValue, skipBlanks, List.dropWhile_cons, visible, if_false, beq_iff_eq, null, yes, no, sign, decimal,
    if_true, Bool.false_eq_true]

/-- A whole number within the bounds is read back. -/
theorem readsBack_integer (layout : Layout) {n : Int} (exact : (integer n).Exact) : ReadsBack layout (integer n) := by
  intro line depth fuel rest _ enough ends
  obtain ⟨fuel, rfl⟩ : ∃ less, fuel = less + 1 := ⟨fuel - 1, by omega⟩
  obtain ⟨low, high⟩ := exact
  rw [write, Number.toList_toString]
  split
  · rename_i negative
    have whole : wholeNumber true n.natAbs = integer n := by
      rw [wholeNumber, if_neg (by decide), if_pos (by omega)]
      congr 1
      omega
    have sign : (encoded ('-' :: Nat.toDigits 10 n.natAbs) ++ rest) = 0x2D :: (encoded (Nat.toDigits 10 n.natAbs) ++ rest) :=
      rfl
    rw [sign, readValue]
    simp [skipBlanks, isBlank, readNumber_digits true (m := n.natAbs) (by omega) ends, whole]
  · rename_i positive
    have whole : wholeNumber false n.natAbs = integer n := by
      rw [wholeNumber, if_pos (by decide)]
      congr 1
      omega
    have reads := readNumber_digits false (m := n.natAbs) (by omega) ends
    obtain ⟨digits, are⟩ := exists_digits n.natAbs
    rw [are.octets] at reads ⊢
    cases digits with
    | nil => exact absurd rfl are.some
    | cons digit others =>
      rw [List.map_cons, List.cons_append, readValue_digit (are.small digit List.mem_cons_self), ← whole]
      exact reads

section Items

variable {layout : Layout} {fuel depth : Nat} {first : Bool} {rest after : List UInt8}

/-- The place of an item that is there. -/
theorem nextItem_of_skip {octet : UInt8} {more : List UInt8} (skipped : skipBlanks rest = octet :: more)
    (item : octet ≠ 0x5D) :
    nextItem true rest = .ok (.inl (octet :: more)) ∧ nextItem false (0x2C :: rest) = .ok (.inl (octet :: more)) := by
  have comma : skipBlanks (0x2C :: rest) = 0x2C :: rest := rfl
  constructor
  · simp [nextItem, skipped, item]
  · simp [nextItem, comma, skipped, item]

/-- Behind the last item the list ends. -/
theorem nextItem_end (layout : Layout) (line : Nat) (first : Bool) (rest : List UInt8) :
    nextItem first (encoded (behind layout line ']' []) ++ rest) = .ok (.inr rest) := by
  have bracket : skipBlanks (0x5D :: rest) = 0x5D :: rest := rfl
  rw [behind, List.flatMap_nil, List.nil_append, encoded_append, List.append_assoc, nextItem, skipBlanks_lineStart]
  exact bracket ▸ rfl

/-- No item is read where the list ends. -/
theorem readItems_end {octets : List UInt8} (next : nextItem first octets = .ok (.inr after)) :
    readItems (fuel + 1) depth first octets = .ok ([], after) := by
  rw [readItems, next]

/-- An item is read back, as the first one or behind a comma, and then those that are left. -/
theorem readItems_item {item : Json} (exact : item.Exact) (reads : ReadsBack layout item) {line : Nat}
    (fits : item.depth ≤ depth) (enough : 2 * (encoded (item.write layout line)).length < fuel) (ends : EndsNumber rest)
    {items : List Json} (left : readItems fuel depth false rest = .ok (items, after)) :
    readItems (fuel + 1) depth true (encoded (layout.lineStart line) ++ (encoded (item.write layout line) ++ rest)) =
        .ok (item :: items, after) ∧
      readItems (fuel + 1) depth false
        (0x2C :: (encoded (layout.lineStart line) ++ (encoded (item.write layout line) ++ rest))) =
        .ok (item :: items, after) := by
  obtain ⟨octet, more, begins, visible, opens⟩ := exists_begin layout line item exact
  have skipped : skipBlanks (encoded (layout.lineStart line) ++ (encoded (item.write layout line) ++ rest)) =
      octet :: (more ++ rest) := by
    rw [skipBlanks_lineStart, begins, List.cons_append, skipBlanks, List.dropWhile_cons_of_neg (by simp [visible])]
  obtain ⟨front, further⟩ := nextItem_of_skip skipped opens
  have read : readValue fuel depth (octet :: (more ++ rest)) = .ok (item, rest) := by
    rw [← List.cons_append, ← begins]
    exact reads _ _ _ _ fits enough ends
  constructor
  · simp only [readItems, front, read, left, Except.map]
  · simp only [readItems, further, read, left, Except.map]

/-- The items behind the first one are read back. -/
theorem readItems_behind {items : List Json} (exact : ∀ item ∈ items, item.Exact)
    (each : ∀ item ∈ items, ReadsBack layout item) (line : Nat) (fits : ∀ item ∈ items, item.depth ≤ depth)
    (enough : 2 * (encoded (behind layout line ']' (writeItems layout (line + 1) items))).length ≤ fuel) :
    readItems fuel depth false (encoded (behind layout line ']' (writeItems layout (line + 1) items)) ++ rest) =
      .ok (items, rest) := by
  induction items generalizing fuel with
  | nil =>
    have := behind_pos layout line ']' (writeItems layout (line + 1) [])
    obtain ⟨fuel, rfl⟩ : ∃ less, fuel = less + 1 := ⟨fuel - 1, by omega⟩
    exact readItems_end (nextItem_end layout line false rest)
  | cons item others later =>
    obtain ⟨firstExact, othersExact⟩ := List.forall_mem_cons.mp exact
    obtain ⟨firstReads, othersRead⟩ := List.forall_mem_cons.mp each
    obtain ⟨firstFits, othersFit⟩ := List.forall_mem_cons.mp fits
    have more := behind_pos layout line ']' (writeItems layout (line + 1) others)
    rw [writeItems, encoded_behind_cons, List.length_cons, List.length_append, List.length_append] at enough
    obtain ⟨fuel, rfl⟩ : ∃ less, fuel = less + 1 := ⟨fuel - 1, by omega⟩
    have ends := endsNumber_behind layout line (.inl rfl) (writeItems layout (line + 1) others) rest
    rw [writeItems, encoded_behind_cons, List.cons_append, List.append_assoc, List.append_assoc]
    refine (readItems_item firstExact firstReads firstFits (by omega) ends ?_).2
    exact later othersExact othersRead othersFit (by omega)

/-- A list is read back if its items are. -/
theorem readsBack_array {items : List Json} (exact : ∀ item ∈ items, item.Exact)
    (each : ∀ item ∈ items, ReadsBack layout item) : ReadsBack layout (array items) := by
  intro line depth fuel rest fits enough _
  obtain ⟨fuel, rfl⟩ : ∃ less, fuel = less + 1 := ⟨fuel - 1, by omega⟩
  obtain ⟨depth, rfl⟩ : ∃ less, depth = less + 1 := ⟨depth - 1, by rw [Json.depth] at fits; omega⟩
  have inside := depthOfItems_le_iff.mp (Nat.le_of_succ_le_succ fits)
  have opened (octets : List UInt8) (read : readItems fuel depth true octets = .ok (items, rest)) :
      readValue (fuel + 1) (depth + 1) (0x5B :: octets) = .ok (array items, rest) := by
    simp [readValue, skipBlanks, isBlank, decimal?, read, Except.map]
  cases items with
  | nil =>
    obtain ⟨fuel, rfl⟩ : ∃ less, fuel = less + 1 := by
      have brackets : (encoded ((array []).write layout line)).length = 2 := rfl
      exact ⟨fuel - 1, by omega⟩
    exact opened _ (readItems_end rfl)
  | cons item others =>
    obtain ⟨firstExact, othersExact⟩ := List.forall_mem_cons.mp exact
    obtain ⟨firstReads, othersRead⟩ := List.forall_mem_cons.mp each
    obtain ⟨firstFits, othersFit⟩ := List.forall_mem_cons.mp inside
    have opens : String.utf8EncodeChar '[' = [0x5B] := rfl
    have written := encoded_bracketed_cons layout line opens ']' (item.write layout (line + 1))
      (writeItems layout (line + 1) others)
    have more := behind_pos layout line ']' (writeItems layout (line + 1) others)
    rw [write, writeItems, written, List.length_cons, List.length_append, List.length_append] at enough
    obtain ⟨fuel, rfl⟩ : ∃ less, fuel = less + 1 := ⟨fuel - 1, by omega⟩
    have ends := endsNumber_behind layout line (.inl rfl) (writeItems layout (line + 1) others) rest
    rw [write, writeItems, written, List.cons_append, List.append_assoc, List.append_assoc]
    refine opened _ (readItems_item firstExact firstReads firstFits (by omega) ends ?_).1
    exact readItems_behind othersExact othersRead line othersFit (by omega)

end Items

/-! ## Objects -/

section Members

variable {layout : Layout} {fuel depth : Nat} {rest after : List UInt8}

/-- Behind the last member the object ends. -/
theorem nextMember_end (layout : Layout) (line : Nat) (first : Bool) (rest : List UInt8) :
    nextMember first (encoded (behind layout line '\x7d' []) ++ rest) = .ok (.inr rest) := by
  have bracket : skipBlanks (0x7D :: rest) = 0x7D :: rest := rfl
  rw [behind, List.flatMap_nil, List.nil_append, encoded_append, List.append_assoc, nextMember, skipBlanks_lineStart]
  exact bracket ▸ rfl

/-- No member is read where the object ends. -/
theorem readMembers_end {first : Bool} {octets : List UInt8} (next : nextMember first octets = .ok (.inr after)) :
    readMembers (fuel + 1) depth first octets = .ok ([], after) := by
  rw [readMembers, next]

/-- What is read does not depend on the blanks before it. -/
theorem readValue_congr {first second : List UInt8} (same : skipBlanks first = skipBlanks second) :
    readValue (fuel + 1) depth first = readValue (fuel + 1) depth second := by
  rw [readValue, readValue, same]

/-- Behind a colon there are blanks at most before the value. -/
theorem exists_readColon (layout : Layout) (octets : List UInt8) :
    ∃ start, readColon (encoded layout.colon ++ octets) = .ok start ∧ skipBlanks start = skipBlanks octets := by
  cases layout with
  | compact => exact ⟨octets, rfl, rfl⟩
  | lines => exact ⟨0x20 :: octets, rfl, rfl⟩

/-- The octets of a written member. -/
theorem encoded_member (layout : Layout) (name : String) (chars : List Char) :
    encoded (quoted name ++ layout.colon ++ chars) =
      0x22 :: (encoded (name.toList.flatMap escapeChar) ++ 0x22 :: (encoded layout.colon ++ encoded chars)) := by
  rw [quoted, encoded_append, encoded_append, encoded_append, encoded_cons, List.append_assoc, List.append_assoc]
  rfl

/-- A member is read back, as the first one or behind a comma, and then those that are left. -/
theorem readMembers_member (name : String) {item : Json} (reads : ReadsBack layout item) {line : Nat}
    (fits : item.depth ≤ depth) (enough : 2 * (encoded (item.write layout line)).length < fuel) (ends : EndsNumber rest)
    {members : List (String × Json)} (left : readMembers fuel depth false rest = .ok (members, after)) :
    readMembers (fuel + 1) depth true (encoded (layout.lineStart line) ++
        (encoded (quoted name ++ layout.colon ++ item.write layout line) ++ rest)) = .ok ((name, item) :: members, after) ∧
      readMembers (fuel + 1) depth false (0x2C :: (encoded (layout.lineStart line) ++
        (encoded (quoted name ++ layout.colon ++ item.write layout line) ++ rest))) = .ok ((name, item) :: members, after) := by
  obtain ⟨fuel, rfl⟩ : ∃ less, fuel = less + 1 := ⟨fuel - 1, by omega⟩
  have named := readString_quoted name (encoded layout.colon ++ (encoded (item.write layout line) ++ rest))
  obtain ⟨start, colon, skipped⟩ := exists_readColon layout (encoded (item.write layout line) ++ rest)
  have read : readValue (fuel + 1) depth start = .ok (item, rest) :=
    (readValue_congr skipped).trans (reads _ _ _ _ fits enough ends)
  rw [encoded_member, List.cons_append, List.append_assoc, List.cons_append, List.append_assoc]
  generalize encoded (name.toList.flatMap escapeChar) ++
    0x22 :: (encoded layout.colon ++ (encoded (item.write layout line) ++ rest)) = octets at named ⊢
  have quote : skipBlanks (encoded (layout.lineStart line) ++ 0x22 :: octets) = 0x22 :: octets := by
    rw [skipBlanks_lineStart]
    rfl
  have front : nextMember true (encoded (layout.lineStart line) ++ 0x22 :: octets) = .ok (.inl octets) := by
    rw [nextMember, quote]
    rfl
  have further : nextMember false (0x2C :: (encoded (layout.lineStart line) ++ 0x22 :: octets)) = .ok (.inl octets) := by
    have comma (more : List UInt8) : skipBlanks (0x2C :: more) = 0x2C :: more := rfl
    simp [nextMember, comma, quote]
  constructor
  · rw [readMembers, front]
    simp only [named, colon, read, left, Except.map]
  · rw [readMembers, further]
    simp only [named, colon, read, left, Except.map]

/-- The members behind the first one are read back. -/
theorem readMembers_behind {members : List (String × Json)} (each : ∀ member ∈ members, ReadsBack layout member.2)
    (line : Nat) (fits : ∀ member ∈ members, member.2.depth ≤ depth)
    (enough : 2 * (encoded (behind layout line '\x7d' (writeMembers layout (line + 1) members))).length ≤ fuel) :
    readMembers fuel depth false (encoded (behind layout line '\x7d' (writeMembers layout (line + 1) members)) ++ rest) =
      .ok (members, rest) := by
  induction members generalizing fuel with
  | nil =>
    have := behind_pos layout line '\x7d' (writeMembers layout (line + 1) [])
    obtain ⟨fuel, rfl⟩ : ∃ less, fuel = less + 1 := ⟨fuel - 1, by omega⟩
    exact readMembers_end (nextMember_end layout line false rest)
  | cons member others later =>
    obtain ⟨name, item⟩ := member
    obtain ⟨firstReads : ReadsBack layout item, othersRead⟩ := List.forall_mem_cons.mp each
    obtain ⟨firstFits, othersFit⟩ := List.forall_mem_cons.mp fits
    have more := behind_pos layout line '\x7d' (writeMembers layout (line + 1) others)
    rw [writeMembers, encoded_behind_cons, List.length_cons, List.length_append, List.length_append, encoded_append _ (write ..),
      List.length_append] at enough
    obtain ⟨fuel, rfl⟩ : ∃ less, fuel = less + 1 := ⟨fuel - 1, by omega⟩
    have ends := endsNumber_behind layout line (.inr rfl) (writeMembers layout (line + 1) others) rest
    rw [writeMembers, encoded_behind_cons, List.cons_append, List.append_assoc, List.append_assoc]
    refine (readMembers_member name firstReads firstFits (by omega) ends ?_).2
    exact later othersRead othersFit (by omega)

/-- An object is read back if its members are in order and the documents of its members are. -/
theorem readsBack_object {members : List (String × Json)} (sorted : Table.Sorted members)
    (each : ∀ member ∈ members, ReadsBack layout member.2) : ReadsBack layout (object members) := by
  intro line depth fuel rest fits enough _
  obtain ⟨fuel, rfl⟩ : ∃ less, fuel = less + 1 := ⟨fuel - 1, by omega⟩
  obtain ⟨depth, rfl⟩ : ∃ less, depth = less + 1 := ⟨depth - 1, by rw [Json.depth] at fits; omega⟩
  have inside := depthOfMembers_le_iff.mp (Nat.le_of_succ_le_succ fits)
  have opened (octets : List UInt8) (read : readMembers fuel depth true octets = .ok (members, rest)) :
      readValue (fuel + 1) (depth + 1) (0x7B :: octets) = .ok (object members, rest) := by
    simp [readValue, skipBlanks, isBlank, decimal?, read, Except.map, Table.ofList_of_sorted sorted]
  cases members with
  | nil =>
    obtain ⟨fuel, rfl⟩ : ∃ less, fuel = less + 1 := by
      have brackets : (encoded ((object []).write layout line)).length = 2 := rfl
      exact ⟨fuel - 1, by omega⟩
    exact opened _ (readMembers_end rfl)
  | cons member others =>
    obtain ⟨name, item⟩ := member
    obtain ⟨firstReads : ReadsBack layout item, othersRead⟩ := List.forall_mem_cons.mp each
    obtain ⟨firstFits, othersFit⟩ := List.forall_mem_cons.mp inside
    have opens : String.utf8EncodeChar '\x7b' = [0x7B] := rfl
    have written := encoded_bracketed_cons layout line opens '\x7d'
      (quoted name ++ layout.colon ++ item.write layout (line + 1)) (writeMembers layout (line + 1) others)
    have more := behind_pos layout line '\x7d' (writeMembers layout (line + 1) others)
    rw [write, writeMembers, written, List.length_cons, List.length_append, List.length_append, encoded_append _ (write ..),
      List.length_append] at enough
    obtain ⟨fuel, rfl⟩ : ∃ less, fuel = less + 1 := ⟨fuel - 1, by omega⟩
    have ends := endsNumber_behind layout line (.inr rfl) (writeMembers layout (line + 1) others) rest
    rw [write, writeMembers, written, List.cons_append, List.append_assoc, List.append_assoc]
    refine opened _ (readMembers_member name firstReads firstFits (by omega) ends ?_).1
    exact readMembers_behind othersRead line othersFit (by omega)

end Members

/-! ## Documents -/

/-- A document that is kept exactly is read back. -/
theorem readsBack (layout : Layout) (json : Json) (exact : json.Exact) : ReadsBack layout json := by
  induction json using induct with
  | null =>
    intro line depth fuel rest _ enough _
    obtain ⟨fuel, rfl⟩ : ∃ less, fuel = less + 1 := ⟨fuel - 1, by omega⟩
    rfl
  | bool b =>
    intro line depth fuel rest _ enough _
    obtain ⟨fuel, rfl⟩ : ∃ less, fuel = less + 1 := ⟨fuel - 1, by omega⟩
    cases b <;> rfl
  | integer n => exact readsBack_integer layout exact
  | float x => exact exact.elim
  | string text =>
    intro line depth fuel rest _ enough _
    obtain ⟨fuel, rfl⟩ : ∃ less, fuel = less + 1 := ⟨fuel - 1, by omega⟩
    have read := readString_quoted text rest
    have written : encoded ((string text).write layout line) ++ rest =
        0x22 :: (encoded (text.toList.flatMap escapeChar) ++ 0x22 :: rest) := by
      rw [write, quoted, encoded_append, List.append_assoc]
      rfl
    simp [written, readValue, skipBlanks, isBlank, decimal?, read, Except.map]
  | array items each =>
    have inside := exactItems_iff.mp exact
    exact readsBack_array inside fun item member => each item member (inside item member)
  | object members each =>
    have inside := exactMembers_iff.mp exact.2
    exact readsBack_object exact.1 fun member here => each member here (inside member here)

/-- A document that is kept exactly is what is read from its text, if it is nested no deeper than documents may be. -/
theorem readDocument_text (layout : Layout) {json : Json} (exact : json.Exact) (fits : json.depth ≤ greatestDepth) :
    readDocument (json.text layout).toUTF8.toList = .ok json := by
  rw [text, toList_toUTF8, String.toList_ofList]
  have read : readValue (2 * (encoded (json.write layout 0)).length + 2) greatestDepth
      (encoded (json.write layout 0) ++ []) = .ok (json, []) :=
    readsBack layout json exact _ _ _ _ fits (Nat.lt_add_of_pos_right Nat.two_pos) trivial
  rw [List.append_nil] at read
  rw [readDocument, read]
  rfl

end MessageRouting.Json
