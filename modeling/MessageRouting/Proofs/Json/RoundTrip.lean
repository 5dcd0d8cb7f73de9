import MessageRouting.Proofs.Json.Values

/-!
# Values that are marshalled and read back

What is read from the text of a value is its normal form, in either layout, and the normal form has the same text again.
Values of the kinds that JSON has, too, come back as they were.
-/

namespace MessageRouting

namespace Json

open Value

/-! ## Values without change -/

/-- Items that are their own normal forms, and equal to themselves, make a list that is so. -/
theorem unchanged_items {items : List Value} (each : ∀ item ∈ items, item.normalForm = item ∧ item.equal item = true) :
    normalForms items = items ∧ equalItems items items = true := by
  induction items with
  | nil => exact ⟨rfl, rfl⟩
  | cons item rest later =>
    obtain ⟨⟨same, equal⟩, others⟩ := List.forall_mem_cons.mp each
    obtain ⟨sameRest, equalRest⟩ := later others
    exact ⟨by rw [normalForms, same, sameRest], by rw [equalItems, equal, equalRest, Bool.and_self]⟩

/-- Entries whose values are their own normal forms, and equal to themselves, make a map that is so. -/
theorem unchanged_entries {entries : List (String × Value)}
    (each : ∀ entry ∈ entries, entry.2.normalForm = entry.2 ∧ entry.2.equal entry.2 = true) :
    normalEntries entries = entries ∧ equalEntries entries entries = true := by
  induction entries with
  | nil => exact ⟨rfl, rfl⟩
  | cons entry rest later =>
    obtain ⟨name, item⟩ := entry
    obtain ⟨⟨same, equal⟩, others⟩ := List.forall_mem_cons.mp each
    obtain ⟨sameRest, equalRest⟩ := later others
    refine ⟨by rw [normalEntries, same, sameRest], ?_⟩
    rw [equalEntries, equal, equalRest, beq_self_eq_true, Bool.and_self, Bool.and_self]

/-- A value of common kinds is its own normal form and equal to itself. -/
theorem unchanged_of_common (value : Value) (common : value.Throughout IsCommon) :
    value.normalForm = value ∧ value.equal value = true := by
  induction value using Value.induct with
  | null => exact ⟨rfl, rfl⟩
  | bool | int | string => exact ⟨rfl, beq_self_eq_true _⟩
  | float | bytes | time | duration | error | object | shared => exact ((throughout_iff_own rfl rfl).mp common).elim
  | list items each =>
    have inside := (throughout_list.mp common).2
    obtain ⟨same, equal⟩ := unchanged_items fun item member => each item member (inside item member)
    exact ⟨congrArg Value.list same, equal⟩
  | map entries each =>
    have inside := (throughout_map.mp common).2
    obtain ⟨same, equal⟩ := unchanged_entries fun entry member => each entry member (inside entry member)
    exact ⟨congrArg Value.map same, equal⟩

/-! ## The way there and back -/

/-- A value is taken as one of its own kind. -/
theorem adapt_own (value : Value) : adapt (some value.kind) value = .ok value := by
  cases value <;> rfl

/-- A value is marshalled and read back as its normal form. -/
structure Carries (layout : Layout) (value : Value) : Prop where
  /-- It is marshalled just if nothing inside it is foreign to JSON. -/
  marshals : (∃ text, marshal layout value = .ok text) ↔ value.Throughout fun part => ¬part.IsForeign
  /-- If all that is inside it is kept and its normal form is nested at most 127 deep, it is read back as that, with no
  kind wanted and with its own. -/
  reads : value.Throughout IsKept → value.normalForm.depth ≤ 127 → ∀ {text : String}, marshal layout value = .ok text →
    ∀ target : Option Kind, (∀ kind, target = some kind → kind = value.normalForm.kind) →
      unmarshal text.toUTF8 target = .ok value.normalForm
  /-- The normal form is marshalled as the same text. -/
  again : value.Throughout IsKept → ∀ {text : String}, marshal layout value = .ok text →
    marshal layout value.normalForm = .ok text
  /-- A value of common kinds is its own normal form, and equal to it. -/
  unchanged : value.Throughout IsCommon → value.normalForm = value ∧ value.normalForm.equal value = true

/-- Every value is marshalled just if nothing inside it is foreign to JSON, and read back as its normal form if it is kept
and is not nested too deep. -/
theorem json_carries_values (layout : Layout) (value : Value) : Carries layout value := by
  have marshalled : ∀ {text : String}, marshal layout value = .ok text →
      ∃ json, ofValue value = .ok json ∧ json.text layout = text := by
    intro text made
    rw [marshal] at made
    cases document : ofValue value with
    | error fault =>
      rw [document] at made
      cases made
    | ok json =>
      rw [document] at made
      cases made
      exact ⟨json, rfl, rfl⟩
  constructor
  case marshals =>
    rw [← exists_ofValue_iff, marshal]
    cases ofValue value <;> simp [Except.map]
  case reads =>
    intro kept shallow text made target wanted
    obtain ⟨json, document, rfl⟩ := marshalled made
    have stands := standsFor_ofValue value kept json document
    have fits : json.depth ≤ greatestDepth := Nat.le_trans (Nat.le_of_eq stands.depth) shallow
    rw [unmarshal, readDocument_text layout stands.exact fits]
    simp only [stands.reads]
    cases target with
    | none => rfl
    | some kind =>
      cases wanted kind rfl
      exact adapt_own _
  case again =>
    intro kept text made
    obtain ⟨json, document, rfl⟩ := marshalled made
    rw [marshal, (standsFor_ofValue value kept json document).again]
    rfl
  case unchanged =>
    intro common
    obtain ⟨same, equal⟩ := unchanged_of_common value common
    exact ⟨same, same.symm ▸ equal⟩

/-! ## Lists that are nested too deep -/

/-- A value inside so many lists. -/
def inLists : Nat → Value → Value
  | 0, value => value
  | n + 1, value => .list [inLists n value]

/-- A document inside so many lists. -/
def inArrays : Nat → Json → Json
  | 0, json => json
  | n + 1, json => array [inArrays n json]

/-- A value inside lists is as expected throughout if it is and lists are. -/
theorem throughout_inLists {expected : Value → Prop} (lists : ∀ items, expected (.list items)) {value : Value}
    (inside : value.Throughout expected) (n : Nat) : (inLists n value).Throughout expected := by
  induction n with
  | zero => exact inside
  | succ n later => exact throughout_list.mpr ⟨lists _, List.forall_mem_singleton.mpr later⟩

/-- Each list around a value counts. -/
theorem depth_inLists (n : Nat) (value : Value) : (inLists n value).depth = n + value.depth := by
  induction n with
  | zero => exact (Nat.zero_add _).symm
  | succ n later =>
    rw [inLists, Value.depth, Value.depthOfItems, Value.depthOfItems, Nat.max_zero, later]
    omega

/-- The document of a value inside lists is its document inside lists. -/
theorem ofValue_inLists {value : Value} {json : Json} (document : ofValue value = .ok json) (n : Nat) :
    ofValue (inLists n value) = .ok (inArrays n json) := by
  induction n with
  | zero => exact document
  | succ n later => simp only [inLists, inArrays, ofValue, ofValues, later, Except.map]

/-- The text of a list inside lists begins with a bracket for each of them. -/
theorem exists_brackets (n line : Nat) (item : Json) (items : List Json) :
    ∃ more, Text.Utf8.encoded ((inArrays n (array (item :: items))).write .compact line) =
      List.replicate (n + 1) 0x5B ++ more := by
  have opened (line : Nat) (first : List Char) (rest : List (List Char)) :
      ∃ more, Text.Utf8.encoded (bracketed .compact line '[' ']' (first :: rest)) =
        0x5B :: (Text.Utf8.encoded first ++ more) :=
    ⟨_, encoded_bracketed_cons .compact line rfl ']' first rest⟩
  induction n generalizing line with
  | zero =>
    obtain ⟨more, same⟩ := opened line (item.write .compact (line + 1)) (writeItems .compact (line + 1) items)
    exact ⟨_, same⟩
  | succ n later =>
    obtain ⟨inner, brackets⟩ := later (line + 1)
    obtain ⟨more, same⟩ := opened line ((inArrays n (array (item :: items))).write .compact (line + 1)) []
    refine ⟨inner ++ more, ?_⟩
    rw [inArrays, write, writeItems, writeItems, same, brackets, List.append_assoc]
    rfl

/-- Nothing is read behind more brackets than lists may be nested. -/
theorem exists_fault_of_brackets (depth fuel : Nat) (more : List UInt8) :
    ∃ fault, readValue fuel depth (List.replicate (depth + 1) 0x5B ++ more) = .error fault := by
  induction depth generalizing fuel with
  | zero => cases fuel <;> exact ⟨_, rfl⟩
  | succ depth later =>
    match fuel with
    | 0 => exact ⟨_, rfl⟩
    | 1 => exact ⟨_, rfl⟩
    | fuel + 2 =>
      obtain ⟨fault, refused⟩ := later fuel
      have next : nextItem true (List.replicate (depth + 1) 0x5B ++ more) =
          .ok (.inl (List.replicate (depth + 1) 0x5B ++ more)) := rfl
      have items : readItems (fuel + 1) depth true (List.replicate (depth + 1) 0x5B ++ more) = .error fault := by
        rw [readItems, next]
        simp only [refused]
      refine ⟨fault, ?_⟩
      rw [List.replicate_succ, List.cons_append]
      simp [readValue, skipBlanks, isBlank, decimal?, items, Except.map]

/-- Octets that are no UTF-8 are read back as a list: inside 127 lists they are marshalled but too deep to be read. -/
theorem json_refuses_broken_octets :
    let value := inLists 127 (.bytes ⟨#[0xFF]⟩)
    value.Throughout IsKept ∧ value.depth ≤ 127 ∧
      ∃ text, marshal .compact value = .ok text ∧ ∀ result, unmarshal text.toUTF8 none ≠ .ok result := by
  intro value
  have document : ofValue (.bytes ⟨#[0xFF]⟩) = .ok (array [integer 255]) := by
    rw [ofValue, Text.Utf8.decode, Text.Utf8.pieces, Text.Utf8.toList_eq_data]
    rfl
  have marshalled : marshal .compact value = .ok ((inArrays 127 (array [integer 255])).text .compact) := by
    rw [marshal, ofValue_inLists document]
    rfl
  refine ⟨?_, Nat.le_of_eq (depth_inLists 127 _), _, marshalled, ?_⟩
  · exact throughout_inLists (fun _ => trivial) ((throughout_iff_own rfl rfl).mpr trivial) 127
  · intro result read
    obtain ⟨more, brackets⟩ := exists_brackets 127 0 (integer 255) []
    have refused (fuel : Nat) := exists_fault_of_brackets greatestDepth fuel more
    rw [unmarshal, readDocument, text, Text.Utf8.toList_toUTF8, String.toList_ofList, brackets] at read
    obtain ⟨fault, same⟩ := refused (2 * (List.replicate (127 + 1) 0x5B ++ more).length + 2)
    have depths : greatestDepth + 1 = 127 + 1 := rfl
    rw [depths] at same
    simp only [same] at read
    cases read

end Json

end MessageRouting
