import MessageRouting.Format
import MessageRouting.Proofs.Json.Documents
import MessageRouting.Proofs.Value.Inside

/-!
# Values and their documents

A value has a document just if nothing inside it is foreign to JSON. The document stands for the normal form of the value,
in which times, octets, failures and durations have become what JSON says instead of them.
-/

namespace MessageRouting

namespace Value

/-- JSON has no place for a value: for objects, for shared payloads and for floats that are no numbers. -/
def IsForeign : Value → Prop
  | object _ | shared _ => True
  | float x => Number.isFinite x = false
  | _ => False

/-- JSON keeps a value: it is no float, a duration is below 2^63 milliseconds, and the entries of a map are in order. -/
def IsKept : Value → Prop
  | float _ => False
  | duration d => d.millis < 9223372036854775808
  | map entries => Table.Sorted entries
  | _ => True

/-- A value is of a kind that JSON has, too, but no float. -/
def IsCommon : Value → Prop
  | null | bool _ | int _ | string _ | list _ | map _ => True
  | _ => False

mutual

/-- How deep lists and maps are nested in a value. -/
def depth : Value → Nat
  | list items => depthOfItems items + 1
  | map entries => depthOfEntries entries + 1
  | _ => 0

/-- How deep they are nested in items. -/
def depthOfItems : List Value → Nat
  | [] => 0
  | item :: rest => max item.depth (depthOfItems rest)

/-- How deep they are nested in the values of entries. -/
def depthOfEntries : List (String × Value) → Nat
  | [] => 0
  | (_, item) :: rest => max item.depth (depthOfEntries rest)

end

mutual

/-- What a value is when it was marshalled and read back. -/
def normalForm : Value → Value
  | time t => string t.text
  | bytes octets =>
    match String.fromUTF8? octets with
    | some text => string text
    | none => list (octets.toList.map fun octet => int (Int64.ofNat octet.toNat))
  | error e => string e.message
  | duration d => int (Int64.ofNat d.millis)
  | list items => list (normalForms items)
  | map entries => map (normalEntries entries)
  | value => value

/-- What values are. -/
def normalForms : List Value → List Value
  | [] => []
  | item :: rest => item.normalForm :: normalForms rest

/-- What the values of entries are. -/
def normalEntries : List (String × Value) → List (String × Value)
  | [] => []
  | (name, item) :: rest => (name, item.normalForm) :: normalEntries rest

end

end Value

namespace Json

open Value

/-! ## Which values are marshalled -/

/-- Values have documents just if each of them has one. -/
theorem exists_ofValues_iff {items : List Value} :
    (∃ documents, ofValues items = .ok documents) ↔ ∀ item ∈ items, ∃ json, ofValue item = .ok json := by
  induction items with
  | nil => exact ⟨fun _ _ member => (nomatch member), fun _ => ⟨[], rfl⟩⟩
  | cons item rest later =>
    rw [List.forall_mem_cons, ← later, ofValues]
    cases ofValue item with
    | error fault => simp
    | ok json =>
      cases ofValues rest <;> simp [Except.map]

/-- Entries have documents just if each of them has one. -/
theorem exists_ofEntries_iff {entries : List (String × Value)} :
    (∃ members, ofEntries entries = .ok members) ↔ ∀ entry ∈ entries, ∃ json, ofValue entry.2 = .ok json := by
  induction entries with
  | nil => exact ⟨fun _ _ member => (nomatch member), fun _ => ⟨[], rfl⟩⟩
  | cons entry rest later =>
    rw [List.forall_mem_cons, ← later, ofEntries]
    cases ofValue entry.2 with
    | error fault => simp
    | ok json =>
      cases ofEntries rest <;> simp [Except.map]

/-- A value has a document just if nothing inside it is foreign. -/
theorem exists_ofValue_iff (value : Value) :
    (∃ json, ofValue value = .ok json) ↔ value.Throughout fun part => ¬part.IsForeign := by
  induction value using Value.induct with
  | null | bool | int | string | time | duration | error =>
    rw [throughout_iff_own rfl rfl]
    exact iff_of_true ⟨_, rfl⟩ id
  | bytes octets =>
    rw [throughout_iff_own rfl rfl, ofValue]
    refine iff_of_true ?_ id
    split <;> exact ⟨_, rfl⟩
  | float x =>
    rw [throughout_iff_own rfl rfl, ofValue, IsForeign]
    split <;> simp [*]
  | object | shared =>
    rw [throughout_iff_own rfl rfl]
    refine iff_of_false ?_ (not_not_intro trivial)
    rintro ⟨json, ⟨⟩⟩
  | list items each =>
    have own : ¬(list items).IsForeign := id
    rw [throughout_list, and_iff_right own, ← forall₂_congr each, ← exists_ofValues_iff, ofValue]
    cases ofValues items <;> simp [Except.map]
  | map entries each =>
    have own : ¬(map entries).IsForeign := id
    rw [throughout_map, and_iff_right own, ← forall₂_congr each, ← exists_ofEntries_iff, ofValue]
    cases ofEntries entries <;> simp [Except.map]

/-! ## What is read back -/

/-- A document stands for a value that is kept. -/
structure StandsFor (json : Json) (value : Value) : Prop where
  /-- It is kept exactly. -/
  exact : json.Exact
  /-- It is nested as deep as the normal form. -/
  depth : json.depth = value.normalForm.depth
  /-- It is read as the normal form. -/
  reads : json.toValue = value.normalForm
  /-- It is the document of the normal form, too. -/
  again : ofValue value.normalForm = .ok json

/-- The list of the documents of items stands for the list of the items if each of them stands for its item. -/
theorem standsFor_list {items : List Value}
    (each : ∀ item ∈ items, ∀ json, ofValue item = .ok json → StandsFor json item) :
    ∀ documents, ofValues items = .ok documents → StandsFor (array documents) (.list items) := by
  induction items with
  | nil =>
    rintro _ ⟨⟩
    exact ⟨trivial, rfl, rfl, rfl⟩
  | cons item rest later =>
    intro documents made
    obtain ⟨first, others⟩ := List.forall_mem_cons.mp each
    rw [ofValues] at made
    cases head : ofValue item with
    | error fault =>
      rw [head] at made
      cases made
    | ok json =>
      cases tail : ofValues rest with
      | error fault =>
        rw [head, tail] at made
        cases made
      | ok more =>
        rw [head, tail] at made
        cases made
        obtain ⟨exact, depth, reads, again⟩ := first json head
        obtain ⟨exactRest, depthRest, readsRest, againRest⟩ := later others more tail
        have depths := Nat.succ.inj depthRest
        have values := Value.list.inj readsRest
        have documents : ofValues (normalForms rest) = .ok more := by
          rw [normalForm, ofValue] at againRest
          cases found : ofValues (normalForms rest) with
          | error fault => simp [found, Except.map] at againRest
          | ok documents => simpa [found, Except.map] using againRest
        refine ⟨⟨exact, exactRest⟩, ?_, ?_, ?_⟩
        · simp only [Json.depth, Json.depthOfItems, normalForm, normalForms, Value.depth, Value.depthOfItems, depth,
            depths]
        · simp only [toValue, toValues, normalForm, normalForms, reads, values]
        · simp only [normalForm, normalForms, ofValue, ofValues, again, documents, Except.map]

/-- The object of the documents of entries stands for the map if it is in order and each of them stands for its value. -/
theorem standsFor_map {entries : List (String × Value)} (sorted : Table.Sorted entries)
    (each : ∀ entry ∈ entries, ∀ json, ofValue entry.2 = .ok json → StandsFor json entry.2) :
    ∀ members, ofEntries entries = .ok members →
      members.map Prod.fst = entries.map Prod.fst ∧ StandsFor (object members) (.map entries) := by
  induction entries with
  | nil =>
    rintro _ ⟨⟩
    exact ⟨rfl, ⟨sorted, trivial⟩, rfl, rfl, rfl⟩
  | cons entry rest later =>
    intro members made
    obtain ⟨name, item⟩ := entry
    obtain ⟨first, others⟩ := List.forall_mem_cons.mp each
    rw [ofEntries] at made
    cases head : ofValue item with
    | error fault =>
      rw [head] at made
      cases made
    | ok json =>
      cases tail : ofEntries rest with
      | error fault =>
        rw [head, tail] at made
        cases made
      | ok more =>
        rw [head, tail] at made
        cases made
        obtain ⟨exact, depth, reads, again⟩ := first json head
        obtain ⟨names, exactRest, depthRest, readsRest, againRest⟩ :=
          later (List.pairwise_cons.mp sorted).2 others more tail
        have depths := Nat.succ.inj depthRest
        have values := Value.map.inj readsRest
        have documents : ofEntries (normalEntries rest) = .ok more := by
          rw [normalForm, ofValue] at againRest
          cases found : ofEntries (normalEntries rest) with
          | error fault => simp [found, Except.map] at againRest
          | ok documents => simpa [found, Except.map] using againRest
        have same : ((name, json) :: more).map Prod.fst = ((name, item) :: rest).map Prod.fst := by
          rw [List.map_cons, List.map_cons, names]
        refine ⟨same, ⟨?_, exact, exactRest.2⟩, ?_, ?_, ?_⟩
        · rw [Table.Sorted, Table.names, same]
          exact sorted
        · simp only [Json.depth, Json.depthOfMembers, normalForm, normalEntries, Value.depth, Value.depthOfEntries, depth,
            depths]
        · simp only [toValue, toEntries, normalForm, normalEntries, reads, values]
        · simp only [normalForm, normalEntries, ofValue, ofEntries, again, documents, Except.map]

/-- What a document stands for depends on the normal form only. -/
theorem StandsFor.congr {json : Json} {value other : Value} (stands : StandsFor json value)
    (same : other.normalForm = value.normalForm) : StandsFor json other := by
  obtain ⟨exact, depth, reads, again⟩ := stands
  rw [← same] at depth reads again
  exact ⟨exact, depth, reads, again⟩

/-- A whole number of 64 bits stands for itself. -/
theorem standsFor_int (i : Int64) : StandsFor (integer i.toInt) (.int i) := by
  have low : -9223372036854775808 ≤ i.toInt := i.le_toInt
  have high : i.toInt < 9223372036854775808 := i.toInt_lt
  refine ⟨⟨low, by omega⟩, rfl, ?_, rfl⟩
  rw [toValue, if_pos high, Int64.ofInt_toInt]
  rfl

/-- A natural number below 2^63 stands for the whole number of 64 bits. -/
theorem standsFor_nat {n : Nat} (small : n < 9223372036854775808) :
    ofValue (.int (Int64.ofNat n)) = .ok (integer n) ∧ StandsFor (integer n) (.int (Int64.ofNat n)) := by
  have same : (Int64.ofNat n).toInt = n := Int64.toInt_ofNat_of_lt small
  have stands := standsFor_int (Int64.ofNat n)
  rw [same] at stands
  exact ⟨by rw [ofValue, same], stands⟩

/-- Octets as whole numbers are their own normal form. -/
theorem normalForms_octets (octets : List UInt8) :
    normalForms (octets.map fun octet => .int (Int64.ofNat octet.toNat)) =
      octets.map fun octet => .int (Int64.ofNat octet.toNat) := by
  induction octets with
  | nil => rfl
  | cons octet rest later => simp only [List.map_cons, normalForms, normalForm, later]

/-- Octets as whole numbers have whole numbers as their documents. -/
theorem ofValues_octets (octets : List UInt8) :
    ofValues (octets.map fun octet => .int (Int64.ofNat octet.toNat)) =
      .ok (octets.map fun octet => integer octet.toNat) := by
  induction octets with
  | nil => rfl
  | cons octet rest later =>
    have document := (standsFor_nat (n := octet.toNat) (Nat.lt_trans octet.toNat_lt (by decide))).1
    rw [List.map_cons, ofValues, document, later]
    rfl

/-- The document of octets stands for them. -/
theorem standsFor_bytes (octets : ByteArray) :
    ∃ json, ofValue (.bytes octets) = .ok json ∧ StandsFor json (.bytes octets) := by
  cases decoded : Text.Utf8.decode octets with
  | ok text =>
    have valid := Text.Utf8.decode_eq_ok_iff_fromUTF8?.mp decoded
    have same : (Value.bytes octets).normalForm = (Value.string text).normalForm := by simp only [normalForm, valid]
    refine ⟨string text, by rw [ofValue, decoded], ?_⟩
    exact (StandsFor.mk trivial rfl rfl rfl : StandsFor (string text) (.string text)).congr same
  | error fault =>
    have invalid : String.fromUTF8? octets = none := by
      rw [Option.eq_none_iff_forall_ne_some]
      intro text valid
      rw [Text.Utf8.decode_eq_ok_iff_fromUTF8?.mpr valid] at decoded
      cases decoded
    have same : (Value.bytes octets).normalForm =
        (Value.list (octets.toList.map fun octet => .int (Int64.ofNat octet.toNat))).normalForm := by
      simp only [normalForm, invalid, normalForms_octets]
    refine ⟨array (octets.toList.map fun octet => integer octet.toNat), by rw [ofValue, decoded], ?_⟩
    refine (standsFor_list ?_ _ (ofValues_octets octets.toList)).congr same
    intro item member json made
    obtain ⟨octet, _, rfl⟩ := List.mem_map.mp member
    cases made
    exact standsFor_int _

/-- The document of a value that is kept stands for it. -/
theorem standsFor_ofValue (value : Value) (kept : value.Throughout IsKept) :
    ∀ json, ofValue value = .ok json → StandsFor json value := by
  induction value using Value.induct with
  | null | bool | string | time | error =>
    rintro _ ⟨⟩
    exact ⟨trivial, rfl, rfl, rfl⟩
  | int i =>
    rintro _ ⟨⟩
    exact standsFor_int i
  | float x => exact ((throughout_iff_own rfl rfl).mp kept).elim
  | bytes octets =>
    intro json made
    obtain ⟨document, same, stands⟩ := standsFor_bytes octets
    cases made.symm.trans same
    exact stands
  | duration d =>
    have short : d.millis < 9223372036854775808 := (throughout_iff_own rfl rfl).mp kept
    have whole : min (d.millis : Int) 18446744073709551615 = d.millis := by omega
    rintro _ ⟨⟩
    rw [whole]
    exact (standsFor_nat short).2.congr rfl
  | object | shared => rintro json ⟨⟩
  | list items each =>
    intro json made
    have inside := (throughout_list.mp kept).2
    cases documents : ofValues items with
    | error fault =>
      rw [ofValue, documents] at made
      cases made
    | ok list =>
      rw [ofValue, documents] at made
      cases made
      exact standsFor_list (fun item member => each item member (inside item member)) list documents
  | map entries each =>
    intro json made
    obtain ⟨sorted, inside⟩ := throughout_map.mp kept
    cases members : ofEntries entries with
    | error fault =>
      rw [ofValue, members] at made
      cases made
    | ok object =>
      rw [ofValue, members] at made
      cases made
      exact (standsFor_map sorted (fun entry member => each entry member (inside entry member)) object members).2

end Json

end MessageRouting
