import MessageRouting.Value.Basic

/-!
# What is inside a value

Lists and maps hold values, at any depth. What is shown of all that a value holds before it is shown of the value holds
of every value, and what is expected of all that is inside a value is expected of its items and entries.
-/

namespace MessageRouting.Value

/-- What holds of the items of lists and the entries of maps before it holds of them holds of all values. -/
theorem induct {motive : Value → Prop} (null : motive null) (bool : ∀ b, motive (bool b)) (int : ∀ i, motive (int i))
    (float : ∀ x, motive (float x)) (string : ∀ text, motive (string text)) (bytes : ∀ octets, motive (bytes octets))
    (time : ∀ t, motive (time t)) (duration : ∀ d, motive (duration d)) (error : ∀ e, motive (error e))
    (list : ∀ items, (∀ item ∈ items, motive item) → motive (list items))
    (map : ∀ entries, (∀ entry ∈ entries, motive entry.2) → motive (map entries))
    (object : ∀ payload, motive (object payload)) (shared : ∀ name, motive (shared name)) (value : Value) :
    motive value :=
  Value.rec null bool int float string bytes time duration error (fun items each => list items each)
    (fun entries each => map entries each) object shared
    (fun _ member => nomatch member) (fun _ _ first others => List.forall_mem_cons.mpr ⟨first, others⟩)
    (fun _ member => nomatch member) (fun _ _ first others => List.forall_mem_cons.mpr ⟨first, others⟩)
    (fun _ _ inside => inside) value

/-- A value is inside another one, at some depth. -/
inductive Contains : Value → Value → Prop
  /-- It is the value itself. -/
  | self (value : Value) : Contains value value
  /-- It is inside an item. -/
  | item {items : List Value} {item part : Value} (member : item ∈ items) (inside : Contains item part) :
    Contains (.list items) part
  /-- It is inside the value of an entry. -/
  | entry {entries : List (String × Value)} {entry : String × Value} {part : Value} (member : entry ∈ entries)
    (inside : Contains entry.2 part) : Contains (.map entries) part

/-- All that is inside a value is as expected, at any depth. -/
def Throughout (expected : Value → Prop) (value : Value) : Prop := ∀ part, value.Contains part → expected part

variable {expected : Value → Prop}

/-- A list is as expected throughout if it is and its items are. -/
theorem throughout_list {items : List Value} :
    (list items).Throughout expected ↔ expected (.list items) ∧ ∀ item ∈ items, item.Throughout expected := by
  constructor
  · exact fun all => ⟨all _ (.self _), fun item member part inside => all part (.item member inside)⟩
  · rintro ⟨own, each⟩ part inside
    cases inside with
    | self => exact own
    | item member inside => exact each _ member part inside

/-- A map is as expected throughout if it is and the values of its entries are. -/
theorem throughout_map {entries : List (String × Value)} :
    (map entries).Throughout expected ↔ expected (.map entries) ∧ ∀ entry ∈ entries, entry.2.Throughout expected := by
  constructor
  · exact fun all => ⟨all _ (.self _), fun entry member part inside => all part (.entry member inside)⟩
  · rintro ⟨own, each⟩ part inside
    cases inside with
    | self => exact own
    | entry member inside => exact each _ member part inside

/-- A value that is neither a list nor a map is as expected throughout if it is. -/
theorem throughout_iff_own {value : Value} (noList : value.list? = none) (noMap : value.map? = none) :
    value.Throughout expected ↔ expected value := by
  constructor
  · exact fun all => all _ (.self _)
  · intro own part inside
    cases inside with
    | self => exact own
    | item => cases noList
    | entry => cases noMap

end MessageRouting.Value
