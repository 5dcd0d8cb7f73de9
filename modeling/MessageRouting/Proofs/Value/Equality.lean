import MessageRouting.Proofs.Number.FloatOrder
import MessageRouting.Proofs.Value.Inside
import MessageRouting.Value.Copied

/-!
# Equality of values

Values are equal in either order, whatever they hold. A value equals its own copy just if neither an object nor a float
that is no number is inside it. Where there are no floats, what equals the same value is equal: an integer may equal a
float, and two integers may equal the same one.
-/

namespace MessageRouting.Value

/-- Octets are equal just if they are the same. -/
theorem lawful_octets : LawfulBEq ByteArray where
  rfl {octets} := (beq_self_eq_true octets.data :)
  eq_of_beq {first _} same := ByteArray.ext (eq_of_beq (a := first.data) same)

/-- Entries are equal if their names are the same and their values are equal. -/
theorem equalEntries_eq (first second : List (String × Value)) : equalEntries first second =
    (first.map Prod.fst == second.map Prod.fst && equalItems (first.map Prod.snd) (second.map Prod.snd)) := by
  induction first generalizing second with
  | nil => cases second <;> rfl
  | cons entry rest later =>
    cases second with
    | nil => rfl
    | cons other more =>
      simp only [equalEntries, equalItems, List.map_cons, List.cons_beq_cons, later, Bool.and_assoc,
        Bool.and_left_comm]

/-! ## Either order -/

/-- Items are equal in either order, if each of them is. -/
theorem equalItems_comm {first : List Value} (each : ∀ item ∈ first, ∀ other, item.equal other = other.equal item)
    (second : List Value) : equalItems first second = equalItems second first := by
  induction first generalizing second with
  | nil => cases second <;> rfl
  | cons item rest later =>
    obtain ⟨here, others⟩ := List.forall_mem_cons.mp each
    cases second with
    | nil => rfl
    | cons other more => rw [equalItems, equalItems, here, later others]

/-- Values are equal in either order. -/
theorem equal_comm (first second : Value) : first.equal second = second.equal first := by
  have := lawful_octets
  induction first using induct generalizing second with
  | list items each =>
    cases second with
    | list others => exact equalItems_comm each others
    | _ => rfl
  | map entries each =>
    cases second with
    | map others =>
      have values : ∀ item ∈ entries.map Prod.snd, ∀ other, item.equal other = other.equal item :=
        List.forall_mem_map.mpr each
      simp only [equal, equalEntries_eq, equalItems_comm values, BEq.comm]
    | _ => rfl
  | float x => cases second <;> first | rfl | exact Number.float_beq_comm _ _
  | _ => cases second <;> first | rfl | exact BEq.comm

/-! ## Copies -/

/-- A value does not equal itself on its own account: it is an object, or a float that is no number. -/
def Differs : Value → Prop
  | object _ => True
  | float x => x.isNaN = true
  | _ => False

variable (copyPayload : Payload → Payload)

/-- Items equal their copies if each of them does. -/
theorem equalItems_copied (items : List Value) :
    equalItems items (copiedItems copyPayload items) = true ↔
      ∀ item ∈ items, item.equal (item.copied copyPayload) = true := by
  induction items with
  | nil => simp [copiedItems, equalItems]
  | cons item rest later => rw [copiedItems, equalItems, Bool.and_eq_true, later, List.forall_mem_cons]

/-- The copies of entries have their names. -/
theorem map_fst_copiedEntries (entries : List (String × Value)) :
    (copiedEntries copyPayload entries).map Prod.fst = entries.map Prod.fst := by
  induction entries with
  | nil => rfl
  | cons entry rest later => rw [copiedEntries, List.map_cons, List.map_cons, later]

/-- The copies of entries have the copies of their values. -/
theorem map_snd_copiedEntries (entries : List (String × Value)) :
    (copiedEntries copyPayload entries).map Prod.snd = copiedItems copyPayload (entries.map Prod.snd) := by
  induction entries with
  | nil => rfl
  | cons entry rest later => rw [copiedEntries, List.map_cons, List.map_cons, copiedItems, later]

/-- A value equals its copy just if nothing inside it differs from itself. -/
theorem equal_copied_iff (value : Value) :
    value.equal (value.copied copyPayload) = true ↔ value.Throughout fun part => ¬part.Differs := by
  have := lawful_octets
  induction value using induct with
  | list items each =>
    simp only [copied, equal, equalItems_copied, throughout_list, Differs, not_false_eq_true, true_and]
    exact forall₂_congr each
  | map entries each =>
    simp only [copied, equal, equalEntries_eq, map_fst_copiedEntries, map_snd_copiedEntries, BEq.rfl, Bool.true_and,
      equalItems_copied, throughout_map, Differs, not_false_eq_true, true_and, List.forall_mem_map]
    exact forall₂_congr each
  | float x =>
    have self : (float x).equal ((float x).copied copyPayload) = !x.isNaN := Number.float_beq_self x
    rw [throughout_iff_own rfl rfl, self]
    simp [Differs]
  | object payload =>
    rw [throughout_iff_own rfl rfl]
    simp [equal, Differs]
  | _ =>
    rw [throughout_iff_own rfl rfl]
    simp [copied, equal, Differs, Raised.same]

/-! ## What equals the same -/

/-- The value is a float. -/
def IsFloat (value : Value) : Prop := value.kind = .float

/-- Items that equal the same items are equal, if each of them is. -/
theorem equalItems_trans {first second third : List Value}
    (each : ∀ x ∈ first, ∀ y ∈ second, ∀ z ∈ third, x.equal y = true → y.equal z = true → x.equal z = true)
    (same : equalItems first second = true) (next : equalItems second third = true) :
    equalItems first third = true := by
  induction first generalizing second third with
  | nil =>
    cases second with
    | nil => exact next
    | cons => cases same
  | cons x rest later =>
    cases second with
    | nil => cases same
    | cons y more =>
      cases third with
      | nil => cases next
      | cons z others =>
        simp only [equalItems, Bool.and_eq_true] at same next ⊢
        refine ⟨each x List.mem_cons_self y List.mem_cons_self z List.mem_cons_self same.1 next.1, ?_⟩
        exact later (fun a here b there c beyond => each a (List.mem_cons_of_mem _ here) b
          (List.mem_cons_of_mem _ there) c (List.mem_cons_of_mem _ beyond)) same.2 next.2

/-- Values without floats that equal the same one are equal. -/
theorem equal_trans {first second third : Value} (free : first.Throughout fun part => ¬part.IsFloat)
    (between : second.Throughout fun part => ¬part.IsFloat) (last : third.Throughout fun part => ¬part.IsFloat)
    (same : first.equal second = true) (next : second.equal third = true) : first.equal third = true := by
  have := lawful_octets
  induction first using induct generalizing second third with
  | list items each =>
    cases second with
    | list others =>
      cases third with
      | list more =>
        rw [throughout_list] at free between last
        exact equalItems_trans (fun x here y there z beyond => each x here (free.2 x here) (between.2 y there)
          (last.2 z beyond)) same next
      | _ => cases next
    | _ => cases same
  | map entries each =>
    cases second with
    | map others =>
      cases third with
      | map more =>
        rw [throughout_map] at free between last
        simp only [equal, equalEntries_eq, Bool.and_eq_true] at same next ⊢
        refine ⟨BEq.trans same.1 next.1, equalItems_trans ?_ same.2 next.2⟩
        simp only [List.forall_mem_map]
        exact fun x here y there z beyond => each x here (free.2 x here) (between.2 y there) (last.2 z beyond)
      | _ => cases next
    | _ => cases same
  | float x => exact absurd rfl (free _ (.self _))
  | null =>
    cases second with
    | null => exact next
    | _ => cases same
  | _ =>
    cases second <;> first
      | cases same
      | exact absurd rfl (between _ (.self _))
      | cases third <;> first
        | cases next
        | exact absurd rfl (last _ (.self _))
        | exact BEq.trans same next

/-- What holds of equality of values. -/
structure EqualityLaws : Prop where
  /-- It holds in either order. -/
  comm : ∀ first second : Value, (first == second) = (second == first)
  /-- However objects copy themselves, a value equals its copy just if neither an object nor a float that is no number
  is inside it, at any depth. -/
  copies : ∀ (copyPayload : Payload → Payload) (value : Value),
    (value == value.copied copyPayload) = true ↔ value.Throughout fun part => ¬part.Differs
  /-- Values that equal the same one are equal, where there are no floats, at any depth. -/
  trans : ∀ first second third : Value, (first.Throughout fun part => ¬part.IsFloat) →
    (second.Throughout fun part => ¬part.IsFloat) → (third.Throughout fun part => ¬part.IsFloat) →
    (first == second) = true → (second == third) = true → (first == third) = true

/-- Equality of values keeps these laws. -/
theorem equality_laws : EqualityLaws where
  comm := equal_comm
  copies := equal_copied_iff
  trans _ _ _ := equal_trans

example : (int 9007199254740993 == float 9007199254740992 && float 9007199254740992 == int 9007199254740992 &&
    !(int 9007199254740993 == int 9007199254740992)) = true := by
  decide +kernel

end MessageRouting.Value
