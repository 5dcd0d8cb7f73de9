/-!
# Tables

A table holds named entries in ascending order of their names, each name once. Names are ordered by code
point.
-/

namespace MessageRouting

/-- Entries in ascending order of their names. -/
abbrev Table (α : Type) : Type := List (String × α)

namespace Table

variable {α β : Type}

/-- The entry of a name. -/
def find? (name : String) : Table α → Option α
  | [] => none
  | (key, value) :: rest => if key = name then some value else find? name rest

/-- The name has an entry. -/
def has (name : String) (table : Table α) : Bool := (table.find? name).isSome

/-- Gives a name an entry, in the place of an earlier one. -/
def insert (name : String) (value : α) : Table α → Table α
  | [] => [(name, value)]
  | (key, old) :: rest =>
    if key = name then (name, value) :: rest
    else if name < key then (name, value) :: (key, old) :: rest
    else (key, old) :: insert name value rest

/-- Takes the entry of a name away. -/
def erase (name : String) : Table α → Table α
  | [] => []
  | (key, value) :: rest => if key = name then rest else (key, value) :: erase name rest

/-- A table of entries given in any order; the last entry of a name counts. -/
def ofList (entries : List (String × α)) : Table α :=
  entries.foldl (fun table (name, value) => insert name value table) []

/-- The names of the entries. -/
def names (table : Table α) : List String := table.map Prod.fst

/-- The names ascend. -/
def Sorted (table : Table α) : Prop := table.names.Pairwise (· < ·)

/-! ## Laws -/

@[simp] theorem find?_nil (name : String) : find? name ([] : Table α) = none := rfl

/-- Of two different names the one that does not come first comes second. -/
theorem name_lt_of_not_lt {name key : String} (different : ¬key = name) (late : ¬name < key) :
    key < name := by
  refine Decidable.byContradiction fun early => different ?_
  exact String.le_antisymm (String.not_lt.1 late) (String.not_lt.1 early)

/-- Exactly the entry of the given name changes. -/
@[simp] theorem find?_insert (name other : String) (value : α) (table : Table α) :
    find? other (insert name value table) = if other = name then some value else find? other table := by
  induction table with
  | nil => simp only [insert, find?, eq_comm]
  | cons entry rest later =>
    obtain ⟨key, old⟩ := entry
    simp only [insert]
    split
    · next same => subst same; simp only [find?, eq_comm]; split <;> rfl
    · split
      · simp only [find?, eq_comm]
      · next different _ =>
        simp only [find?, later]
        by_cases here : key = other
        · subst here; simp [different]
        · simp [here]

/-- Of two entries given to a name one after the other the last one stays. -/
theorem insert_insert (name : String) (value old : α) (table : Table α) :
    insert name value (insert name old table) = insert name value table := by
  induction table with
  | nil => simp only [insert, if_true]
  | cons entry rest later =>
    obtain ⟨key, held⟩ := entry
    by_cases same : key = name
    · simp only [insert, same, if_true]
    · by_cases first : name < key
      · simp only [insert, same, first, if_true, if_false]
      · simp only [insert, same, first, if_false, later]

/-- A name that was given an entry has it. -/
theorem find?_insert_self (name : String) (value : α) (table : Table α) :
    find? name (insert name value table) = some value := by simp

/-- Every name keeps its entry but the one that is taken away. -/
theorem find?_erase_of_ne {name other : String} (different : other ≠ name) (table : Table α) :
    find? other (erase name table) = find? other table := by
  induction table with
  | nil => rfl
  | cons entry rest later =>
    obtain ⟨key, value⟩ := entry
    simp only [erase]
    split
    · next same => subst same; simp [find?, Ne.symm different]
    · simp only [find?, later]

/-- The names after an insertion are the old ones and the new one. -/
theorem mem_names_insert {name other : String} {value : α} {table : Table α} :
    other ∈ names (insert name value table) ↔ other = name ∨ other ∈ names table := by
  induction table with
  | nil => simp [insert, names]
  | cons entry rest later =>
    obtain ⟨key, old⟩ := entry
    simp only [insert]
    split
    · next same => subst same; simp [names]
    · split
      · simp [names]
      · simp only [names, List.map_cons, List.mem_cons] at later ⊢
        rw [later]
        exact or_left_comm

/-- A name that remains after an erasure was there before. -/
theorem mem_names_of_erase {name other : String} {table : Table α}
    (remains : other ∈ names (erase name table)) : other ∈ names table := by
  induction table with
  | nil => exact remains
  | cons entry rest later =>
    obtain ⟨key, value⟩ := entry
    simp only [erase] at remains
    split at remains
    · exact List.mem_cons_of_mem _ remains
    · simp only [names, List.map_cons, List.mem_cons] at remains later ⊢
      exact remains.imp_right later

/-- Exactly what is not among the names has no entry. -/
theorem find?_eq_none_iff {name : String} {table : Table α} :
    find? name table = none ↔ name ∉ names table := by
  induction table with
  | nil => simp [names]
  | cons entry rest later =>
    obtain ⟨key, value⟩ := entry
    simp only [names, List.map_cons, List.mem_cons, find?] at later ⊢
    split
    · next same => simp [same]
    · next different => simp [later, Ne.symm different]

theorem sorted_nil : Sorted ([] : Table α) := List.Pairwise.nil

/-- An insertion keeps the names ascending. -/
theorem sorted_insert {name : String} {value : α} {table : Table α} (sorted : Sorted table) :
    Sorted (insert name value table) := by
  induction table with
  | nil => simp [insert, Sorted, names]
  | cons entry rest later =>
    obtain ⟨key, old⟩ := entry
    obtain ⟨first, others⟩ := List.pairwise_cons.1 sorted
    simp only [insert]
    split
    · next same => subst same; exact sorted
    · split
      · next early =>
        refine List.pairwise_cons.2 ⟨fun other member => ?_, sorted⟩
        rcases List.mem_cons.1 member with rfl | member
        · exact early
        · exact String.lt_trans early (first other member)
      · next different late =>
        refine List.pairwise_cons.2 ⟨fun other member => ?_, later others⟩
        rcases mem_names_insert.1 member with rfl | member
        · exact name_lt_of_not_lt different late
        · exact first other member

/-- An erasure keeps the names ascending. -/
theorem sorted_erase {name : String} {table : Table α} (sorted : Sorted table) :
    Sorted (erase name table) := by
  induction table with
  | nil => exact sorted
  | cons entry rest later =>
    obtain ⟨key, value⟩ := entry
    obtain ⟨first, others⟩ := List.pairwise_cons.1 sorted
    simp only [erase]
    split
    · exact others
    · exact List.pairwise_cons.2 ⟨fun other member => first other (mem_names_of_erase member), later others⟩

/-- In a sorted table the name that is taken away has no entry left. -/
theorem find?_erase_self {name : String} {table : Table α} (sorted : Sorted table) :
    find? name (erase name table) = none := by
  induction table with
  | nil => rfl
  | cons entry rest later =>
    obtain ⟨key, value⟩ := entry
    obtain ⟨first, others⟩ := List.pairwise_cons.1 sorted
    simp only [erase]
    split
    · next same =>
      subst same
      exact find?_eq_none_iff.2 fun member => String.lt_irrefl key (first key member)
    · next different => simp [find?, different, later others]

/-- What is found is an entry. -/
theorem mem_of_find? {name : String} {value : α} {table : Table α} (found : find? name table = some value) :
    (name, value) ∈ table := by
  induction table with
  | nil => cases found
  | cons entry rest later =>
    obtain ⟨key, old⟩ := entry
    simp only [find?] at found
    split at found
    · next same =>
      cases found
      exact same ▸ List.mem_cons_self
    · exact List.mem_cons_of_mem _ (later found)

/-- In a sorted table every entry is found. -/
theorem find?_of_mem {name : String} {value : α} {table : Table α} (sorted : Sorted table)
    (member : (name, value) ∈ table) : find? name table = some value := by
  induction table with
  | nil => cases member
  | cons entry rest later =>
    obtain ⟨key, old⟩ := entry
    obtain ⟨first, others⟩ := List.pairwise_cons.1 sorted
    rcases List.mem_cons.1 member with same | member
    · cases same
      simp [find?]
    · have early : key < name := first name (List.mem_map_of_mem member)
      have different : key ≠ name := fun same => String.lt_irrefl name (same ▸ early)
      simp [find?, different, later others member]

/-- A name that had no entry comes to the others. -/
theorem names_insert_perm {name : String} {value : α} {table : Table α} (free : name ∉ names table) :
    (names (insert name value table)).Perm (name :: names table) := by
  induction table with
  | nil => exact .refl _
  | cons entry rest later =>
    obtain ⟨key, old⟩ := entry
    have different : key ≠ name := fun same => free (same ▸ List.mem_cons_self)
    have absent : name ∉ names rest := fun member => free (List.mem_cons_of_mem _ member)
    simp only [insert, if_neg different]
    split
    · exact .refl _
    · exact ((later absent).cons key).trans (.swap name key _)

/-- Names that ascend are different. -/
theorem Sorted.nodup {table : Table α} (sorted : Sorted table) : table.names.Nodup := by
  refine List.Pairwise.imp ?_ sorted
  rintro early late before rfl
  exact String.lt_irrefl early before

/-- A table in which nothing is found is empty. -/
theorem eq_nil_of_find? {table : Table α} (nothing : ∀ name value, find? name table ≠ some value) : table = [] := by
  match table, nothing with
  | [], _ => rfl
  | (name, value) :: _, nothing => exact absurd (by simp [find?]) (nothing name value)

/-- A name has an entry or none is found. -/
theorem has_eq_false_iff {name : String} {table : Table α} : table.has name = false ↔ find? name table = none := by
  simp [has]

/-- A table of entries in any order is sorted. -/
theorem sorted_ofList (entries : List (String × α)) : Sorted (ofList entries) := by
  suffices grown : ∀ table : Table α, Sorted table →
      Sorted (entries.foldl (fun table (name, value) => insert name value table) table) from
    grown [] sorted_nil
  induction entries with
  | nil => exact fun _ sorted => sorted
  | cons entry rest later => exact fun _ sorted => later _ (sorted_insert sorted)

/-- A name behind all others comes last. -/
theorem insert_of_last {name : String} {value : α} {table : Table α} (last : ∀ other ∈ table.names, other < name) :
    insert name value table = table ++ [(name, value)] := by
  induction table with
  | nil => rfl
  | cons entry rest later =>
    obtain ⟨key, old⟩ := entry
    obtain ⟨early, others⟩ := List.forall_mem_cons.mp last
    have different : key ≠ name := fun same => String.lt_irrefl name (same ▸ early)
    rw [insert, if_neg different, if_neg (String.lt_asymm early), later others, List.cons_append]

/-- A table of entries that are sorted already has them as they are. -/
theorem ofList_of_sorted {table : Table α} (sorted : Sorted table) : ofList table = table := by
  suffices grown : ∀ before : Table α, Sorted (before ++ table) →
      table.foldl (fun table (name, value) => insert name value table) before = before ++ table from
    grown [] sorted
  induction table with
  | nil => exact fun before _ => (List.append_nil before).symm
  | cons entry rest later =>
    intro before whole
    obtain ⟨name, value⟩ := entry
    have last : ∀ other ∈ names before, other < name := by
      rw [Sorted, names, List.map_append, List.pairwise_append] at whole
      exact fun other member => whole.2.2 other member name List.mem_cons_self
    have left : Sorted rest := (List.pairwise_cons.1 sorted).2
    rw [List.append_cons] at whole ⊢
    simp only [List.foldl_cons, insert_of_last last]
    exact later left _ whole

end Table

end MessageRouting
