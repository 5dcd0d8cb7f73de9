import MessageRouting.Convert.Converters
import MessageRouting.Proofs.Convert.ShortestPath

/-!
# Registered converters and kept paths

A path that is kept is of use as long as it is the one that the search would find. Searching and keeping what was found
leaves the kept paths so, and where none is kept, nothing can be wrong. Along a path that the search finds, there is a
converter for each hop.
-/

namespace MessageRouting.Converters

open MessageRouting.Convert

variable {κ : Type} {converters : Converters κ} {edge : Edge}

/-- The edges with a converter. -/
abbrev registered (converters : Converters κ) : List Edge := converters.edges.map Prod.fst

/-! ## Kept paths -/

/-- Each path that is kept is the one that is found over the converters that are registered now. -/
def Current (converters : Converters κ) : Prop :=
  ∀ edge path, converters.known? edge = some path → path = converters.find edge

/-- Where nothing is kept, all that is kept is right. -/
theorem current_of_fresh (fresh : converters.paths = []) : converters.Current := by
  intro edge path known
  unfold known? at known
  rw [fresh] at known
  cases known

/-- Other entries are looked up as if those of an edge were not there. -/
theorem lookup_filter_of_ne {α : Type} {edge other : Edge} (differs : other ≠ edge) (entries : List (Edge × α)) :
    (entries.filter (·.1 != edge)).lookup other = entries.lookup other := by
  induction entries with
  | nil => rfl
  | cons entry rest ih =>
    obtain ⟨own, value⟩ := entry
    by_cases same : own = edge
    · have removed : (own != edge) = false := by simp [same]
      have missed : (other == own) = false := by simp [same, differs]
      rw [List.filter_cons, removed, List.lookup_cons, missed]
      exact ih
    · have kept : (own != edge) = true := by simp [same]
      rw [List.filter_cons, kept, if_pos rfl, List.lookup_cons, List.lookup_cons, ih]

/-- An entry in the place of others of its edge is found there, and other entries are found as before. -/
theorem lookup_replaced {α : Type} (edge other : Edge) (value : α) (entries : List (Edge × α)) :
    ((edge, value) :: entries.filter (·.1 != edge)).lookup other =
      if other = edge then some value else entries.lookup other := by
  by_cases same : other = edge
  · rw [if_pos same, same, List.lookup_cons_self]
  · have missed : (other == edge) = false := by simp [same]
    rw [if_neg same, List.lookup_cons, missed]
    exact lookup_filter_of_ne same entries

/-- A path that was kept is known, and others are known as before. -/
theorem known?_remember (edge other : Edge) (path : Option (List Kind)) (converters : Converters κ) :
    (converters.remember edge path).known? other = if other = edge then some path else converters.known? other :=
  lookup_replaced edge other path converters.paths

/-- A converter that was put in place is that of its edge, and others are as before. -/
theorem at?_place (edge other : Edge) (converter : Converter κ) (converters : Converters κ) :
    (converters.place edge converter).at? other = if other = edge then some converter else converters.at? other :=
  lookup_replaced edge other converter converters.edges

/-- Keeping what was found leaves all that is kept right. -/
theorem Current.remember (current : converters.Current) (edge : Edge) :
    (converters.remember edge (converters.find edge)).Current := by
  intro other path known
  rw [known?_remember] at known
  by_cases same : other = edge
  · rw [if_pos same] at known
    cases known
    rw [same]
    rfl
  · rw [if_neg same] at known
    exact current other path known

/-! ## Converters along edges -/

/-- The converters that are registered along edges. -/
def along (converters : Converters κ) (edges : List Edge) : List (Edge × Converter κ) :=
  edges.filterMap fun edge => (converters.at? edge).map fun converter => (edge, converter)

/-- A registered edge has a converter. -/
theorem exists_at? (member : edge ∈ converters.registered) : ∃ converter, converters.at? edge = some converter := by
  unfold at?
  cases found : converters.edges.lookup edge with
  | some converter => exact ⟨converter, rfl⟩
  | none =>
    obtain ⟨entry, listed, same⟩ := List.mem_map.mp member
    have differs := List.lookup_eq_none_iff.mp found entry listed
    rw [same] at differs
    simp at differs

/-- A converter along an edge comes before those along the others. -/
theorem along_cons {converter : Converter κ} (found : converters.at? edge = some converter) (rest : List Edge) :
    converters.along (edge :: rest) = (edge, converter) :: converters.along rest := by
  unfold along
  rw [List.filterMap_cons, found]
  rfl

/-- Along registered edges there is a converter for each. -/
theorem map_along {edges : List Edge} (all : ∀ edge ∈ edges, edge ∈ converters.registered) :
    (converters.along edges).map Prod.fst = edges := by
  induction edges with
  | nil => rfl
  | cons edge rest ih =>
    obtain ⟨first, others⟩ := List.forall_mem_cons.mp all
    obtain ⟨converter, found⟩ := exists_at? first
    rw [along_cons found, List.map_cons, ih others]

/-- What is found is a shortest path along registered converters. -/
theorem isShortest_of_find {path : List Kind} (found : converters.find edge = some path) :
    IsShortest converters.registered edge.1 edge.2 path :=
  isShortest_of_shortestPath found

end MessageRouting.Converters
