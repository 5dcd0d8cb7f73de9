import MessageRouting.Proofs.Convert.Registered

/-!
# The first path over what is registered

Which path is found depends on nothing but the edges that have a converter: not on the order in which they are listed, nor
on the order in which the converters were registered. For the path that is found is the first one, and there is only one.
-/

namespace MessageRouting.Converters

open MessageRouting.Convert

variable {κ : Type} {converters : Converters κ} {edge : Edge}

/-- A registered converter adds its edge to the others. -/
theorem mem_registered_place {other : Edge} {converter : Converter κ} :
    other ∈ (converters.place edge converter).registered ↔ other = edge ∨ other ∈ converters.registered := by
  simp only [registered, place, List.map_cons, List.mem_cons, List.mem_map, List.mem_filter, bne_iff_ne]
  constructor
  · rintro (same | ⟨entry, ⟨listed, -⟩, found⟩)
    · exact .inl same
    · exact .inr ⟨entry, listed, found⟩
  · rintro (same | ⟨entry, listed, rfl⟩)
    · exact .inl same
    · by_cases same : entry.1 = edge
      · exact .inl same
      · exact .inr ⟨entry, ⟨listed, same⟩, rfl⟩

/-- Registers converters one after the other. -/
def placeAll (converters : Converters κ) (entries : List (Edge × Converter κ)) : Converters κ :=
  entries.foldl (fun converters (edge, converter) => converters.place edge converter) converters

/-- Registered converters add their edges to the others. -/
theorem mem_registered_placeAll {other : Edge} (entries : List (Edge × Converter κ)) (converters : Converters κ) :
    other ∈ (converters.placeAll entries).registered ↔
      other ∈ entries.map Prod.fst ∨ other ∈ converters.registered := by
  induction entries generalizing converters with
  | nil => simp [placeAll]
  | cons entry rest ih =>
    obtain ⟨edge, converter⟩ := entry
    have later := ih (converters.place edge converter)
    rw [mem_registered_place] at later
    rw [List.map_cons, List.mem_cons, or_assoc]
    exact later.trans or_left_comm

/-- Over the same edges the same path is found, in whichever order they are listed. -/
theorem find_congr {ι : Type} {other : Converters ι}
    (same : ∀ hop, hop ∈ other.registered ↔ hop ∈ converters.registered) : other.find edge = converters.find edge := by
  have carried {source target : Kind} {path : List Kind} :
      Leads other.registered source target path ↔ Leads converters.registered source target path :=
    ⟨fun leads => ⟨leads.starts, leads.ends, fun hop member => (same hop).mp (leads.along hop member)⟩,
      fun leads => ⟨leads.starts, leads.ends, fun hop member => (same hop).mpr (leads.along hop member)⟩⟩
  cases there : other.find edge with
  | none =>
    refine (shortestPath_eq_none_iff.mpr fun path leads => ?_).symm
    exact shortestPath_eq_none_iff.mp there path (carried.mpr leads)
  | some path =>
    have first := isFirst_of_shortestPath there
    cases here : converters.find edge with
    | none => exact absurd (carried.mp first.leads) (shortestPath_eq_none_iff.mp here path)
    | some found =>
      have own : IsFirst converters.registered edge.1 edge.2 path :=
        ⟨⟨carried.mp first.leads, fun another leads => first.shortest another (carried.mpr leads)⟩,
          fun another leads => first.sooner another (carried.mpr leads)⟩
      rw [own.unique (isFirst_of_shortestPath here)]

/-- The search for a path between two kinds over registered converters. -/
structure FindsFirst (converters : Converters κ) (edge : Edge) : Prop where
  /-- It comes to an end: more rounds, or more steps back, than there are kinds make no difference. -/
  ends : ∀ limit, Kind.all.length < limit →
    searchWithin limit converters.registered edge.1 edge.2 = some (converters.find edge)
  /-- It finds none just where no path leads along registered converters. -/
  missing : converters.find edge = none ↔ ∀ path, ¬Leads converters.registered edge.1 edge.2 path
  /-- It finds none but a shortest one, and of those the first by the kinds on it. -/
  first : ∀ path, converters.find edge = some path → IsFirst converters.registered edge.1 edge.2 path
  /-- In whichever order the edges are listed, it finds the same. -/
  anyListing : ∀ {ι : Type} (other : Converters ι), (∀ hop, hop ∈ other.registered ↔ hop ∈ converters.registered) →
    other.find edge = converters.find edge
  /-- In whichever order more converters are registered, it finds the same then. -/
  anyOrder : ∀ entries others : List (Edge × Converter κ), entries.Perm others →
    (converters.placeAll entries).find edge = (converters.placeAll others).find edge

/-- Whatever is registered, the search between two kinds comes to an end and finds the first path, if there is one,
whatever order the converters are in. -/
theorem find_finds_first (converters : Converters κ) (edge : Edge) : FindsFirst converters edge where
  ends limit enough := by
    obtain ⟨answer, ended, spec⟩ := searchWithin_spec enough converters.registered edge.1 edge.2
    rw [ended]
    cases answer with
    | none => exact congrArg some (shortestPath_eq_none_iff.mpr spec).symm
    | some path =>
      cases found : converters.find edge with
      | none => exact absurd spec.leads (shortestPath_eq_none_iff.mp found path)
      | some other => rw [spec.unique (isFirst_of_shortestPath found)]
  missing := shortestPath_eq_none_iff
  first _ found := isFirst_of_shortestPath found
  anyListing _ same := find_congr same
  anyOrder entries others perm := by
    refine find_congr fun hop => ?_
    rw [mem_registered_placeAll, mem_registered_placeAll, (perm.map Prod.fst).mem_iff]

/-- Of two paths of one length the first is found, although the edges of the other are listed before. -/
example : shortestPath [(.int, .string), (.string, .time), (.int, .float), (.float, .time)] .int .time =
    some [.int, .float, .time] := by decide

end MessageRouting.Converters
