import Mathlib.Data.List.Lex
import Mathlib.Data.List.Perm.Subperm
import MessageRouting.Convert.Path

/-!
# Paths and walks along conversions

A path leads from one kind to another along edges; turned round, it is a walk that came from the one kind to the other.
Wherever a walk comes, one comes that visits nothing twice, so there is one that is no longer than there are kinds. Walks
come in an order: shorter ones first, and those of one length by the kinds that they take. The first of all walks to a
kind is the one that the search is to find.
-/

namespace MessageRouting.Convert

variable {edges : List Edge} {source target : Kind}

/-! ## Paths and walks -/

/-- The path leads from one kind to another along edges. -/
structure Leads (edges : List Edge) (source target : Kind) (path : List Kind) : Prop where
  /-- It starts at the one kind. -/
  starts : path.head? = some source
  /-- It ends at the other. -/
  ends : path.getLast? = some target
  /-- Each of its hops is an edge. -/
  along : ∀ hop ∈ hops path, hop ∈ edges

/-- The path leads from one kind to another, and none that does is shorter. -/
structure IsShortest (edges : List Edge) (source target : Kind) (path : List Kind) : Prop where
  /-- It leads there. -/
  leads : Leads edges source target path
  /-- It is not longer than others. -/
  shortest : ∀ other, Leads edges source target other → path.length ≤ other.length

/-- A walk along edges away from a kind, given backwards. -/
inductive Walk (edges : List Edge) (source : Kind) : List Kind → Prop
  /-- It has not left the kind yet. -/
  | start : Walk edges source [source]
  /-- It goes on along an edge. -/
  | step {kind next : Kind} {before : List Kind} (walk : Walk edges source (kind :: before))
    (edge : (kind, next) ∈ edges) : Walk edges source (next :: kind :: before)

/-- Behind its first hop a path leads on from there. -/
theorem Leads.tail {first second : Kind} {others : List Kind}
    (leads : Leads edges source target (first :: second :: others)) : Leads edges second target (second :: others) where
  starts := rfl
  ends := by
    have ends := leads.ends
    rwa [List.getLast?_cons_cons] at ends
  along hop member := leads.along hop (List.mem_cons_of_mem _ member)

/-- A kind behind a path adds the hop from its end. -/
theorem hops_concat {path : List Kind} {last : Kind} (ends : path.getLast? = some last) (next : Kind) :
    hops (path ++ [next]) = hops path ++ [(last, next)] := by
  induction path with
  | nil => cases ends
  | cons first rest ih =>
    cases rest with
    | nil =>
      cases ends
      rfl
    | cons second others =>
      have later : (second :: others).getLast? = some last := by rwa [List.getLast?_cons_cons] at ends
      have grown := ih later
      simp only [List.cons_append, hops] at grown ⊢
      rw [grown]

/-- A walk, turned round, leads to where it came. -/
theorem Walk.leads {walk : List Kind} (walked : Walk edges source walk) :
    ∀ kind, walk.head? = some kind → Leads edges source kind walk.reverse := by
  induction walked with
  | start =>
    intro kind came
    cases came
    exact ⟨rfl, rfl, List.forall_mem_nil _⟩
  | @step kind next before walk edge ih =>
    intro target came
    cases came
    have led := ih kind rfl
    rw [List.reverse_cons]
    refine ⟨?_, List.getLast?_concat .., ?_⟩
    · rw [List.head?_append, led.starts]
      rfl
    · rw [hops_concat led.ends next]
      exact List.forall_mem_append.mpr ⟨led.along, List.forall_mem_singleton.mpr edge⟩

/-- A walk goes on along a path that leads away from where it came. -/
theorem Walk.along {path : List Kind} : ∀ {kind : Kind} {before : List Kind}, Walk edges source (kind :: before) →
    path.head? = some kind → (∀ hop ∈ hops path, hop ∈ edges) → Walk edges source (path.reverse ++ before) := by
  induction path with
  | nil =>
    intro kind before walked starts
    cases starts
  | cons first rest ih =>
    intro kind before walked starts registered
    cases starts
    cases rest with
    | nil => exact walked
    | cons second others =>
      have edge : (first, second) ∈ edges := registered _ List.mem_cons_self
      have later := ih (walked.step edge) rfl fun hop member => registered hop (List.mem_cons_of_mem _ member)
      rwa [List.reverse_cons, List.append_assoc]

/-- A path, turned round, is a walk. -/
theorem Leads.walk {path : List Kind} (leads : Leads edges source target path) : Walk edges source path.reverse := by
  have walked := Walk.along .start leads.starts leads.along
  rwa [List.append_nil] at walked

/-- A path, turned round, came to where it leads. -/
theorem Leads.came {path : List Kind} (leads : Leads edges source target path) :
    path.reverse.head? = some target := by
  rw [List.head?_reverse]
  exact leads.ends

/-! ## Walks that visit nothing twice -/

/-- What a walk did first is a walk. -/
theorem Walk.earlier {later : List Kind} {kind : Kind} {before : List Kind}
    (walked : Walk edges source (later ++ kind :: before)) : Walk edges source (kind :: before) := by
  induction later with
  | nil => exact walked
  | cons next rest ih =>
    cases rest with
    | nil =>
      cases walked with
      | step walk _ => exact walk
    | cons second others =>
      cases walked with
      | step walk _ => exact ih walk

/-- Wherever a walk comes, one comes that visits nothing twice. -/
theorem Walk.exists_nodup {walk : List Kind} (walked : Walk edges source walk) :
    ∃ short, Walk edges source short ∧ short.head? = walk.head? ∧ short.Nodup := by
  induction walked with
  | start => exact ⟨[source], .start, rfl, List.nodup_cons.mpr ⟨List.not_mem_nil, List.nodup_nil⟩⟩
  | @step kind next before walk edge ih =>
    obtain ⟨short, walked, came, nodup⟩ := ih
    by_cases visited : next ∈ short
    · obtain ⟨later, earlier, rfl⟩ := List.append_of_mem visited
      have suffix : (next :: earlier).Nodup := (List.nodup_append.mp nodup).2.1
      exact ⟨next :: earlier, walked.earlier, rfl, suffix⟩
    · obtain ⟨earlier, rfl⟩ : ∃ earlier, short = kind :: earlier := List.head?_eq_some_iff.mp came
      exact ⟨next :: kind :: earlier, walked.step edge, rfl, List.nodup_cons.mpr ⟨visited, nodup⟩⟩

/-- Every kind is among all kinds. -/
theorem mem_all (kind : Kind) : kind ∈ Kind.all := by
  cases kind <;> decide

/-- Kinds without repetition are not more than all kinds. -/
theorem length_le_of_nodup {kinds : List Kind} (nodup : kinds.Nodup) : kinds.length ≤ Kind.all.length := by
  have within : kinds ⊆ Kind.all := fun kind _ => mem_all kind
  exact (List.subperm_of_subset nodup within).length_le

/-! ## Which walk comes first -/

/-- Where the paths part, the first one takes the kind that stands earlier in the order. -/
abbrev Sooner : List Kind → List Kind → Prop := List.Lex fun first second => first.place < second.place

/-- The first walk comes no later than the second, both given backwards: it is shorter, or it is as long, and it is the
same or takes the earlier kind where they part. -/
def NoLater (walk other : List Kind) : Prop :=
  walk.length < other.length ∨
    walk.length = other.length ∧ (walk = other ∨ Sooner walk.reverse other.reverse)

/-- Kinds in the same place are the same. -/
theorem place_inj {kind other : Kind} : kind.place = other.place ↔ kind = other :=
  List.idxOf_inj (mem_all kind)

/-- What is sooner than something sooner is sooner. -/
theorem Sooner.trans {first second third : List Kind} (before : Sooner first second) (after : Sooner second third) :
    Sooner first third := by
  induction before generalizing third with
  | nil => cases after <;> exact .nil
  | rel earlier =>
    cases after with
    | rel later => exact .rel (Nat.lt_trans earlier later)
    | cons _ => exact .rel earlier
  | cons _ ih =>
    cases after with
    | rel later => exact .rel later
    | cons rest => exact .cons (ih rest)

/-- Nothing is sooner than itself. -/
theorem Sooner.irrefl (path : List Kind) : ¬Sooner path path := by
  induction path with
  | nil => nofun
  | cons kind rest ih =>
    intro sooner
    cases sooner with
    | rel earlier => exact Nat.lt_irrefl _ earlier
    | cons later => exact ih later

/-- Of paths of one length, the sooner one stays so whatever kinds come behind them. -/
theorem Sooner.concat {path other : List Kind} (sooner : Sooner path other) (length : path.length = other.length)
    (kind next : Kind) : Sooner (path ++ [kind]) (other ++ [next]) := by
  induction sooner with
  | nil => cases length
  | rel earlier => exact .rel earlier
  | cons _ ih => exact .cons (ih (Nat.succ.inj length))

namespace NoLater

/-- A walk comes no later than itself. -/
theorem refl (walk : List Kind) : NoLater walk walk := .inr ⟨rfl, .inl rfl⟩

/-- What comes no later is no longer. -/
theorem length_le {walk other : List Kind} (noLater : NoLater walk other) : walk.length ≤ other.length := by
  rcases noLater with shorter | ⟨same, -⟩
  · exact Nat.le_of_lt shorter
  · exact Nat.le_of_eq same

/-- Coming no later is transitive. -/
theorem trans {first second third : List Kind} (before : NoLater first second) (after : NoLater second third) :
    NoLater first third := by
  rcases before with shorter | ⟨same, order⟩
  · exact .inl (Nat.lt_of_lt_of_le shorter after.length_le)
  rcases after with longer | ⟨equal, later⟩
  · exact .inl (same ▸ longer)
  refine .inr ⟨same.trans equal, ?_⟩
  rcases order with rfl | sooner
  · exact later
  rcases later with rfl | further
  · exact .inr sooner
  · exact .inr (sooner.trans further)

/-- Of different walks the one that comes no later stays so, however both go on. -/
theorem cons_of_ne {walk other : List Kind} (noLater : NoLater walk other) (different : walk ≠ other)
    (kind next : Kind) : NoLater (kind :: walk) (next :: other) := by
  rcases noLater with shorter | ⟨same, order⟩
  · exact .inl (Nat.succ_lt_succ shorter)
  · have sooner := order.resolve_left different
    refine .inr ⟨congrArg Nat.succ same, .inr ?_⟩
    rw [List.reverse_cons, List.reverse_cons]
    exact sooner.concat (by rw [List.length_reverse, List.length_reverse, same]) kind next

/-- A walk goes on to the earlier kind no later than to the later one. -/
theorem cons_of_le {kind next : Kind} (earlier : kind.place ≤ next.place) (walk : List Kind) :
    NoLater (kind :: walk) (next :: walk) := by
  refine .inr ⟨rfl, ?_⟩
  rcases Nat.lt_or_eq_of_le earlier with before | same
  · have parts : Sooner [kind] [next] := .rel before
    rw [List.reverse_cons, List.reverse_cons]
    exact .inr (List.Lex.append_left _ parts _)
  · exact .inl (by rw [place_inj.mp same])

/-- The walk that comes no later stays so if both go on to the same kind. -/
theorem cons {walk other : List Kind} (noLater : NoLater walk other) (next : Kind) :
    NoLater (next :: walk) (next :: other) := by
  by_cases same : walk = other
  · rw [same]
    exact refl _
  · exact noLater.cons_of_ne same next next

end NoLater

/-- The walk, given backwards, comes to a kind, and no walk that does comes earlier. -/
structure FirstWalk (edges : List Edge) (source kind : Kind) (walk : List Kind) : Prop where
  /-- It is a walk. -/
  walked : Walk edges source walk
  /-- It comes there. -/
  came : walk.head? = some kind
  /-- Others come no earlier. -/
  first : ∀ other, Walk edges source other → other.head? = some kind → NoLater walk other

/-- The first walk is no longer than there are kinds. -/
theorem FirstWalk.length_le {kind : Kind} {walk : List Kind} (first : FirstWalk edges source kind walk) :
    walk.length ≤ Kind.all.length := by
  obtain ⟨short, walked, came, nodup⟩ := first.walked.exists_nodup
  have noLater := first.first short walked (came.trans first.came)
  exact Nat.le_trans noLater.length_le (length_le_of_nodup nodup)

/-- The path is a shortest one from one kind to another, and of those it takes the earliest kinds. -/
structure IsFirst (edges : List Edge) (source target : Kind) (path : List Kind) : Prop
    extends IsShortest edges source target path where
  /-- Where another one parts from it, that takes a later kind. -/
  sooner : ∀ other, Leads edges source target other → other.length = path.length → other ≠ path → Sooner path other

/-- The first walk, turned round, is the first path. -/
theorem FirstWalk.isFirst {walk : List Kind} (first : FirstWalk edges source target walk) :
    IsFirst edges source target walk.reverse where
  leads := first.walked.leads target first.came
  shortest other leads := by
    have noLater := first.first other.reverse leads.walk leads.came
    have bounded := noLater.length_le
    rwa [List.length_reverse] at bounded ⊢
  sooner other leads length different := by
    rcases first.first other.reverse leads.walk leads.came with shorter | ⟨-, same | sooner⟩
    · rw [List.length_reverse] at shorter length
      omega
    · rw [same, List.reverse_reverse] at different
      exact absurd rfl different
    · rwa [List.reverse_reverse] at sooner

/-- There is one first path. -/
theorem IsFirst.unique {path other : List Kind} (first : IsFirst edges source target path)
    (also : IsFirst edges source target other) : path = other := by
  have length : other.length = path.length :=
    Nat.le_antisymm (also.shortest path first.leads) (first.shortest other also.leads)
  by_contra different
  have before := first.sooner other also.leads length (Ne.symm different)
  have after := also.sooner path first.leads length.symm different
  exact Sooner.irrefl path (before.trans after)

end MessageRouting.Convert
