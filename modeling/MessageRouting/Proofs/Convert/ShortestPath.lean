import MessageRouting.Proofs.Convert.Walks

/-!
# What the search for paths finds

The search goes outwards from a kind. Whatever was discovered, the way back from it is the first of all walks to it. This
is so because the kinds that wait stand in the order of their ways, and whoever walks to a kind that was not looked at
comes through one that waits: so no such walk comes earlier than the way to the kind that waits longest, and what is
discovered next is discovered from the first kind from which it can be. Each round looks at one more kind, so the search
comes to an end; and if nothing waits any more, no walk leaves the kinds that were looked at.
-/

namespace MessageRouting.Convert

variable {edges : List Edge} {source target : Kind}

/-! ## Neighbours -/

/-- A kind that was put in its place is there with the others. -/
theorem mem_insertInOrder {kind other : Kind} {kinds : List Kind} :
    other ∈ insertInOrder kind kinds ↔ other = kind ∨ other ∈ kinds := by
  induction kinds with
  | nil => exact List.mem_cons
  | cons first rest ih =>
    unfold insertInOrder
    split
    · rw [List.mem_cons, ih, List.mem_cons]
      exact or_left_comm
    · exact List.mem_cons

/-- Kinds in order stay so when one more is put in its place. -/
theorem pairwise_insertInOrder {kind : Kind} {kinds : List Kind}
    (ordered : kinds.Pairwise fun first second => first.place ≤ second.place) :
    (insertInOrder kind kinds).Pairwise fun first second => first.place ≤ second.place := by
  induction kinds with
  | nil => exact List.pairwise_singleton _ _
  | cons first rest ih =>
    obtain ⟨least, others⟩ := List.pairwise_cons.mp ordered
    unfold insertInOrder
    split
    · rename_i earlier
      refine List.pairwise_cons.mpr ⟨fun other member => ?_, ih others⟩
      rcases mem_insertInOrder.mp member with rfl | old
      · exact Nat.le_of_lt earlier
      · exact least other old
    · rename_i late
      have bounded : kind.place ≤ first.place := Nat.le_of_not_lt late
      refine List.pairwise_cons.mpr ⟨fun other member => ?_, ordered⟩
      rcases List.mem_cons.mp member with rfl | old
      · exact bounded
      · exact Nat.le_trans bounded (least other old)

/-- A kind is a neighbour of another if an edge leads there. -/
theorem mem_neighbours {kind next : Kind} : next ∈ neighbours edges kind ↔ (kind, next) ∈ edges := by
  have sorted (kinds : List Kind) : next ∈ kinds.foldr insertInOrder [] ↔ next ∈ kinds := by
    induction kinds with
    | nil => rfl
    | cons first rest ih => rw [List.foldr_cons, mem_insertInOrder, ih, List.mem_cons]
  unfold neighbours
  rw [sorted, List.mem_map]
  constructor
  · rintro ⟨⟨start, last⟩, member, rfl⟩
    obtain ⟨edge, same⟩ := List.mem_filter.mp member
    have starts : start = kind := by simpa using same
    rwa [← starts]
  · intro edge
    exact ⟨(kind, next), List.mem_filter.mpr ⟨edge, by simp⟩, rfl⟩

/-- Neighbours stand in order. -/
theorem pairwise_neighbours (edges : List Edge) (kind : Kind) :
    (neighbours edges kind).Pairwise fun first second => first.place ≤ second.place := by
  have sorted (kinds : List Kind) :
      (kinds.foldr insertInOrder []).Pairwise fun first second => first.place ≤ second.place := by
    induction kinds with
    | nil => exact List.Pairwise.nil
    | cons first rest ih => exact pairwise_insertInOrder ih
  exact sorted _

/-! ## How far a search has come -/

/-- The way back from a kind to where the search began, over the kinds from which others were discovered. -/
def wayBack : List (Kind × Kind) → Kind → List Kind
  | [], kind => [kind]
  | (next, earlier) :: previous, kind =>
    if kind = next then next :: wayBack previous earlier else wayBack previous kind

/-- The way back from a kind goes through the one from which it was discovered last. -/
theorem wayBack_discovered (previous : List (Kind × Kind)) (kind next : Kind) :
    wayBack ((next, kind) :: previous) next = next :: wayBack previous kind :=
  if_pos rfl

/-- Other ways back stay as they are. -/
theorem wayBack_of_ne {kind next other : Kind} (different : other ≠ next) (previous : List (Kind × Kind)) :
    wayBack ((next, kind) :: previous) other = wayBack previous other :=
  if_neg different

/-- It is recorded how a kind came to be known: the search began there, or it was discovered from a kind that was looked
at. -/
inductive Recorded (previous : List (Kind × Kind)) (source : Kind) (looked : List Kind) (kind : Kind) : Prop
  /-- The search began there. -/
  | began (same : kind = source) (missing : previous.lookup kind = none) (way : wayBack previous kind = [kind])
  /-- It was discovered. -/
  | discovered {earlier : Kind} (member : earlier ∈ looked) (found : previous.lookup kind = some earlier)
    (way : wayBack previous kind = kind :: wayBack previous earlier)

/-- What was looked at and what waits, in a search from a kind: the ways back to them are the first walks, and those that
wait stand in the order of theirs, behind all that was looked at. -/
structure Explored (edges : List Edge) (source : Kind) (looked : List Kind) (frontier : Frontier) : Prop where
  /-- No kind stands twice. -/
  nodup : (looked ++ frontier.queue).Nodup
  /-- The kind where the search began is there. -/
  began : source ∈ looked ++ frontier.queue
  /-- It is recorded how each kind came to be known. -/
  recorded : ∀ kind ∈ looked ++ frontier.queue, Recorded frontier.previous source looked kind
  /-- Of others nothing is recorded. -/
  unknown : ∀ kind, kind ∉ looked ++ frontier.queue → frontier.previous.lookup kind = none
  /-- The ways back are the first walks. -/
  first : ∀ kind ∈ looked ++ frontier.queue, FirstWalk edges source kind (wayBack frontier.previous kind)
  /-- What waits comes no earlier than what was looked at. -/
  behind : ∀ kind ∈ looked, ∀ waiting ∈ frontier.queue,
    NoLater (wayBack frontier.previous kind) (wayBack frontier.previous waiting)
  /-- What waits stands in order. -/
  ascending : frontier.queue.Pairwise fun kind waiting =>
    NoLater (wayBack frontier.previous kind) (wayBack frontier.previous waiting)

/-- Whatever an edge leads to from kinds that were looked at is known. -/
def Closed (edges : List Edge) (looked : List Kind) (frontier : Frontier) : Prop :=
  ∀ kind ∈ looked, ∀ next, (kind, next) ∈ edges → next ∈ looked ++ frontier.queue

/-- In the beginning one kind waits. -/
theorem explored_start (edges : List Edge) (source : Kind) : Explored edges source [] ⟨[], [source]⟩ where
  nodup := List.nodup_cons.mpr ⟨List.not_mem_nil, List.nodup_nil⟩
  began := List.mem_singleton_self source
  recorded kind member := .began (List.mem_singleton.mp member) rfl rfl
  unknown _ _ := rfl
  first kind member := by
    cases List.mem_singleton.mp member
    refine ⟨.start, rfl, fun other walked came => ?_⟩
    cases walked with
    | start => exact .refl _
    | step walk _ => exact .inl (Nat.succ_lt_succ (Nat.zero_lt_succ _))
  behind _ never := nomatch never
  ascending := List.pairwise_singleton _ _

namespace Explored

variable {looked waiting : List Kind} {previous : List (Kind × Kind)} {frontier : Frontier} {kind next : Kind}

/-- What is known is the kind where the search began or has a record. -/
theorem known_iff (explored : Explored edges source looked frontier) :
    next = source ∨ (frontier.previous.lookup next).isSome ↔ next ∈ looked ++ frontier.queue := by
  constructor
  · rintro (rfl | listed)
    · exact explored.began
    · by_contra missing
      rw [explored.unknown next missing] at listed
      cases listed
  · intro member
    cases explored.recorded next member with
    | began same => exact .inl same
    | discovered _ found => exact .inr (found ▸ rfl)

/-- A walk to a kind that was not looked at comes no earlier than the one to the kind that waits longest. -/
theorem noLater_of_walk (explored : Explored edges source looked ⟨previous, kind :: waiting⟩)
    (closed : Closed edges looked ⟨previous, kind :: waiting⟩) {walk : List Kind} (walked : Walk edges source walk) :
    ∀ last, walk.head? = some last → last ∉ looked → NoLater (wayBack previous kind) walk := by
  have through {last : Kind} {walk : List Kind} (walked : Walk edges source walk) (came : walk.head? = some last)
      (waits : last ∈ kind :: waiting) : NoLater (wayBack previous kind) walk := by
    have within := (explored.first last (List.mem_append_right _ waits)).first walk walked came
    rcases List.mem_cons.mp waits with rfl | later
    · exact within
    · exact ((List.pairwise_cons.mp explored.ascending).1 last later).trans within
  induction walked with
  | start =>
    intro last came new
    cases came
    exact through .start rfl ((List.mem_append.mp explored.began).resolve_left new)
  | @step earlier last before walk edge ih =>
    intro other came new
    cases came
    by_cases inside : earlier ∈ looked
    · have known := closed earlier inside last edge
      exact through (walk.step edge) rfl ((List.mem_append.mp known).resolve_left new)
    · exact (ih earlier rfl inside).trans (.inl (Nat.lt_succ_self _))

/-- The kind that waits longest is looked at. -/
theorem look (explored : Explored edges source looked ⟨previous, kind :: waiting⟩) :
    Explored edges source (kind :: looked) ⟨previous, waiting⟩ := by
  have moved : (kind :: looked ++ waiting).Perm (looked ++ kind :: waiting) := List.perm_middle.symm
  obtain ⟨least, others⟩ := List.pairwise_cons.mp explored.ascending
  refine ⟨moved.nodup_iff.mpr explored.nodup, moved.mem_iff.mpr explored.began, fun other member => ?_,
    fun other new => explored.unknown other fun member => new (moved.mem_iff.mpr member),
    fun other member => explored.first other (moved.mem_iff.mp member), fun other member later waits => ?_, others⟩
  · cases explored.recorded other (moved.mem_iff.mp member) with
    | began same missing way => exact .began same missing way
    | discovered inside found way => exact .discovered (List.mem_cons_of_mem _ inside) found way
  · rcases List.mem_cons.mp member with rfl | old
    · exact least later waits
    · exact explored.behind other old later (List.mem_cons_of_mem _ waits)

/-- Discovering a kind that is known changes nothing. -/
theorem discover_of_known (explored : Explored edges source looked frontier)
    (known : next ∈ looked ++ frontier.queue) : frontier.discover source kind next = frontier :=
  if_pos (explored.known_iff.mpr known)

/-- A kind that is discovered waits behind all others. -/
theorem discover_of_new (explored : Explored edges source looked frontier) (new : next ∉ looked ++ frontier.queue) :
    frontier.discover source kind next = ⟨(next, kind) :: frontier.previous, frontier.queue ++ [next]⟩ :=
  if_neg fun known => new (explored.known_iff.mp known)

/-- A kind may be added that was not known, if the first walk to it goes over one that was looked at, no other of those
goes later, and nothing that waits does. -/
theorem add (explored : Explored edges source looked frontier) (inside : kind ∈ looked)
    (new : next ∉ looked ++ frontier.queue)
    (first : FirstWalk edges source next (next :: wayBack frontier.previous kind))
    (latest : ∀ other ∈ looked, NoLater (wayBack frontier.previous other) (next :: wayBack frontier.previous kind))
    (room : ∀ other ∈ frontier.queue,
      NoLater (wayBack frontier.previous other) (next :: wayBack frontier.previous kind)) :
    Explored edges source looked ⟨(next, kind) :: frontier.previous, frontier.queue ++ [next]⟩ := by
  have moved : (looked ++ (frontier.queue ++ [next])).Perm (next :: (looked ++ frontier.queue)) := by
    rw [← List.append_assoc]
    exact List.perm_append_comm
  have known {other : Kind} (member : other ∈ looked ++ (frontier.queue ++ [next])) :
      other = next ∨ other ∈ looked ++ frontier.queue := List.mem_cons.mp (moved.mem_iff.mp member)
  have differs {other : Kind} (member : other ∈ looked ++ frontier.queue) : other ≠ next := by
    rintro rfl
    exact new member
  have looks {other : Kind} (member : other ∈ looked) : other ≠ next := differs (List.mem_append_left _ member)
  have waits {other : Kind} (member : other ∈ frontier.queue) : other ≠ next := differs (List.mem_append_right _ member)
  have way {other : Kind} (different : other ≠ next) :
      wayBack ((next, kind) :: frontier.previous) other = wayBack frontier.previous other :=
    wayBack_of_ne different frontier.previous
  have reaches := wayBack_discovered frontier.previous kind next
  have record {other : Kind} (different : other ≠ next) :
      ((next, kind) :: frontier.previous).lookup other = frontier.previous.lookup other := by
    rw [List.lookup_cons, beq_eq_false_iff_ne.mpr different]
  exact {
    nodup := moved.nodup_iff.mpr (List.nodup_cons.mpr ⟨new, explored.nodup⟩)
    began := moved.mem_iff.mpr (List.mem_cons_of_mem _ explored.began)
    recorded := by
      intro other member
      rcases known member with rfl | old
      · exact .discovered inside List.lookup_cons_self (by rw [reaches, way (looks inside)])
      · cases explored.recorded other old with
        | began same missing alone =>
          exact .began same ((record (differs old)).trans missing) ((way (differs old)).trans alone)
        | discovered earlier found through =>
          refine .discovered earlier ((record (differs old)).trans found) ?_
          rw [way (differs old), through, way (looks earlier)]
    unknown := by
      intro other missing
      have different : other ≠ next := by
        rintro rfl
        exact missing (moved.mem_iff.mpr List.mem_cons_self)
      rw [record different]
      exact explored.unknown other fun member => missing (moved.mem_iff.mpr (List.mem_cons_of_mem _ member))
    first := by
      intro other member
      rcases known member with rfl | old
      · rwa [reaches]
      · rw [way (differs old)]
        exact explored.first other old
    behind := by
      intro other member later queued
      rw [way (looks member)]
      rcases List.mem_append.mp queued with old | added
      · rw [way (waits old)]
        exact explored.behind other member later old
      · rw [List.mem_singleton.mp added, reaches]
        exact latest other member
    ascending := by
      refine List.pairwise_append.mpr ⟨?_, List.pairwise_singleton _ _, fun other queued later added => ?_⟩
      · refine explored.ascending.imp_of_mem fun first second order => ?_
        rwa [way (waits first), way (waits second)]
      · rw [way (waits queued), List.mem_singleton.mp added, reaches]
        exact room other queued }

end Explored

/-- While the neighbours of a kind are discovered: the kinds that were looked at before it come no later, and no walk to
another kind comes earlier. -/
structure Looking (edges : List Edge) (source : Kind) (looked : List Kind) (kind : Kind) (frontier : Frontier) : Prop
    extends Explored edges source (kind :: looked) frontier where
  /-- What the kinds that were looked at before lead to is known. -/
  closed : ∀ earlier ∈ looked, ∀ next, (earlier, next) ∈ edges → next ∈ kind :: looked ++ frontier.queue
  /-- The kind came last. -/
  latest : ∀ earlier ∈ looked, NoLater (wayBack frontier.previous earlier) (wayBack frontier.previous kind)
  /-- Walks to kinds that were not looked at before come no earlier. -/
  earliest : ∀ walk last, Walk edges source walk → walk.head? = some last → last ∉ looked →
    NoLater (wayBack frontier.previous kind) walk

variable {looked waiting : List Kind} {previous : List (Kind × Kind)} {frontier : Frontier} {kind next : Kind}

/-- The kind that waits longest is looked at. -/
theorem Explored.looking (explored : Explored edges source looked ⟨previous, kind :: waiting⟩)
    (closed : Closed edges looked ⟨previous, kind :: waiting⟩) :
    Looking edges source looked kind ⟨previous, waiting⟩ where
  toExplored := explored.look
  closed earlier member next edge := List.perm_middle.symm.mem_iff.mpr (closed earlier member next edge)
  latest earlier member := explored.behind earlier member kind List.mem_cons_self
  earliest _ last walked came new := explored.noLater_of_walk closed walked last came new

/-- What waits goes no later than whatever is discovered from the kind that is looked at. -/
theorem Explored.room (explored : Explored edges source looked ⟨previous, kind :: waiting⟩) (next : Kind) :
    ∀ other ∈ waiting, NoLater (wayBack previous other) (next :: wayBack previous kind) := by
  intro other waits
  have member : other ∈ looked ++ kind :: waiting := List.mem_append_right _ (List.mem_cons_of_mem _ waits)
  cases explored.recorded other member with
  | began same missing way =>
    rw [way]
    obtain ⟨before, back⟩ := List.head?_eq_some_iff.mp
      (explored.first kind (List.mem_append_right _ List.mem_cons_self)).came
    rw [back]
    exact .inl (Nat.succ_lt_succ (Nat.zero_lt_succ _))
  | @discovered earlier inside found way =>
    -- It was discovered from a kind that was looked at before, and that is another one.
    rw [way]
    have before := explored.behind earlier inside kind List.mem_cons_self
    refine before.cons_of_ne (fun same => ?_) other next
    have here := (explored.first earlier (List.mem_append_left _ inside)).came
    have there := (explored.first kind (List.mem_append_right _ List.mem_cons_self)).came
    have equal : earlier = kind := by
      rw [same, there] at here
      exact (Option.some.inj here).symm
    exact (List.nodup_append.mp explored.nodup).2.2 earlier inside kind List.mem_cons_self equal

namespace Looking

/-- Ways back from what is known stay as they are when more is discovered. -/
theorem wayBack_discover (looking : Looking edges source looked kind frontier) {other : Kind}
    (known : other ∈ kind :: looked ++ frontier.queue) :
    wayBack (frontier.discover source kind next).previous other = wayBack frontier.previous other := by
  by_cases old : next ∈ kind :: looked ++ frontier.queue
  · rw [looking.discover_of_known old]
  · rw [looking.discover_of_new old]
    refine wayBack_of_ne ?_ _
    rintro rfl
    exact old known

/-- What is known stays so when more is discovered. -/
theorem known_discover (looking : Looking edges source looked kind frontier) :
    ∀ other ∈ kind :: looked ++ frontier.queue,
      other ∈ kind :: looked ++ (frontier.discover source kind next).queue := by
  intro other known
  by_cases old : next ∈ kind :: looked ++ frontier.queue
  · rwa [looking.discover_of_known old]
  · rw [looking.discover_of_new old, ← List.append_assoc]
    exact List.mem_append_left _ known

/-- What is discovered is known. -/
theorem mem_discover (looking : Looking edges source looked kind frontier) :
    next ∈ kind :: looked ++ (frontier.discover source kind next).queue := by
  by_cases old : next ∈ kind :: looked ++ frontier.queue
  · rwa [looking.discover_of_known old]
  · rw [looking.discover_of_new old]
    exact List.mem_append_right _ (List.mem_append_right _ (List.mem_singleton_self next))

/-- What waits after a discovery waited before, or it was discovered now. -/
theorem waits_discover (looking : Looking edges source looked kind frontier) {other : Kind}
    (waits : other ∈ (frontier.discover source kind next).queue) : other ∈ frontier.queue ∨
      wayBack (frontier.discover source kind next).previous other = next :: wayBack frontier.previous kind := by
  by_cases old : next ∈ kind :: looked ++ frontier.queue
  · rw [looking.discover_of_known old] at waits
    exact .inl waits
  · rw [looking.discover_of_new old] at waits ⊢
    rcases List.mem_append.mp waits with before | new
    · exact .inl before
    · rw [List.mem_singleton.mp new]
      exact .inr (wayBack_discovered _ _ _)

/-- The first walk to a kind that was not known goes over the one that is looked at. -/
theorem firstWalk (looking : Looking edges source looked kind frontier) (edge : (kind, next) ∈ edges)
    (new : next ∉ kind :: looked ++ frontier.queue) :
    FirstWalk edges source next (next :: wayBack frontier.previous kind) := by
  obtain ⟨walked, came, -⟩ := looking.first kind (List.mem_append_left _ List.mem_cons_self)
  obtain ⟨before, way⟩ := List.head?_eq_some_iff.mp came
  refine ⟨by rw [way] at walked ⊢; exact walked.step edge, rfl, fun walk goes ends => ?_⟩
  cases goes with
  | start =>
    cases ends
    exact absurd looking.began new
  | @step last _ before walk lead =>
    cases ends
    have outside : last ∉ looked := fun inside => new (looking.closed last inside next lead)
    exact (looking.earliest _ last walk rfl outside).cons next

/-- From the kind that is looked at one more is discovered, if none of those that wait goes later than to there. -/
theorem discover (looking : Looking edges source looked kind frontier) (edge : (kind, next) ∈ edges)
    (room : ∀ other ∈ frontier.queue,
      NoLater (wayBack frontier.previous other) (next :: wayBack frontier.previous kind)) :
    Looking edges source looked kind (frontier.discover source kind next) := by
  have own : kind ∈ kind :: looked ++ frontier.queue := List.mem_append_left _ List.mem_cons_self
  have known {other : Kind} (member : other ∈ looked) : other ∈ kind :: looked ++ frontier.queue :=
    List.mem_append_left _ (List.mem_cons_of_mem _ member)
  exact {
    toExplored := by
      by_cases old : next ∈ kind :: looked ++ frontier.queue
      · rw [looking.discover_of_known old]
        exact looking.toExplored
      · rw [looking.discover_of_new old]
        have further : NoLater (wayBack frontier.previous kind) (next :: wayBack frontier.previous kind) :=
          .inl (Nat.lt_succ_self _)
        refine looking.add List.mem_cons_self old (looking.firstWalk edge old) (fun other member => ?_) room
        rcases List.mem_cons.mp member with rfl | before
        · exact further
        · exact (looking.latest other before).trans further
    closed := fun earlier member other lead => looking.known_discover other (looking.closed earlier member other lead)
    latest := by
      intro earlier member
      rw [looking.wayBack_discover (known member), looking.wayBack_discover own]
      exact looking.latest earlier member
    earliest := by
      rw [looking.wayBack_discover own]
      exact looking.earliest }

/-- All neighbours of the kind that is looked at are discovered one after the other. -/
theorem expand {nexts : List Kind} (ordered : nexts.Pairwise fun first second => first.place ≤ second.place) :
    ∀ {frontier : Frontier}, Looking edges source looked kind frontier → (∀ next ∈ nexts, (kind, next) ∈ edges) →
      (∀ next ∈ nexts, ∀ other ∈ frontier.queue,
        NoLater (wayBack frontier.previous other) (next :: wayBack frontier.previous kind)) →
      Looking edges source looked kind (nexts.foldl (Frontier.discover source kind) frontier) ∧
        ∀ other, other ∈ kind :: looked ++ frontier.queue ∨ other ∈ nexts →
          other ∈ kind :: looked ++ (nexts.foldl (Frontier.discover source kind) frontier).queue := by
  induction nexts with
  | nil => exact fun looking _ _ => ⟨looking, fun _ known => known.resolve_right List.not_mem_nil⟩
  | cons next rest ih =>
    intro frontier looking all room
    obtain ⟨least, others⟩ := List.pairwise_cons.mp ordered
    obtain ⟨edge, edges⟩ := List.forall_mem_cons.mp all
    obtain ⟨here, further⟩ := List.forall_mem_cons.mp room
    have own : kind ∈ kind :: looked ++ frontier.queue := List.mem_append_left _ List.mem_cons_self
    have later : ∀ other ∈ rest, ∀ waiting ∈ (frontier.discover source kind next).queue,
        NoLater (wayBack (frontier.discover source kind next).previous waiting)
          (other :: wayBack (frontier.discover source kind next).previous kind) := by
      intro other member waiting waits
      rw [looking.wayBack_discover own]
      rcases looking.waits_discover waits with old | new
      · rw [looking.wayBack_discover (List.mem_append_right _ old)]
        exact further other member waiting old
      · rw [new]
        exact .cons_of_le (least other member) _
    obtain ⟨done, known⟩ := ih others (looking.discover edge here) edges later
    refine ⟨done, fun other member => known other ?_⟩
    rcases member with old | new
    · exact .inl (looking.known_discover other old)
    · rcases List.mem_cons.mp new with rfl | still
      · exact .inl looking.mem_discover
      · exact .inr still

end Looking

/-! ## The search -/

/-- A round of the search looks at the kind that waits longest. -/
theorem Explored.round (explored : Explored edges source looked ⟨previous, kind :: waiting⟩)
    (closed : Closed edges looked ⟨previous, kind :: waiting⟩) :
    Explored edges source (kind :: looked) (Frontier.expand edges source kind ⟨previous, waiting⟩) ∧
      Closed edges (kind :: looked) (Frontier.expand edges source kind ⟨previous, waiting⟩) := by
  obtain ⟨looking, known⟩ := Looking.expand (pairwise_neighbours edges kind) (explored.looking closed)
    (fun _ member => mem_neighbours.mp member) (fun next _ => explored.room next)
  refine ⟨looking.toExplored, fun earlier member next edge => ?_⟩
  rcases List.mem_cons.mp member with rfl | before
  · exact known next (.inr (mem_neighbours.mpr edge))
  · exact looking.closed earlier before next edge

/-- Going back from a kind ends where the search began, and gives the way turned round. -/
theorem Explored.traceBack_eq (explored : Explored edges source looked frontier) :
    ∀ (steps : Nat) (kind : Kind) (rest : List Kind), kind ∈ looked ++ frontier.queue →
      (wayBack frontier.previous kind).length ≤ steps →
      traceBack frontier.previous steps kind (kind :: rest) =
        some ((wayBack frontier.previous kind).reverse ++ rest) := by
  intro steps
  induction steps with
  | zero =>
    intro kind rest known short
    cases explored.recorded kind known with
    | began _ _ way => rw [way] at short; cases short
    | discovered _ _ way => rw [way] at short; cases short
  | succ steps ih =>
    intro kind rest known short
    unfold traceBack
    cases explored.recorded kind known with
    | began _ missing way =>
      rw [missing, way]
      rfl
    | @discovered earlier inside found way =>
      rw [way, List.length_cons] at short
      simp only [found]
      rw [ih earlier _ (List.mem_append_left _ inside) (Nat.le_of_succ_le_succ short), way, List.reverse_cons,
        List.append_assoc]
      rfl

/-- Where nothing waits, no walk leaves what was looked at. -/
theorem Explored.mem_of_walk {looked : List Kind} (explored : Explored edges source looked ⟨previous, []⟩)
    (closed : Closed edges looked ⟨previous, []⟩) {walk : List Kind} (walked : Walk edges source walk) :
    ∀ last, walk.head? = some last → last ∈ looked := by
  have inside {kind : Kind} (known : kind ∈ looked ++ []) : kind ∈ looked := by rwa [List.append_nil] at known
  induction walked with
  | start =>
    intro last came
    cases came
    exact inside explored.began
  | @step kind next before _ edge ih =>
    intro last came
    cases came
    exact inside (closed kind (ih kind rfl) next edge)

/-- A search that has not come to its target, with rounds for all kinds that are left and one more, comes to an end: it
answers the first path to the target, or there is none. -/
theorem searchOn_spec {steps : Nat} (enough : Kind.all.length ≤ steps) :
    ∀ (rounds : Nat) {looked : List Kind} {frontier : Frontier}, Explored edges source looked frontier →
      Closed edges looked frontier → target ∉ looked → Kind.all.length < rounds + looked.length →
      ∃ answer, searchOn edges source target steps rounds frontier = some answer ∧
        match answer with
        | some path => IsFirst edges source target path
        | none => ∀ path, ¬Leads edges source target path := by
  intro rounds
  induction rounds with
  | zero =>
    intro looked frontier explored _ _ many
    have bounded := length_le_of_nodup (List.nodup_append.mp explored.nodup).1
    omega
  | succ rounds ih =>
    intro looked frontier explored closed new many
    obtain ⟨previous, queue⟩ := frontier
    cases queue with
    | nil => exact ⟨none, rfl, fun path leads => new (explored.mem_of_walk closed leads.walk target leads.came)⟩
    | cons kind waiting =>
      unfold searchOn
      by_cases same : kind = target
      · subst same
        have known : kind ∈ looked ++ kind :: waiting := List.mem_append_right _ List.mem_cons_self
        have first := explored.first kind known
        rw [if_pos rfl, explored.traceBack_eq steps kind [] known (Nat.le_trans first.length_le enough),
          List.append_nil]
        exact ⟨_, rfl, first.isFirst⟩
      · rw [if_neg same]
        obtain ⟨further, still⟩ := explored.round closed
        refine ih further still (List.not_mem_cons_of_ne_of_not_mem (Ne.symm same) new) ?_
        rw [List.length_cons]
        omega

/-- The search within more rounds than there are kinds comes to an end. -/
theorem searchWithin_spec {limit : Nat} (enough : Kind.all.length < limit) (edges : List Edge) (source target : Kind) :
    ∃ answer, searchWithin limit edges source target = some answer ∧
      match answer with
      | some path => IsFirst edges source target path
      | none => ∀ path, ¬Leads edges source target path :=
  searchOn_spec (Nat.le_of_lt enough) limit (explored_start edges source) (fun _ never => nomatch never)
    List.not_mem_nil enough

/-- The path that is found is the first one. -/
theorem isFirst_of_shortestPath {path : List Kind} (found : shortestPath edges source target = some path) :
    IsFirst edges source target path := by
  obtain ⟨answer, ended, spec⟩ := searchWithin_spec (Nat.lt_succ_self _) edges source target
  unfold shortestPath at found
  rw [ended] at found
  cases found
  exact spec

/-- The path that is found is a shortest one. -/
theorem isShortest_of_shortestPath {path : List Kind} (found : shortestPath edges source target = some path) :
    IsShortest edges source target path :=
  (isFirst_of_shortestPath found).toIsShortest

/-- No path is found just where there is none. -/
theorem shortestPath_eq_none_iff :
    shortestPath edges source target = none ↔ ∀ path, ¬Leads edges source target path := by
  obtain ⟨answer, ended, spec⟩ := searchWithin_spec (Nat.lt_succ_self _) edges source target
  unfold shortestPath
  rw [ended]
  cases answer with
  | none => exact ⟨fun _ => spec, fun _ => rfl⟩
  | some path => exact ⟨nofun, fun nowhere => absurd spec.leads (nowhere path)⟩

end MessageRouting.Convert
