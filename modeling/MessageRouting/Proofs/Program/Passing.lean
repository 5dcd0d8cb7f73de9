import MessageRouting.Program

/-!
# The states that a run passes

A program that runs alone goes from state to state, and so do the tasks it hands over. Where a relation can be chained
and each section of a program goes along with it, it holds between any two states of a run, in the order in which they
were passed. This is so in runs that come to no end, too.
-/

namespace MessageRouting

/-- A relation between states that holds over no time and can be chained. -/
structure OverTime {σ : Type} (relation : σ → σ → Prop) : Prop where
  /-- It holds over no time. -/
  refl : ∀ s, relation s s
  /-- It can be chained. -/
  trans : ∀ {s t u}, relation s t → relation t u → relation s u

namespace Program

variable {σ τ ρ α β : Type}

/-- The states that a program passes after its first one, where `within` gives those that a task passes. -/
def passed (answer : τ → σ → Option (ρ × σ)) (within : τ → σ → List σ) : Program σ τ ρ α → σ → List σ
  | done _, _ => []
  | act update next, s =>
    match update s with
    | none => []
    | some s' => s' :: (next s).passed answer within s'
  | call task next, s =>
    within task s ++
      match answer task s with
      | none => []
      | some (r, s') => (next r).passed answer within s'

/-- The states that a task passes after its first one, so far as the fuel goes. -/
def passedByTask (carryOut : Nat → τ → Program σ τ ρ ρ) : Nat → τ → σ → List σ
  | 0, _, _ => []
  | fuel + 1, task, s =>
    (carryOut fuel task).passed (answerWithin carryOut fuel) (passedByTask carryOut fuel) s

/-- Some states stand in a relation in their order, and to the state in which they end, if there is one. -/
structure Ordered (relation : σ → σ → Prop) (states : List σ) (ended : Option σ) : Prop where
  /-- Earlier states stand in the relation to later ones. -/
  pairwise : states.Pairwise relation
  /-- All of them stand in it to the last. -/
  last : ∀ s ∈ ended, ∀ t ∈ states, relation t s

/-- From a state on, a program passes states in the order of a relation. -/
def Along (relation : σ → σ → Prop) (answer : τ → σ → Option (ρ × σ)) (within : τ → σ → List σ)
    (program : Program σ τ ρ α) (s : σ) : Prop :=
  Ordered relation (s :: program.passed answer within s) ((program.runWith answer s).map Prod.snd)

/-- Every section of a program goes along with a relation, whatever the answers to its tasks are. -/
def Sections (relation : σ → σ → Prop) : Program σ τ ρ α → Prop
  | done _ => True
  | act update next => (∀ s s', update s = some s' → relation s s') ∧ ∀ s, (next s).Sections relation
  | call _ next => ∀ r, (next r).Sections relation

variable {relation : σ → σ → Prop} {answer : τ → σ → Option (ρ × σ)} {within : τ → σ → List σ}

/-! ## Sections -/

/-- The sections of two programs that follow each other. -/
theorem Sections.bind {program : Program σ τ ρ α} {next : α → Program σ τ ρ β} (first : program.Sections relation)
    (later : ∀ result, (next result).Sections relation) : (program >>= next).Sections relation := by
  change (program.bind next).Sections relation
  induction program with
  | done result => exact later result
  | act update rest ih => exact ⟨first.1, fun s => ih s (first.2 s)⟩
  | call task rest ih => exact fun r => ih r (first r)

/-- Reading goes along with a relation that holds over no time. -/
theorem Sections.read (time : OverTime relation) (f : σ → α) : (read f : Program σ τ ρ α).Sections relation :=
  ⟨fun s s' same => by cases same; exact time.refl s, fun _ => trivial⟩

/-- A change goes along with a relation that holds between the states before and after it. -/
theorem Sections.change {f : σ → σ} (holds : ∀ s, relation s (f s)) :
    (change f : Program σ τ ρ Unit).Sections relation :=
  ⟨fun s s' same => by cases same; exact holds s, fun _ => trivial⟩

/-- A section goes along with a relation that holds between the states before and after it. -/
theorem Sections.atomically {f : σ → α × σ} (holds : ∀ s, relation s (f s).2) :
    (atomically f : Program σ τ ρ α).Sections relation :=
  ⟨fun s s' same => by cases same; exact holds s, fun _ => trivial⟩

/-- A section that may block goes along with a relation that holds whenever it takes place. -/
theorem Sections.tryAtomically {f : σ → Option (α × σ)} {absent : α}
    (holds : ∀ s result s', f s = some (result, s') → relation s s') :
    (tryAtomically f absent : Program σ τ ρ α).Sections relation := by
  refine ⟨fun s s' took => ?_, fun _ => trivial⟩
  obtain ⟨⟨result, after⟩, found, rfl⟩ := Option.map_eq_some_iff.mp took
  exact holds s result after found

/-- Handing over a task has no section. -/
theorem Sections.ask (task : τ) : (ask task : Program σ τ ρ ρ).Sections relation := fun _ => trivial

/-- Waiting in vain has no section that takes place. -/
theorem Sections.blocked (result : α) : (blocked result : Program σ τ ρ α).Sections relation :=
  ⟨fun _ _ never => (nomatch never), fun _ => trivial⟩

/-- The sections are weakened with the relation. -/
theorem Sections.mono {weaker : σ → σ → Prop} (implies : ∀ s s', relation s s' → weaker s s')
    {program : Program σ τ ρ α} (sections : program.Sections relation) : program.Sections weaker := by
  induction program with
  | done result => trivial
  | act update next ih => exact ⟨fun s s' took => implies s s' (sections.1 s s' took), fun s => ih s (sections.2 s)⟩
  | call task next ih => exact fun r => ih r (sections r)

/-- What follows the end of a run has only sections that the whole program has. -/
theorem Sections.rest {program : Program σ τ ρ α} {next : α → Program σ τ ρ β}
    (sections : (program >>= next).Sections relation) {s s' : σ} {result : α}
    (ran : program.runWith answer s = some (result, s')) : (next result).Sections relation := by
  change (program.bind next).Sections relation at sections
  induction program generalizing s with
  | done final =>
    cases ran
    exact sections
  | act update rest ih =>
    simp only [runWith] at ran
    cases took : update s with
    | none => simp [took] at ran
    | some middle =>
      rw [took] at ran
      exact ih s ran (sections.2 s)
  | call task rest ih =>
    simp only [runWith] at ran
    cases answered : answer task s with
    | none => simp [answered] at ran
    | some ended =>
      rw [answered] at ran
      exact ih ended.1 ran (sections ended.1)

/-! ## Order -/

/-- Nothing but one state is in order. -/
theorem Ordered.single (time : OverTime relation) (s : σ) : Ordered relation [s] (some s) where
  pairwise := List.pairwise_singleton relation s
  last t same u member := by
    cases same
    cases List.mem_singleton.mp member
    exact time.refl s

/-- Two states in a relation are in order. -/
theorem Ordered.pair (time : OverTime relation) {s s' : σ} (holds : relation s s') :
    Ordered relation [s, s'] (some s') where
  pairwise := List.pairwise_pair.mpr holds
  last t same u member := by
    cases same
    rcases List.mem_cons.mp member with rfl | member
    · exact holds
    · cases List.mem_singleton.mp member
      exact time.refl s'

/-- States that come to an end and those that follow from there are in order together. -/
theorem Ordered.append (time : OverTime relation) {states later : List σ} {middle : σ} {ended : Option σ}
    (first : Ordered relation states (some middle)) (second : Ordered relation (middle :: later) ended) :
    Ordered relation (states ++ later) ended where
  pairwise := by
    refine List.pairwise_append.mpr ⟨first.pairwise, second.pairwise.tail, fun s before t after => ?_⟩
    exact time.trans (first.last middle rfl s before) ((List.pairwise_cons.mp second.pairwise).1 t after)
  last s found t member := by
    rcases List.mem_append.mp member with before | after
    · exact time.trans (first.last middle rfl t before) (second.last s found middle List.mem_cons_self)
    · exact second.last s found t (List.mem_cons_of_mem _ after)

/-- States without an end stay in order when an end is not asked for. -/
theorem Ordered.endless {states : List σ} {ended : Option σ} (ordered : Ordered relation states ended) :
    Ordered relation states none where
  pairwise := ordered.pairwise
  last _ none := nomatch none

/-- The states of two programs that follow each other. -/
theorem passed_bind (program : Program σ τ ρ α) (next : α → Program σ τ ρ β) (s : σ) :
    (program >>= next).passed answer within s =
      program.passed answer within s ++
        match program.runWith answer s with
        | none => []
        | some (result, s') => (next result).passed answer within s' := by
  change (program.bind next).passed answer within s = _
  induction program generalizing s with
  | done result => rfl
  | act update rest ih =>
    simp only [Program.bind, passed, runWith]
    cases update s with
    | none => rfl
    | some s' => simp only [ih, List.cons_append]
  | call task rest ih =>
    simp only [Program.bind, passed, runWith]
    cases answer task s with
    | none => simp
    | some answered => simp only [ih, List.append_assoc]

/-- Programs that follow each other pass states in order, if what follows does so from where the first one ended. -/
theorem Along.bind_of_run (time : OverTime relation) {program : Program σ τ ρ α} {next : α → Program σ τ ρ β} {s : σ}
    (first : program.Along relation answer within s)
    (later : ∀ result s', program.runWith answer s = some (result, s') →
      (next result).Along relation answer within s') : (program >>= next).Along relation answer within s := by
  unfold Along
  rw [passed_bind, runWith_bind]
  cases ran : program.runWith answer s with
  | none =>
    have first : Ordered relation (s :: program.passed answer within s) none := by simpa [Along, ran] using first
    simpa using first
  | some ended =>
    obtain ⟨result, s'⟩ := ended
    have first : Ordered relation (s :: program.passed answer within s) (some s') := by
      simpa [Along, ran] using first
    simpa [ran] using first.append time (later result s' ran)

/-- A change in a state passes from the state to the changed one. -/
theorem Along.change (time : OverTime relation) {f : σ → σ} {s : σ} (holds : relation s (f s)) :
    (change f : Program σ τ ρ Unit).Along relation answer within s :=
  .pair time holds

/-- A program whose sections go along with a relation passes states in its order, if its tasks do. -/
theorem Sections.along (time : OverTime relation)
    (tasks : ∀ task s, Ordered relation (s :: within task s) ((answer task s).map Prod.snd))
    {program : Program σ τ ρ α} (sections : program.Sections relation) (s : σ) :
    program.Along relation answer within s := by
  induction program generalizing s with
  | done result => exact .single time s
  | act update next ih =>
    simp only [Along, passed, runWith]
    cases took : update s with
    | none => exact (Ordered.single time s).endless
    | some s' =>
      exact (Ordered.pair time (sections.1 s s' took)).append time (ih s (sections.2 s) s')
  | call task next ih =>
    have called := tasks task s
    simp only [Along, passed, runWith]
    cases answered : answer task s with
    | none => simpa [answered] using called
    | some ended =>
      obtain ⟨r, s'⟩ := ended
      rw [answered] at called
      exact called.append time (ih r (sections r) s')

/-- From every state on, a program passes states in the order of a relation. -/
def Steady (relation : σ → σ → Prop) (answer : τ → σ → Option (ρ × σ)) (within : τ → σ → List σ)
    (program : Program σ τ ρ α) : Prop :=
  ∀ s, program.Along relation answer within s

/-- Tasks pass states in order, if each does when those below it do. -/
theorem ordered_passedByTask (time : OverTime relation) {carryOut : Nat → τ → Program σ τ ρ ρ}
    (carried : ∀ fuel,
      (∀ task s, Ordered relation (s :: passedByTask carryOut fuel task s)
        ((answerWithin carryOut fuel task s).map Prod.snd)) →
      ∀ task, (carryOut fuel task).Steady relation (answerWithin carryOut fuel) (passedByTask carryOut fuel))
    (fuel : Nat) (task : τ) (s : σ) :
    Ordered relation (s :: passedByTask carryOut fuel task s)
      ((answerWithin carryOut fuel task s).map Prod.snd) := by
  induction fuel generalizing task s with
  | zero => exact (Ordered.single time s).endless
  | succ fuel below => exact carried fuel below task s

/-! ## Programs that need no answers -/

/-- A program that comes to its end without any answer does so whatever the answers are. -/
theorem runWith_of_unanswered {program : Program σ τ ρ α} {s : σ} {ended : α × σ}
    (ran : program.runWith (fun _ _ => none) s = some ended) : program.runWith answer s = some ended := by
  induction program generalizing s with
  | done result => exact ran
  | act update next ih =>
    simp only [runWith] at ran ⊢
    cases took : update s with
    | none => simp [took] at ran
    | some middle =>
      rw [took] at ran
      exact ih s ran
  | call task next ih => simp [runWith] at ran

/-- A run that needs no answers leads along the relation of the sections. -/
theorem Sections.relates (time : OverTime relation) {program : Program σ τ ρ α} (sections : program.Sections relation)
    {s s' : σ} {result : α} (ran : program.runWith (fun _ _ => none) s = some (result, s')) : relation s s' := by
  have along : program.Along relation (fun _ _ => none) (fun _ _ => []) s :=
    sections.along time (fun _ s => (Ordered.single time s).endless) s
  exact along.last s' (by simp [ran]) s List.mem_cons_self

end Program

end MessageRouting
