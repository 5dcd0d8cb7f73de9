import MessageRouting.Proofs.Pattern.Simulation
import MessageRouting.Proofs.Program.Traces

/-!
# What happens to exchanges in patterns

An account says which events may lead from what is seen of an exchange to what is seen of it later; it may see headers
and properties, but no errors. It can be chained, and it holds where nothing happens. Patterns themselves change little
of an exchange: errors, the property for errors that were caught, and the index of a loop. Otherwise they run their
parts one behind the other, on the exchange, on copies that it takes over, or on forks of which one is chosen. So, if
all parts of a pattern keep to an account, the pattern does.
-/

namespace MessageRouting

/-- The exchanges have the same headers, and the same properties but that for errors that were caught. -/
structure Exchange.LooksLike (x y : Exchange) : Prop where
  /-- The headers. -/
  headers : x.headers = y.headers
  /-- The properties. -/
  properties : ∀ name, name ≠ Pattern.caughtProperty → x.property? name = y.property? name

/-- Exchanges with the same headers and properties look alike. -/
theorem Exchange.LooksLike.of_same {x y : Exchange} (headers : x.headers = y.headers)
    (properties : x.properties = y.properties) : x.LooksLike y :=
  ⟨headers, fun _ _ => congrArg (Table.find? _) properties⟩

/-- A panic that is contained does not show. -/
theorem Outcome.looksLike_contained (o : Outcome) : o.contained.LooksLike o.exchange := by
  unfold Outcome.contained
  split <;> exact .of_same rfl rfl

namespace Pattern

/-- An error that is handled does not show. -/
theorem looksLike_caught (x : Exchange) (value : Value) : (x.setProperty caughtProperty value).LooksLike x :=
  ⟨rfl, fun _ other => (Table.find?_insert ..).trans (if_neg other)⟩

/-- Settling errors does not show. -/
theorem looksLike_settle (x : Exchange) (pending later : Option Raised) : (settle x pending later).LooksLike x := by
  cases pending <;> cases later <;> exact .of_same rfl rfl

/-- The error that stopped a multicast does not show. -/
theorem looksLike_withFailure (failure : Option Raised) (x : Exchange) : (withFailure failure x).LooksLike x := by
  cases failure <;> exact .of_same rfl rfl

/-- What is seen of exchanges. -/
structure View (V : Type) where
  /-- What is seen of an exchange. -/
  view : Exchange → V
  /-- Exchanges that look alike are seen alike. -/
  blind : ∀ {x y : Exchange}, x.LooksLike y → view x = view y

/-- Which events may lead from what is seen of an exchange to what is seen of it later. -/
structure Account (V : Type) extends View V where
  /-- The events may lead from what was seen to what is seen. -/
  leads : V → V → List Event → Prop
  /-- Where nothing happens, all stays as it was. -/
  still : ∀ seen, leads seen seen []
  /-- What leads somewhere may be followed by what leads on. -/
  trans : ∀ {first second third events later}, leads first second events → leads second third later →
    leads first third (events ++ later)

namespace Account

variable {V : Type} {σ τ ρ α β : Type} (account : Account V) (noted : σ → σ → List Event)
  (answers : τ → List Event → ρ → Prop)

/-- The events lead from anything to the same. -/
def Still (events : List Event) : Prop := ∀ seen, account.leads seen seen events

/-- What happens in a program leads nowhere else. -/
def Rests (program : Program σ τ ρ α) : Prop := program.Ensures noted answers fun events _ => account.Still events

/-- What happens in a behaviour leads to the exchange that it leaves. -/
def Behaves (behaviour : Behaviour (Program σ τ ρ)) : Prop :=
  ∀ x : Exchange, (behaviour x).Ensures noted answers fun events o =>
    account.leads (account.view x) (account.view o.exchange) events

/-- What happens in making exchanges of exchanges leads to these. -/
def Turns (turn : Exchange → Program σ τ ρ Exchange) : Prop :=
  ∀ x : Exchange, (turn x).Ensures noted answers fun events y => account.leads (account.view x) (account.view y) events

/-- What happens while a question is answered leads nowhere else. -/
def Answers (query : Query (Program σ τ ρ) α) : Prop :=
  ∀ x : Exchange, account.Rests noted answers (query x)

variable {account noted answers}

/-- At its end a program rests. -/
theorem Rests.pure (result : α) : account.Rests noted answers (Pure.pure result : Program σ τ ρ α) :=
  Program.Ensures.pure account.still

/-- Programs that rest may follow each other. -/
theorem Rests.bind {program : Program σ τ ρ α} {next : α → Program σ τ ρ β}
    (first : account.Rests noted answers program) (later : ∀ result, account.Rests noted answers (next result)) :
    account.Rests noted answers (program >>= next) :=
  Program.Ensures.bind first fun _ result before => (later result).mono fun _ _ after seen =>
    account.trans (before seen) (after seen)

/-- A program that rests is followed by one that leads on. -/
theorem Rests.follow {final : β → V} {program : Program σ τ ρ α} {next : α → Program σ τ ρ β} {seen : V}
    (first : account.Rests noted answers program)
    (later : ∀ result, (next result).Ensures noted answers fun events ended =>
      account.leads seen (final ended) events) :
    (program >>= next).Ensures noted answers fun events ended => account.leads seen (final ended) events :=
  Program.Ensures.bind first fun _ result before => (later result).mono fun _ _ after =>
    account.trans (before seen) after

/-- What leads somewhere is followed by a program that leads on. -/
theorem follow {final : α → V} {program : Program σ τ ρ α} {first second : V} {events : List Event}
    (before : account.leads first second events)
    (after : program.Ensures noted answers fun later result => account.leads second (final result) later) :
    program.Ensures noted answers fun later result => account.leads first (final result) (events ++ later) :=
  after.mono fun _ _ led => account.trans before led

/-- What led somewhere is followed by an end. -/
theorem stop {final : α → V} {result : α} {first : V} {events : List Event}
    (led : account.leads first (final result) events) :
    (pure result : Program σ τ ρ α).Ensures noted answers fun later ended =>
      account.leads first (final ended) (events ++ later) := by
  refine .pure ?_
  rwa [List.append_nil]

/-- An exchange comes back that looks as it did. -/
theorem returned {x y : Exchange} (alike : y.LooksLike x) :
    (return .returned y : Program σ τ ρ Outcome).Ensures noted answers fun events o =>
      account.leads (account.view x) (account.view o.exchange) events := by
  refine .pure ?_
  rw [← account.blind alike]
  exact account.still (account.view y)

/-- Containing panics does not show. -/
theorem invoke {child : Behaviour (Program σ τ ρ)} (part : account.Behaves noted answers child) :
    account.Turns noted answers (invoke child) := by
  refine fun x => (part x).bind fun events o led => stop ?_
  rwa [account.blind o.looksLike_contained]

/-! ## Sequences -/

/-- Pipelines keep to an account. -/
theorem pipeline (stopOnError : Bool) {steps : List (Behaviour (Program σ τ ρ))}
    (parts : ∀ step ∈ steps, account.Behaves noted answers step) :
    account.Behaves noted answers (pipeline stopOnError steps) := by
  induction steps with
  | nil => exact fun x => returned (.of_same rfl rfl)
  | cons step rest later =>
    obtain ⟨first, others⟩ := List.forall_mem_cons.mp parts
    refine fun x => (first x).bind fun events o led => ?_
    split
    · exact stop led
    · exact follow led (later others o.exchange)

/-- Choices keep to an account. -/
theorem choice {otherwise : Option (Behaviour (Program σ τ ρ))}
    {clauses : List (Query (Program σ τ ρ) Bool × Behaviour (Program σ τ ρ))}
    (last : ∀ behaviour ∈ otherwise, account.Behaves noted answers behaviour)
    (parts : ∀ clause ∈ clauses, account.Answers noted answers clause.1 ∧ account.Behaves noted answers clause.2) :
    account.Behaves noted answers (choice otherwise clauses) := by
  induction clauses with
  | nil =>
    intro x
    cases otherwise with
    | none => exact returned (.of_same rfl rfl)
    | some behaviour => exact last behaviour rfl x
  | cons clause rest later =>
    obtain ⟨⟨condition, first⟩, others⟩ := List.forall_mem_cons.mp parts
    refine fun x => (condition x).follow fun ending => ?_
    split
    · exact first x
    · exact later others x
    · exact returned (.of_same rfl rfl)
    · exact .pure (account.still (account.view x))

/-! ## Trying -/

/-- Steps that are tried keep to an account. -/
theorem runUntilError {steps : List (Behaviour (Program σ τ ρ))}
    (parts : ∀ step ∈ steps, account.Behaves noted answers step) :
    account.Turns noted answers (runUntilError steps) := by
  induction steps with
  | nil => exact fun x => .pure (account.still (account.view x))
  | cons step rest later =>
    obtain ⟨first, others⟩ := List.forall_mem_cons.mp parts
    refine fun x => (invoke first x).bind fun events y led => ?_
    split
    · exact stop led
    · exact follow led (later others y)

/-- Handling an error keeps to an account. -/
theorem handle {handlers : List (Handler (Program σ τ ρ))}
    (parts : ∀ handler ∈ handlers, account.Behaves noted answers handler.behaviour) :
    account.Turns noted answers (handle handlers) := by
  intro x
  unfold Pattern.handle
  split
  · exact .pure (account.still (account.view x))
  · split
    · exact .pure (account.still (account.view x))
    · rename_i caught _ _ handler found
      have handled := invoke (parts handler (List.mem_of_find?_eq_some found))
      refine (handled (x.setProperty caughtProperty (.error caught))).bind fun events y led => ?_
      rw [account.blind (looksLike_caught ..)] at led
      split
      · refine stop ?_
        rwa [account.blind (x := y.clearError) (y := y) (.of_same rfl rfl)]
      · exact stop led

/-- Last steps keep to an account. -/
theorem runLast {steps : List (Behaviour (Program σ τ ρ))}
    (parts : ∀ step ∈ steps, account.Behaves noted answers step) : ∀ (first : Option Raised) (x : Exchange),
      (runLast first steps x).Ensures noted answers fun events ended =>
        account.leads (account.view x) (account.view ended.1) events := by
  induction steps with
  | nil => exact fun first x => .pure (account.still (account.view x))
  | cons step rest later =>
    obtain ⟨one, others⟩ := List.forall_mem_cons.mp parts
    intro first x
    refine (invoke one x).bind fun events y led => ?_
    rw [← account.blind (x := y.clearError) (y := y) (.of_same rfl rfl)] at led
    exact follow led (later others (first.or y.error) y.clearError)

/-- Last steps with the pending error set aside keep to an account. -/
theorem finish {last : List (Behaviour (Program σ τ ρ))}
    (parts : ∀ step ∈ last, account.Behaves noted answers step) : account.Turns noted answers (finish last) := by
  intro x
  unfold Pattern.finish
  split
  · exact .pure (account.still (account.view x))
  · refine (runLast parts none x.clearError).bind fun events ended led => stop ?_
    rwa [account.blind (looksLike_settle ..), ← account.blind (x := x.clearError) (y := x) (.of_same rfl rfl)]

/-- Trying keeps to an account. -/
theorem tryCatch {steps : List (Behaviour (Program σ τ ρ))} {handlers : List (Handler (Program σ τ ρ))}
    {last : List (Behaviour (Program σ τ ρ))} (tried : ∀ step ∈ steps, account.Behaves noted answers step)
    (handled : ∀ handler ∈ handlers, account.Behaves noted answers handler.behaviour)
    (ending : ∀ step ∈ last, account.Behaves noted answers step) :
    account.Behaves noted answers (tryCatch steps handlers last) := by
  refine fun x => (runUntilError tried x).bind fun events y led => ?_
  refine follow led ((handle handled y).bind fun more z went => ?_)
  refine follow went ((finish ending z).bind fun rest w came => ?_)
  exact stop came

end Account

/-! ## Loops -/

/-- How what happens in the iterations of a loop from an index on makes up what happens from there to its end. Before an
iteration there may be a question, during which events of a kind happen. -/
structure Repeats {V : Type} (asking : List Event → Prop) (round whole : Nat → V → V → List Event → Prop) : Prop where
  /-- A question comes before an iteration. -/
  asked : ∀ {index first second events later}, asking events → round index first second later →
    round index first second (events ++ later)
  /-- An iteration is the last one. -/
  last : ∀ {index first second events}, round index first second events → whole index first second events
  /-- An iteration is followed by others. -/
  next : ∀ {index first second third events later}, round index first second events →
    whole (index + 1) second third later → whole index first third (events ++ later)

namespace Repeats

variable {V : Type} {σ τ ρ : Type} {sight : View V} {asking : List Event → Prop}
  {round whole : Nat → V → V → List Event → Prop} {noted : σ → σ → List Event} {answers : τ → List Event → ρ → Prop}
  {body : Behaviour (Program σ τ ρ)} (repeats : Repeats asking round whole)
  (part : ∀ index x, (iterate body index x).Ensures noted answers fun events y =>
    round index (sight.view x) (sight.view y) events)

include repeats part

/-- Counted iterations make up a whole, if this is so without any iteration. -/
theorem countFrom (done : ∀ index seen, whole index seen seen []) (n index : Nat) (x : Exchange) :
    (countFrom body n index x).Ensures noted answers fun events o =>
      whole index (sight.view x) (sight.view o.exchange) events := by
  induction n generalizing index x with
  | zero => exact .pure (done index _)
  | succ n later =>
    refine (part index x).bind fun events y ran => ?_
    split
    · refine .pure ?_
      rw [List.append_nil]
      exact repeats.last ran
    · exact (later (index + 1) y).mono fun _ _ others => repeats.next ran others

/-- Iterations under a condition make up a whole, if this is so when the index was noted and the condition asked for
the last time. -/
theorem whileFrom {stuck : Behaviour (Program σ τ ρ)} {condition : Query (Program σ τ ρ) Bool}
    (policy : ConditionPolicy) (rest : ∀ index x, (stuck x).Ensures noted answers fun events o =>
      whole index (sight.view x) (sight.view o.exchange) events)
    (question : ∀ x, (condition x).Ensures noted answers fun events _ => asking events)
    (ends : ∀ index x events, asking events → whole index (sight.view x) (sight.view (atIndex index x)) events)
    (patience index : Nat) (x : Exchange) :
    (whileFrom stuck condition policy body patience index x).Ensures noted answers fun events o =>
      whole index (sight.view x) (sight.view o.exchange) events := by
  induction patience generalizing index x with
  | zero => exact rest index x
  | succ patience later =>
    refine (question (atIndex index x)).bind fun events ending asked => ?_
    have ended {y : Exchange} (alike : y.LooksLike (atIndex index x)) :
        whole index (sight.view x) (sight.view y) (events ++ []) := by
      rw [List.append_nil, sight.blind alike]
      exact ends index x events asked
    split
    · rw [iterate_atIndex]
      refine (part index x).bind fun more y ran => ?_
      have round := repeats.asked asked ran
      split
      · refine .pure ?_
        rw [List.append_nil]
        exact repeats.last round
      · refine (later (index + 1) y).mono fun _ _ others => ?_
        rw [← List.append_assoc]
        exact repeats.next round others
    · exact .pure (ended (.of_same rfl rfl))
    · split <;> exact .pure (ended (.of_same rfl rfl))
    · exact .pure (ended (.of_same rfl rfl))

end Repeats

namespace Account

variable {V : Type} {σ τ ρ : Type} {account : Account V} {noted : σ → σ → List Event}
  {answers : τ → List Event → ρ → Prop}

/-- The index of a loop is not seen. -/
def Unindexed (account : Account V) : Prop := ∀ index x, account.view (atIndex index x) = account.view x

/-- What happens in iterations leads on. -/
theorem repeats (account : Account V) :
    Repeats account.Still (fun _ => account.leads) fun _ => account.leads where
  asked still led := account.trans (still _) led
  last led := led
  next := account.trans

/-- An iteration keeps to an account, if its index is not seen. -/
theorem iterate (unindexed : account.Unindexed) {body : Behaviour (Program σ τ ρ)}
    (part : account.Behaves noted answers body) (index : Nat) : account.Turns noted answers (iterate body index) := by
  intro x
  have copied : account.view (atIndex index x).copy = account.view x :=
    (account.blind (x := (atIndex index x).copy) (y := atIndex index x) (.of_same rfl rfl)).trans (unindexed index x)
  refine (invoke part (atIndex index x).copy).bind fun events y led => stop ?_
  rw [copied] at led
  rwa [account.blind (x := (atIndex index x).afterMaking.absorb y) (y := y) (.of_same rfl rfl)]

/-- Counting loops keep to an account. -/
theorem countLoop (unindexed : account.Unindexed) {count : Query (Program σ τ ρ) Value}
    {body : Behaviour (Program σ τ ρ)} (question : account.Answers noted answers count)
    (part : account.Behaves noted answers body) : account.Behaves noted answers (countLoop count body) := by
  refine fun x => (question x).follow fun ending => ?_
  split
  · exact account.repeats.countFrom (iterate unindexed part) (fun _ => account.still) _ 0 x
  · exact returned (.of_same rfl rfl)
  · exact .pure (account.still (account.view x))

/-- Loops under a condition keep to an account. -/
theorem whileLoop (unindexed : account.Unindexed) {stuck : Behaviour (Program σ τ ρ)}
    {condition : Query (Program σ τ ρ) Bool} {body : Behaviour (Program σ τ ρ)} (policy : ConditionPolicy)
    (rest : account.Behaves noted answers stuck) (question : account.Answers noted answers condition)
    (part : account.Behaves noted answers body) (patience : Nat) :
    account.Behaves noted answers (whileLoop stuck patience condition policy body) :=
  account.repeats.whileFrom (iterate unindexed part) policy (fun _ => rest) question
    (fun index x _ asked => by rw [unindexed]; exact asked _) patience 0

end Account

/-! ## Multicasts -/

/-- How what happens in the branches of a multicast makes up what happens in the whole: branches are left aside, or one
of them is taken. Events of a kind may happen while branches are joined. -/
structure Gathers {V : Type} (single whole : V → V → List Event → Prop) (joining : List Event → Prop) : Prop where
  /-- Without branches nothing happens. -/
  nothing : ∀ seen, whole seen seen []
  /-- A branch is left aside. -/
  aside : ∀ {first second third events later}, single first second events → whole first third later →
    whole first third (events ++ later)
  /-- A branch is taken when those after it are left aside. -/
  taken : ∀ {first second events later}, single first second events → whole first first later →
    whole first second (events ++ later)
  /-- Branches are joined. -/
  join : ∀ {first second events later}, whole first second events → joining later →
    whole first second (events ++ later)

namespace Gathers

variable {V : Type} {σ τ ρ : Type} (sight : View V) {single whole : V → V → List Event → Prop}
  {joining : List Event → Prop} {noted : σ → σ → List Event} {answers : τ → List Event → ρ → Prop}

/-- The events lead from what is seen to each of some branches, and to nothing else for who leaves all of them aside. -/
structure Covers (whole : V → V → List Event → Prop) (seen : V) (branches : List Exchange) (events : List Event) :
    Prop where
  /-- The branches left aside. -/
  none : whole seen seen events
  /-- The branches. -/
  each : ∀ branch ∈ branches, whole seen (sight.view branch) events

/-- What happens in the branch that an output makes of a fork. -/
def Single (single : V → V → List Event → Prop) (noted : σ → σ → List Event) (answers : τ → List Event → ρ → Prop)
    (output : Behaviour (Program σ τ ρ)) : Prop :=
  ∀ x : Exchange, (output x).Ensures noted answers fun events o =>
    single (sight.view x) (sight.view o.exchange) events

/-- What is made of a branch and of those before it is led to by whatever leads to these, and only joining happens
meanwhile. -/
def Joins (whole : V → V → List Event → Prop) (joining : List Event → Prop) (noted : σ → σ → List Event)
    (answers : τ → List Event → ρ → Prop) (aggregate : Aggregator (Program σ τ ρ)) : Prop :=
  ∀ (before : Option Exchange) (branch : Exchange), (aggregate before branch).Ensures noted answers
    fun later joined => joining later ∧ ∀ y, joined = .ok y → ∀ seen events,
      Covers sight whole seen (before.toList ++ [branch]) events → whole seen (sight.view y) events

variable {sight} (gathers : Gathers single whole joining)

include gathers

/-- A branch before others. -/
theorem cons {seen : V} {branch : Exchange} {branches : List Exchange} {events later : List Event}
    (first : single seen (sight.view branch) events) (others : Covers sight whole seen branches later) :
    Covers sight whole seen (branch :: branches) (events ++ later) where
  none := gathers.aside first others.none
  each := List.forall_mem_cons.mpr ⟨gathers.taken first others.none,
    fun other member => gathers.aside first (others.each other member)⟩

/-- Branches are covered when they are joined. -/
theorem joined {seen : V} {branches : List Exchange} {events later : List Event}
    (covered : Covers sight whole seen branches events) (also : joining later) :
    Covers sight whole seen branches (events ++ later) where
  none := gathers.join covered.none also
  each branch member := gathers.join (covered.each branch member) also

/-- No branches are covered. -/
theorem uncovered (seen : V) : Covers sight whole seen [] [] := ⟨gathers.nothing seen, List.forall_mem_nil _⟩

omit gathers in
/-- Containing panics does not show. -/
theorem ensures_invoke {output : Behaviour (Program σ τ ρ)} (part : Single sight single noted answers output)
    (x : Exchange) : (invoke output x.fork).Ensures noted answers fun events y =>
      single (sight.view x) (sight.view y) events := by
  have fork : sight.view x.fork = sight.view x := sight.blind (.of_same rfl rfl)
  refine (part x.fork).bind fun events o led => .pure ?_
  rwa [List.append_nil, sight.blind o.looksLike_contained, ← fork]

/-- Outputs that run one after the other are covered. -/
theorem runInTurn (stopOnError : Bool) {outputs : List (Behaviour (Program σ τ ρ))}
    (parts : ∀ output ∈ outputs, Single sight single noted answers output) : ∀ x : Exchange,
      (runInTurn stopOnError outputs x).Ensures noted answers fun events branches =>
        sight.view branches.source = sight.view x ∧ Covers sight whole (sight.view x) branches.ended events := by
  induction outputs with
  | nil => exact fun x => .pure ⟨rfl, gathers.uncovered (sight.view x)⟩
  | cons output rest later =>
    obtain ⟨first, others⟩ := List.forall_mem_cons.mp parts
    intro x
    have source : sight.view x.afterMaking = sight.view x := sight.blind (.of_same rfl rfl)
    refine (ensures_invoke first x).bind fun events branch led => ?_
    split
    · exact .pure ⟨source, gathers.cons led (gathers.uncovered _)⟩
    · refine (later others x.afterMaking).bind fun more branches covered => .pure ⟨covered.1.trans source, ?_⟩
      rw [List.append_nil]
      exact gathers.cons led (source ▸ covered.2)

omit gathers in
/-- The forks for outputs do what these do, and the exchange looks as it did. -/
theorem forksFor {outputs : List (Behaviour (Program σ τ ρ))}
    (parts : ∀ output ∈ outputs, Single sight single noted answers output) : ∀ x : Exchange,
      sight.view (forksFor outputs x).2 = sight.view x ∧ ∀ branch ∈ (forksFor outputs x).1,
        branch.Ensures noted answers fun events y => single (sight.view x) (sight.view y) events := by
  induction outputs with
  | nil => exact fun x => ⟨rfl, fun _ member => nomatch member⟩
  | cons output rest later =>
    obtain ⟨first, others⟩ := List.forall_mem_cons.mp parts
    intro x
    have source : sight.view x.afterMaking = sight.view x := sight.blind (.of_same rfl rfl)
    obtain ⟨same, forks⟩ := later others x.afterMaking
    rw [source] at same forks
    exact ⟨same, List.forall_mem_cons.mpr ⟨ensures_invoke first x, forks⟩⟩

/-- Branches that run in some order are covered. -/
theorem runAt {branches : List (Program σ τ ρ Exchange)} {seen : V}
    (parts : ∀ branch ∈ branches, branch.Ensures noted answers fun events y => single seen (sight.view y) events)
    (order : List Nat) :
    (runAt branches order).Ensures noted answers fun events ended =>
      Covers sight whole seen (ended.map Prod.snd) events := by
  induction order with
  | nil => exact .pure (gathers.uncovered seen)
  | cons place rest later =>
    unfold Pattern.runAt
    split
    · exact later
    · rename_i branch found
      have first := parts branch (List.mem_of_getElem? found)
      refine first.bind fun events y led => later.bind fun more ended covered => .pure ?_
      rw [List.append_nil]
      exact gathers.cons led covered

/-- Outputs that run side by side are covered. -/
theorem runSideBySide (order : List Nat) {outputs : List (Behaviour (Program σ τ ρ))}
    (parts : ∀ output ∈ outputs, Single sight single noted answers output) (x : Exchange) :
    (runSideBySide order outputs x).Ensures noted answers fun events branches =>
      sight.view branches.source = sight.view x ∧ Covers sight whole (sight.view x) branches.ended events := by
  obtain ⟨same, forks⟩ := forksFor parts x
  unfold Pattern.runSideBySide
  refine (gathers.runAt forks order).bind fun events ended covered => .pure ?_
  rw [List.append_nil]
  refine ⟨same, covered.none, fun branch member => ?_⟩
  obtain ⟨place, -, found⟩ := List.mem_filterMap.mp member
  obtain ⟨before, after, rfl, -⟩ := List.lookup_eq_some_iff.mp found
  exact covered.each branch (List.mem_map_of_mem (List.mem_append_right before List.mem_cons_self))

/-- Branches are folded to what one of them leads to. -/
theorem foldBranches {aggregate : Aggregator (Program σ τ ρ)}
    (joins : Joins sight whole joining noted answers aggregate) (seen : V) {branches : List Exchange} :
    ∀ (before : Option Exchange) (events : List Event),
      Covers sight whole seen (before.toList ++ branches) events →
      (foldBranches aggregate before branches).Ensures noted answers fun later joined =>
        whole seen seen (events ++ later) ∧
          ∀ y, joined = .ok (some y) → whole seen (sight.view y) (events ++ later) := by
  induction branches with
  | nil =>
    intro before events covered
    refine .pure ?_
    rw [List.append_nil]
    refine ⟨covered.none, fun y same => covered.each y ?_⟩
    cases same
    exact List.mem_cons_self
  | cons branch rest later =>
    intro before events covered
    refine (joins before branch).bind fun more joined made => ?_
    have grown := gathers.joined covered made.1
    split
    · rename_i next
      have both : Covers sight whole seen (before.toList ++ [branch]) events :=
        ⟨covered.none, fun other member => covered.each other (by simp at member ⊢; tauto)⟩
      have led := made.2 next rfl seen events both
      have all : Covers sight whole seen ((some next).toList ++ rest) (events ++ more) := by
        refine ⟨grown.none, List.forall_mem_cons.mpr ⟨gathers.join led made.1, fun other member => ?_⟩⟩
        exact grown.each other (List.mem_append_right _ (List.mem_cons_of_mem _ member))
      simpa only [List.append_assoc] using later (some next) (events ++ more) all
    · refine .pure ?_
      rw [List.append_nil]
      exact ⟨grown.none, fun y same => by cases same⟩

/-- Gathering branches comes to what one of them leads to, or to the exchange as it was. -/
theorem gather {aggregator : Option (Aggregator (Program σ τ ρ))}
    (joins : ∀ aggregate ∈ aggregator, Joins sight whole joining noted answers aggregate) {branches : Branches}
    {events : List Event} (covered : Covers sight whole (sight.view branches.source) branches.ended events) :
    (gather aggregator branches).Ensures noted answers fun later y =>
      whole (sight.view branches.source) (sight.view y) (events ++ later) := by
  have left (failure : Option Raised) (x : Exchange) : sight.view (withFailure failure x) = sight.view x :=
    sight.blind (looksLike_withFailure failure x)
  cases aggregator with
  | none =>
    refine .pure ?_
    rw [List.append_nil, left]
    exact covered.none
  | some aggregate =>
    refine (gathers.foldBranches (joins aggregate rfl) _ none events covered).bind fun more joined led => ?_
    split
    · rename_i folded
      have absorbed : sight.view (branches.source.absorb folded) = sight.view folded := sight.blind (.of_same rfl rfl)
      refine .pure ?_
      rw [List.append_nil, left, absorbed]
      exact led.2 folded rfl
    · refine .pure ?_
      rw [List.append_nil, left]
      exact led.1
    · refine .pure ?_
      rw [List.append_nil, sight.blind (x := branches.source.fail _) (y := branches.source) (.of_same rfl rfl)]
      exact led.1

/-- Running branches in some way and gathering them comes to what one of them leads to, or to the exchange as it
was. -/
theorem gathered {aggregator : Option (Aggregator (Program σ τ ρ))}
    (joins : ∀ aggregate ∈ aggregator, Joins sight whole joining noted answers aggregate)
    {program : Program σ τ ρ Branches} {x : Exchange} (ran : program.Ensures noted answers fun events branches =>
      sight.view branches.source = sight.view x ∧ Covers sight whole (sight.view x) branches.ended events) :
    (program >>= fun branches => Pattern.gather aggregator branches >>= fun y => pure (Outcome.returned y)).Ensures
      noted answers fun events o => whole (sight.view x) (sight.view o.exchange) events := by
  refine ran.bind fun events branches covered => ?_
  obtain ⟨same, covered⟩ := covered
  rw [← same] at covered ⊢
  refine (gathers.gather joins covered).bind fun later y led => .pure ?_
  rwa [List.append_nil]

/-- Multicasts come to what one of their branches leads to, or to the exchange as it was. -/
theorem multicast (mode : Mode) {aggregator : Option (Aggregator (Program σ τ ρ))}
    (joins : ∀ aggregate ∈ aggregator, Joins sight whole joining noted answers aggregate)
    {outputs : List (Behaviour (Program σ τ ρ))}
    (parts : ∀ output ∈ outputs, Single sight single noted answers output) (x : Exchange) :
    (multicast mode aggregator outputs x).Ensures noted answers fun events o =>
      whole (sight.view x) (sight.view o.exchange) events := by
  cases mode with
  | inTurn stopOnError => exact gathers.gathered joins (gathers.runInTurn stopOnError parts x)
  | sideBySide order => exact gathers.gathered joins (gathers.runSideBySide order parts x)

end Gathers

namespace Account

variable {V : Type} {σ τ ρ : Type}

/-- What happened to a copy may be left aside, and what happens to another copy later changes nothing. -/
structure SetsAside (account : Account V) : Prop where
  /-- What happened to a copy is left aside. -/
  aside : ∀ {first second events}, account.leads first second events → account.leads first first events
  /-- Something happens to another copy later. -/
  beside : ∀ {first second third events later}, account.leads first second events → account.leads first third later →
    account.leads first second (events ++ later)

variable {account : Account V} {noted : σ → σ → List Event} {answers : τ → List Event → ρ → Prop}

/-- Such an account is kept to by a multicast as by its branches. -/
theorem SetsAside.gathers (setsAside : account.SetsAside) : Gathers account.leads account.leads account.Still where
  nothing := account.still
  aside single whole := account.trans (setsAside.aside single) whole
  taken := setsAside.beside
  join whole still := account.trans whole (still _)

/-- What is made of a branch and of those before it keeps to the account. -/
abbrev Joins (account : Account V) (noted : σ → σ → List Event) (answers : τ → List Event → ρ → Prop)
    (aggregate : Aggregator (Program σ τ ρ)) : Prop :=
  Gathers.Joins account.toView account.leads account.Still noted answers aggregate

/-- Multicasts keep to such an account. -/
theorem multicast (setsAside : account.SetsAside) (mode : Mode) {aggregator : Option (Aggregator (Program σ τ ρ))}
    (joins : ∀ aggregate ∈ aggregator, account.Joins noted answers aggregate)
    {outputs : List (Behaviour (Program σ τ ρ))} (parts : ∀ output ∈ outputs, account.Behaves noted answers output) :
    account.Behaves noted answers (multicast mode aggregator outputs) :=
  setsAside.gathers.multicast mode joins parts

end Account

end Pattern

end MessageRouting
