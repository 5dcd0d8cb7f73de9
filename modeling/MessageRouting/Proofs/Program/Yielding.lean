import MessageRouting.Program
import MessageRouting.Proofs.Pattern.Simulation

/-!
# What a program comes to in the end

A program yields results of a kind if it comes to nothing else, whatever states of a kind its sections meet and however
its tasks are answered within bounds. Others may have changed the state between any two sections, so nothing is said
about how the states of a run follow each other. What follows a section that blocks does not matter.

When a program runs alone, its results are those of its runs. A relation between programs that goes on with what follows
them where they came to an end goes along with patterns, if it is joined with what they come to.
-/

namespace MessageRouting.Program

variable {σ τ ρ α β : Type}

/-- Whatever states of a kind the sections meet, and however tasks are answered within bounds, the results are of a
kind. -/
def Yields (states : σ → Prop) (answers : τ → ρ → Prop) (good : α → Prop) : Program σ τ ρ α → Prop
  | done result => good result
  | act update next => ∀ s t, states s → update s = some t → (next s).Yields states answers good
  | call task next => ∀ answer, answers task answer → (next answer).Yields states answers good

variable {states : σ → Prop} {answers : τ → ρ → Prop}

/-- What follows results of a kind yields what it yields after each of them. -/
theorem Yields.bind {good : α → Prop} {fine : β → Prop} {program : Program σ τ ρ α} {next : α → Program σ τ ρ β}
    (first : program.Yields states answers good)
    (later : ∀ result, good result → (next result).Yields states answers fine) :
    (program >>= next).Yields states answers fine := by
  change (program.bind next).Yields states answers fine
  induction program with
  | done result => exact later result first
  | act update rest ih => exact fun s t state took => ih s (first s t state took)
  | call task rest ih => exact fun answer within => ih answer (first answer within)

/-- Nothing is said of results of any kind. -/
theorem Yields.any (program : Program σ τ ρ α) : program.Yields states answers fun _ => True := by
  induction program with
  | done result => trivial
  | act update next later => exact fun s _ _ _ => later s
  | call task next later => exact fun answer _ => later answer

/-- What is said of the results may be weakened. -/
theorem Yields.mono {good weaker : α → Prop} {program : Program σ τ ρ α} (all : program.Yields states answers good)
    (implies : ∀ result, good result → weaker result) : program.Yields states answers weaker := by
  induction program with
  | done result => exact implies result all
  | act update next later => exact fun s t state took => later s (all s t state took)
  | call task next later => exact fun answer within => later answer (all answer within)

/-- What is read is of a kind, if it is in every state of the kind that is met. -/
theorem Yields.read {good : α → Prop} {f : σ → α} (holds : ∀ s, states s → good (f s)) :
    (Program.read f : Program σ τ ρ α).Yields states answers good :=
  fun s _ state _ => holds s state

/-- A change has nothing but itself as its result. -/
theorem Yields.change (f : σ → σ) : (Program.change f : Program σ τ ρ Unit).Yields states answers fun _ => True :=
  fun _ _ _ _ => trivial

/-- The result of a section is of a kind, if it is in every state of the kind that is met. -/
theorem Yields.atomically {good : α → Prop} {f : σ → α × σ} (holds : ∀ s, states s → good (f s).1) :
    (Program.atomically f : Program σ τ ρ α).Yields states answers good :=
  fun s _ state _ => holds s state

/-- The answer to a task is of a kind, if it is whenever it is within bounds. -/
theorem Yields.ask {good : ρ → Prop} {task : τ} (holds : ∀ answer, answers task answer → good answer) :
    (Program.ask task : Program σ τ ρ ρ).Yields states answers good :=
  holds

/-- Waiting in vain comes to nothing. -/
theorem Yields.blocked {good : α → Prop} (result : α) :
    (Program.blocked result : Program σ τ ρ α).Yields states answers good :=
  fun _ _ _ never => nomatch never

/-- Yielding results of a kind as a relation, which leaves the second program out. -/
def yielding (states : σ → Prop) (answers : τ → ρ → Prop) : Pattern.Simulation (Program σ τ ρ) where
  relates good program _ := program.Yields states answers good
  pure good := good
  bind first later := first.bind later

/-! ## Runs -/

/-- All results that a program comes to when it runs alone are of a kind. -/
def ComesTo (answer : τ → σ → Option (ρ × σ)) (good : α → Prop) (program : Program σ τ ρ α) : Prop :=
  ∀ s result t, program.runWith answer s = some (result, t) → good result

/-- What follows results of a kind comes to what it comes to after each of them. -/
theorem ComesTo.bind {answer : τ → σ → Option (ρ × σ)} {good : α → Prop} {fine : β → Prop} {program : Program σ τ ρ α}
    {next : α → Program σ τ ρ β} (first : program.ComesTo answer good)
    (later : ∀ result, good result → (next result).ComesTo answer fine) : (program >>= next).ComesTo answer fine := by
  intro s result t ran
  rw [runWith_bind] at ran
  obtain ⟨⟨middle, between⟩, before, ran⟩ := Option.bind_eq_some_iff.mp ran
  exact later middle (first s middle between before) between result t ran

/-- A relation that ends have with themselves, and that goes on with related programs to what follows the results that
the first one comes to. -/
structure GoesOn (answer : τ → σ → Option (ρ × σ))
    (relates : {α : Type} → Program σ τ ρ α → Program σ τ ρ α → Prop) : Prop where
  /-- Ends are related to themselves. -/
  pure : ∀ {α : Type} (result : α), relates (Pure.pure result) (Pure.pure result)
  /-- Related programs are followed by related programs. -/
  bind : ∀ {α β : Type} {good : α → Prop} {program other : Program σ τ ρ α} {next follow : α → Program σ τ ρ β},
    relates program other → program.ComesTo answer good →
    (∀ result, good result → relates (next result) (follow result)) → relates (program >>= next) (other >>= follow)

/-- Such a relation goes along with patterns, together with what programs come to. -/
def GoesOn.simulation {answer : τ → σ → Option (ρ × σ)}
    {relates : {α : Type} → Program σ τ ρ α → Program σ τ ρ α → Prop} (goesOn : GoesOn answer relates) :
    Pattern.Simulation (Program σ τ ρ) where
  relates good program other := relates program other ∧ program.ComesTo answer good
  pure good := ⟨goesOn.pure _, fun _ _ _ ran => by cases ran; exact good⟩
  bind first later := ⟨goesOn.bind first.1 first.2 fun result holds => (later result holds).1,
    first.2.bind fun result holds => (later result holds).2⟩

end MessageRouting.Program
