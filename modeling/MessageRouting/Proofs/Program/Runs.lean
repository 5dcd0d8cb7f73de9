import MessageRouting.Proofs.Program.Interleaving

/-!
# Runs of programs side by side

A run leads from one moment of programs that run side by side to a later one. It tells the sections that took place,
each with the states before and after it, so that what one program has done can be told from what happened beside it.
-/

namespace MessageRouting

variable {σ τ ρ α : Type}

/-- A section that took place. -/
structure Passage (σ : Type) where
  /-- The number of the program whose section it was. -/
  program : Nat
  /-- The state that it met. -/
  before : σ
  /-- The state that it left. -/
  after : σ

namespace Interleaving

/-- From a moment on, things may happen that lead to a later moment, and these sections take place meanwhile, the latest
first. -/
inductive Runs (admitted : Program σ τ ρ α → Prop) (others : σ → σ → Prop) (first : Interleaving σ τ ρ α) :
    List (Passage σ) → Interleaving σ τ ρ α → Prop
  /-- Nothing has happened yet. -/
  | none : Runs admitted others first [] first
  /-- A program goes through a section. -/
  | acted {sections : List (Passage σ)} {now : Interleaving σ τ ρ α} {n : Nat} {update : σ → Option σ}
    {next : σ → Program σ τ ρ α} {after : σ} (before : Runs admitted others first sections now)
    (turn : now.programs[n]? = some (.act update next)) (took : update now.state = some after) :
    Runs admitted others first (⟨n, now.state, after⟩ :: sections)
      ⟨after, now.programs.set n (next now.state), (n, now.state) :: now.past⟩
  /-- Something happens that is no section of a program. -/
  | aside {sections : List (Passage σ)} {now later : Interleaving σ τ ρ α}
    (before : Runs admitted others first sections now) (next : Step admitted others now later)
    (quiet : later.past = now.past) : Runs admitted others first sections later

variable {admitted : Program σ τ ρ α → Prop} {others : σ → σ → Prop} {first now later : Interleaving σ τ ρ α}
  {sections more : List (Passage σ)}

/-- A run from a state on leads to what is reached from there. -/
theorem Runs.reaches {start : σ} (run : Runs admitted others ⟨start, [], []⟩ sections now) :
    Reaches admitted others start now := by
  induction run with
  | none => exact .start
  | acted _ turn took ih => exact ih.step (.acted turn took)
  | aside _ next _ ih => exact ih.step next

/-- A program that has come to its end stays there. -/
theorem Runs.done (run : Runs admitted others first sections now) {n : Nat} {result : α}
    (ended : first.programs[n]? = some (.done result)) : now.programs[n]? = some (.done result) := by
  have stays {programs : List (Program σ τ ρ α)} {m : Nat} {program other : Program σ τ ρ α}
      (there : programs[n]? = some (.done result)) (turn : programs[m]? = some program)
      (goesOn : ∀ result, program ≠ .done result) : (programs.set m other)[n]? = some (.done result) := by
    refine (List.getElem?_set_ne ?_).trans there
    rintro rfl
    exact goesOn result (Option.some.inj (turn.symm.trans there))
  induction run with
  | none => exact ended
  | acted _ turn _ ih => exact stays ih turn nofun
  | aside _ next _ ih =>
    cases next with
    | began => exact (List.getElem?_append_left (List.getElem?_eq_some_iff.mp ih).1).trans ih
    | acted turn => exact stays ih turn nofun
    | answered turn => exact stays ih turn nofun
    | changed => exact ih

/-! ## Runs by turns -/

/-- Programs that are admitted may begin one after the other. -/
theorem Runs.began (run : Runs admitted others first sections now) (programs : List (Program σ τ ρ α))
    (fits : ∀ program ∈ programs, admitted program) :
    Runs admitted others first sections { now with programs := now.programs ++ programs } := by
  induction programs generalizing now with
  | nil => rwa [List.append_nil]
  | cons program rest ih =>
    obtain ⟨own, later⟩ := List.forall_mem_cons.mp fits
    have further := ih (run.aside (.began now own) rfl) later
    rwa [List.append_assoc] at further

/-- It is the turn of a program, and its section is told. -/
def tellTurn (told : List (Passage σ) × Interleaving σ τ ρ α) (n : Nat) :
    Option (List (Passage σ) × Interleaving σ τ ρ α) :=
  (told.2.takeTurn n).map fun later => (⟨n, told.2.state, later.state⟩ :: told.1, later)

/-- Programs may take turns in any order. -/
theorem Runs.turns (run : Runs admitted others first sections now) (order : List Nat)
    (took : order.foldlM tellTurn (sections, now) = some (more, later)) : Runs admitted others first more later := by
  induction order generalizing sections now with
  | nil =>
    cases took
    exact run
  | cons n rest ih =>
    obtain ⟨next, own, others⟩ := Option.bind_eq_some_iff.mp took
    obtain ⟨after, turn, rfl⟩ := Option.map_eq_some_iff.mp own
    refine ih ?_ others
    unfold takeTurn at turn
    split at turn
    · rename_i found
      obtain ⟨state, updated, rfl⟩ := Option.map_eq_some_iff.mp turn
      exact run.acted found updated
    · cases turn

end Interleaving

end MessageRouting
