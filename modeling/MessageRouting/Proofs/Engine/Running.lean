import MessageRouting.Engine.Run

/-!
# Programs of an engine that run alone

How the run of a program is put together from the runs of its parts.
-/

namespace MessageRouting.Engine

variable {κ η : Type} {embedding : Embedding κ η} {fuel : Nat}

/-- What goes on with a program runs from where the program ended. -/
theorem run_bind {α β : Type} (work : Work κ η α) (next : α → Work κ η β) (engine : Engine κ η) :
    run embedding fuel (work >>= next) engine =
      (run embedding fuel work engine).bind fun ended => run embedding fuel (next ended.1) ended.2 :=
  Program.runWith_bind _ work next engine

/-- What goes on with a program runs from where the program is known to have ended. -/
theorem run_bind_of_run {α β : Type} {work : Work κ η α} {next : α → Work κ η β} {engine after : Engine κ η}
    {result : α} (ran : run embedding fuel work engine = some (result, after)) :
    run embedding fuel (work >>= next) engine = run embedding fuel (next result) after := by
  rw [run_bind, ran, Option.bind_some]

/-- What goes on with a program and comes to an end goes on where the program ended. -/
theorem exists_of_run_bind {α β : Type} {work : Work κ η α} {next : α → Work κ η β} {engine after : Engine κ η}
    {result : β} (ran : run embedding fuel (work >>= next) engine = some (result, after)) :
    ∃ middle between, run embedding fuel work engine = some (middle, between) ∧
      run embedding fuel (next middle) between = some (result, after) := by
  rw [run_bind] at ran
  obtain ⟨ended, first, later⟩ := Option.bind_eq_some_iff.mp ran
  exact ⟨ended.1, ended.2, first, later⟩

/-- An end leaves everything as it was. -/
@[simp] theorem run_pure {α : Type} (result : α) (engine : Engine κ η) :
    run embedding fuel (pure result) engine = some (result, engine) := rfl

/-- Reading leaves everything as it was. -/
@[simp] theorem run_read {α : Type} (f : Engine κ η → α) (engine : Engine κ η) :
    run embedding fuel (Program.read f) engine = some (f engine, engine) := rfl

end MessageRouting.Engine
