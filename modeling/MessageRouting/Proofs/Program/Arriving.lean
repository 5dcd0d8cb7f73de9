import MessageRouting.Program

/-!
# Where a program arrives

A program that is run alone arrives if it comes to its end, with a result and in a state that are as expected. What has
to hold before a program is found by going through it backwards, section by section.
-/

namespace MessageRouting.Program

variable {σ τ ρ α β : Type}

/-- Run alone from a state, the program comes to its end, with a result and in a state that are as expected. -/
def Arrives (answer : τ → σ → Option (ρ × σ)) (program : Program σ τ ρ α) (s : σ) (expected : α → σ → Prop) : Prop :=
  ∃ result t, program.runWith answer s = some (result, t) ∧ expected result t

variable {answer : τ → σ → Option (ρ × σ)} {expected weaker : α → σ → Prop} {s : σ}

/-- A run that came to an end ended as expected. -/
theorem Arrives.of_run {program : Program σ τ ρ α} (arrives : program.Arrives answer s expected) {result : α} {t : σ}
    (ran : program.runWith answer s = some (result, t)) : expected result t := by
  obtain ⟨_, _, ended, holds⟩ := arrives
  rw [ran] at ended
  cases ended
  exact holds

/-- What is expected can be weakened. -/
theorem Arrives.mono {program : Program σ τ ρ α} (arrives : program.Arrives answer s expected)
    (implies : ∀ result t, expected result t → weaker result t) : program.Arrives answer s weaker := by
  obtain ⟨result, t, ran, holds⟩ := arrives
  exact ⟨result, t, ran, implies result t holds⟩

/-- A program that arrives as is expected for two reasons does so for both. -/
theorem Arrives.and {program : Program σ τ ρ α} {other : α → σ → Prop} (arrives : program.Arrives answer s expected)
    (also : program.Arrives answer s other) :
    program.Arrives answer s fun result t => expected result t ∧ other result t := by
  obtain ⟨result, t, ran, holds⟩ := arrives
  exact ⟨result, t, ran, holds, also.of_run ran⟩

/-- A program that comes to a known end arrives if that is as expected. -/
theorem arrives_iff_of_run {program : Program σ τ ρ α} {result : α} {t : σ}
    (ran : program.runWith answer s = some (result, t)) : program.Arrives answer s expected ↔ expected result t :=
  ⟨fun arrives => arrives.of_run ran, fun holds => ⟨result, t, ran, holds⟩⟩

/-- An end arrives where it is. -/
@[simp] theorem arrives_pure {result : α} :
    (Pure.pure result : Program σ τ ρ α).Arrives answer s expected ↔ expected result s :=
  arrives_iff_of_run (runWith_pure answer result s)

/-- What goes on with a program has to arrive from where the program does. -/
@[simp] theorem arrives_bind {program : Program σ τ ρ β} {next : β → Program σ τ ρ α} :
    (program >>= next).Arrives answer s expected ↔
      program.Arrives answer s fun middle t => (next middle).Arrives answer t expected := by
  unfold Arrives
  rw [runWith_bind]
  constructor
  · rintro ⟨result, t, ran, holds⟩
    obtain ⟨⟨middle, between⟩, first, later⟩ := Option.bind_eq_some_iff.mp ran
    exact ⟨middle, between, first, result, t, later, holds⟩
  · rintro ⟨middle, between, first, result, t, later, holds⟩
    exact ⟨result, t, Option.bind_eq_some_iff.mpr ⟨_, first, later⟩, holds⟩

/-- Reading gives what is read and leaves the state. -/
@[simp] theorem arrives_read {f : σ → α} : (read f : Program σ τ ρ α).Arrives answer s expected ↔ expected (f s) s :=
  arrives_iff_of_run (runWith_read answer f s)

/-- A change arrives in the changed state. -/
@[simp] theorem arrives_change {f : σ → σ} {expected : Unit → σ → Prop} :
    (change f : Program σ τ ρ Unit).Arrives answer s expected ↔ expected () (f s) :=
  arrives_iff_of_run (runWith_change answer f s)

/-- A section arrives where it leads to. -/
@[simp] theorem arrives_atomically {f : σ → α × σ} :
    (atomically f : Program σ τ ρ α).Arrives answer s expected ↔ expected (f s).1 (f s).2 :=
  arrives_iff_of_run (runWith_atomically answer f s)

/-- A section that may block arrives if it does not. -/
theorem arrives_tryAtomically {f : σ → Option (α × σ)} {absent result : α} {t : σ} (takes : f s = some (result, t)) :
    (tryAtomically f absent : Program σ τ ρ α).Arrives answer s expected ↔ expected result t :=
  arrives_iff_of_run ((runWith_tryAtomically answer f absent s).trans takes)

end MessageRouting.Program
