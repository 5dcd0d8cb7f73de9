import MessageRouting.Proofs.Program.Passing

/-!
# What happens while a program runs

A run of a program has a trace: what was noted in its sections and in the tasks it handed over, in this order. Others
may have changed the state between any two sections, so a trace says nothing about how the states of a run follow each
other; a program that runs alone has a trace, too, namely what was noted between the states that it passed.

What a program ensures holds of each trace and the result that goes with it. It is put together along the program, and
for tasks that are nested it is shown by what they ensure if the tasks inside do.
-/

namespace MessageRouting.Program

variable {σ τ ρ α β ε : Type}

/-- The program can come to a result with some events as its trace. Sections may meet any state; a way is given to tell
what is noted between two states, and which traces and answers the tasks have. -/
def Traces (noted : σ → σ → List ε) (answers : τ → List ε → ρ → Prop) : Program σ τ ρ α → List ε → α → Prop
  | done result, events, final => events = [] ∧ final = result
  | act update next, events, final => ∃ s t later,
    update s = some t ∧ (next s).Traces noted answers later final ∧ events = noted s t ++ later
  | call task next, events, final => ∃ first answer later,
    answers task first answer ∧ (next answer).Traces noted answers later final ∧ events = first ++ later

/-- Whatever happens while the program runs and whatever it comes to, it is as wanted. -/
def Ensures (noted : σ → σ → List ε) (answers : τ → List ε → ρ → Prop) (good : List ε → α → Prop)
    (program : Program σ τ ρ α) : Prop :=
  ∀ events result, program.Traces noted answers events result → good events result

variable {noted : σ → σ → List ε} {answers : τ → List ε → ρ → Prop}

/-! ## Laws -/

/-- What follows a program has its trace behind that of the program. -/
theorem traces_bind (program : Program σ τ ρ α) {next : α → Program σ τ ρ β} {events : List ε} {final : β} :
    (program >>= next).Traces noted answers events final ↔ ∃ first middle later,
      program.Traces noted answers first middle ∧ (next middle).Traces noted answers later final ∧
        events = first ++ later := by
  change (program.bind next).Traces noted answers events final ↔ _
  induction program generalizing events with
  | done result =>
    constructor
    · exact fun traced => ⟨[], result, events, ⟨rfl, rfl⟩, traced, rfl⟩
    · rintro ⟨first, middle, later, ⟨rfl, rfl⟩, traced, rfl⟩
      exact traced
  | act update rest ih =>
    constructor
    · rintro ⟨s, t, more, took, traced, rfl⟩
      obtain ⟨first, middle, later, before, after, rfl⟩ := (ih s).mp traced
      exact ⟨noted s t ++ first, middle, later, ⟨s, t, first, took, before, rfl⟩, after, (List.append_assoc ..).symm⟩
    · rintro ⟨first, middle, later, ⟨s, t, more, took, before, rfl⟩, after, rfl⟩
      have traced := (ih s).mpr ⟨more, middle, later, before, after, rfl⟩
      exact ⟨s, t, more ++ later, took, traced, List.append_assoc ..⟩
  | call task rest ih =>
    constructor
    · rintro ⟨own, answer, more, answered, traced, rfl⟩
      obtain ⟨first, middle, later, before, after, rfl⟩ := (ih answer).mp traced
      exact ⟨own ++ first, middle, later, ⟨own, answer, first, answered, before, rfl⟩, after,
        (List.append_assoc ..).symm⟩
    · rintro ⟨first, middle, later, ⟨own, answer, more, answered, before, rfl⟩, after, rfl⟩
      have traced := (ih answer).mpr ⟨more, middle, later, before, after, rfl⟩
      exact ⟨own, answer, more ++ later, answered, traced, List.append_assoc ..⟩

namespace Ensures

/-- At its end nothing happens any more. -/
theorem pure {good : List ε → α → Prop} {result : α} (holds : good [] result) :
    (Pure.pure result : Program σ τ ρ α).Ensures noted answers good := by
  rintro events final ⟨rfl, rfl⟩
  exact holds

/-- What follows a program ensures what is wanted of both traces, one behind the other. -/
theorem bind {good : List ε → α → Prop} {fine : List ε → β → Prop} {program : Program σ τ ρ α}
    {next : α → Program σ τ ρ β} (first : program.Ensures noted answers good)
    (later : ∀ before result, good before result →
      (next result).Ensures noted answers fun after final => fine (before ++ after) final) :
    (program >>= next).Ensures noted answers fine := by
  intro events final traced
  obtain ⟨before, middle, after, ran, follows, rfl⟩ := (traces_bind program).mp traced
  exact later before middle (first before middle ran) after final follows

/-- What is ensured may be weakened. -/
theorem mono {good weaker : List ε → α → Prop} {program : Program σ τ ρ α} (all : program.Ensures noted answers good)
    (implies : ∀ events result, good events result → weaker events result) :
    program.Ensures noted answers weaker :=
  fun events result traced => implies events result (all events result traced)

/-- A section ensures what holds of its result and of what is noted in it. -/
theorem atomically {good : List ε → α → Prop} {f : σ → α × σ} (holds : ∀ s, good (noted s (f s).2) (f s).1) :
    (Program.atomically f : Program σ τ ρ α).Ensures noted answers good := by
  rintro events final ⟨s, t, later, took, ⟨rfl, rfl⟩, rfl⟩
  cases took
  rw [List.append_nil]
  exact holds s

/-- Reading ensures what holds of all that can be read, if nothing is noted where nothing changes. -/
theorem read {good : List ε → α → Prop} {f : σ → α} (quiet : ∀ s, noted s s = []) (holds : ∀ s, good [] (f s)) :
    (Program.read f : Program σ τ ρ α).Ensures noted answers good := by
  rintro events final ⟨s, t, later, took, ⟨rfl, rfl⟩, rfl⟩
  cases took
  rw [quiet, List.append_nil]
  exact holds s

/-- A change ensures what holds of what is noted in it. -/
theorem change {good : List ε → Unit → Prop} {f : σ → σ} (holds : ∀ s, good (noted s (f s)) ()) :
    (Program.change f : Program σ τ ρ Unit).Ensures noted answers good := by
  rintro events final ⟨s, t, later, took, ⟨rfl, rfl⟩, rfl⟩
  cases took
  rw [List.append_nil]
  exact holds s

/-- A task ensures what holds of its traces and answers. -/
theorem ask {good : List ε → ρ → Prop} {task : τ} (holds : ∀ events answer, answers task events answer →
      good events answer) : (Program.ask task : Program σ τ ρ ρ).Ensures noted answers good := by
  rintro events final ⟨first, answer, later, answered, ⟨rfl, rfl⟩, rfl⟩
  rw [List.append_nil]
  exact holds first _ answered

/-- Waiting in vain comes to nothing. -/
theorem blocked {good : List ε → α → Prop} (result : α) :
    (Program.blocked result : Program σ τ ρ α).Ensures noted answers good := by
  rintro events final ⟨s, t, later, never, -, -⟩
  cases never

end Ensures

/-! ## Tasks -/

/-- The traces and answers of tasks of a kind, each carried out by its program; the fuel bounds how deep tasks are
nested. -/
def TracesWithin (carryOut : Nat → τ → Program σ τ ρ ρ) (noted : σ → σ → List ε) (kind : τ → Prop) :
    Nat → τ → List ε → ρ → Prop
  | 0, _, _, _ => False
  | fuel + 1, task, events, answer =>
    kind task ∧ (carryOut fuel task).Traces noted (TracesWithin carryOut noted kind fuel) events answer

/-- What each task of a kind ensures if the tasks that it hands over do, all of them ensure. -/
theorem ensures_tracesWithin {carryOut : Nat → τ → Program σ τ ρ ρ} {kind : τ → Prop}
    {good : τ → List ε → ρ → Prop}
    (step : ∀ fuel answers, (∀ task events answer, answers task events answer → good task events answer) →
      ∀ task, kind task → (carryOut fuel task).Ensures noted answers (good task)) :
    ∀ (fuel : Nat) (task : τ) (events : List ε) (answer : ρ),
      TracesWithin carryOut noted kind fuel task events answer → good task events answer := by
  intro fuel
  induction fuel with
  | zero =>
    intro task events answer never
    cases never
  | succ fuel inside =>
    rintro task events answer ⟨ofKind, traced⟩
    exact step fuel _ inside task ofKind events answer traced

/-! ## Running alone -/

/-- What is noted from a state on, while some states are passed. -/
def notedAlong (noted : σ → σ → List ε) : σ → List σ → List ε
  | _, [] => []
  | s, t :: rest => noted s t ++ notedAlong noted t rest

/-- The last of some states and others behind them. -/
theorem getLastD_append (states later : List σ) (s : σ) :
    (states ++ later).getLastD s = later.getLastD (states.getLastD s) := by
  induction states generalizing s with
  | nil => rfl
  | cons t rest ih => rw [List.cons_append, List.getLastD_cons, List.getLastD_cons, ih]

/-- What is noted along states that follow others is noted from the last of these on. -/
theorem notedAlong_append (states later : List σ) (s : σ) :
    notedAlong noted s (states ++ later) = notedAlong noted s states ++ notedAlong noted (states.getLastD s) later := by
  induction states generalizing s with
  | nil => rfl
  | cons t rest ih =>
    rw [List.cons_append, notedAlong, notedAlong, ih, List.append_assoc, List.getLastD_cons]

/-- A way to answer tasks keeps to traces: whatever it answers goes with what is noted along the states that the task
passes, and the last of them is the one in which it ends. -/
def KeepsTo (noted : σ → σ → List ε) (answers : τ → List ε → ρ → Prop) (answer : τ → σ → Option (ρ × σ))
    (within : τ → σ → List σ) : Prop :=
  ∀ task s r t, answer task s = some (r, t) →
    answers task (notedAlong noted s (within task s)) r ∧ (within task s).getLastD s = t

/-- To answer no task keeps to any traces. -/
theorem keepsTo_none (noted : σ → σ → List ε) (answers : τ → List ε → ρ → Prop) :
    KeepsTo noted answers (fun _ _ => none) (fun _ _ => []) := by
  intro task s r t answered
  cases answered

/-- A program that runs alone has as its trace what is noted along the states that it passes. -/
theorem traces_of_runWith {answer : τ → σ → Option (ρ × σ)} {within : τ → σ → List σ}
    (tasks : KeepsTo noted answers answer within) (program : Program σ τ ρ α) {s t : σ} {result : α}
    (ran : program.runWith answer s = some (result, t)) :
    program.Traces noted answers (notedAlong noted s (program.passed answer within s)) result ∧
      (program.passed answer within s).getLastD s = t := by
  induction program generalizing s with
  | done final =>
    cases ran
    exact ⟨⟨rfl, rfl⟩, rfl⟩
  | act update next ih =>
    simp only [runWith] at ran
    cases took : update s with
    | none =>
      rw [took] at ran
      cases ran
    | some s' =>
      rw [took] at ran
      obtain ⟨traced, last⟩ := ih s ran
      have states : (act update next).passed answer within s = s' :: (next s).passed answer within s' := by
        simp only [passed, took]
      rw [states, notedAlong, List.getLastD_cons]
      exact ⟨⟨s, s', _, took, traced, rfl⟩, last⟩
  | call task next ih =>
    simp only [runWith] at ran
    cases answered : answer task s with
    | none =>
      rw [answered] at ran
      cases ran
    | some ended =>
      obtain ⟨r, s'⟩ := ended
      rw [answered] at ran
      obtain ⟨traced, last⟩ := ih r ran
      obtain ⟨inside, between⟩ := tasks task s r s' answered
      have states : (call task next).passed answer within s = within task s ++ (next r).passed answer within s' := by
        simp only [passed, answered]
      rw [states, notedAlong_append, between]
      refine ⟨⟨_, r, _, inside, traced, rfl⟩, ?_⟩
      rwa [getLastD_append, between]

end MessageRouting.Program
