/-!
# Programs

A program works on a shared state in indivisible sections and hands tasks to whoever runs it. A section that
cannot take place now blocks. Between two sections other programs may have changed the state, so a program says
exactly what is protected and what is not. Run alone, a program either comes to its end or is stuck: blocked, or
out of the fuel that bounds how deep tasks may be nested.
-/

namespace MessageRouting

/-- A program over states `σ` with tasks `τ` that are answered by `ρ`. -/
inductive Program (σ τ ρ α : Type) : Type where
  /-- The end, with a result. -/
  | done (result : α)
  /-- An indivisible section that changes the state, unless it blocks; what follows depends on the state
  before it. -/
  | act (update : σ → Option σ) (next : σ → Program σ τ ρ α)
  /-- A task for whoever runs the program. -/
  | call (task : τ) (next : ρ → Program σ τ ρ α)

namespace Program

variable {σ τ ρ α β : Type}

/-- Goes on with the result of a program. -/
def bind : Program σ τ ρ α → (α → Program σ τ ρ β) → Program σ τ ρ β
  | done result, f => f result
  | act update next, f => act update fun s => (next s).bind f
  | call task next, f => call task fun r => (next r).bind f

instance : Monad (Program σ τ ρ) where
  pure := done
  bind := bind

/-- A section with a result. Where the section blocks, `absent` stands for the result that never comes. -/
def tryAtomically (f : σ → Option (α × σ)) (absent : α) : Program σ τ ρ α :=
  act (fun s => (f s).map Prod.snd) fun s => done ((f s).elim absent Prod.fst)

/-- A section with a result that never blocks. -/
def atomically (f : σ → α × σ) : Program σ τ ρ α := act (fun s => some (f s).2) fun s => done (f s).1

/-- Reads the state. -/
def read (f : σ → α) : Program σ τ ρ α := act some fun s => done (f s)

/-- Changes the state. -/
def change (f : σ → σ) : Program σ τ ρ Unit := act (fun s => some (f s)) fun _ => done ()

/-- Waits for a condition that nobody else is there to bring about. -/
def blocked (result : α) : Program σ τ ρ α := act (fun _ => none) fun _ => done result

/-- Hands over a task. -/
def ask (task : τ) : Program σ τ ρ ρ := call task done

/-- Runs a program alone, with a way to answer its tasks. -/
def runWith (answer : τ → σ → Option (ρ × σ)) : Program σ τ ρ α → σ → Option (α × σ)
  | done result, s => some (result, s)
  | act update next, s =>
    match update s with
    | none => none
    | some s' => (next s).runWith answer s'
  | call task next, s =>
    match answer task s with
    | none => none
    | some (r, s') => (next r).runWith answer s'

/-- Answers a task by the program that carries it out; the fuel bounds how deep tasks are nested, and the
program may take it as the bound of its own loops. -/
def answerWithin (carryOut : Nat → τ → Program σ τ ρ ρ) : Nat → τ → σ → Option (ρ × σ)
  | 0, _, _ => none
  | fuel + 1, task, s => (carryOut fuel task).runWith (answerWithin carryOut fuel) s

/-- Runs a program alone. -/
def runWithin (carryOut : Nat → τ → Program σ τ ρ ρ) (fuel : Nat) (program : Program σ τ ρ α) (s : σ) :
    Option (α × σ) :=
  program.runWith (answerWithin carryOut fuel) s

/-! ## Laws -/

/-- Nothing follows the end of a program but its result. -/
theorem bind_done (program : Program σ τ ρ α) : program.bind done = program := by
  induction program with
  | done result => rfl
  | act update next later => exact congrArg (act update) (funext later)
  | call task next later => exact congrArg (call task) (funext later)

/-- Going on twice is going on with what goes on. -/
theorem bind_bind {γ : Type} (program : Program σ τ ρ α) (f : α → Program σ τ ρ β)
    (g : β → Program σ τ ρ γ) : (program.bind f).bind g = program.bind fun a => (f a).bind g := by
  induction program with
  | done result => rfl
  | act update next later => exact congrArg (act update) (funext later)
  | call task next later => exact congrArg (call task) (funext later)

instance : LawfulMonad (Program σ τ ρ) :=
  LawfulMonad.mk' _ bind_done (fun _ _ => rfl) bind_bind

/-- What goes on with a program runs from the state in which the program ended. -/
theorem runWith_bind (answer : τ → σ → Option (ρ × σ)) (program : Program σ τ ρ α)
    (f : α → Program σ τ ρ β) (s : σ) :
    (program >>= f).runWith answer s =
      (program.runWith answer s).bind fun (result, s) => (f result).runWith answer s := by
  change (program.bind f).runWith answer s = _
  induction program generalizing s with
  | done result => rfl
  | act update next later =>
    simp only [Program.bind, runWith]
    cases update s with
    | none => rfl
    | some _ => exact later _ _
  | call task next later =>
    simp only [Program.bind, runWith]
    cases answer task s with
    | none => rfl
    | some _ => exact later _ _

@[simp] theorem runWith_pure (answer : τ → σ → Option (ρ × σ)) (result : α) (s : σ) :
    (pure result : Program σ τ ρ α).runWith answer s = some (result, s) := rfl

@[simp] theorem runWith_atomically (answer : τ → σ → Option (ρ × σ)) (f : σ → α × σ) (s : σ) :
    (atomically f : Program σ τ ρ α).runWith answer s = some (f s) := rfl

@[simp] theorem runWith_read (answer : τ → σ → Option (ρ × σ)) (f : σ → α) (s : σ) :
    (read f : Program σ τ ρ α).runWith answer s = some (f s, s) := rfl

@[simp] theorem runWith_change (answer : τ → σ → Option (ρ × σ)) (f : σ → σ) (s : σ) :
    (change f : Program σ τ ρ Unit).runWith answer s = some ((), f s) := rfl

@[simp] theorem runWith_ask (answer : τ → σ → Option (ρ × σ)) (task : τ) (s : σ) :
    (ask task : Program σ τ ρ ρ).runWith answer s = answer task s := by
  simp only [ask, runWith]
  cases answer task s <;> rfl

/-- A section takes place with its result, or blocks. -/
@[simp] theorem runWith_tryAtomically (answer : τ → σ → Option (ρ × σ)) (f : σ → Option (α × σ))
    (absent : α) (s : σ) : (tryAtomically f absent : Program σ τ ρ α).runWith answer s = f s := by
  simp only [tryAtomically, runWith]
  cases f s <;> rfl

/-- Whoever waits in vain never ends. -/
@[simp] theorem runWith_blocked (answer : τ → σ → Option (ρ × σ)) (result : α) (s : σ) :
    (blocked result : Program σ τ ρ α).runWith answer s = none := rfl

end Program

end MessageRouting
