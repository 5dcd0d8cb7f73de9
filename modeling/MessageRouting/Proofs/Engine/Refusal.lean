import MessageRouting.Proofs.Engine.Running
import MessageRouting.Proofs.Engine.Starts
import MessageRouting.Proofs.Route.Guarded

/-!
# Steps, loops and tries of a cancelled exchange

A decorated step refuses an exchange that is cancelled: it raises an error of its own and does nothing else. So a loop
whose body is decorated ends with the iteration in which its exchange was cancelled, or with one more that is refused.
A try whose parts are decorated does not forget the error of a refusal: handlers are refused in turn and raise another
one, and what comes last is refused, too, and joins the pending error.
-/

namespace MessageRouting

namespace Engine

variable {κ η : Type}

/-- The exchange is cancelled. -/
def IsCancelled (engine : Engine κ η) (x : Exchange) : Prop := x.scope.isCancelled engine.cancelled = true

/-- Why a cancelled exchange is refused: its deadline, if it has passed, comes first. -/
def refusal (engine : Engine κ η) (x : Exchange) : Fault :=
  if x.scope.isExpired engine.now then .deadlineExceeded else .cancelled

/-- The error is one with which an exchange in the scope is refused. -/
def IsRefusal (engine : Engine κ η) (x : Exchange) (error : Raised) : Prop :=
  error.cause = .fault (refusal engine x)

/-- A step refused an exchange: it raised an error of its own, and nothing but the refusal was noted. -/
structure Refused (engine : Engine κ η) (x y : Exchange) (after : Engine κ η) : Prop where
  /-- The error is the next thing made from the exchange. -/
  error : y.error = some (.mk x.nextIdentity (.fault (refusal engine x)))
  /-- Its identity will not be given again to what is made from the exchange next. -/
  fresh : x.nextIdentity ≠ y.nextIdentity
  /-- It stays in its scope. -/
  scope : y.scope = x.scope
  /-- The refusal was noted. -/
  noted : ∃ info z, after = { engine with journal := .refused info z :: engine.journal }

/-- After a refusal the same exchanges are cancelled. -/
theorem Refused.isCancelled {engine after : Engine κ η} {x y : Exchange} (refused : Refused engine x y after)
    (cancelled : engine.IsCancelled x) : after.IsCancelled y := by
  obtain ⟨info, z, rfl⟩ := refused.noted
  unfold IsCancelled
  rw [refused.scope]
  exact cancelled

/-- The check of a cancelled exchange gives the reason for its refusal. -/
theorem check_of_cancelled {engine : Engine κ η} {x : Exchange} (cancelled : engine.IsCancelled x) :
    x.scope.check engine.now engine.cancelled = .error (refusal engine x) := by
  unfold IsCancelled at cancelled
  cases expired : x.scope.isExpired engine.now <;> simp [Scope.check, refusal, expired, cancelled]

/-- A refused exchange has the reason as an error of its own. -/
theorem error_fail_refusal (engine : Engine κ η) (x y : Exchange) :
    (y.fail (refusal engine x)).error = some (.mk y.nextIdentity (.fault (refusal engine x))) := by
  unfold refusal
  split <;> rfl

/-! ## Running -/

variable {embedding : Embedding κ η} {fuel patience : Nat}

/-- What runs does not take a cancellation back. -/
theorem later_of_run {α : Type} {work : Work κ η α} (inOrder : InOrder embedding fuel work)
    {engine after : Engine κ η} {result : α} (ran : run embedding fuel work engine = some (result, after)) :
    Later engine after :=
  (inOrder engine).last after (by simpa using ⟨result, ran⟩) engine List.mem_cons_self

/-- A decorated step refuses a cancelled exchange. -/
theorem run_decorated_of_cancelled (embedding : Embedding κ η) (fuel patience : Nat) {step : Processor κ}
    (decorated : step.IsDecorated) {engine : Engine κ η} {x : Exchange} (cancelled : engine.IsCancelled x) :
    ∃ y after, run embedding fuel (behaviour embedding patience step x) engine = some (.returned y, after) ∧
      Refused engine x y after := by
  obtain ⟨info, hooks, tracked, inner, rfl⟩ := decorated
  obtain ⟨headers, entered⟩ := Pattern.entered_eq info tracked x
  have checked : (Pattern.entered info tracked x).1.scope.check engine.now engine.cancelled =
      .error (refusal engine x) := by
    rw [entered]
    exact check_of_cancelled cancelled
  have ran : run embedding fuel (surroundings.check (Pattern.entered info tracked x).1) engine =
      some (.error (refusal engine x), engine) := by
    rw [← checked]
    rfl
  obtain ⟨finished, recorded⟩ := Pattern.finishRecord_eq (Pattern.entered info tracked x).2
    ((Pattern.entered info tracked x).1.fail (refusal engine x))
  refine ⟨Pattern.finishRecord (Pattern.entered info tracked x).2
      ((Pattern.entered info tracked x).1.fail (refusal engine x)),
    { engine with journal := .refused info (Pattern.entered info tracked x).1 :: engine.journal }, ?_, ?_⟩
  · rw [behaviour, Pattern.decorated_eq, run_bind_of_run ran]
    rfl
  · rw [recorded, entered]
    exact {
      error := error_fail_refusal engine x (x.setHeaders headers)
      fresh := fun same => absurd (Identity.made_inj.mp same).1 (Nat.ne_of_lt (Nat.lt_succ_self x.made))
      scope := rfl
      noted := ⟨info, _, rfl⟩ }

/-- A decorated step refuses a cancelled exchange also where a panic would be contained. -/
theorem run_invoke_of_cancelled (embedding : Embedding κ η) (fuel patience : Nat) {step : Processor κ}
    (decorated : step.IsDecorated) {engine : Engine κ η} {x : Exchange} (cancelled : engine.IsCancelled x) :
    ∃ y after, run embedding fuel (invoke (behaviour embedding patience step) x) engine = some (y, after) ∧
      Refused engine x y after := by
  obtain ⟨y, after, ran, refused⟩ := run_decorated_of_cancelled embedding fuel patience decorated cancelled
  refine ⟨y, after, ?_, refused⟩
  rw [invoke, run_bind_of_run ran]
  rfl

/-! ## Loops -/

/-- The body of an iteration refused the copy it got: the error was raised below the exchange, and nothing but the
refusal was noted. -/
structure RefusedIteration (engine : Engine κ η) (x z : Exchange) (after : Engine κ η) : Prop where
  /-- The error is the next thing made from the copy. -/
  error : z.error = some (.mk (x.nextIdentity.made 1) (.fault (refusal engine x)))
  /-- Its identity will not be given to what is made from the exchange next. -/
  fresh : x.nextIdentity.made 1 ≠ z.nextIdentity
  /-- The exchange stays in its scope. -/
  scope : z.scope = x.scope
  /-- The refusal was noted. -/
  noted : ∃ info y, after = { engine with journal := .refused info y :: engine.journal }

/-- An iteration on a cancelled exchange is refused. -/
theorem run_iterate_of_cancelled (embedding : Embedding κ η) (fuel patience : Nat) {body : Processor κ}
    (decorated : body.IsDecorated) (index : Nat) {engine : Engine κ η} {x : Exchange}
    (cancelled : engine.IsCancelled x) :
    ∃ z after, run embedding fuel (Pattern.iterate (behaviour embedding patience body) index x) engine =
        some (z, after) ∧ RefusedIteration engine x z after := by
  obtain ⟨branch, after, ran, refused⟩ :=
    run_invoke_of_cancelled embedding fuel patience decorated (x := (Pattern.atIndex index x).copy) cancelled
  refine ⟨(Pattern.atIndex index x).afterMaking.absorb branch, after, ?_, ?_⟩
  · rw [Pattern.iterate, run_bind_of_run ran]
    rfl
  · exact {
      error := refused.error
      fresh := fun same => absurd (Identity.made_inj.mp same).2 (Identity.made_ne x.identity x.made)
      scope := rfl
      noted := refused.noted }

/-- An iteration leaves its exchange in the scope. -/
theorem scope_of_iterate {body : Exchange → Work κ η Outcome} {index : Nat} {x y : Exchange}
    {engine after : Engine κ η} (ran : run embedding fuel (Pattern.iterate body index x) engine = some (y, after)) :
    y.scope = x.scope := by
  rw [Pattern.iterate, run_bind] at ran
  obtain ⟨⟨branch, middle⟩, -, ran⟩ := Option.bind_eq_some_iff.mp ran
  cases ran
  rfl

/-- A counting loop whose exchange is cancelled in the course of an iteration ends with it, if it leaves an error or was
the last, or else with one more that is refused. -/
def CountStops (embedding : Embedding κ η) (body : Processor κ) : Prop :=
  ∀ (fuel patience n index : Nat) (x y : Exchange) (engine after : Engine κ η),
    run embedding fuel (Pattern.iterate (behaviour embedding patience body) index x) engine = some (y, after) →
    after.IsCancelled x →
    if y.isError ∨ n = 0 then
      run embedding fuel (Pattern.countFrom (behaviour embedding patience body) (n + 1) index x) engine =
        some (.returned y, after)
    else
      ∃ z later, run embedding fuel (Pattern.countFrom (behaviour embedding patience body) (n + 1) index x) engine =
        some (.returned z, later) ∧ RefusedIteration after y z later

/-- A conditional loop whose exchange is cancelled in the course of an iteration ends with it, if it leaves an error, or
else with the next answer of its condition or one more iteration that is refused. -/
def WhileStops (embedding : Embedding κ η) (condition : Evaluator κ) (policy : Pattern.ConditionPolicy)
    (body : Processor κ) : Prop :=
  ∀ (fuel patience turns index : Nat) (x y : Exchange) (engine asked after : Engine κ η),
    let loop (turns : Nat) : Work κ η Outcome :=
      Pattern.whileFrom (fun x => Program.blocked (.returned x)) (holds embedding condition) policy
        (behaviour embedding patience body) turns index x
    run embedding fuel (holds embedding condition (Pattern.atIndex index x)) engine = some (.returned true, asked) →
    run embedding fuel (Pattern.iterate (behaviour embedding patience body) index (Pattern.atIndex index x)) asked =
      some (y, after) →
    after.IsCancelled x →
    if y.isError then run embedding fuel (loop (turns + 1)) engine = some (.returned y, after)
    else
      ∀ answer again,
        run embedding fuel (holds embedding condition (Pattern.atIndex (index + 1) y)) after = some (answer, again) →
        match answer with
        | .returned true =>
          ∃ z later, run embedding fuel (loop (turns + 2)) engine = some (.returned z, later) ∧
            RefusedIteration again (Pattern.atIndex (index + 1) y) z later
        | _ => ∃ o, run embedding fuel (loop (turns + 2)) engine = some (o, again)

/-- A counting loop over a decorated body stops. -/
theorem countStops_of_decorated {body : Processor κ} (decorated : body.IsDecorated) : CountStops embedding body := by
  intro fuel patience n index x y engine after ran cancelled
  split
  · rename_i ends
    rw [Pattern.countFrom, run_bind_of_run ran]
    split
    · rfl
    · rename_i quiet
      rw [ends.resolve_left quiet]
      rfl
  · rename_i goes
    have quiet : ¬ y.isError = true := fun failed => goes (.inl failed)
    obtain ⟨left, rfl⟩ := Nat.exists_eq_succ_of_ne_zero fun none => goes (.inr none)
    have cancelled : after.IsCancelled y := by
      unfold IsCancelled
      rw [scope_of_iterate ran]
      exact cancelled
    obtain ⟨z, later, once, refused⟩ :=
      run_iterate_of_cancelled embedding fuel patience decorated (index + 1) cancelled
    have failed : z.isError = true := by rw [Exchange.isError, refused.error]; rfl
    refine ⟨z, later, ?_, refused⟩
    rw [Pattern.countFrom, run_bind_of_run ran, if_neg quiet, Pattern.countFrom, run_bind_of_run once, if_pos failed]
    rfl

/-- A conditional loop over a decorated body stops. -/
theorem whileStops_of_decorated (calm : embedding.Calm) (condition : Evaluator κ) (policy : Pattern.ConditionPolicy)
    {body : Processor κ} (decorated : body.IsDecorated) : WhileStops embedding condition policy body := by
  intro fuel patience turns index x y engine asked after loop held ran cancelled
  split
  · rename_i failed
    simp only [loop, Pattern.whileFrom]
    rw [run_bind_of_run held]
    simp only
    rw [run_bind_of_run ran, if_pos failed]
    rfl
  · rename_i quiet
    intro answer again asks
    have unrolled (turns : Nat) : run embedding fuel (loop (turns + 2)) engine =
        run embedding fuel (Pattern.whileFrom (fun x => Program.blocked (.returned x)) (holds embedding condition)
          policy (behaviour embedding patience body) (turns + 1) (index + 1) y) after := by
      simp only [loop, Pattern.whileFrom]
      rw [run_bind_of_run held]
      simp only
      rw [run_bind_of_run ran, if_neg quiet]
    have cancelled : again.IsCancelled (Pattern.atIndex (index + 1) y) := by
      have inOrder := inOrder_holds calm (tasksInOrder calm fuel) condition (Pattern.atIndex (index + 1) y)
      have kept := (later_of_run inOrder asks).cancelled
      refine Scope.isCancelled_mono kept ?_
      change y.scope.isCancelled after.cancelled = true
      rw [scope_of_iterate ran]
      exact cancelled
    simp only [unrolled, Pattern.whileFrom, run_bind_of_run asks]
    match answer with
    | .returned true =>
      obtain ⟨z, later, once, refused⟩ :=
        run_iterate_of_cancelled embedding fuel patience decorated (index + 1) cancelled
      have failed : z.isError = true := by rw [Exchange.isError, refused.error]; rfl
      refine ⟨z, later, ?_, refused⟩
      simp only [run_bind_of_run once, if_pos failed, run_pure]
    | .returned false => exact ⟨_, rfl⟩
    | .failed fault => cases policy <;> exact ⟨_, rfl⟩
    | .panicked panic => exact ⟨_, rfl⟩

end Engine

end MessageRouting
