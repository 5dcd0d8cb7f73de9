import MessageRouting.Proofs.Engine.Refusal

/-!
# The error of a refusal in a try

A try does not forget the error with which a step of a cancelled exchange was refused. Where it is pending after the
steps that were tried, it is kept or gives way to the error of another refusal, for a handler is refused in its turn.
Where a handler ends with it, it is kept, for only the instance that was caught is cleared. What comes last adds the
error of a refusal to it. Among the last steps themselves, though, the first failure counts: an earlier one stands in
the place of a later refusal.
-/

namespace MessageRouting

namespace Pattern

variable {m : Type → Type} [Monad m] [LawfulMonad m]

/-- Last steps in two parts. -/
theorem runLast_append (first : Option Raised) (before after : List (Behaviour m)) (x : Exchange) :
    runLast first (before ++ after) x =
      runLast first before x >>= fun (y, found) => runLast found after y := by
  induction before generalizing first x with
  | nil => simp [runLast]
  | cons step rest later => simp only [List.cons_append, runLast, bind_assoc, later]

end Pattern

namespace Engine

variable {κ η : Type} {embedding : Embedding κ η} {fuel patience : Nat}

/-! ## Parts -/

/-- What each of some processors does, one by one. -/
theorem behaviours_eq_map (processors : List (Processor κ)) :
    behaviours embedding patience processors = processors.map (behaviour embedding patience) := by
  induction processors with
  | nil => rfl
  | cons processor rest later => rw [behaviours, later, List.map_cons]

/-- A handler is what one of the processors does. -/
theorem exists_of_mem_handlerBehaviours {handlers : List (Matcher × Processor κ)}
    {handler : Pattern.Handler (Program (Engine κ η) (Processor κ × Exchange) Outcome)}
    (member : handler ∈ handlerBehaviours embedding patience handlers) :
    ∃ clause ∈ handlers, handler.behaviour = behaviour embedding patience clause.2 := by
  induction handlers with
  | nil => cases member
  | cons clause rest later =>
    rcases List.mem_cons.mp member with rfl | member
    · exact ⟨clause, List.mem_cons_self, rfl⟩
    · obtain ⟨found, inside, same⟩ := later member
      exact ⟨found, List.mem_cons_of_mem _ inside, same⟩

/-- At a time, exchanges of one scope are refused for one reason. -/
theorem isRefusal_congr {engine after : Engine κ η} {x y : Exchange} (now : after.now = engine.now)
    (scope : y.scope = x.scope) : IsRefusal after y = IsRefusal engine x := by
  funext error
  rw [IsRefusal, IsRefusal, refusal, refusal, now, scope]

/-! ## Handlers -/

/-- A cancelled exchange keeps its error from handlers, but for the error of another refusal. -/
theorem run_handle_of_cancelled (embedding : Embedding κ η) (fuel patience : Nat)
    {handlers : List (Matcher × Processor κ)}
    (decorated : ∀ clause ∈ handlers, clause.2.IsDecorated) {engine : Engine κ η} {x : Exchange}
    (cancelled : engine.IsCancelled x) {error : Raised} (pending : x.error = some error)
    (fresh : error.identity ≠ x.nextIdentity) :
    ∃ y after kept, run embedding fuel (Pattern.handle (handlerBehaviours embedding patience handlers) x) engine =
        some (y, after) ∧ y.error = some kept ∧ (kept = error ∨ IsRefusal engine x kept) ∧
      y.scope = x.scope ∧ after.now = engine.now ∧ after.IsCancelled y := by
  simp only [Pattern.handle, pending]
  cases found : (handlerBehaviours embedding patience handlers).find? (·.accepts error) with
  | none => exact ⟨x, engine, error, rfl, pending, .inl rfl, rfl, rfl, cancelled⟩
  | some handler =>
    obtain ⟨clause, member, same⟩ := exists_of_mem_handlerBehaviours (List.mem_of_find?_eq_some found)
    let caught := x.setProperty Pattern.caughtProperty (.error error)
    obtain ⟨y, after, ran, refused⟩ :=
      run_invoke_of_cancelled embedding fuel patience (decorated clause member) (x := caught) cancelled
    have other : y.error.any (·.same error) = false := by
      rw [refused.error, Option.any_some]
      exact beq_eq_false_iff_ne.mpr fresh.symm
    refine ⟨y, after, _, ?_, refused.error, .inr rfl, refused.scope, ?_, refused.isCancelled cancelled⟩
    · simp only [same]
      rw [run_bind_of_run ran, other]
      rfl
    · obtain ⟨info, z, rfl⟩ := refused.noted
      rfl

/-! ## Last steps -/

/-- The last steps of a cancelled exchange are refused; their first failure is the one there was, or else the error of
a refusal. -/
theorem run_runLast_of_cancelled (embedding : Embedding κ η) (fuel patience : Nat) {steps : List (Processor κ)}
    (decorated : ∀ step ∈ steps, step.IsDecorated) {engine : Engine κ η} {x : Exchange}
    (cancelled : engine.IsCancelled x) (first : Option Raised) :
    ∃ y found after, run embedding fuel (Pattern.runLast first (behaviours embedding patience steps) x) engine =
        some ((y, found), after) ∧
      (found = first ∨ first = none ∧ ∃ error, found = some error ∧ IsRefusal engine x error) := by
  induction steps generalizing engine x first with
  | nil => exact ⟨x, first, engine, rfl, .inl rfl⟩
  | cons step rest later =>
    obtain ⟨one, others⟩ := List.forall_mem_cons.mp decorated
    obtain ⟨y, after, ran, refused⟩ := run_invoke_of_cancelled embedding fuel patience one cancelled
    obtain ⟨z, found, last, followed, outcome⟩ := later others (x := y.clearError)
      (refused.isCancelled cancelled) (first.or y.error)
    refine ⟨z, found, last, ?_, ?_⟩
    · rw [behaviours, Pattern.runLast, run_bind_of_run ran]
      exact followed
    · rcases outcome with rfl | ⟨none, -⟩
      · cases first with
        | none => exact .inr ⟨rfl, _, refused.error, rfl⟩
        | some earlier => exact .inl rfl
      · rw [refused.error] at none
        cases first <;> cases none

/-- What comes last leaves the error of a cancelled exchange as it is, or joins the error of a refusal to it. -/
theorem run_finish_of_cancelled (embedding : Embedding κ η) (fuel patience : Nat) {last : List (Processor κ)}
    (decorated : ∀ step ∈ last, step.IsDecorated) {engine : Engine κ η} {x : Exchange}
    (cancelled : engine.IsCancelled x) {error : Raised} (pending : x.error = some error) :
    ∃ y after result, run embedding fuel (Pattern.finish (behaviours embedding patience last) x) engine =
        some (y, after) ∧ y.error = some result ∧
      (result = error ∨ ∃ identity later, IsRefusal engine x later ∧
        result = .mk identity (.fault (.finallyFailed error later))) := by
  cases last with
  | nil => exact ⟨x, engine, error, rfl, pending, .inl rfl⟩
  | cons step rest =>
    obtain ⟨y, found, after, ran, outcome⟩ :=
      run_runLast_of_cancelled embedding fuel patience decorated (x := x.clearError) cancelled none
    have settled : run embedding fuel (Pattern.finish (behaviours embedding patience (step :: rest)) x) engine =
        some (Pattern.settle y x.error found, after) := by
      change run embedding fuel (Pattern.runLast none _ x.clearError >>= _) engine = _
      rw [run_bind_of_run ran]
      rfl
    rw [settled, pending]
    rcases outcome with rfl | ⟨-, later, rfl, refused⟩
    · exact ⟨_, after, error, rfl, rfl, .inl rfl⟩
    · exact ⟨_, after, _, rfl, rfl, .inr ⟨y.nextIdentity, later, refused, rfl⟩⟩

/-! ## Tries -/

/-- What became of an error when a cancelled exchange was refused: it is the same, or the error of a refusal stands in
its place, alone or as what was pending when the last steps were refused. -/
def KeptAs (engine : Engine κ η) (x : Exchange) (error result : Raised) : Prop :=
  ∃ kept, (kept = error ∨ IsRefusal engine x kept) ∧
    (result = kept ∨ ∃ identity later, IsRefusal engine x later ∧
      result = .mk identity (.fault (.finallyFailed kept later)))

/-- A try keeps the error of a refusal, wherever in the try its exchange was refused; among the last steps an earlier
failure is kept instead. -/
structure TryKeeps (embedding : Embedding κ η) (steps : List (Processor κ)) (handlers : List (Matcher × Processor κ))
    (last : List (Processor κ)) : Prop where
  /-- What is pending after the steps that were tried is kept, where its identity is not given a second time. -/
  afterSteps : ∀ (fuel patience : Nat) (x y : Exchange) (engine after : Engine κ η) (error : Raised),
    run embedding fuel (Pattern.runUntilError (behaviours embedding patience steps) x) engine = some (y, after) →
    y.error = some error → after.IsCancelled y → error.identity ≠ y.nextIdentity →
    ∃ z later result,
      run embedding fuel (behaviour embedding patience (.tryCatch steps handlers last) x) engine =
        some (.returned z, later) ∧ z.error = some result ∧ KeptAs after y error result
  /-- What a handler ends with is kept, unless it is the instance that was caught. -/
  inHandler : ∀ (fuel patience : Nat) (x y z : Exchange) (engine middle after : Engine κ η) (caught error : Raised)
    (handler : Pattern.Handler (Program (Engine κ η) (Processor κ × Exchange) Outcome)),
    run embedding fuel (Pattern.runUntilError (behaviours embedding patience steps) x) engine = some (y, middle) →
    y.error = some caught →
    (handlerBehaviours embedding patience handlers).find? (·.accepts caught) = some handler →
    run embedding fuel (invoke handler.behaviour (y.setProperty Pattern.caughtProperty (.error caught))) middle =
      some (z, after) →
    z.error = some error → after.IsCancelled z → error.same caught = false →
    ∃ w later result,
      run embedding fuel (behaviour embedding patience (.tryCatch steps handlers last) x) engine =
        some (.returned w, later) ∧ w.error = some result ∧ KeptAs after z error result
  /-- Of what one of the last steps ends with and the failures before it the first is kept, alone or joined to what was
  pending. -/
  inLast : ∀ (fuel patience : Nat) (x y z w v : Exchange) (engine tried handled middle after : Engine κ η)
    (before rest : List (Processor κ)) (step : Processor κ) (first : Option Raised) (error : Raised),
    last = before ++ step :: rest →
    run embedding fuel (Pattern.runUntilError (behaviours embedding patience steps) x) engine = some (y, tried) →
    run embedding fuel (Pattern.handle (handlerBehaviours embedding patience handlers) y) tried = some (z, handled) →
    run embedding fuel (Pattern.runLast none (behaviours embedding patience before) z.clearError) handled =
      some ((w, first), middle) →
    run embedding fuel (invoke (behaviour embedding patience step) w) middle = some (v, after) →
    v.error = some error → after.IsCancelled v →
    ∃ u later result,
      run embedding fuel (behaviour embedding patience (.tryCatch steps handlers last) x) engine =
        some (.returned u, later) ∧ u.error = some result ∧
      (z.error = none ∧ result = first.getD error ∨
        ∃ identity earlier, z.error = some earlier ∧
          result = .mk identity (.fault (.finallyFailed earlier (first.getD error))))

/-- The parts of a try run one after the other. -/
theorem run_tryCatch {steps : List (Processor κ)} {handlers : List (Matcher × Processor κ)} {last : List (Processor κ)}
    {x y z w : Exchange} {engine tried handled ended : Engine κ η}
    (first : run embedding fuel (Pattern.runUntilError (behaviours embedding patience steps) x) engine =
      some (y, tried))
    (second : run embedding fuel (Pattern.handle (handlerBehaviours embedding patience handlers) y) tried =
      some (z, handled))
    (third : run embedding fuel (Pattern.finish (behaviours embedding patience last) z) handled = some (w, ended)) :
    run embedding fuel (behaviour embedding patience (.tryCatch steps handlers last) x) engine =
      some (.returned w, ended) := by
  rw [behaviour, Pattern.tryCatch, run_bind_of_run first, run_bind_of_run second, run_bind_of_run third]
  rfl

/-- A try over decorated parts keeps the error of a refusal. -/
theorem tryKeeps_of_decorated {steps : List (Processor κ)} {handlers : List (Matcher × Processor κ)}
    {last : List (Processor κ)} (decoratedHandlers : ∀ clause ∈ handlers, clause.2.IsDecorated)
    (decoratedLast : ∀ step ∈ last, step.IsDecorated) : TryKeeps embedding steps handlers last where
  afterSteps fuel patience x y engine after error tried pending cancelled fresh := by
    obtain ⟨z, handled, kept, second, left, keeps, scope, now, still⟩ :=
      run_handle_of_cancelled embedding fuel patience decoratedHandlers cancelled pending fresh
    obtain ⟨w, ended, result, third, failed, outcome⟩ :=
      run_finish_of_cancelled embedding fuel patience decoratedLast still left
    refine ⟨w, ended, result, run_tryCatch tried second third, failed, kept, keeps, ?_⟩
    rwa [isRefusal_congr now scope] at outcome
  inHandler fuel patience x y z engine middle after caught error handler tried pending found ran left cancelled
      other := by
    have second : run embedding fuel (Pattern.handle (handlerBehaviours embedding patience handlers) y) middle =
        some (z, after) := by
      simp only [Pattern.handle, pending, found]
      rw [run_bind_of_run ran, left, Option.any_some, other]
      rfl
    obtain ⟨w, ended, result, third, failed, outcome⟩ :=
      run_finish_of_cancelled embedding fuel patience decoratedLast cancelled left
    exact ⟨w, ended, result, run_tryCatch tried second third, failed, error, .inl rfl, outcome⟩
  inLast fuel patience x y z w v engine tried handled middle after before rest step first error split ran second
      begun failing left cancelled := by
    have decoratedRest : ∀ step ∈ rest, step.IsDecorated := fun part member =>
      decoratedLast part (by rw [split]; exact List.mem_append_right _ (List.mem_cons_of_mem _ member))
    obtain ⟨u, found, ended, followed, outcome⟩ := run_runLast_of_cancelled embedding fuel patience decoratedRest
      (x := v.clearError) cancelled (first.or v.error)
    have first_found : found = some (first.getD error) := by
      rw [left] at outcome
      rcases outcome with rfl | ⟨none, -⟩
      · cases first <;> rfl
      · cases first <;> cases none
    have third : run embedding fuel (Pattern.finish (behaviours embedding patience last) z) handled =
        some (Pattern.settle u z.error found, ended) := by
      have whole : run embedding fuel (Pattern.runLast none (behaviours embedding patience last) z.clearError) handled =
          some ((u, found), ended) := by
        rw [split, behaviours_eq_map, List.map_append, List.map_cons, ← behaviours_eq_map, ← behaviours_eq_map,
          Pattern.runLast_append, run_bind_of_run begun]
        simp only [Pattern.runLast]
        rw [run_bind_of_run failing]
        exact followed
      have steps : (behaviours embedding patience last).isEmpty = false := by
        rw [split, behaviours_eq_map]
        simp
      rw [Pattern.finish, steps, if_neg Bool.false_ne_true, run_bind_of_run whole]
      rfl
    rw [first_found] at third
    cases pending : z.error with
    | none =>
      rw [pending] at third
      exact ⟨_, ended, first.getD error, run_tryCatch ran second third, rfl, .inl ⟨rfl, rfl⟩⟩
    | some earlier =>
      rw [pending] at third
      exact ⟨_, ended, _, run_tryCatch ran second third, rfl, .inr ⟨u.nextIdentity, earlier, rfl, rfl⟩⟩

end Engine

end MessageRouting
