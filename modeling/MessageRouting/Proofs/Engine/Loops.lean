import Mathlib.Algebra.Group.Nat.Defs
import MessageRouting.Proofs.Engine.Basis
import MessageRouting.Proofs.Expr.Words
import MessageRouting.Proofs.Program.Yielding

/-!
# Loops by count and by condition

A loop that goes on as long as the index is below a number does what a loop of that many iterations does: its body is
entered with the same exchanges, and it leaves the same exchange. Only where every iteration comes to its end without
an error it notes the number itself as the index, as it asks its condition once more. Nothing is assumed about the body:
it may set or clear errors, panic, change any property, hand over tasks and work on the shared state.
-/

namespace MessageRouting

namespace Pattern

/-! ## One loop for the other -/

variable {m : Type → Type} [Monad m]

/-- With the number of iterations noted as the index, if all of them were completed without an error. -/
def afterAll (n : Nat) (o : Outcome) : Outcome :=
  if n ≠ 0 ∧ o.exchange.isError = true then o else { o with exchange := atIndex n o.exchange }

/-- A condition holds below a number of iterations and does not hold any more when there were so many. -/
def HoldsBelow (n : Nat) (condition : Query m Bool) : Prop :=
  ∀ index ≤ n, ∀ x, condition (atIndex index x) = pure (.returned (decide (index < n)))

variable [LawfulMonad m]

/-- From an index on, iterations under a condition are as many as are left. Where none is left there is no error, as an
error would have ended the loop. -/
theorem whileFrom_eq (stuck : Behaviour m) (policy : ConditionPolicy) {condition : Query m Bool} {n : Nat}
    (below : HoldsBelow n condition) (body : Behaviour m) {patience left index : Nat} (rest : index + left = n)
    (enough : left < patience) {x : Exchange} (going : left ≠ 0 ∨ n = 0 ∨ x.isError = false) :
    whileFrom stuck condition policy body patience index x = afterAll n <$> countFrom body left index x := by
  induction patience generalizing left index x with
  | zero => exact absurd enough (Nat.not_lt_zero left)
  | succ patience later =>
    rw [whileFrom, below index (by omega), pure_bind]
    cases left with
    | zero =>
      obtain rfl : index = n := rest
      have calm : ¬(index ≠ 0 ∧ (Outcome.returned x).exchange.isError = true) := by
        rintro ⟨some, raised⟩
        rcases going with none | none | calm
        · exact none rfl
        · exact some none
        · exact absurd raised (calm ▸ Bool.false_ne_true)
      rw [decide_eq_false (Nat.lt_irrefl index), countFrom, map_pure, afterAll, if_neg calm]
      rfl
    | succ left =>
      rw [decide_eq_true (by omega), countFrom, map_bind]
      simp only [iterate_atIndex]
      refine bind_congr fun y => ?_
      by_cases raised : y.isError = true
      · have some : n ≠ 0 ∧ (Outcome.returned y).exchange.isError = true := ⟨by omega, raised⟩
        rw [if_pos raised, if_pos raised, map_pure, afterAll, if_pos some]
      · rw [if_neg raised, if_neg raised]
        exact later (by omega) (by omega) (.inr (.inr (Bool.not_eq_true _ ▸ raised)))

/-- A loop by count runs through the iterations that the value of its count asks for. -/
theorem countLoop_eq {body : Behaviour m} {count : Query m Value} {value : Value} {n : Nat}
    (asks : timesOf value = .ok n) {x : Exchange} (answer : count x = pure (.returned value)) :
    countLoop count body x = countFrom body n 0 x := by
  rw [countLoop, answer, pure_bind]
  simp only [Ending.bind, asks, Ending.ofExcept]

/-- A loop under such a condition is a loop by count, after which the number is noted. -/
theorem whileLoop_eq (stuck : Behaviour m) (policy : ConditionPolicy) {condition : Query m Bool} {n patience : Nat}
    (below : HoldsBelow n condition) (enough : n < patience) (body : Behaviour m) {count : Query m Value}
    {value : Value} (asks : timesOf value = .ok n) {x : Exchange} (answer : count x = pure (.returned value)) :
    whileLoop stuck patience condition policy body x = afterAll n <$> countLoop count body x := by
  rw [countLoop_eq asks answer]
  exact whileFrom_eq stuck policy below body (Nat.zero_add n) enough (by omega)

/-! ## Writing down -/

/-- A body that writes down the exchanges with which it is entered. -/
def entering (body : Behaviour m) : Behaviour (StateT (List Exchange) m) := fun x => do
  modify fun entered => entered ++ [x]
  StateT.lift (body x)

/-- A question during which nothing is written down. -/
def unwritten {α : Type} (question : Query m α) : Query (StateT (List Exchange) m) α :=
  fun x => StateT.lift (question x)

/-- A loop by count whose body writes down its exchanges. -/
def enteredByCount (count : Query m Value) (body : Behaviour m) (x : Exchange) : m (Outcome × List Exchange) :=
  (countLoop (unwritten count) (entering body) x).run []

/-- A loop under a condition whose body writes down its exchanges. -/
def enteredWhile (patience : Nat) (stuck : Behaviour m) (condition : Query m Bool) (policy : ConditionPolicy)
    (body : Behaviour m) (x : Exchange) : m (Outcome × List Exchange) :=
  (whileLoop (fun x => StateT.lift (stuck x)) patience (unwritten condition) policy (entering body) x).run []

/-- An answer is the same when nothing is written down. -/
theorem unwritten_eq_pure {α : Type} {question : Query m α} {x : Exchange} {ending : Ending Fault α}
    (answer : question x = pure ending) : unwritten question x = pure ending := by
  rw [unwritten, answer]
  exact funext fun entered => pure_bind ending fun ending => pure (ending, entered)

/-- An iteration writes down the copy that it works on. -/
theorem run_iterate_entering (body : Behaviour m) (index : Nat) (x : Exchange) (entered : List Exchange) :
    (iterate (entering body) index x).run entered =
      (iterate body index x >>= fun y => pure (y, entered ++ [(atIndex index x).copy])) := by
  simp only [iterate, invoke, entering, StateT.run_bind, StateT.run_modify, StateT.run_lift, StateT.run_pure, pure_bind,
    bind_assoc]

/-- Counted iterations do what they do without writing it down. -/
theorem fst_run_countFrom (body : Behaviour m) (n index : Nat) (x : Exchange) (entered : List Exchange) :
    Prod.fst <$> (countFrom (entering body) n index x).run entered = countFrom body n index x := by
  induction n generalizing index x entered with
  | zero => exact map_pure ..
  | succ n later =>
    rw [countFrom, countFrom, StateT.run_bind, run_iterate_entering, bind_assoc, map_bind]
    refine bind_congr fun y => ?_
    rw [pure_bind]
    by_cases raised : y.isError = true
    · rw [if_pos raised, if_pos raised, StateT.run_pure, map_pure]
    · rw [if_neg raised, if_neg raised]
      exact later ..

/-- What iterations from an index on came to, so many at most, and the exchanges with which they were entered. -/
structure Iterated (first n : Nat) (x : Exchange) (o : Outcome) (entered : List Exchange) : Prop where
  /-- No panic came out. -/
  contained : o.panic = none
  /-- Every iteration is entered with its index. -/
  indices : entered.map (·.property? indexProperty) =
    (List.range' first entered.length).map fun index => some (.ofNat index)
  /-- There are no more iterations than were asked for. -/
  within : entered.length ≤ n
  /-- There are as many, unless the last one left an error. -/
  whole : entered.length = n ∨ entered ≠ [] ∧ o.exchange.isError = true
  /-- Without iterations nothing changes. -/
  untouched : n = 0 → o.exchange = x

/-- An iteration that leaves an error is the last one. -/
theorem iterated_raised (first n : Nat) (x : Exchange) {y : Exchange} (raised : y.isError = true) :
    Iterated first (n + 1) x (.returned y) [(atIndex first x).copy] where
  contained := rfl
  indices := congrArg (· :: []) (property?_atIndex first x)
  within := Nat.le_add_left 1 n
  whole := .inr ⟨List.cons_ne_nil _ _, raised⟩
  untouched none := nomatch none

/-- Another iteration may come before. -/
theorem Iterated.cons {first n : Nat} {y : Exchange} {o : Outcome} {entered : List Exchange}
    (later : Iterated (first + 1) n y o entered) (x : Exchange) :
    Iterated first (n + 1) x o ((atIndex first x).copy :: entered) where
  contained := later.contained
  indices := by
    rw [List.map_cons, later.indices, List.length_cons, List.range'_succ, List.map_cons]
    exact congrArg (· :: _) (property?_atIndex first x)
  within := Nat.succ_le_succ later.within
  whole := later.whole.imp (congrArg Nat.succ) fun raised => ⟨List.cons_ne_nil _ _, raised.2⟩
  untouched none := nomatch none

/-- Whatever the body does, counted iterations are entered with their indices, up to the last one or up to the first
one that leaves an error. -/
theorem yields_countFrom {σ τ ρ : Type} (body : Behaviour (Program σ τ ρ)) (n index : Nat) (x : Exchange)
    (entered : List Exchange) :
    ((countFrom (entering body) n index x).run entered).Yields (fun _ => True) (fun _ _ => True) fun ended =>
      ∃ more, ended.2 = entered ++ more ∧ Iterated index n x ended.1 more := by
  induction n generalizing index x entered with
  | zero => exact ⟨[], (List.append_nil entered).symm, rfl, rfl, Nat.le_refl 0, .inl rfl, fun _ => rfl⟩
  | succ n later =>
    rw [countFrom, StateT.run_bind, run_iterate_entering, bind_assoc]
    refine Program.Yields.bind (Program.Yields.any (iterate body index x)) fun y _ => ?_
    rw [pure_bind]
    by_cases raised : y.isError = true
    · rw [if_pos raised]
      exact ⟨_, rfl, iterated_raised index n x raised⟩
    · rw [if_neg raised]
      refine (later (index + 1) y _).mono ?_
      rintro ⟨o, written⟩ ⟨more, rfl, iterated⟩
      exact ⟨_, List.append_assoc .., iterated.cons x⟩

end Pattern

/-! ## The condition -/

namespace Expr

open Pattern

/-- The words before the number are read, and then the number. -/
theorem tokensFrom_indexBelow (rest : List Char) :
    tokensFrom 0 1 ("property.CAMEL_LOOP_INDEX < ".toList ++ rest) = (tokensFrom 0 29 rest).map fun tokens =>
      ⟨.ident, "property", 1, 8⟩ :: ⟨.dot, ".", 9, 1⟩ :: ⟨.ident, "CAMEL_LOOP_INDEX", 10, 16⟩ ::
        ⟨.lt, "<", 27, 1⟩ :: tokens := by
  have words : tokensFrom 0 1 ("property.CAMEL_LOOP_INDEX < ".toList ++ rest) =
      ((((tokensFrom 0 29 rest).map (⟨.lt, "<", 27, 1⟩ :: ·)).map (⟨.ident, "CAMEL_LOOP_INDEX", 10, 16⟩ :: ·)).map
        (⟨.dot, ".", 9, 1⟩ :: ·)).map (⟨.ident, "property", 1, 8⟩ :: ·) := rfl
  rw [words]
  cases tokensFrom 0 29 rest <;> rfl

/-- The source of the condition that the index is below a number. -/
def indexBelow (n : Nat) : String := s!"property.{indexProperty} < {n}"

/-- The number of an integer that is made of a natural number. -/
theorem toInt_ofNat {n : Nat} (fits : n < 2 ^ 63) : (Int64.ofNat n).toInt = n :=
  Int64.toInt_ofNat_of_lt fits

/-- The condition is compiled to a comparison of the property with the number. -/
theorem parse_indexBelow {n : Nat} (fits : n < 2 ^ 63) : parse (indexBelow n) =
    .ok (.binary .lt (.member (.root .property) indexProperty) (.literal (.int (Int64.ofNat n)))) := by
  have positive : 0 ≤ (Int64.ofNat n).toInt := by
    rw [toInt_ofNat fits]
    exact Int.natCast_nonneg n
  have digits : toString (Int64.ofNat n).toInt = toString n := by
    rw [toInt_ofNat fits]
    rfl
  have ended : Apart [] := trivial
  have last := (readsAs_int positive).tokensFrom 29 ended
  rw [List.append_nil, digits] at last
  have letters : (indexBelow n).toList = "property.CAMEL_LOOP_INDEX < ".toList ++ (toString n).toList := by
    simp only [indexBelow, String.toList_append]
    rfl
  rw [parse, tokenize, letters, tokensFrom_indexBelow, last]
  rfl

/-- At an index the condition has the value that it is to have. -/
theorem eval_indexBelow (source : String) {n index : Nat} (fits : n < 2 ^ 63) (within : index ≤ n) (x : Exchange) :
    (Formula.mk source (.binary .lt (.member (.root .property) indexProperty) (.literal (.int (Int64.ofNat n))))).eval
      (atIndex index x) = .ok (.bool (decide (index < n))) := by
  have noted : scoped? (atIndex index x) (.root .property) indexProperty = some (.ofNat index) := by
    rw [scoped?, property?_atIndex, Option.getD_some]
  have order : compare? (.ofNat index) (.int (Int64.ofNat n)) = some (compare (index : Int) (n : Int)) := by
    rw [Value.ofNat, compare?, toInt_ofNat (Nat.lt_of_le_of_lt within fits), toInt_ofNat fits]
  have below : (compare (index : Int) (n : Int) == .lt) = decide (index < n) := by
    rw [Bool.eq_iff_iff, beq_iff_eq, Int.compare_eq_lt, decide_eq_true_iff, Int.ofNat_lt]
  simp only [Formula.eval, eval, noted, BinaryOp.apply, ordered, order, below]

end Expr

/-! ## In an engine -/

namespace Engine

open Pattern Expr

variable {κ η : Type}

/-- A natural number asks for so many iterations. -/
theorem timesOf_ofNat {n : Nat} (fits : n < 2 ^ 63) : timesOf (.ofNat n) = .ok n := by
  have positive : ¬Int64.ofNat n < 0 := by
    rw [Int64.lt_iff_toInt_lt, toInt_ofNat fits, Int64.toInt_zero]
    omega
  simp only [timesOf, Value.ofNat, if_neg positive, toInt_ofNat fits, Int.toNat_natCast]

/-- The compiled condition holds below the number. -/
theorem exists_indexBelow (embedding : Embedding κ η) {n : Nat} (fits : n < 2 ^ 63) :
    ∃ condition, Formula.compile (indexBelow n) = .ok condition ∧
      HoldsBelow n (holds embedding (.formula condition)) := by
  refine ⟨_, by rw [Formula.compile, parse_indexBelow fits], fun index within x => ?_⟩
  rw [holds, evaluate, eval_indexBelow (indexBelow n) fits within x]
  rfl

/-- What a loop by count and a loop under a condition do with a body and an exchange. -/
structure LoopsAgree (count : Query (Working κ η) Value) (condition : Query (Working κ η) Bool) (n patience : Nat)
    (stuck : Behaviour (Working κ η)) (policy : ConditionPolicy) (body : Behaviour (Working κ η)) (x : Exchange) :
    Prop where
  /-- They enter the body with the same exchanges in the same order and leave the same exchange, but for the index that
  the second one notes after all iterations. -/
  alike : enteredWhile patience stuck condition policy body x =
    (fun ended => (afterAll n ended.1, ended.2)) <$> enteredByCount count body x
  /-- The first one does what it does without writing it down. -/
  counting : Prod.fst <$> enteredByCount count body x = countLoop count body x
  /-- So does the second one. -/
  looping : Prod.fst <$> enteredWhile patience stuck condition policy body x =
    whileLoop stuck patience condition policy body x
  /-- The body is entered with the indices from 0 on, up to the first iteration that leaves an error or up to the
  last one. -/
  iterated : (enteredByCount count body x).Yields (fun _ => True) (fun _ _ => True) fun ended =>
    Iterated 0 n x ended.1 ended.2

/-- A loop of so many iterations and a loop under the condition that the index is below their number agree, for every
number, body and exchange. -/
theorem countLoop_agrees_whileLoop (embedding : Embedding κ η) {n patience : Nat} (fits : n < 2 ^ 63)
    (enough : n < patience) (stuck : Behaviour (Working κ η)) (policy : ConditionPolicy)
    (body : Behaviour (Working κ η)) (x : Exchange) :
    ∃ condition, Formula.compile (indexBelow n) = .ok condition ∧
      LoopsAgree (evaluate embedding (.constant (.ofNat n))) (holds embedding (.formula condition)) n patience stuck
        policy body x := by
  obtain ⟨condition, compiled, below⟩ := exists_indexBelow embedding fits
  have asks := timesOf_ofNat fits
  have answer (y : Exchange) : evaluate embedding (.constant (.ofNat n)) y = pure (.returned (.ofNat n)) := rfl
  have counting : Prod.fst <$> enteredByCount (evaluate embedding (.constant (.ofNat n))) body x =
      countLoop (evaluate embedding (.constant (.ofNat n))) body x := by
    rw [enteredByCount, countLoop_eq asks (unwritten_eq_pure (answer x)), countLoop_eq asks (answer x)]
    exact fst_run_countFrom body n 0 x []
  have alike : enteredWhile patience stuck (holds embedding (.formula condition)) policy body x =
      (fun ended => (afterAll n ended.1, ended.2)) <$>
        enteredByCount (evaluate embedding (.constant (.ofNat n))) body x := by
    have written : HoldsBelow n (unwritten (holds embedding (.formula condition))) :=
      fun index within y => unwritten_eq_pure (below index within y)
    rw [enteredWhile, whileLoop_eq _ policy written enough (entering body) asks (unwritten_eq_pure (answer x)),
      StateT.run_map]
    rfl
  refine ⟨condition, compiled, alike, counting, ?_, ?_⟩
  · rw [alike, whileLoop_eq stuck policy below enough body asks (answer x), ← counting, Functor.map_map,
      Functor.map_map]
  · rw [enteredByCount, countLoop_eq asks (unwritten_eq_pure (answer x))]
    refine (yields_countFrom body n 0 x []).mono ?_
    rintro ⟨o, written⟩ ⟨more, rfl, iterated⟩
    exact iterated

/-- A body that panics in the iteration with an index. -/
def panickingAt (index : Nat) : Behaviour (Working Nat Unit) := fun x =>
  return ⟨x, if x.property? indexProperty == some (.ofNat index) then some (.text "boom") else none⟩

/-- An exchange that comes to a loop. -/
def loopedExchange : Exchange := .create [8] (.root [9]) [] .null

/-- When the second of three iterations panics, there is no third one in either loop. -/
theorem countLoop_agrees_whileLoop_panickingAt : 3 < 2 ^ 63 ∧ 3 < 4 ∧
    (∃ condition, Formula.compile (indexBelow 3) = .ok condition ∧
      LoopsAgree (evaluate idle (.constant (.ofNat 3))) (holds idle (.formula condition)) 3 4
        (fun x => return .returned x) .propagate (panickingAt 1) loopedExchange) ∧
    ∃ o entered, enteredByCount (evaluate idle (.constant (.ofNat 3))) (panickingAt 1) loopedExchange =
        pure (o, entered) ∧
      entered.length = 2 ∧ o.exchange.error.map Raised.messages = some ["Processor panicked: boom"] :=
  ⟨by decide, by decide,
    countLoop_agrees_whileLoop idle (by decide) (by decide) _ .propagate (panickingAt 1) loopedExchange,
    _, _, rfl, rfl, by decide +kernel⟩

end Engine

end MessageRouting
