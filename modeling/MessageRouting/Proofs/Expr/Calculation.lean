import MessageRouting.Expr.Eval

/-!
# Calculations with integers

A calculation is a tree of operators on numbers over expressions whose values are integers. Its exact value is that of
arithmetic without bounds, with quotients cut off toward zero and remainders with the sign of the dividend. Evaluated
from left to right, a calculation has its exact value, or it is refused by the first of its parts that is not defined
within the bounds of 64 bits.
-/

namespace MessageRouting.Expr

/-! ## Bounds -/

/-- A number is within the bounds of 64 bits. -/
def Fits (n : Int) : Prop := -9223372036854775808 ≤ n ∧ n ≤ 9223372036854775807

/-- The number of an integer is within the bounds. -/
theorem fits_toInt (i : Int64) : Fits i.toInt := by
  have least := i.le_toInt
  have greatest := i.toInt_lt
  constructor <;> omega

/-- A number within the bounds is that of an integer. -/
theorem bounded?_of_fits {n : Int} (fits : Fits n) : ∃ i, bounded? n = some i ∧ i.toInt = n :=
  ⟨Int64.ofInt n, if_pos fits, Int64.toInt_ofInt_of_le (by have := fits.1; omega) (by have := fits.2; omega)⟩

/-- A number out of the bounds is refused. -/
theorem bounded?_of_not_fits {n : Int} (exceeds : ¬Fits n) : bounded? n = none := if_neg exceeds

/-- A quotient is within the bounds if its dividend is, except that of the least integer by -1. -/
theorem fits_tdiv {l r : Int} (fits : Fits l) (divisor : r ≠ 0) (other : ¬(l = -9223372036854775808 ∧ r = -1)) :
    Fits (l.tdiv r) := by
  have size : (l.tdiv r).natAbs = l.natAbs / r.natAbs := Int.natAbs_tdiv l r
  obtain ⟨least, greatest⟩ := fits
  by_cases one : r.natAbs = 1
  · rcases Int.natAbs_eq_natAbs_iff.mp (one.trans Int.natAbs_one.symm) with rfl | rfl
    · rw [Int.tdiv_one]
      exact ⟨least, greatest⟩
    · rw [Int.tdiv_neg, Int.tdiv_one]
      constructor <;> omega
  · have halved : l.natAbs / r.natAbs ≤ l.natAbs / 2 := Nat.div_le_div_left (by omega) (by decide)
    constructor <;> omega

/-- A remainder is within the bounds if its divisor is. -/
theorem fits_tmod {l r : Int} (fits : Fits r) (divisor : r ≠ 0) : Fits (l.tmod r) := by
  have size : (l.tmod r).natAbs = l.natAbs % r.natAbs := Int.natAbs_tmod l r
  have less : l.natAbs % r.natAbs < r.natAbs := Nat.mod_lt _ (by omega)
  obtain ⟨least, greatest⟩ := fits
  constructor <;> omega

/-! ## Single operations -/

/-- The operator of the language. -/
def Arithmetic.sign : Arithmetic → BinaryOp
  | .add => .add
  | .sub => .sub
  | .mul => .mul
  | .div => .div
  | .rem => .rem

/-- The exact result of an operator, the divisor not being zero. -/
def Arithmetic.exact : Arithmetic → Int → Int → Int
  | .add, l, r => l + r
  | .sub, l, r => l - r
  | .mul, l, r => l * r
  | .div, l, r => l.tdiv r
  | .rem, l, r => l.tmod r

/-- An operator is defined on two numbers: it does not divide by zero, the exact result is within the bounds, and it is
not the remainder of the least integer by -1. -/
structure Arithmetic.IsDefined (operator : Arithmetic) (l r : Int) : Prop where
  /-- No divisor is zero. -/
  divisor : operator.divides = true → r ≠ 0
  /-- The result is within the bounds. -/
  fits : Fits (operator.exact l r)
  /-- The remainder is not that of the least integer by -1. -/
  other : ¬(operator = .rem ∧ l = -9223372036854775808 ∧ r = -1)

/-- Why an operator that is not defined is refused. -/
def Arithmetic.refusal (operator : Arithmetic) (r : Int) : EvalFault :=
  if operator.divides && r == 0 then .divisionByZero
  else .integerOverflow (if operator = .add then "addition" else operator.name)

/-- An integer is zero just if its number is. -/
theorem beq_zero_eq (i : Int64) : (i == 0) = (i.toInt == 0) := by
  rw [Bool.eq_iff_iff, beq_iff_eq, beq_iff_eq, ← Int64.toInt_inj, Int64.toInt_zero]

/-- Where an operator is defined it gives the exact result. -/
theorem onInts_of_isDefined {operator : Arithmetic} {l r : Int64} (defined : operator.IsDefined l.toInt r.toInt) :
    ∃ i, operator.onInts l r = some i ∧ i.toInt = operator.exact l.toInt r.toInt := by
  cases operator with
  | rem =>
    have quotient := fits_tdiv (fits_toInt l) (defined.divisor rfl) fun least => defined.other ⟨rfl, least⟩
    obtain ⟨i, bounded, -⟩ := bounded?_of_fits quotient
    simp only [Arithmetic.onInts, bounded, Option.bind_some]
    exact bounded?_of_fits defined.fits
  | _ => exact bounded?_of_fits defined.fits

/-- Where an operator is not defined and does not divide by zero it gives nothing. -/
theorem onInts_of_not_isDefined {operator : Arithmetic} {l r : Int64} (divisor : operator.divides = true → r.toInt ≠ 0)
    (undefined : ¬operator.IsDefined l.toInt r.toInt) : operator.onInts l r = none := by
  cases operator with
  | rem =>
    have fits : Fits (l.toInt.tmod r.toInt) := fits_tmod (fits_toInt r) (divisor rfl)
    have least : l.toInt = -9223372036854775808 ∧ r.toInt = -1 :=
      Decidable.byContradiction fun other => undefined ⟨divisor, fits, fun least => other least.2⟩
    have exceeds : bounded? (l.toInt.tdiv r.toInt) = none := by
      rw [least.1, least.2]
      decide
    rw [Arithmetic.onInts, exceeds, Option.bind_none]
  | _ =>
    refine bounded?_of_not_fits fun fits => undefined ⟨divisor, fits, ?_⟩
    rintro ⟨same, -⟩
    cases same

/-- An operator on two integers is arithmetic on them, which names the sum in a way of its own. -/
theorem apply_sign (operator : Arithmetic) (l r : Int64) : operator.sign.apply (.int l) (.int r) =
    if operator.divides && r == 0 then .error .divisionByZero
    else
      match operator.onInts l r with
      | some result => .ok (.int result)
      | none => .error (.integerOverflow (if operator = .add then "addition" else operator.name)) := by
  cases operator <;> rfl

/-- Where an operator is defined its value is the exact result. -/
theorem apply_of_isDefined {operator : Arithmetic} {l r : Int64} (defined : operator.IsDefined l.toInt r.toInt) :
    ∃ i : Int64, operator.sign.apply (.int l) (.int r) = .ok (.int i) ∧
      i.toInt = operator.exact l.toInt r.toInt := by
  obtain ⟨i, result, same⟩ := onInts_of_isDefined defined
  refine ⟨i, ?_, same⟩
  have nonzero : ¬(operator.divides && r == 0) = true := by
    rw [beq_zero_eq, Bool.and_eq_true, beq_iff_eq]
    exact fun zero => defined.divisor zero.1 zero.2
  rw [apply_sign, if_neg nonzero, result]

/-- Where an operator is not defined it is refused. -/
theorem apply_of_not_isDefined {operator : Arithmetic} {l r : Int64}
    (undefined : ¬operator.IsDefined l.toInt r.toInt) :
    operator.sign.apply (.int l) (.int r) = .error (operator.refusal r.toInt) := by
  rw [apply_sign, beq_zero_eq, Arithmetic.refusal]
  by_cases zero : (operator.divides && r.toInt == 0) = true
  · rw [if_pos zero, if_pos zero]
  · have nonzero : operator.divides = true → r.toInt ≠ 0 := fun divides same =>
      zero (by rw [divides, same]; rfl)
    rw [if_neg zero, if_neg zero, onInts_of_not_isDefined nonzero undefined]

/-! ## Trees -/

/-- A tree of operators on numbers over other expressions. -/
inductive Calculation where
  /-- Another expression. -/
  | leaf (expr : Expr)
  /-- A negation. -/
  | neg (operand : Calculation)
  /-- Two operands under an operator. -/
  | joined (operator : Arithmetic) (left right : Calculation)

namespace Calculation

/-- The calculation as an expression. -/
def expr : Calculation → Expr
  | .leaf expr => expr
  | .neg operand => .unary .neg operand.expr
  | .joined operator left right => .binary operator.sign left.expr right.expr

/-- The expressions that are calculated with. -/
def leaves : Calculation → List Expr
  | .leaf expr => [expr]
  | .neg operand => operand.leaves
  | .joined _ left right => left.leaves ++ right.leaves

/-- The parts of a calculation in the order in which they are evaluated, the whole coming last. -/
def parts : Calculation → List Calculation
  | .leaf expr => [.leaf expr]
  | .neg operand => operand.parts ++ [.neg operand]
  | .joined operator left right => left.parts ++ (right.parts ++ [.joined operator left right])

/-- The exact value over an exchange. -/
def exact (x : Exchange) : Calculation → Int
  | .leaf expr =>
    match expr.eval x with
    | .ok (.int i) => i.toInt
    | _ => 0
  | .neg operand => -operand.exact x
  | .joined operator left right => operator.exact (left.exact x) (right.exact x)

/-- The operation on top is defined on the exact values of its operands. -/
def IsDefined (x : Exchange) : Calculation → Prop
  | .leaf _ => True
  | .neg operand => Fits (-operand.exact x)
  | .joined operator left right => operator.IsDefined (left.exact x) (right.exact x)

/-- Why the operation on top is refused where it is not defined. -/
def refusal (x : Exchange) : Calculation → EvalFault
  | .leaf _ | .neg _ => .negationOverflow
  | .joined operator _ right => operator.refusal (right.exact x)

variable {x : Exchange}

/-- Of some parts in their order, the first that is not defined is refused so. -/
def Stops (x : Exchange) (parts : List Calculation) (fault : EvalFault) : Prop :=
  ∃ earlier part later, parts = earlier ++ part :: later ∧ (∀ before ∈ earlier, before.IsDefined x) ∧
    ¬part.IsDefined x ∧ fault = part.refusal x

/-- Parts that come later change nothing. -/
theorem Stops.append {parts : List Calculation} {fault : EvalFault} (stops : Stops x parts fault)
    (more : List Calculation) : Stops x (parts ++ more) fault := by
  obtain ⟨earlier, part, later, rfl, defined, undefined, same⟩ := stops
  exact ⟨earlier, part, later ++ more, by rw [List.append_assoc, List.cons_append], defined, undefined, same⟩

/-- Parts that are defined may come before. -/
theorem Stops.after {before parts : List Calculation} {fault : EvalFault} (defined : ∀ part ∈ before, part.IsDefined x)
    (stops : Stops x parts fault) : Stops x (before ++ parts) fault := by
  obtain ⟨earlier, part, later, rfl, also, undefined, same⟩ := stops
  exact ⟨before ++ earlier, part, later, (List.append_assoc ..).symm, List.forall_mem_append.mpr ⟨defined, also⟩,
    undefined, same⟩

/-- A part that is not defined is refused. -/
theorem stops_single {part : Calculation} (undefined : ¬part.IsDefined x) : Stops x [part] (part.refusal x) :=
  ⟨[], part, [], rfl, List.forall_mem_nil _, undefined, rfl⟩

/-- A calculation has its exact value, if all its parts are defined; otherwise it is refused by the first that is
not. -/
def Comes (x : Exchange) (calculation : Calculation) : Prop :=
  ((∀ part ∈ calculation.parts, part.IsDefined x) ∧
    ∃ i : Int64, calculation.expr.eval x = .ok (.int i) ∧ i.toInt = calculation.exact x) ∨
  ∃ fault, Stops x calculation.parts fault ∧ calculation.expr.eval x = .error fault

/-- A negation has its exact value or is refused. -/
theorem comes_neg {operand : Calculation} (comes : operand.Comes x) : (neg operand).Comes x := by
  rcases comes with ⟨defined, i, value, same⟩ | ⟨fault, stops, refused⟩
  · have whole : (neg operand).expr.eval x = negate (.int i) := by simp only [expr, eval, value, UnaryOp.apply]
    by_cases fits : Fits (-operand.exact x)
    · obtain ⟨j, bounded, result⟩ := bounded?_of_fits fits
      refine .inl ⟨List.forall_mem_append.mpr ⟨defined, List.forall_mem_singleton.mpr fits⟩, j, ?_, result⟩
      rw [whole, negate, same, bounded]
    · refine .inr ⟨_, Stops.after defined (stops_single fits), ?_⟩
      rw [whole, negate, same, bounded?_of_not_fits fits]
      rfl
  · refine .inr ⟨fault, stops.append _, ?_⟩
    simp only [expr, eval, refused]

/-- Two operands have an exact result or are refused: the left one comes first, then the right one, then the
operator. -/
theorem comes_joined (operator : Arithmetic) {left right : Calculation} (first : left.Comes x)
    (second : right.Comes x) : (joined operator left right).Comes x := by
  rcases first with ⟨defined, l, valueLeft, sameLeft⟩ | ⟨fault, stops, refused⟩
  · rcases second with ⟨also, r, valueRight, sameRight⟩ | ⟨fault, stops, refused⟩
    · have whole : (joined operator left right).expr.eval x = operator.sign.apply (.int l) (.int r) := by
        simp only [expr, eval, valueLeft, valueRight]
      by_cases last : (joined operator left right).IsDefined x
      · have operands : operator.IsDefined l.toInt r.toInt := by rwa [sameLeft, sameRight]
        obtain ⟨i, value, same⟩ := apply_of_isDefined operands
        refine .inl ⟨?_, i, whole.trans value, ?_⟩
        · simp only [parts, List.forall_mem_append, List.forall_mem_singleton]
          exact ⟨defined, also, last⟩
        · rw [same, sameLeft, sameRight, exact]
      · have operands : ¬operator.IsDefined l.toInt r.toInt := by rwa [sameLeft, sameRight]
        refine .inr ⟨_, Stops.after defined (Stops.after also (stops_single last)), ?_⟩
        rw [whole, apply_of_not_isDefined operands, sameRight]
        rfl
    · refine .inr ⟨fault, Stops.after defined (stops.append _), ?_⟩
      simp only [expr, eval, valueLeft, refused]
  · refine .inr ⟨fault, stops.append _, ?_⟩
    simp only [expr, eval, refused]

/-- A calculation over integers has its exact value or is refused. -/
theorem comes (calculation : Calculation)
    (integers : ∀ leaf ∈ calculation.leaves, ∃ i, leaf.eval x = .ok (.int i)) : calculation.Comes x := by
  induction calculation with
  | leaf expr =>
    obtain ⟨i, value⟩ := integers expr List.mem_cons_self
    refine .inl ⟨List.forall_mem_singleton.mpr trivial, i, value, ?_⟩
    simp only [exact, value]
  | neg operand inside => exact comes_neg (inside integers)
  | joined operator left right first second =>
    obtain ⟨onLeft, onRight⟩ := List.forall_mem_append.mp integers
    exact comes_joined operator (first onLeft) (second onRight)

/-- What is refused is refused as an error of the expression, with its source. -/
theorem toFault_refusal (source : String) (part : Calculation) : (part.refusal x).toFault source =
    .expression s!"{(part.refusal x).message} (in '{source}')" := by
  cases part with
  | leaf | neg => rfl
  | joined operator left right =>
    simp only [refusal, Arithmetic.refusal]
    split <;> rfl

/-- A calculation over integers that is compiled from any source has its exact value, if each of its parts is defined:
no divisor is zero, every result is within the bounds of 64 bits, and no remainder is that of the least integer by -1.
Otherwise it is refused as the first of its parts, from left to right, that is not defined. -/
theorem calculates_exactly (source : String) (x : Exchange) (calculation : Calculation)
    (integers : ∀ leaf ∈ calculation.leaves, ∃ i, leaf.eval x = .ok (.int i)) :
    ((∀ part ∈ calculation.parts, part.IsDefined x) ∧ ∃ i : Int64,
      (Formula.mk source calculation.expr).eval x = .ok (.int i) ∧ i.toInt = calculation.exact x) ∨
    ∃ earlier part later, calculation.parts = earlier ++ part :: later ∧ (∀ before ∈ earlier, before.IsDefined x) ∧
      ¬part.IsDefined x ∧ (Formula.mk source calculation.expr).eval x =
        .error (.expression s!"{(part.refusal x).message} (in '{source}')") := by
  rcases comes calculation integers with ⟨defined, i, value, same⟩ | ⟨fault, stops, refused⟩
  · refine .inl ⟨defined, i, ?_, same⟩
    simp only [Formula.eval, value]
  · obtain ⟨earlier, part, later, split, defined, undefined, rfl⟩ := stops
    refine .inr ⟨earlier, part, later, split, defined, undefined, ?_⟩
    simp only [Formula.eval, refused, toFault_refusal]

/-- The remainder of the least integer by -1, divided by zero. -/
def dividedRemainder : Calculation :=
  .joined .div (.joined .rem (.leaf (.literal (.int Int64.minValue))) (.leaf (.literal (.int (-1)))))
    (.leaf (.literal (.int 0)))

/-- The remainder is refused, and so the division is not. -/
theorem calculates_exactly_dividedRemainder :
    let x := Exchange.create (.root 1) (.root (.root 0)) [] .null
    (∀ leaf ∈ dividedRemainder.leaves, ∃ i, leaf.eval x = .ok (.int i)) ∧
      (Formula.mk "(n % -1) / 0" dividedRemainder.expr).eval x =
        .error (.expression "integer overflow in Rem (in '(n % -1) / 0')") ∧
      ∃ earlier part later, dividedRemainder.parts = earlier ++ part :: later ∧
        (∀ before ∈ earlier, before.IsDefined x) ∧ ¬part.IsDefined x := by
  intro x
  have integers : ∀ leaf ∈ dividedRemainder.leaves, ∃ i, leaf.eval x = .ok (.int i) :=
    List.forall_mem_cons.mpr ⟨⟨_, rfl⟩, List.forall_mem_cons.mpr ⟨⟨_, rfl⟩, List.forall_mem_singleton.mpr ⟨_, rfl⟩⟩⟩
  refine ⟨integers, rfl, ?_⟩
  rcases calculates_exactly "(n % -1) / 0" x dividedRemainder integers with
    ⟨-, i, value, -⟩ | ⟨earlier, part, later, split, defined, undefined, -⟩
  · cases value
  · exact ⟨earlier, part, later, split, defined, undefined⟩

end Calculation

end MessageRouting.Expr
