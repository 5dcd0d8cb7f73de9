import Mathlib.Logic.ExistsUnique
import MessageRouting.Expr.Eval
import MessageRouting.Proofs.Number.FloatClasses
import MessageRouting.Proofs.Number.FloatOrder

/-!
# Comparisons

Two values can be compared if both are strings, points in time, durations or truth values, or if both are numbers, one
of which may be an integer and the other a float. Then they have an order, which is reversed when they change places,
and they are equal just where neither comes first: so equality, which treats numbers of both kinds apart from the order,
fits the order. From this the laws of the comparisons follow, whatever the operands are.
-/

namespace MessageRouting.Expr

open Number

/-! ## Orders of single types -/

/-- Floats compare as they do without their bits. -/
theorem compareFloats_eq (l r : Float) : compareFloats l r = l.toModel.unpack.compare r.toModel.unpack := by
  have same : (l == r) = (l.toModel.unpack.compare r.toModel.unpack == some .eq) := rfl
  simp only [compareFloats, float_lt_iff, same, compare_swap l.toModel.unpack]
  rcases l.toModel.unpack.compare r.toModel.unpack with _ | _ | _ | _ <;> rfl

/-- Floats that change places have the reverse order, or none either. -/
theorem compareFloats_swap (l r : Float) : compareFloats r l = (compareFloats l r).map Ordering.swap := by
  rw [compareFloats_eq, compareFloats_eq, compare_swap]

/-- Floats have no order just if one of them is no number. -/
theorem compareFloats_eq_none_iff (l r : Float) : compareFloats l r = none ↔ l.isNaN = true ∨ r.isNaN = true := by
  rw [compareFloats_eq]
  exact compare_eq_none_iff ..

/-- Numbers have an order. -/
theorem compareFloats_isSome {l r : Float} (first : l.isNaN = false) (second : r.isNaN = false) :
    (compareFloats l r).isSome = true := by
  rw [Option.isSome_iff_ne_none, Ne, compareFloats_eq_none_iff, first, second]
  simp

/-- Floats that have an order are numbers. -/
theorem number_of_compareFloats {l r : Float} (ordered : (compareFloats l r).isSome = true) :
    l.isNaN = false ∧ r.isNaN = false := by
  rw [Option.isSome_iff_ne_none, Ne, compareFloats_eq_none_iff, not_or] at ordered
  exact ordered.imp Bool.eq_false_iff.mpr Bool.eq_false_iff.mpr

/-- Floats are equal just if they have the same place. -/
theorem beq_of_compareFloats {l r : Float} {order : Ordering} (found : compareFloats l r = some order) :
    (l == r) = (order == .eq) := by
  have same : (l == r) = (l.toModel.unpack.compare r.toModel.unpack == some .eq) := rfl
  rw [same, ← compareFloats_eq, found]
  rfl

/-- In a lawful order, equal elements are those that have the same place. -/
theorem beq_eq_compare {α : Type} [Ord α] [Std.LawfulEqOrd α] [BEq α] [LawfulBEq α] (a b : α) :
    (a == b) = (compare a b == .eq) := by
  rw [Bool.eq_iff_iff, beq_iff_eq, beq_iff_eq, Std.LawfulEqOrd.compare_eq_iff_eq]

/-- Points in time that change places have the reverse order. -/
theorem compareTimes_swap (a b : Time.Timestamp) : b.compare a = (a.compare b).swap := by
  rw [Time.Timestamp.compare, Time.Timestamp.compare, Ordering.swap_then, ← Std.OrientedOrd.eq_swap,
    ← Std.OrientedOrd.eq_swap]

/-- Points in time are equal just if they have the same place. -/
theorem beq_eq_compareTimes (a b : Time.Timestamp) : (a == b) = (a.compare b == .eq) := by
  obtain ⟨second, nanos, _, _⟩ := a
  obtain ⟨other, more, _, _⟩ := b
  rw [Bool.eq_iff_iff, beq_iff_eq, beq_iff_eq, Time.Timestamp.compare, Ordering.then_eq_eq,
    Std.LawfulEqOrd.compare_eq_iff_eq, Std.LawfulEqOrd.compare_eq_iff_eq, Time.Timestamp.mk.injEq]

/-! ## Two values -/

/-- Two values can be compared. -/
inductive Comparable : Value → Value → Prop
  | ints (i j : Int64) : Comparable (.int i) (.int j)
  | floats {x y : Float} (first : x.isNaN = false) (second : y.isNaN = false) : Comparable (.float x) (.float y)
  | intFloat (i : Int64) {y : Float} (number : y.isNaN = false) : Comparable (.int i) (.float y)
  | floatInt {x : Float} (number : x.isNaN = false) (j : Int64) : Comparable (.float x) (.int j)
  | strings (s t : String) : Comparable (.string s) (.string t)
  | times (t u : Time.Timestamp) : Comparable (.time t) (.time u)
  | durations (d e : Time.Duration) : Comparable (.duration d) (.duration e)
  | bools (b c : Bool) : Comparable (.bool b) (.bool c)

/-- Values that change places can be compared as before. -/
theorem Comparable.symm {l r : Value} (comparable : Comparable l r) : Comparable r l := by
  cases comparable with
  | floats first second => exact .floats second first
  | intFloat i number => exact .floatInt number i
  | floatInt number j => exact .intFloat j number
  | _ => constructor

/-- Values have an order just if they can be compared. -/
theorem compare?_isSome_iff (l r : Value) : (compare? l r).isSome = true ↔ Comparable l r := by
  constructor
  · intro ordered
    cases l with
    | int i =>
      cases r with
      | int j => exact .ints i j
      | float y => exact .intFloat i (number_of_compareFloats ordered).2
      | _ => contradiction
    | float x =>
      cases r with
      | int j => exact .floatInt (number_of_compareFloats ordered).1 j
      | float y => exact .floats (number_of_compareFloats ordered).1 (number_of_compareFloats ordered).2
      | _ => contradiction
    | _ => cases r <;> first | contradiction | constructor
  · intro comparable
    cases comparable with
    | floats first second => exact compareFloats_isSome first second
    | intFloat i number => exact compareFloats_isSome (isNaN_ofInt64 i) number
    | floatInt number j => exact compareFloats_isSome number (isNaN_ofInt64 j)
    | _ => rfl

/-- Values that change places have the reverse order, or none either. -/
theorem compare?_swap (l r : Value) : compare? r l = (compare? l r).map Ordering.swap := by
  by_cases ordered : (compare? l r).isSome = true
  · cases (compare?_isSome_iff l r).mp ordered with
    | floats | intFloat | floatInt => exact compareFloats_swap ..
    | times t u => exact congrArg some (compareTimes_swap t u)
    | strings s t => exact congrArg some (Std.OrientedOrd.eq_swap (α := String))
    | ints | durations | bools => exact congrArg some Std.OrientedOrd.eq_swap
  · have back : ¬(compare? r l).isSome = true := fun back =>
      ordered ((compare?_isSome_iff l r).mpr ((compare?_isSome_iff r l).mp back).symm)
    rw [Option.not_isSome_iff_eq_none.mp ordered, Option.not_isSome_iff_eq_none.mp back]
    rfl

/-- Values with an order are equal just if they have the same place. -/
theorem beq_of_compare? {l r : Value} {order : Ordering} (found : compare? l r = some order) :
    (l == r) = (order == .eq) := by
  have comparable := (compare?_isSome_iff l r).mp (Option.isSome_of_eq_some found)
  cases comparable with
  | floats | intFloat => exact beq_of_compareFloats found
  | floatInt => exact (float_beq_comm ..).trans (beq_of_compareFloats found)
  | ints i j =>
    obtain rfl := Option.some.inj found
    have numbers : (i == j) = (i.toInt == j.toInt) := by
      rw [Bool.eq_iff_iff, beq_iff_eq, beq_iff_eq, Int64.toInt_inj]
    exact numbers.trans (beq_eq_compare i.toInt j.toInt)
  | strings s t =>
    obtain rfl := Option.some.inj found
    exact beq_eq_compare s t
  | times t u =>
    obtain rfl := Option.some.inj found
    exact beq_eq_compareTimes t u
  | durations d e =>
    obtain rfl := Option.some.inj found
    have lengths : (d == e) = (d.nanos == e.nanos) := by
      cases d
      cases e
      rw [Bool.eq_iff_iff, beq_iff_eq, beq_iff_eq, Time.Duration.mk.injEq]
    exact lengths.trans (beq_eq_compare d.nanos e.nanos)
  | bools b c =>
    obtain rfl := Option.some.inj found
    cases b <;> cases c <;> rfl

/-! ## Two operands -/

/-- An expression is true over an exchange. -/
def Holds (x : Exchange) (e : Expr) : Prop := e.eval x = .ok (.bool true)

/-- An expression has no value over an exchange. -/
def Fails (x : Exchange) (e : Expr) : Prop := ∃ fault, e.eval x = .error fault

/-- An operator that compares by order. -/
inductive Comparison where
  | less
  | atMost
  | greater
  | atLeast
  deriving Repr, DecidableEq

/-- The operator of the language. -/
def Comparison.sign : Comparison → BinaryOp
  | .less => .lt
  | .atMost => .le
  | .greater => .gt
  | .atLeast => .ge

/-- The comparison is true of an order. -/
def Comparison.meets : Comparison → Ordering → Bool
  | .less, order => order == .lt
  | .atMost, order => order != .gt
  | .greater, order => order == .gt
  | .atLeast, order => order != .lt

/-- The order of the values of two operands, if they have values with an order. -/
def orderOf? (x : Exchange) (left right : Expr) : Option Ordering :=
  match left.eval x, right.eval x with
  | .ok l, .ok r => compare? l r
  | _, _ => none

variable {x : Exchange} {left right : Expr}

/-- Operands that change places have the reverse order, or none either. -/
theorem orderOf?_swap : orderOf? x right left = (orderOf? x left right).map Ordering.swap := by
  unfold orderOf?
  cases left.eval x <;> cases right.eval x <;> first | rfl | exact compare?_swap ..

/-- Two operands have an order just if both have values, which can be compared. -/
theorem orderOf?_isSome_iff : (orderOf? x left right).isSome = true ↔
    ∃ l r, left.eval x = .ok l ∧ right.eval x = .ok r ∧ Comparable l r := by
  unfold orderOf?
  cases left.eval x <;> cases right.eval x <;> simp [compare?_isSome_iff]

/-- Operands with an order are compared by it. -/
theorem eval_comparison {order : Ordering} (found : orderOf? x left right = some order) (comparison : Comparison) :
    (Expr.binary comparison.sign left right).eval x = .ok (.bool (comparison.meets order)) := by
  unfold orderOf? at found
  split at found
  · rename_i l r first second
    simp only [eval, first, second]
    cases comparison <;> simp only [Comparison.sign, BinaryOp.apply, ordered, found, Comparison.meets]
  · contradiction

/-- Operands without an order cannot be compared. -/
theorem fails_comparison (none : orderOf? x left right = none) (comparison : Comparison) :
    Fails x (.binary comparison.sign left right) := by
  unfold orderOf? at none
  split at none
  · rename_i l r first second
    refine ⟨.incomparable l.kind r.kind, ?_⟩
    simp only [eval, first, second]
    cases comparison <;> simp only [Comparison.sign, BinaryOp.apply, ordered, none]
  · rename_i refused
    simp only [Fails, eval]
    cases first : left.eval x with
    | error fault => exact ⟨fault, rfl⟩
    | ok l =>
      cases second : right.eval x with
      | error fault => exact ⟨fault, rfl⟩
      | ok r => exact absurd second (refused l r first)

/-- A comparison fails just if the operands have no order. -/
theorem fails_comparison_iff (comparison : Comparison) :
    Fails x (.binary comparison.sign left right) ↔ orderOf? x left right = none := by
  refine ⟨?_, (fails_comparison · comparison)⟩
  rintro ⟨fault, failed⟩
  cases found : orderOf? x left right with
  | none => rfl
  | some order => cases (eval_comparison found comparison).symm.trans failed

/-- Operands that can be compared have an order. -/
theorem exists_order (succeeds : ¬Fails x (.binary .lt left right)) : ∃ order, orderOf? x left right = some order :=
  Option.ne_none_iff_exists'.mp fun none => succeeds (fails_comparison none .less)

/-- A comparison of operands with an order is true just if the order meets it. -/
theorem holds_comparison_iff {order : Ordering} (found : orderOf? x left right = some order)
    (comparison : Comparison) : Holds x (.binary comparison.sign left right) ↔ comparison.meets order = true := by
  rw [Holds, eval_comparison found]
  simp

/-- Operands with an order are equal just if they have the same place. -/
theorem eval_eq {order : Ordering} (found : orderOf? x left right = some order) :
    (Expr.binary .eq left right).eval x = .ok (.bool (order == .eq)) := by
  unfold orderOf? at found
  split at found
  · rename_i l r first second
    simp only [eval, first, second, BinaryOp.apply, beq_of_compare? found]
  · contradiction

/-- Equality of operands with an order is true just if they have the same place. -/
theorem holds_eq_iff {order : Ordering} (found : orderOf? x left right = some order) :
    Holds x (.binary .eq left right) ↔ order = .eq := by
  rw [Holds, eval_eq found]
  simp

/-- The laws of comparisons for two operands over an exchange. -/
structure OrderLaws (x : Exchange) (left right : Expr) : Prop where
  /-- The four comparisons fail together, and together with those of the operands that have changed places. -/
  together : ∀ comparison : Comparison,
    (Fails x (.binary comparison.sign left right) ↔ Fails x (.binary .lt left right)) ∧
      (Fails x (.binary comparison.sign right left) ↔ Fails x (.binary .lt left right))
  /-- They succeed just if both operands have values, which can be compared: only where one is no number are floats
  not. -/
  succeeds : ¬Fails x (.binary .lt left right) ↔
    ∃ l r, left.eval x = .ok l ∧ right.eval x = .ok r ∧ Comparable l r
  /-- Then each of them, and equality, is true or false. -/
  answers : ¬Fails x (.binary .lt left right) → ∀ operator ∈ [BinaryOp.lt, .le, .gt, .ge, .eq],
    ∃ b, (Expr.binary operator left right).eval x = .ok (.bool b)
  /-- Just one of three is true: the left operand is less, equal or greater. -/
  trichotomy : ¬Fails x (.binary .lt left right) →
    ∃! operator, operator ∈ [BinaryOp.lt, .eq, .gt] ∧ Holds x (.binary operator left right)
  /-- At most is less or equal. -/
  atMost : ¬Fails x (.binary .lt left right) → (Holds x (.binary .le left right) ↔
    Holds x (.binary .lt left right) ∨ Holds x (.binary .eq left right))
  /-- At least is greater or equal. -/
  atLeast : ¬Fails x (.binary .lt left right) → (Holds x (.binary .ge left right) ↔
    Holds x (.binary .gt left right) ∨ Holds x (.binary .eq left right))
  /-- The left operand is less just if the right one is greater. -/
  converse : Holds x (.binary .lt left right) ↔ Holds x (.binary .gt right left)

/-- Of operands with an order, just one of three is true. -/
theorem existsUnique_holds {order : Ordering} (found : orderOf? x left right = some order) :
    ∃! operator, operator ∈ [BinaryOp.lt, .eq, .gt] ∧ Holds x (.binary operator left right) := by
  have less := holds_comparison_iff found .less
  have greater := holds_comparison_iff found .greater
  have equal := holds_eq_iff found
  simp only [Comparison.sign, Comparison.meets] at less greater
  refine ⟨match order with | .lt => .lt | .eq => .eq | .gt => .gt, ?_, ?_⟩
  · cases order <;> simp [less, equal, greater]
  · rintro operator ⟨listed, holds⟩
    simp only [List.mem_cons, List.not_mem_nil, or_false] at listed
    rcases listed with rfl | rfl | rfl
    · cases order <;> simp [less] at holds ⊢
    · cases order <;> simp [equal] at holds ⊢
    · cases order <;> simp [greater] at holds ⊢

/-- Comparisons keep the laws of an order whatever the operands are, and agree with equality where they succeed. -/
theorem order_laws (x : Exchange) (left right : Expr) : OrderLaws x left right where
  together comparison := by
    have lacks : orderOf? x right left = none ↔ orderOf? x left right = none := by
      rw [orderOf?_swap, Option.map_eq_none_iff]
    have less : Fails x (.binary .lt left right) ↔ orderOf? x left right = none := fails_comparison_iff .less
    exact ⟨(fails_comparison_iff comparison).trans less.symm,
      (fails_comparison_iff comparison).trans (lacks.trans less.symm)⟩
  succeeds := by
    rw [← orderOf?_isSome_iff, Option.isSome_iff_ne_none]
    exact not_congr (fails_comparison_iff .less)
  answers succeeds := by
    obtain ⟨order, found⟩ := exists_order succeeds
    simp only [List.forall_mem_cons, List.not_mem_nil, false_implies, implies_true, and_true]
    exact ⟨⟨_, eval_comparison found .less⟩, ⟨_, eval_comparison found .atMost⟩, ⟨_, eval_comparison found .greater⟩,
      ⟨_, eval_comparison found .atLeast⟩, ⟨_, eval_eq found⟩⟩
  trichotomy succeeds := by
    obtain ⟨order, found⟩ := exists_order succeeds
    exact existsUnique_holds found
  atMost succeeds := by
    obtain ⟨order, found⟩ := exists_order succeeds
    have atMost := holds_comparison_iff found .atMost
    have less := holds_comparison_iff found .less
    simp only [Comparison.sign, Comparison.meets] at atMost less
    rw [atMost, less, holds_eq_iff found]
    cases order <;> decide
  atLeast succeeds := by
    obtain ⟨order, found⟩ := exists_order succeeds
    have atLeast := holds_comparison_iff found .atLeast
    have greater := holds_comparison_iff found .greater
    simp only [Comparison.sign, Comparison.meets] at atLeast greater
    rw [atLeast, greater, holds_eq_iff found]
    cases order <;> decide
  converse := by
    cases found : orderOf? x left right with
    | none =>
      have lacks : orderOf? x right left = none := by rw [orderOf?_swap, found, Option.map_none]
      obtain ⟨fault, failed⟩ := fails_comparison found .less
      obtain ⟨other, also⟩ := fails_comparison lacks .greater
      simp only [Comparison.sign] at failed also
      simp [Holds, failed, also]
    | some order =>
      have swapped : orderOf? x right left = some order.swap := by rw [orderOf?_swap, found, Option.map_some]
      refine (holds_comparison_iff found .less).trans (.trans ?_ (holds_comparison_iff swapped .greater).symm)
      cases order <;> decide

end MessageRouting.Expr
