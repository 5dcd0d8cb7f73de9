import MessageRouting.Number.Binary

/-!
# The order of floats

How two floats compare, and how they compare the other way round. A float equals itself just if it is a number.
-/

namespace MessageRouting.Number

open Float.Model

/-- Exponents decide before mantissas do, and the other way round the order is reversed. -/
theorem then_compare_swap (e f : Int) (m n : Nat) :
    (compare f e).then (compare n m) = ((compare e f).then (compare m n)).swap := by
  rw [Ordering.swap_then, ← Std.OrientedOrd.eq_swap, ← Std.OrientedOrd.eq_swap]

/-- The same exponents and mantissas are equal. -/
theorem then_compare_self (e : Int) (m : Nat) : (compare e e).then (compare m m) = .eq := by
  rw [Std.ReflOrd.compare_self, Std.ReflOrd.compare_self]
  rfl

/-- Compared the other way round, two floats have the reverse order, or none either. -/
theorem compare_swap (a b : UnpackedFloat) : b.compare a = (a.compare b).map Ordering.swap := by
  rcases a with (_ | _) | _ | _ | ⟨_ | _, m, e, _⟩ <;> rcases b with (_ | _) | _ | _ | ⟨_ | _, n, f, _⟩ <;> try rfl
  -- Both are negative, or both are positive.
  · exact congrArg (fun order => some order.swap) (then_compare_swap e f m n)
  · exact congrArg some (then_compare_swap e f m n)

/-- A number has its own place in the order; what is no number has none. -/
theorem compare_self (a : UnpackedFloat) : a.compare a = if a.isNaN then none else some .eq := by
  rcases a with (_ | _) | _ | _ | ⟨_ | _, m, e, _⟩ <;> try rfl
  · exact congrArg (fun order => some order.swap) (then_compare_self e m)
  · exact congrArg some (then_compare_self e m)

/-- There is no order just if one of the two is no number. -/
theorem compare_eq_none_iff (a b : UnpackedFloat) : a.compare b = none ↔ a.isNaN = true ∨ b.isNaN = true := by
  rcases a with (_ | _) | _ | _ | ⟨_ | _, m, e, _⟩ <;> rcases b with (_ | _) | _ | _ | ⟨_ | _, n, f, _⟩ <;>
    first
    | exact iff_of_true rfl (.inl rfl)
    | exact iff_of_true rfl (.inr rfl)
    | exact iff_of_false (Option.some_ne_none _) (not_or.mpr ⟨Bool.false_ne_true, Bool.false_ne_true⟩)

/-- A float is less than another one just if it comes first. -/
theorem float_lt_iff (x y : Float) : x < y ↔ x.toModel.unpack.compare y.toModel.unpack = some .lt := by
  have unpacked : x.toModel < y.toModel ↔ (x.toModel.unpack.compare y.toModel.unpack == some .lt) = true := Iff.rfl
  rw [← beq_iff_eq, ← unpacked]
  exact decide_eq_true_iff

/-- Two floats are equal in either order. -/
theorem float_beq_comm (x y : Float) : (x == y) = (y == x) := by
  change (x.toModel.unpack.compare y.toModel.unpack == some .eq) =
    (y.toModel.unpack.compare x.toModel.unpack == some .eq)
  rw [compare_swap x.toModel.unpack]
  generalize x.toModel.unpack.compare y.toModel.unpack = order
  rcases order with _ | _ | _ | _ <;> rfl

/-- A float equals itself unless it is no number. -/
theorem float_beq_self (x : Float) : (x == x) = !x.isNaN := by
  change (x.toModel.unpack.compare x.toModel.unpack == some .eq) = !x.toModel.unpack.isNaN
  rw [compare_self]
  cases x.toModel.unpack.isNaN <;> rfl

end MessageRouting.Number
