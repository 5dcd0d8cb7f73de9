import MessageRouting.Proofs.Expr.Comparison
import MessageRouting.Proofs.Text.Search

/-!
# What a text starts with, ends with and contains

The operators that look into a text from its start, from its end and as a whole take their right operand by its text.
For null they differ: a text contains no null, but it starts or ends with one if it starts or ends with the four letters
of its text. Apart from that, a text contains whatever it starts or ends with.
-/

namespace MessageRouting.Expr

variable {x : Exchange} {left right : Expr} {s : String} {value : Value}

/-- What an operator makes of a text and another operand with a value. -/
theorem holds_binary_iff (text : left.eval x = .ok (.string s)) (found : right.eval x = .ok value)
    (operator : BinaryOp) :
    Holds x (.binary operator left right) ↔ operator.apply (.string s) value = .ok (.bool true) := by
  simp only [Holds, eval, text, found]

/-- An operand without a value leaves nothing to hold. -/
theorem not_holds_binary {fault : EvalFault} (failed : right.eval x = .error fault) (operator : BinaryOp) :
    ¬Holds x (.binary operator left right) := by
  simp only [Holds, eval, failed]
  cases left.eval x <;> exact fun holds => by cases holds

/-- A text starts with a value if it starts with its text, null included. -/
theorem holds_startsWith_iff (text : left.eval x = .ok (.string s)) (found : right.eval x = .ok value) :
    Holds x (.binary .startsWith left right) ↔ Text.startsWith s value.text = true := by
  simp [holds_binary_iff text found, BinaryOp.apply, Value.isNull, Value.text]

/-- A text ends with a value if it ends with its text, null included. -/
theorem holds_endsWith_iff (text : left.eval x = .ok (.string s)) (found : right.eval x = .ok value) :
    Holds x (.binary .endsWith left right) ↔ Text.endsWith s value.text = true := by
  simp [holds_binary_iff text found, BinaryOp.apply, Value.isNull, Value.text]

/-- A text contains a value if it contains its text, and the value is not null. -/
theorem holds_contains_iff (text : left.eval x = .ok (.string s)) (found : right.eval x = .ok value) :
    Holds x (.binary .contains left right) ↔ value.isNull = false ∧ Text.contains s value.text = true := by
  simp [holds_binary_iff text found, BinaryOp.apply, contains, Except.map]

/-- A text contains what it starts or ends with, if that is not null. -/
theorem holds_contains_of_affix (text : left.eval x = .ok (.string s)) (found : right.eval x = .ok value)
    (present : value.isNull = false)
    (affix : Holds x (.binary .startsWith left right) ∨ Holds x (.binary .endsWith left right)) :
    Holds x (.binary .contains left right) := by
  rw [holds_startsWith_iff text found, holds_endsWith_iff text found] at affix
  rw [holds_contains_iff text found]
  exact ⟨present, affix.elim Text.contains_of_startsWith Text.contains_of_endsWith⟩

/-- A text contains what it starts or ends with, unless that is null and the text starts or ends with the word for it.
-/
theorem contains_affixes_iff (text : left.eval x = .ok (.string s)) :
    (Holds x (.binary .startsWith left right) ∨ Holds x (.binary .endsWith left right) →
        Holds x (.binary .contains left right)) ↔
      ¬(right.eval x = .ok .null ∧ (Text.startsWith s "null" = true ∨ Text.endsWith s "null" = true)) := by
  cases found : right.eval x with
  | error fault => simp [not_holds_binary found]
  | ok value =>
    by_cases null : value = .null
    · subst null
      rw [holds_startsWith_iff text found, holds_endsWith_iff text found, holds_contains_iff text found]
      simp [Value.isNull, Value.text]
    · have present : value.isNull = false := by cases value <;> first | rfl | exact absurd rfl null
      simp only [Except.ok.injEq, null, false_and, not_false_eq_true, iff_true]
      exact holds_contains_of_affix text found present

/-- An exchange whose only header names the sort of an order. -/
def sortedOrder : Exchange := .create (.root 0) (.root (.root 1)) [("sort", .string "ord")] .null

/-- A text contains the header that it starts with. -/
theorem order_contains_its_start :
    (Expr.literal (.string "order")).eval sortedOrder = .ok (.string "order") ∧
      (Holds sortedOrder (.binary .startsWith (.literal (.string "order")) (.member (.root .header) "sort")) ∨
          Holds sortedOrder (.binary .endsWith (.literal (.string "order")) (.member (.root .header) "sort")) →
        Holds sortedOrder (.binary .contains (.literal (.string "order")) (.member (.root .header) "sort"))) := by
  have text : (Expr.literal (.string "order")).eval sortedOrder = .ok (.string "order") := by rw [eval]
  have sort : (Expr.member (.root .header) "sort").eval sortedOrder = .ok (.string "ord") := rfl
  refine ⟨text, (contains_affixes_iff text).mpr ?_⟩
  rintro ⟨null, -⟩
  cases sort.symm.trans null

/-- A text that starts with the word for null starts with a missing header, and does not contain it. -/
theorem nullable_does_not_contain_its_start :
    Holds sortedOrder (.binary .startsWith (.literal (.string "nullable")) (.member (.root .header) "missing")) ∧
      (Expr.binary .contains (.literal (.string "nullable")) (.member (.root .header) "missing")).eval sortedOrder =
        .ok (.bool false) := by
  have missing : (Expr.member (.root .header) "missing").eval sortedOrder = .ok .null := rfl
  have text : (Expr.literal (.string "nullable")).eval sortedOrder = .ok (.string "nullable") := by rw [eval]
  constructor
  · rw [holds_startsWith_iff text missing]
    rfl
  · rfl

end MessageRouting.Expr
