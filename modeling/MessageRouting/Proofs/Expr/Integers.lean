import MessageRouting.Proofs.Expr.Calculation
import MessageRouting.Proofs.Expr.Names
import MessageRouting.Proofs.Number.FloatClasses

/-!
# Integers and their texts

The text of an integer is itself an expression, and has that integer as its value. It is read as a number after a minus
sign where the integer is negative, and there is no such number for the least integer. The function `int` takes what is
no integer by way of a float: of a text it takes any float, where of a float it takes a finite one only.
-/

namespace MessageRouting

namespace Expr

open Text Number

/-! ## Texts of integers as expressions -/

/-- The text of an integer compiles, and has that integer as its value over every exchange. -/
def ReadsBackAsInteger (i : Int64) : Prop :=
  ∃ formula, Formula.compile (Value.int i).text = .ok formula ∧ ∀ x, formula.eval x = .ok (.int i)

/-- The text of an integer that is not negative is the last token of a source. -/
theorem tokensFrom_digits {i : Int64} (positive : 0 ≤ i.toInt) (column : Nat) :
    tokensFrom 0 column (toString i.toInt).toList = .ok
      ([⟨.int i, toString i.toInt, column, (toString i.toInt).length⟩] ++
        [⟨.eof, "", column + (toString i.toInt).length, 0⟩]) := by
  have read := (readsAs_int positive).tokensFrom column (show Apart [] from trivial)
  rw [List.append_nil] at read
  rw [read]
  rfl

/-- The text of an integer that is not negative is read as a literal. -/
theorem parse_digits {i : Int64} (positive : 0 ≤ i.toInt) : parse (toString i.toInt) = .ok (.literal (.int i)) := by
  have number : Derives .primary [⟨.int i, toString i.toInt, 1, (toString i.toInt).length⟩] (.literal (.int i)) :=
    .literal (.int ..)
  exact parse_of_derives (tokensFrom_digits positive 1) number.access.expression

/-- A minus sign and the text of an integer that is not negative are read as its negation. -/
theorem parse_minus_digits {i : Int64} (positive : 0 ≤ i.toInt) :
    parse ("-" ++ toString i.toInt) = .ok (.unary .neg (.literal (.int i))) := by
  have sign : ReadsBefore (toString i.toInt).toList "-" ⟨.minus, "-"⟩ :=
    readsBefore_mark (c := '-') rfl (fun _ => rfl) (by decide) _
  have read : tokenize ("-" ++ toString i.toInt) = .ok
      (⟨.minus, "-", 1, 1⟩ :: [⟨.int i, toString i.toInt, 2, (toString i.toInt).length⟩] ++
        [⟨.eof, "", 2 + (toString i.toInt).length, 0⟩]) := by
    rw [tokenize, String.toList_append, sign.tokensFrom, show 1 + "-".length = 2 from rfl, tokensFrom_digits positive]
    rfl
  have number : Derives .primary [⟨.int i, toString i.toInt, 2, (toString i.toInt).length⟩] (.literal (.int i)) :=
    .literal (.int ..)
  have operand : Tier.unary.Derives _ _ := number.access.loosen (by decide)
  have negated : Tier.unary.Derives (⟨.minus, "-", 1, 1⟩ :: _) (.unary .neg (.literal (.int i))) :=
    Derives.operator .minus operand
  exact parse_of_derives read negated.expression

/-- Of a negative integer but the least one, the text is a minus sign and the text of its opposite. -/
theorem exists_opposite {i : Int64} (negative : i.toInt < 0) (other : i ≠ Int64.minValue) :
    ∃ j : Int64, j.toInt = -i.toInt ∧ toString i.toInt = "-" ++ toString j.toInt := by
  have least : i.toInt ≠ -9223372036854775808 := fun same => other (Int64.toInt_inj.mp same)
  have fits : Fits (-i.toInt) := by
    obtain ⟨low, high⟩ := fits_toInt i
    constructor <;> omega
  obtain ⟨j, -, same⟩ := bounded?_of_fits fits
  refine ⟨j, same, ?_⟩
  rw [← String.toList_inj, String.toList_append, Number.toList_toString, Number.toList_toString, if_pos negative,
    if_neg (by omega), same, Int.natAbs_neg]
  rfl

/-- An integer is read back where its text is parsed as an expression with that value. -/
theorem readsBackAsInteger_of_parse {i : Int64} {e : Expr} (read : parse (toString i.toInt) = .ok e)
    (value : ∀ x, e.eval x = .ok (.int i)) : ReadsBackAsInteger i := by
  refine ⟨⟨toString i.toInt, e⟩, ?_, fun x => ?_⟩
  · rw [Formula.compile, Value.text, read]
  · rw [Formula.eval, value]

/-- A negative integer is read back as the negation of its opposite. -/
theorem readsBackAsInteger_of_neg {i : Int64} (negative : i.toInt < 0) (other : i ≠ Int64.minValue) :
    ReadsBackAsInteger i := by
  obtain ⟨j, opposite, written⟩ := exists_opposite negative other
  have again : i.toInt = -j.toInt := by rw [opposite, Int.neg_neg]
  have fits : Fits (-j.toInt) := again ▸ fits_toInt i
  obtain ⟨k, bounded, same⟩ := bounded?_of_fits fits
  obtain rfl : k = i := Int64.toInt_inj.mp (same.trans again.symm)
  have read : parse (toString k.toInt) = .ok (.unary .neg (.literal (.int j))) := by
    rw [written]
    exact parse_minus_digits (by omega)
  refine readsBackAsInteger_of_parse read fun x => ?_
  simp only [eval, UnaryOp.apply, negate, bounded]

/-- The text of the least integer is refused: there is no number after its minus sign. -/
theorem compile_least : Formula.compile "-9223372036854775808" = .error (.expressionCompile "-9223372036854775808" 2
    "invalid number '9223372036854775808': number too large to fit in target type") := by
  have read : parse "-9223372036854775808" =
      .error ⟨2, .invalidNumber "9223372036854775808" "number too large to fit in target type"⟩ := rfl
  rw [Formula.compile, read]
  rfl

/-- The least integer is not read back from its text. -/
theorem not_readsBackAsInteger_least : ¬ReadsBackAsInteger Int64.minValue := by
  have text : (Value.int Int64.minValue).text = "-9223372036854775808" := by decide +kernel
  rintro ⟨formula, compiled, -⟩
  rw [text, compile_least] at compiled
  cases compiled

/-- The text of an integer compiles and has that integer as its value, unless that is the least one. -/
theorem readsBackAsInteger_iff (i : Int64) : ReadsBackAsInteger i ↔ i ≠ Int64.minValue := by
  constructor
  · rintro readBack rfl
    exact not_readsBackAsInteger_least readBack
  · intro other
    by_cases negative : i.toInt < 0
    · exact readsBackAsInteger_of_neg negative other
    · exact readsBackAsInteger_of_parse (parse_digits (by omega)) fun x => by rw [eval]

/-- The text of the least integer does not compile, although the function `int` takes it as that integer. -/
theorem least_text_refused : ¬ReadsBackAsInteger Int64.minValue ∧
    Formula.compile "-9223372036854775808" = .error (.expressionCompile "-9223372036854775808" 2
      "invalid number '9223372036854775808': number too large to fit in target type") ∧
    Builtin.int.apply (.string "-9223372036854775808") = .ok (.int Int64.minValue) :=
  ⟨not_readsBackAsInteger_least, compile_least, rfl⟩

/-! ## Integers of texts -/

/-- Two answers agree: they are the same integer, or conversions that are both refused. -/
inductive Agree : Except Fault Value → Except Fault Value → Prop
  | integer (i : Int64) : Agree (.ok (.int i)) (.ok (.int i))
  | refused (source target message other : String) (aim reason : String) :
    Agree (.error (.conversion source target message)) (.error (.conversion other aim reason))

section

variable {x : Exchange} {argument : Expr} {s : String}

/-- A text that is no integer is taken as one by way of a float, whichever it is. -/
theorem eval_int_text (source : String) (value : argument.eval x = .ok (.string s))
    (noInteger : ∀ i, readInt64 (trim s) ≠ .ok i) :
    (Formula.mk source (.call .int argument)).eval x =
      match readFloat (trim s) with
      | .ok f => .ok (.int (truncate f))
      | .error _ => .error (.conversion "string" "int" (unreadable (.string s) "int").message) := by
  cases integer : readInt64 (trim s) with
  | ok i => exact absurd integer (noInteger i)
  | error fault =>
    simp only [Formula.eval, eval, value, Builtin.apply, toInt, integer]
    cases readFloat (trim s) <;> rfl

/-- A text that is made a float first is taken as an integer if that is finite. -/
theorem eval_int_float_text (source : String) (value : argument.eval x = .ok (.string s)) :
    (Formula.mk source (.call .int (.call .float argument))).eval x =
      match readFloat (trim s) with
      | .ok f =>
        if isFinite f then .ok (.int (truncate f))
        else .error (.conversion "float" "int" (unreadable (.float f) "int").message)
      | .error _ => .error (.conversion "string" "float" (unreadable (.string s) "float").message) := by
  simp only [Formula.eval, eval, value, Builtin.apply, toFloat]
  cases readFloat (trim s) with
  | error fault => rfl
  | ok f =>
    simp only [toInt]
    cases isFinite f <;> rfl

/-- Of a text that is no integer, `int` agrees with `int` of the float just if the text is not read as a float that is
not finite. Of such a text, `int` gives zero, or the integer nearest to the infinity, and `int` of the float is refused.
-/
theorem int_agrees_iff (source other : String) (value : argument.eval x = .ok (.string s))
    (noInteger : ∀ i, readInt64 (trim s) ≠ .ok i) :
    (Agree ((Formula.mk source (.call .int argument)).eval x)
        ((Formula.mk other (.call .int (.call .float argument))).eval x) ↔
      ∀ f, readFloat (trim s) = .ok f → isFinite f = true) ∧
    ∀ f, readFloat (trim s) = .ok f → isFinite f = false →
      (Formula.mk source (.call .int argument)).eval x = .ok (.int (clamped f)) ∧
        (Formula.mk other (.call .int (.call .float argument))).eval x =
          .error (.conversion "float" "int" (unreadable (.float f) "int").message) := by
  rw [eval_int_text source value noInteger, eval_int_float_text other value]
  cases readFloat (trim s) with
  | error fault => exact ⟨⟨fun _ _ read => (nomatch read), fun _ => .refused ..⟩, fun _ read => (nomatch read)⟩
  | ok f =>
    simp only [Except.ok.injEq, forall_eq']
    cases finite : isFinite f with
    | true => exact ⟨⟨fun _ => rfl, fun _ => .integer _⟩, nofun⟩
    | false =>
      refine ⟨⟨nofun, nofun⟩, fun _ => ⟨?_, rfl⟩⟩
      rw [truncate_of_isFinite_eq_false finite]

end

/-- The text of the negative infinity is read as the least integer, and the infinity itself as none. -/
theorem int_agrees_iff_infinity :
    let x := Exchange.create (.root 1) (.root (.root 0)) [] .null
    let text := Expr.literal (.string " -inf")
    text.eval x = .ok (.string " -inf") ∧ (∀ i, readInt64 (trim " -inf") ≠ .ok i) ∧
      (Formula.mk "int(' -inf')" (.call .int text)).eval x = .ok (.int Int64.minValue) ∧
      ∃ reason, (Formula.mk "int(float(' -inf'))" (.call .int (.call .float text))).eval x =
        .error (.conversion "float" "int" reason) := by
  intro x text
  have invalid : readInt64 (trim " -inf") = .error .invalidDigit := rfl
  have noInteger : ∀ i, readInt64 (trim " -inf") ≠ .ok i := fun i same => nomatch invalid.symm.trans same
  have read : readFloat (trim " -inf") = .ok (-Float.ofBits 0x7FF0000000000000) := rfl
  have endless : isFinite (-Float.ofBits 0x7FF0000000000000) = false := by decide +kernel
  have least : clamped (-Float.ofBits 0x7FF0000000000000) = Int64.minValue := by decide +kernel
  have value : text.eval x = .ok (.string " -inf") := rfl
  obtain ⟨taken, refused⟩ :=
    (int_agrees_iff "int(' -inf')" "int(float(' -inf'))" value noInteger).2 _ read endless
  rw [least] at taken
  exact ⟨value, noInteger, taken, _, refused⟩

/-- The source in which `int` is applied to the text `nan`. -/
theorem parse_int_nan : parse "int('nan')" = .ok (.call .int (.literal (.string "nan"))) := by
  have read : tokenize "int('nan')" = .ok ([⟨.ident, "int", 1, 3⟩, ⟨.lParen, "(", 4, 1⟩, ⟨.str, "nan", 5, 5⟩,
      ⟨.rParen, ")", 10, 1⟩] ++ [⟨.eof, "", 11, 0⟩]) := rfl
  have text : Derives .primary [⟨.str, "nan", 5, 5⟩] (.literal (.string "nan")) := .literal (.string ..)
  have call : Derives .primary
      (⟨.ident, "int", 1, 3⟩ :: ⟨.lParen, "(", 4, 1⟩ :: ([⟨.str, "nan", 5, 5⟩] ++ [⟨.rParen, ")", 10, 1⟩]))
      (.call .int (.literal (.string "nan"))) :=
    .call rfl rfl rfl text.access.expression rfl
  exact parse_of_derives read call.access.expression

/-- The text `nan` is no integer. It is read as zero, where the float that is no number is not read as an integer. -/
theorem int_of_nan_disagrees :
    let x := Exchange.create (.root 1) (.root (.root 0)) [] .null
    let text := Expr.literal (.string "nan")
    (∀ i, readInt64 (trim "nan") ≠ .ok i) ∧
      Formula.compile "int('nan')" = .ok ⟨"int('nan')", .call .int text⟩ ∧
      (Formula.mk "int('nan')" (.call .int text)).eval x = .ok (.int 0) ∧
      (Formula.mk "int(float('nan'))" (.call .int (.call .float text))).eval x =
        .error (.conversion "float" "int" "'NaN' is not a valid int") ∧
      ¬Agree ((Formula.mk "int('nan')" (.call .int text)).eval x)
        ((Formula.mk "int(float('nan'))" (.call .int (.call .float text))).eval x) := by
  intro x text
  have invalid : readInt64 (trim "nan") = .error .invalidDigit := rfl
  have noInteger : ∀ i, readInt64 (trim "nan") ≠ .ok i := fun i same => nomatch invalid.symm.trans same
  have value : text.eval x = .ok (.string "nan") := rfl
  have read : readFloat (trim "nan") = .ok (Float.ofBits 0x7FF8000000000000) := rfl
  have endless : isFinite (Float.ofBits 0x7FF8000000000000) = false := by decide +kernel
  have zero : truncate (Float.ofBits 0x7FF8000000000000) = 0 := by decide +kernel
  have taken : (Formula.mk "int('nan')" (.call .int text)).eval x = .ok (.int 0) := by
    rw [eval_int_text _ value noInteger, read]
    simp only [zero]
  have refused : (Formula.mk "int(float('nan'))" (.call .int (.call .float text))).eval x =
      .error (.conversion "float" "int" "'NaN' is not a valid int") := by
    rw [eval_int_float_text _ value, read]
    simp only [endless]
    rfl
  refine ⟨noInteger, by rw [Formula.compile, parse_int_nan], taken, refused, fun agree => ?_⟩
  rw [taken, refused] at agree
  cases agree

end Expr

end MessageRouting
