import MessageRouting.Expr.Eval

/-!
# Evaluation without shortcuts

A header or a property that is named is read straight from the exchange. Without that, all headers or all properties
would be put into a map first, and the value would be taken out of it by its name. The two ways do not differ, wherever
in an expression they are taken: the shortcut is there for the roots alone, whose evaluation never fails, and gives for
each name what the map has for it.
-/

namespace MessageRouting

namespace Expr

variable {x : Exchange}

/-! ## Evaluation with any shortcut -/

mutual

/-- The value of an expression over an exchange, where a shortcut may know what a name under a base means. -/
def evalWith (shortcut : Expr → String → Option Value) (x : Exchange) : Expr → Except EvalFault Value
  | .literal value => return value
  | .root name => return x.lookup name
  | .list items => return .list (← evalItemsWith shortcut x items)
  | .member base name =>
    match shortcut base name with
    | some value => return value
    | none => do memberOf (← evalWith shortcut x base) name
  | .index base position => do
    let key ← evalWith shortcut x position
    match key.string?.bind (shortcut base) with
    | some value => return value
    | none => itemOf (← evalWith shortcut x base) key
  | .call function argument => do function.apply (← evalWith shortcut x argument)
  | .unary operator operand => do operator.apply (← evalWith shortcut x operand)
  | .binary operator left right => do
    let l ← evalWith shortcut x left
    operator.apply l (← evalWith shortcut x right)
  | .and left right => do
    if ← truthOf (← evalWith shortcut x left) then return .bool (← truthOf (← evalWith shortcut x right))
    else return .bool false
  | .or left right => do
    if ← truthOf (← evalWith shortcut x left) then return .bool true
    else return .bool (← truthOf (← evalWith shortcut x right))
  | .conditional condition yes no => do
    if ← truthOf (← evalWith shortcut x condition) then evalWith shortcut x yes
    else evalWith shortcut x no
  | .matchesStatic subject pattern => do
    let value ← evalWith shortcut x subject
    return .bool (!value.isNull && pattern.isMatch value.text)
  | .matchesDynamic subject pattern => do
    let value ← evalWith shortcut x subject
    if value.isNull then return .bool false
    else
      match ← evalWith shortcut x pattern with
      | .string source =>
        match Regex.compile? source with
        | some regex => return .bool (regex.isMatch value.text)
        | none => .error (.invalidPattern source (Regex.diagnostics source))
      | other => .error (.patternKind other.kind)

/-- The values of expressions, in order. -/
def evalItemsWith (shortcut : Expr → String → Option Value) (x : Exchange) : List Expr → Except EvalFault (List Value)
  | [] => return []
  | item :: rest => do
    let value ← evalWith shortcut x item
    return value :: (← evalItemsWith shortcut x rest)

end

/-- The value of an expression where no shortcut is taken: a root is looked up as a whole first. -/
abbrev evalPlainly (x : Exchange) (e : Expr) : Except EvalFault Value := evalWith (fun _ _ => none) x e

/-! ## Shortcuts -/

/-- A shortcut over an exchange. What it knows is what a root, looked up as a whole, has for a name. -/
structure Shortcut (x : Exchange) where
  /-- What a name under a base means, if the shortcut knows. -/
  value? : Expr → String → Option Value
  /-- The base is a root, and the root has the value, as a member and as an item. -/
  honest : ∀ base name value, value? base name = some value →
    ∃ root, base = .root root ∧ memberOf (x.lookup root) name = .ok value ∧
      itemOf (x.lookup root) (.string name) = .ok value

/-- Headers and properties may be read straight from the exchange. -/
def Shortcut.scoped (x : Exchange) : Shortcut x where
  value? := scoped? x
  honest := by
    intro base name value known
    unfold scoped? at known
    split at known
    · cases known
      exact ⟨.header, rfl, rfl, rfl⟩
    · cases known
      exact ⟨.property, rfl, rfl, rfl⟩
    · cases known

/-- A shortcut may know nothing. -/
def Shortcut.nothing (x : Exchange) : Shortcut x where
  value? _ _ := none
  honest _ _ _ never := by cases never

/-- With or without a shortcut, a member is that of the value of the base. -/
theorem Shortcut.member (shortcut : Shortcut x) (base : Expr) (name : String) :
    (match shortcut.value? base name with
      | some value => .ok value
      | none => (eval x base).bind (memberOf · name)) = (eval x base).bind (memberOf · name) := by
  cases known : shortcut.value? base name with
  | none => rfl
  | some value =>
    obtain ⟨root, rfl, member, -⟩ := shortcut.honest base name value known
    exact member.symm

/-- With or without a shortcut, an item is that of the value of the base. -/
theorem Shortcut.item (shortcut : Shortcut x) (base : Expr) (key : Value) :
    (match key.string?.bind (shortcut.value? base) with
      | some value => .ok value
      | none => (eval x base).bind (itemOf · key)) = (eval x base).bind (itemOf · key) := by
  cases known : key.string?.bind (shortcut.value? base) with
  | none => rfl
  | some value =>
    obtain ⟨name, text, known⟩ := Option.bind_eq_some_iff.mp known
    obtain ⟨root, rfl, -, item⟩ := shortcut.honest base name value known
    cases key with
    | string own =>
      cases text
      exact item.symm
    | _ => cases text

/-! ## Any expression -/

/-- What goes on with a value as a condition goes on with the condition. -/
theorem bind_truthOf {α : Type} (given : Except EvalFault Value) (next : Bool → Except EvalFault α) :
    (given >>= fun value => truthOf value >>= next) = given.bind truthOf >>= next := by
  cases given <;> rfl

mutual

/-- Whichever shortcut is taken, the value of an expression is the same. -/
theorem evalWith_shortcut (shortcut : Shortcut x) : ∀ e : Expr, evalWith shortcut.value? x e = eval x e
  | .literal value => rfl
  | .root name => rfl
  | .list items => by
    rw [evalWith, eval, evalItemsWith_shortcut shortcut items]
    cases evalItems x items <;> rfl
  | .member base name => by
    rw [evalWith, eval, evalWith_shortcut shortcut base]
    refine (shortcut.member base name).trans (((Shortcut.scoped x).member base name).symm.trans ?_)
    cases eval x base <;> rfl
  | .index base position => by
    rw [evalWith, eval, evalWith_shortcut shortcut position, evalWith_shortcut shortcut base]
    cases eval x position with
    | error fault => rfl
    | ok key =>
      refine (shortcut.item base key).trans (((Shortcut.scoped x).item base key).symm.trans ?_)
      cases eval x base <;> rfl
  | .call function argument => by
    rw [evalWith, eval, evalWith_shortcut shortcut argument]
    cases eval x argument <;> rfl
  | .unary operator operand => by
    rw [evalWith, eval, evalWith_shortcut shortcut operand]
    cases eval x operand <;> rfl
  | .binary operator left right => by
    rw [evalWith, eval, evalWith_shortcut shortcut left, evalWith_shortcut shortcut right]
    cases eval x left with
    | error fault => rfl
    | ok l => cases eval x right <;> rfl
  | .and left right => by
    rw [evalWith, eval, evalWith_shortcut shortcut left, evalWith_shortcut shortcut right, bind_truthOf, bind_truthOf]
    cases (eval x left).bind truthOf with
    | error fault => rfl
    | ok condition => cases condition <;> rfl
  | .or left right => by
    rw [evalWith, eval, evalWith_shortcut shortcut left, evalWith_shortcut shortcut right, bind_truthOf, bind_truthOf]
    cases (eval x left).bind truthOf with
    | error fault => rfl
    | ok condition => cases condition <;> rfl
  | .conditional condition yes no => by
    rw [evalWith, eval, evalWith_shortcut shortcut condition, evalWith_shortcut shortcut yes,
      evalWith_shortcut shortcut no, bind_truthOf]
    cases (eval x condition).bind truthOf with
    | error fault => rfl
    | ok condition => cases condition <;> rfl
  | .matchesStatic subject pattern => by
    rw [evalWith, eval, evalWith_shortcut shortcut subject]
    cases eval x subject <;> rfl
  | .matchesDynamic subject pattern => by
    rw [evalWith, eval, evalWith_shortcut shortcut subject, evalWith_shortcut shortcut pattern]
    cases eval x subject with
    | error fault => rfl
    | ok value =>
      cases eval x pattern with
      | error fault => rfl
      | ok found => cases found <;> rfl

/-- Whichever shortcut is taken, the values of expressions are the same. -/
theorem evalItemsWith_shortcut (shortcut : Shortcut x) :
    ∀ items : List Expr, evalItemsWith shortcut.value? x items = evalItems x items
  | [] => rfl
  | item :: rest => by
    rw [evalItemsWith, evalItems, evalWith_shortcut shortcut item, evalItemsWith_shortcut shortcut rest]
    cases eval x item with
    | error fault => rfl
    | ok value => cases evalItems x rest <;> rfl

end

/-- What an expression means over an exchange does not depend on shortcuts. -/
structure NeedsNoShortcut (x : Exchange) (e : Expr) : Prop where
  /-- Without any, it has the same value or the same refusal. -/
  plainly : eval x e = evalPlainly x e
  /-- So it has with any other, such as one that knows some names only, or other roots too. -/
  other : ∀ shortcut : Shortcut x, evalWith shortcut.value? x e = evalPlainly x e
  /-- For an item, a root may be looked up as a whole even before the index is evaluated. -/
  wholeFirst : ∀ root position, e = .index (.root root) position → eval x e = do
    let whole ← evalPlainly x (.root root)
    itemOf whole (← evalPlainly x position)
  /-- A compiled expression words its refusals as it would without. -/
  worded : ∀ source, Formula.eval ⟨source, e⟩ x = (evalPlainly x e).mapError (·.toFault source)

/-- No expression needs shortcuts over any exchange. -/
theorem needs_no_shortcut (x : Exchange) (e : Expr) : NeedsNoShortcut x e where
  plainly := (evalWith_shortcut (.nothing x) e).symm
  other shortcut := (evalWith_shortcut shortcut e).trans (evalWith_shortcut (.nothing x) e).symm
  wholeFirst := by
    rintro root position rfl
    have plain : evalPlainly x (.index (.root root) position) = eval x (.index (.root root) position) :=
      evalWith_shortcut (.nothing x) _
    rw [← plain]
    simp only [evalPlainly, evalWith]
    cases evalWith (fun _ _ => none) x position with
    | error fault => rfl
    | ok key => cases key <;> rfl
  worded source := by
    have plain : evalPlainly x e = eval x e := evalWith_shortcut (.nothing x) e
    rw [plain, Formula.eval]
    cases eval x e <;> rfl

/-- An index is refused before anything is looked up, as it is with the shortcut. -/
example : evalPlainly (.create (.root 1) (.root (.root 0)) [] .null)
    (.index (.root .header) (.call .upper (.literal (.int 1)))) = .error (.stringExpected "upper" .int) := rfl

end Expr

end MessageRouting
