import MessageRouting.Expr.Operation
import MessageRouting.Expr.Parser

/-!
# Values of expressions

An expression is evaluated over an exchange, from left to right; the first refusal ends it. Headers and
properties are looked up by name without building the whole map first.
-/

namespace MessageRouting

namespace Expr

/-- The header or property that a name under a root means, null when absent; `none` when the base is
neither the headers nor the properties. -/
def scoped? (x : Exchange) (base : Expr) (name : String) : Option Value :=
  match base with
  | .root .header => some ((x.header? name).getD .null)
  | .root .property => some ((x.property? name).getD .null)
  | _ => none

mutual

/-- The value of an expression over an exchange. -/
def eval (x : Exchange) : Expr → Except EvalFault Value
  | .literal value => .ok value
  | .root name => .ok (x.lookup name)
  | .list items => (evalItems x items).map .list
  | .member base name =>
    match scoped? x base name with
    | some value => .ok value
    | none =>
      match eval x base with
      | .error fault => .error fault
      | .ok value => memberOf value name
  | .index base position =>
    match eval x position with
    | .error fault => .error fault
    | .ok key =>
      match key.string?.bind (scoped? x base) with
      | some value => .ok value
      | none =>
        match eval x base with
        | .error fault => .error fault
        | .ok value => itemOf value key
  | .call function argument =>
    match eval x argument with
    | .error fault => .error fault
    | .ok value => function.apply value
  | .unary operator operand =>
    match eval x operand with
    | .error fault => .error fault
    | .ok value => operator.apply value
  | .binary operator left right =>
    match eval x left with
    | .error fault => .error fault
    | .ok l =>
      match eval x right with
      | .error fault => .error fault
      | .ok r => operator.apply l r
  | .and left right =>
    match (eval x left).bind truthOf with
    | .error fault => .error fault
    | .ok false => .ok (.bool false)
    | .ok true => ((eval x right).bind truthOf).map .bool
  | .or left right =>
    match (eval x left).bind truthOf with
    | .error fault => .error fault
    | .ok true => .ok (.bool true)
    | .ok false => ((eval x right).bind truthOf).map .bool
  | .conditional condition yes no =>
    match (eval x condition).bind truthOf with
    | .error fault => .error fault
    | .ok true => eval x yes
    | .ok false => eval x no
  | .matchesStatic subject pattern =>
    match eval x subject with
    | .error fault => .error fault
    | .ok value => .ok (.bool (!value.isNull && pattern.isMatch value.text))
  | .matchesDynamic subject pattern =>
    match eval x subject with
    | .error fault => .error fault
    | .ok value =>
      if value.isNull then .ok (.bool false)
      else
        match eval x pattern with
        | .error fault => .error fault
        | .ok (.string source) =>
          match Regex.compile? source with
          | some regex => .ok (.bool (regex.isMatch value.text))
          | none => .error (.invalidPattern source (Regex.diagnostics source))
        | .ok other => .error (.patternKind other.kind)

/-- The values of expressions, in order. -/
def evalItems (x : Exchange) : List Expr → Except EvalFault (List Value)
  | [] => .ok []
  | item :: rest =>
    match eval x item with
    | .error fault => .error fault
    | .ok value => (evalItems x rest).map (value :: ·)

end

end Expr

/-- A compiled expression with its source. -/
structure Formula where
  /-- The text it was compiled from. -/
  source : String
  /-- What it means. -/
  expr : Expr

namespace Formula

/-- Compiles an expression. -/
def compile (source : String) : Except Fault Formula :=
  match Expr.parse source with
  | .ok expr => .ok ⟨source, expr⟩
  | .error misplaced => .error (misplaced.toFault source)

/-- The value of an expression; a refusal names the source. -/
def eval (formula : Formula) (x : Exchange) : Except Fault Value :=
  match formula.expr.eval x with
  | .ok value => .ok value
  | .error fault => .error (fault.toFault formula.source)

end Formula

end MessageRouting
