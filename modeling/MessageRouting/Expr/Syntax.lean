import MessageRouting.Exchange
import MessageRouting.Regex

/-!
# Expressions

The tree of an expression. Operators that combine two values stand apart from the connectives that may
leave their right side alone.
-/

namespace MessageRouting

namespace Expr

/-- An operator before one value. -/
inductive UnaryOp where
  | not
  | neg
  deriving Repr, DecidableEq

/-- An operator between two values. -/
inductive BinaryOp where
  | add
  | sub
  | mul
  | div
  | rem
  | eq
  | notEq
  | lt
  | le
  | gt
  | ge
  | contains
  | startsWith
  | endsWith
  | «in»
  deriving Repr, DecidableEq

/-- A function of one value. -/
inductive Builtin where
  | len
  | upper
  | lower
  | trim
  | string
  | int
  | float
  | bool
  deriving Repr, DecidableEq

/-- Every function, in order. -/
def Builtin.all : List Builtin := [.len, .upper, .lower, .trim, .string, .int, .float, .bool]

/-- The name of a function. -/
def Builtin.name : Builtin → String
  | .len => "len"
  | .upper => "upper"
  | .lower => "lower"
  | .trim => "trim"
  | .string => "string"
  | .int => "int"
  | .float => "float"
  | .bool => "bool"

/-- The function of a name. -/
def Builtin.named? (name : String) : Option Builtin := Builtin.all.find? (·.name == name)

/-- Every function takes one argument. -/
def Builtin.arity : Nat := 1

end Expr

open MessageRouting.Expr

/-- An expression. -/
inductive Expr where
  /-- A value. -/
  | literal (value : Value)
  /-- A root of the exchange. -/
  | root (root : Root)
  /-- A list of values. -/
  | list (items : List Expr)
  /-- A member by a fixed name. -/
  | member (base : Expr) (name : String)
  /-- An item by a computed index. -/
  | index (base index : Expr)
  /-- A function applied. -/
  | call (function : Builtin) (argument : Expr)
  /-- An operator before a value. -/
  | unary (operator : UnaryOp) (operand : Expr)
  /-- An operator between values. -/
  | binary (operator : BinaryOp) (left right : Expr)
  /-- Both conditions hold. -/
  | and (left right : Expr)
  /-- One of the conditions holds. -/
  | or (left right : Expr)
  /-- A value that depends on a condition. -/
  | conditional (condition yes no : Expr)
  /-- A text matches a fixed pattern. -/
  | matchesStatic (subject : Expr) (pattern : Regex)
  /-- A text matches a computed pattern. -/
  | matchesDynamic (subject pattern : Expr)

instance : Inhabited Expr := ⟨.literal .null⟩

end MessageRouting
