import MessageRouting.Proofs.Expr.Reading

/-!
# Expressions that are written down

How the tree of an expression is written as words. An operator may be written as a mark or, where it has one, as a
word; a text stands in quotes of either kind. An expression is put in parentheses exactly where it is looser than its
place demands: there is one tier for conditions, one for each level of operators between operands, one for operators
before an operand, and one for everything that members and indices can be taken of.
-/

namespace MessageRouting.Expr

/-! ## Tiers -/

/-- How tight an expression holds together. -/
inductive Tier where
  | conditional
  | level (inner : Level)
  | unary
  | access
  deriving Repr, DecidableEq

/-- The rank of a tier, the loosest one first. -/
def Tier.rank : Tier → Nat
  | .conditional => 0
  | .level inner => inner.closeness + 1
  | .unary => 7
  | .access => 8

/-- The tier of the operands of a level. -/
def Level.operandTier (level : Level) : Tier :=
  match level.closer? with
  | some closer => .level closer
  | none => .unary

/-- The level of an operator. -/
def BinaryOp.level : BinaryOp → Level
  | .eq | .notEq => .equality
  | .lt | .le | .gt | .ge | .contains | .startsWith | .endsWith | .in => .relation
  | .add | .sub => .sum
  | .mul | .div | .rem => .product

/-- The level of a joint. -/
def Joint.level : Joint → Level
  | .or => .or
  | .and => .and
  | .binary operator => operator.level
  | .matches => .relation

/-- The joint of a tree and what stands on its two sides; right of a fixed pattern that is its text. -/
def sides? : Expr → Option (Joint × Expr × Expr)
  | .or left right => some (.or, left, right)
  | .and left right => some (.and, left, right)
  | .binary operator left right => some (.binary operator, left, right)
  | .matchesStatic subject pattern => some (.matches, subject, .literal (.string pattern.source))
  | .matchesDynamic subject pattern => some (.matches, subject, pattern)
  | _ => none

/-- The tier of an expression. -/
def tier : Expr → Tier
  | .conditional _ _ _ => .conditional
  | .or _ _ => .level .or
  | .and _ _ => .level .and
  | .binary operator _ _ => .level operator.level
  | .matchesStatic _ _ | .matchesDynamic _ _ => .level .relation
  | .unary _ _ => .unary
  | _ => .access

/-! ## Words -/

/-- How an operator between operands is written. -/
def BinaryOp.word : BinaryOp → String
  | .add => "+"
  | .sub => "-"
  | .mul => "*"
  | .div => "/"
  | .rem => "%"
  | .eq => "=="
  | .notEq => "!="
  | .lt => "<"
  | .le => "<="
  | .gt => ">"
  | .ge => ">="
  | .contains => "contains"
  | .startsWith => "startsWith"
  | .endsWith => "endsWith"
  | .in => "in"

/-- How a joint may be written. -/
def Joint.words : Joint → List String
  | .or => ["||", "or"]
  | .and => ["&&", "and"]
  | .binary operator => [operator.word]
  | .matches => ["matches"]

/-- How an operator before an operand may be written. -/
def UnaryOp.words : UnaryOp → List String
  | .not => ["!", "not"]
  | .neg => ["-"]

/-- How the characters of a text may be written between quotes: a backslash goes before each backslash and before
each quote of the same kind, and may go before a quote of the other kind. -/
inductive Escapes (quote : Char) : List Char → List Char → Prop
  | nil : Escapes quote [] []
  | plain {c : Char} {text written : List Char} (noQuote : c ≠ quote) (noBackslash : c ≠ '\\')
    (more : Escapes quote text written) : Escapes quote (c :: text) (c :: written)
  | escaped {c : Char} {text written : List Char} (special : c = '\\' ∨ c = '"' ∨ c = '\'')
    (more : Escapes quote text written) : Escapes quote (c :: text) ('\\' :: c :: written)

/-- A word is a text in quotes. -/
inductive Quotes (text : String) : String → Prop
  | between {quote : Char} {written : List Char} (either : quote = '"' ∨ quote = '\'')
    (escapes : Escapes quote text.toList written) : Quotes text (String.ofList (quote :: (written ++ [quote])))

/-! ## Trees -/

/-- Where an expression is written. -/
inductive Place where
  /-- By itself. -/
  | alone
  /-- Where an expression of at least a tier is demanded. -/
  | under (demand : Tier)

/-- An expression is written at a place as a list of words. -/
inductive Writes : Place → Expr → List String → Prop
  | bare {demand : Tier} {e : Expr} {words : List String} (tight : demand.rank ≤ e.tier.rank)
    (written : Writes .alone e words) : Writes (.under demand) e words
  | group {demand : Tier} {e : Expr} {words : List String} (loose : e.tier.rank < demand.rank)
    (written : Writes .alone e words) : Writes (.under demand) e ("(" :: (words ++ [")"]))
  | null {word : String} (either : word = "null" ∨ word = "nil") : Writes .alone (.literal .null) [word]
  | bool (b : Bool) : Writes .alone (.literal (.bool b)) [if b then "true" else "false"]
  | int (i : Int64) : Writes .alone (.literal (.int i)) [toString i.toInt]
  | string {text word : String} (quotes : Quotes text word) : Writes .alone (.literal (.string text)) [word]
  | root (root : Root) : Writes .alone (.root root) [root.name]
  | list {items : List Expr} {parts : List (List String)} (same : items.length = parts.length)
    (each : ∀ pair ∈ items.zip parts, Writes (.under .conditional) pair.1 pair.2) :
    Writes .alone (.list items) ("[" :: ([","].intercalate parts ++ ["]"]))
  | member {base : Expr} {words : List String} (name : String) (held : Writes (.under .access) base words) :
    Writes .alone (.member base name) (words ++ [".", name])
  | index {base key : Expr} {words inside : List String} (held : Writes (.under .access) base words)
    (found : Writes (.under .conditional) key inside) :
    Writes .alone (.index base key) (words ++ "[" :: (inside ++ ["]"]))
  | call {argument : Expr} {inside : List String} (function : Builtin)
    (given : Writes (.under .conditional) argument inside) :
    Writes .alone (.call function argument) (function.name :: "(" :: (inside ++ [")"]))
  | operator {operator : UnaryOp} {operand : Expr} {word : String} {words : List String}
    (spelled : word ∈ operator.words) (applied : Writes (.under .unary) operand words) :
    Writes .alone (.unary operator operand) (word :: words)
  | joint {e left right : Expr} {joint : Joint} {word : String} {before after : List String}
    (joined : e.sides? = some (joint, left, right)) (spelled : word ∈ joint.words)
    (first : Writes (.under (.level joint.level)) left before)
    (second : Writes (.under joint.level.operandTier) right after) : Writes .alone e (before ++ word :: after)
  | conditional {condition yes no : Expr} {first second third : List String}
    (tested : Writes (.under (.level .or)) condition first) (chosen : Writes (.under .conditional) yes second)
    (other : Writes (.under .conditional) no third) :
    Writes .alone (.conditional condition yes no) (first ++ "?" :: (second ++ ":" :: third))

/-- An expression is written as a text: its words, with single spaces between them. -/
def WrittenAs (e : Expr) (text : String) : Prop :=
  ∃ words, Writes (.under .conditional) e words ∧ text = " ".intercalate words

/-- An expression has a floating-point literal in it. -/
inductive HasFloat : Expr → Prop
  | literal (x : Float) : HasFloat (.literal (.float x))
  | item {items : List Expr} {item : Expr} (listed : item ∈ items) (inside : HasFloat item) : HasFloat (.list items)
  | base {base : Expr} {name : String} (inside : HasFloat base) : HasFloat (.member base name)
  | indexed {base key : Expr} (inside : HasFloat base) : HasFloat (.index base key)
  | key {base key : Expr} (inside : HasFloat key) : HasFloat (.index base key)
  | argument {function : Builtin} {argument : Expr} (inside : HasFloat argument) : HasFloat (.call function argument)
  | operand {operator : UnaryOp} {operand : Expr} (inside : HasFloat operand) : HasFloat (.unary operator operand)
  | left {e left right : Expr} {joint : Joint} (joined : e.sides? = some (joint, left, right))
    (inside : HasFloat left) : HasFloat e
  | right {e left right : Expr} {joint : Joint} (joined : e.sides? = some (joint, left, right))
    (inside : HasFloat right) : HasFloat e
  | condition {condition yes no : Expr} (inside : HasFloat condition) : HasFloat (.conditional condition yes no)
  | yes {condition yes no : Expr} (inside : HasFloat yes) : HasFloat (.conditional condition yes no)
  | no {condition yes no : Expr} (inside : HasFloat no) : HasFloat (.conditional condition yes no)

end MessageRouting.Expr
