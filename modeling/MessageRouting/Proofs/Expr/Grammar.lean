import MessageRouting.Expr.Parser

/-!
# The grammar of expressions

What an expression is, said apart from how it is read. A symbol of the grammar derives lists of tokens, each
with its tree. What may follow an operand on its level, or a base that is accessed, is a symbol of its own that
carries what stands left of it: so the operators of a level group to the left. A condition groups to the right.
-/

namespace MessageRouting.Expr

/-- A kind of token spells a joint on a level. -/
inductive Spells : Level → Joint → TokenKind → Prop
  | orMark : Spells .or .or .orOr
  | orWord : Spells .or .or .or
  | andMark : Spells .and .and .andAnd
  | andWord : Spells .and .and .and
  | equal : Spells .equality (.binary .eq) .eqEq
  | notEqual : Spells .equality (.binary .notEq) .notEq
  | less : Spells .relation (.binary .lt) .lt
  | atMost : Spells .relation (.binary .le) .le
  | greater : Spells .relation (.binary .gt) .gt
  | atLeast : Spells .relation (.binary .ge) .ge
  | contains : Spells .relation (.binary .contains) .contains
  | startsWith : Spells .relation (.binary .startsWith) .startsWith
  | endsWith : Spells .relation (.binary .endsWith) .endsWith
  | among : Spells .relation (.binary .in) .in
  | matching : Spells .relation .matches .matches
  | plus : Spells .sum (.binary .add) .plus
  | minus : Spells .sum (.binary .sub) .minus
  | times : Spells .product (.binary .mul) .star
  | dividedBy : Spells .product (.binary .div) .slash
  | remainder : Spells .product (.binary .rem) .percent

/-- A kind of token spells an operator before one operand. -/
inductive SpellsUnary : UnaryOp → TokenKind → Prop
  | notMark : SpellsUnary .not .bang
  | notWord : SpellsUnary .not .not
  | minus : SpellsUnary .neg .minus

/-- A token is a literal of a value. -/
inductive Denotes : Token → Value → Prop
  | int (i : Int64) (text : String) (column width : Nat) : Denotes ⟨.int i, text, column, width⟩ (.int i)
  | float (x : Float) (text : String) (column width : Nat) :
    Denotes ⟨.float x, text, column, width⟩ (.float x)
  | string (text : String) (column width : Nat) : Denotes ⟨.str, text, column, width⟩ (.string text)
  | true (text : String) (column width : Nat) : Denotes ⟨.true, text, column, width⟩ (.bool true)
  | false (text : String) (column width : Nat) : Denotes ⟨.false, text, column, width⟩ (.bool false)
  | null (text : String) (column width : Nat) : Denotes ⟨.null, text, column, width⟩ .null

/-- The tree of two joined operands. A text on the right of `matches` has to be a valid pattern. -/
inductive Joins (left : Expr) : Joint → Expr → Expr → Prop
  | or (right : Expr) : Joins left .or right (.or left right)
  | and (right : Expr) : Joins left .and right (.and left right)
  | binary (operator : BinaryOp) (right : Expr) :
    Joins left (.binary operator) right (.binary operator left right)
  | fixedPattern (source : String) (pattern : Regex) (valid : Regex.compile? source = some pattern) :
    Joins left .matches (.literal (.string source)) (.matchesStatic left pattern)
  | computedPattern (right : Expr) (computed : ∀ source, right ≠ .literal (.string source)) :
    Joins left .matches right (.matchesDynamic left right)

/-- A symbol of the grammar. -/
inductive Symbol where
  /-- A whole expression. -/
  | expression
  /-- Operands of a level with its joints between them. -/
  | level (level : Level)
  /-- One operand of a level. -/
  | operand (level : Level)
  /-- Further joints and operands of a level, after what stands left of them. -/
  | joints (level : Level) (left : Expr)
  /-- An operand with the operators before it. -/
  | unary
  /-- Members and indices of a base. -/
  | accesses (base : Expr)
  /-- An operand without operators, members and indices. -/
  | primary
  /-- Expressions with commas between them; their tree is a list. -/
  | items

/-- A symbol derives tokens with their tree. -/
inductive Derives : Symbol → List Token → Expr → Prop
  | plain {tokens : List Token} {e : Expr} (whole : Derives (.level .or) tokens e) :
    Derives .expression tokens e
  | conditional {first second third : List Token} {question colon : Token} {condition yes no : Expr}
    (tested : Derives (.level .or) first condition) (asked : question.kind = .question)
    (chosen : Derives .expression second yes) (divided : colon.kind = .colon)
    (other : Derives .expression third no) :
    Derives .expression (first ++ question :: (second ++ colon :: third)) (.conditional condition yes no)
  | level {level : Level} {first rest : List Token} {left e : Expr}
    (begun : Derives (.operand level) first left) (continued : Derives (.joints level left) rest e) :
    Derives (.level level) (first ++ rest) e
  | orOperand {tokens : List Token} {e : Expr} (closer : Derives (.level .and) tokens e) :
    Derives (.operand .or) tokens e
  | andOperand {tokens : List Token} {e : Expr} (closer : Derives (.level .equality) tokens e) :
    Derives (.operand .and) tokens e
  | equalityOperand {tokens : List Token} {e : Expr} (closer : Derives (.level .relation) tokens e) :
    Derives (.operand .equality) tokens e
  | relationOperand {tokens : List Token} {e : Expr} (closer : Derives (.level .sum) tokens e) :
    Derives (.operand .relation) tokens e
  | sumOperand {tokens : List Token} {e : Expr} (closer : Derives (.level .product) tokens e) :
    Derives (.operand .sum) tokens e
  | productOperand {tokens : List Token} {e : Expr} (closer : Derives .unary tokens e) :
    Derives (.operand .product) tokens e
  | noJoint (level : Level) (left : Expr) : Derives (.joints level left) [] left
  | joint {level : Level} {joint : Joint} {token : Token} {operand rest : List Token}
    {left right joined e : Expr} (spelled : Spells level joint token.kind)
    (followed : Derives (.operand level) operand right) (made : Joins left joint right joined)
    (continued : Derives (.joints level joined) rest e) :
    Derives (.joints level left) (token :: (operand ++ rest)) e
  | operator {operator : UnaryOp} {token : Token} {tokens : List Token} {e : Expr}
    (spelled : SpellsUnary operator token.kind) (applied : Derives .unary tokens e) :
    Derives .unary (token :: tokens) (.unary operator e)
  | accessed {first rest : List Token} {base e : Expr} (begun : Derives .primary first base)
    (continued : Derives (.accesses base) rest e) : Derives .unary (first ++ rest) e
  | noAccess (base : Expr) : Derives (.accesses base) [] base
  | member {dot name : Token} {rest : List Token} {base e : Expr} (marked : dot.kind = .dot)
    (named : name.kind = .ident) (continued : Derives (.accesses (.member base name.text)) rest e) :
    Derives (.accesses base) (dot :: name :: rest) e
  | index {opening closing : Token} {inside rest : List Token} {base key e : Expr}
    (opened : opening.kind = .lBracket) (found : Derives .expression inside key)
    (closed : closing.kind = .rBracket) (continued : Derives (.accesses (.index base key)) rest e) :
    Derives (.accesses base) (opening :: (inside ++ closing :: rest)) e
  | literal {token : Token} {value : Value} (meant : Denotes token value) :
    Derives .primary [token] (.literal value)
  | root {token : Token} {root : Root} (word : token.kind = .ident) (named : token.text = root.name) :
    Derives .primary [token] (.root root)
  | call {name opening closing : Token} {inside : List Token} {function : Builtin} {argument : Expr}
    (word : name.kind = .ident) (named : name.text = function.name) (opened : opening.kind = .lParen)
    (given : Derives .expression inside argument) (closed : closing.kind = .rParen) :
    Derives .primary (name :: opening :: (inside ++ [closing])) (.call function argument)
  | group {opening closing : Token} {inside : List Token} {e : Expr} (opened : opening.kind = .lParen)
    (held : Derives .expression inside e) (closed : closing.kind = .rParen) :
    Derives .primary (opening :: (inside ++ [closing])) e
  | emptyList {opening closing : Token} (opened : opening.kind = .lBracket)
    (closed : closing.kind = .rBracket) : Derives .primary [opening, closing] (.list [])
  | list {opening closing : Token} {inside : List Token} {e : Expr} (opened : opening.kind = .lBracket)
    (held : Derives .items inside e) (closed : closing.kind = .rBracket) :
    Derives .primary (opening :: (inside ++ [closing])) e
  | lastItem {tokens : List Token} {item : Expr} (found : Derives .expression tokens item) :
    Derives .items tokens (.list [item])
  | item {comma : Token} {first rest : List Token} {item : Expr} {items : List Expr}
    (found : Derives .expression first item) (divided : comma.kind = .comma)
    (continued : Derives .items rest (.list items)) :
    Derives .items (first ++ comma :: rest) (.list (item :: items))

/-! ## Texts -/

/-- Tokens are a literal of a text, in parentheses or not. -/
inductive Quoted (text : String) : List Token → Prop
  | literal {token : Token} (quoted : token.kind = .str) (same : token.text = text) : Quoted text [token]
  | group {opening closing : Token} {inside : List Token} (opened : opening.kind = .lParen)
    (held : Quoted text inside) (closed : closing.kind = .rParen) :
    Quoted text (opening :: (inside ++ [closing]))

/-- A joint never makes a literal. -/
theorem Joins.ne_literal {left right joined : Expr} {joint : Joint} (made : Joins left joint right joined)
    (value : Value) : joined ≠ .literal value := by
  cases made <;> nofun

/-- What stands where the tree is a text: a literal of it, or nothing after it. -/
def Symbol.TextAt (text : String) : Symbol → List Token → Prop
  | .joints _ left, tokens => tokens = [] ∧ left = .literal (.string text)
  | .accesses base, tokens => tokens = [] ∧ base = .literal (.string text)
  | _, tokens => Quoted text tokens

/-- Where the tree is a text, there stands a literal of it. -/
theorem Derives.textAt {symbol : Symbol} {tokens : List Token} {e : Expr} {text : String}
    (derived : Derives symbol tokens e) : e = .literal (.string text) → symbol.TextAt text tokens := by
  induction derived with
  | plain _ ih | orOperand _ ih | andOperand _ ih | equalityOperand _ ih | relationOperand _ ih
  | sumOperand _ ih | productOperand _ ih => exact ih
  | level _ _ begun continued | accessed _ _ begun continued =>
    intro same
    obtain ⟨rfl, rfl⟩ := continued same
    rw [List.append_nil]
    exact begun rfl
  | noJoint | noAccess => exact fun same => ⟨rfl, same⟩
  | joint _ _ made _ _ continued => exact fun same => absurd (continued same).2 (made.ne_literal _)
  | member _ _ _ continued => exact fun same => nomatch (continued same).2
  | index _ _ _ _ _ continued => exact fun same => nomatch (continued same).2
  | literal meant =>
    intro same
    cases meant <;> cases same
    exact .literal rfl rfl
  | group opened _ closed held => exact fun same => .group opened (held same) closed
  | list _ derived _ =>
    intro same
    subst same
    cases derived
  | conditional | operator | root | call | emptyList | lastItem | item => nofun

/-- An operand without operators is an operand of each level. -/
theorem Derives.operand {tokens : List Token} {e : Expr} (derived : Derives .primary tokens e) (level : Level) :
    Derives (.operand level) tokens e := by
  have ended {closer : Level} (inner : Derives (.operand closer) tokens e) : Derives (.level closer) tokens e := by
    simpa using Derives.level inner (.noJoint closer e)
  have product : Derives (.operand .product) tokens e :=
    .productOperand (by simpa using Derives.accessed derived (.noAccess e))
  have sum := Derives.sumOperand (ended product)
  have relation := Derives.relationOperand (ended sum)
  have equality := Derives.equalityOperand (ended relation)
  have and := Derives.andOperand (ended equality)
  cases level with
  | product => exact product
  | sum => exact sum
  | relation => exact relation
  | equality => exact equality
  | and => exact and
  | or => exact .orOperand (ended and)

/-- A literal of a text is derived, in parentheses or not. -/
theorem Quoted.derives {text : String} {tokens : List Token} (quoted : Quoted text tokens) :
    Derives .primary tokens (.literal (.string text)) := by
  induction quoted with
  | @literal token kind same =>
    obtain ⟨_, _, column, width⟩ := token
    subst kind same
    exact .literal (.string _ column width)
  | group opened _ closed derived =>
    exact .group opened (.plain (by simpa using Derives.level (derived.operand .or) (.noJoint .or _))) closed

/-- The right side of `matches` is a text exactly if it is a literal, in parentheses or not. -/
theorem derives_text_iff {text : String} {tokens : List Token} :
    Derives (.operand .relation) tokens (.literal (.string text)) ↔ Quoted text tokens :=
  ⟨fun derived => derived.textAt rfl, fun quoted => quoted.derives.operand .relation⟩

/-! ## Items -/

/-- The tree of items is a list. -/
theorem Derives.items_eq_list {tokens : List Token} {e : Expr} (derived : Derives .items tokens e) :
    ∃ items, e = .list items := by
  cases derived with
  | lastItem => exact ⟨_, rfl⟩
  | item => exact ⟨_, rfl⟩

/-- There is no list of no items. -/
theorem Derives.items_ne_nil {tokens : List Token} {items : List Expr}
    (derived : Derives .items tokens (.list items)) : items ≠ [] := by
  cases derived <;> simp

/-- A list of one item is derived like the item. -/
theorem Derives.single {tokens : List Token} {item : Expr} (derived : Derives .items tokens (.list [item])) :
    Derives .expression tokens item := by
  cases derived with
  | lastItem found => exact found
  | item _ _ continued => exact absurd rfl continued.items_ne_nil

/-! ## The tables of the parser -/

/-- The parser knows exactly the spellings of the joints. -/
theorem joint?_eq_some_iff {level : Level} {kind : TokenKind} {joint : Joint} :
    level.joint? kind = some joint ↔ Spells level joint kind := by
  constructor
  · intro found
    unfold Level.joint? at found
    split at found <;> simp only [Option.some.injEq, reduceCtorEq] at found <;> subst found <;> constructor
  · intro spelled
    cases spelled <;> rfl

/-- The parser knows exactly the spellings of the operators before an operand. -/
theorem unary?_eq_some_iff {kind : TokenKind} {operator : UnaryOp} :
    unary? kind = some operator ↔ SpellsUnary operator kind := by
  constructor
  · intro found
    unfold unary? at found
    split at found <;> simp only [Option.some.injEq, reduceCtorEq] at found <;> subst found <;> constructor
  · intro spelled
    cases spelled <;> rfl

/-- The parser knows exactly the literals. -/
theorem literal?_eq_some_iff {token : Token} {value : Value} :
    literal? token = some value ↔ Denotes token value := by
  constructor
  · intro found
    obtain ⟨kind, text, column, width⟩ := token
    unfold literal? at found
    split at found <;> simp only [Option.some.injEq, reduceCtorEq] at found <;> subst found <;>
      rename_i same <;> simp only at same <;> subst same <;> constructor
  · intro meant
    cases meant <;> rfl

/-- The parser makes exactly the trees of joined operands, wherever the right one stands. -/
theorem join_eq_ok_iff {column : Nat} {joint : Joint} {left right joined : Expr} :
    joint.join column left right = .ok joined ↔ Joins left joint right joined := by
  constructor
  · intro made
    unfold Joint.join at made
    split at made
    case h_4 =>
      split at made
      case h_1 source =>
        split at made
        case h_1 pattern valid =>
          obtain rfl := Except.ok.inj made
          exact .fixedPattern source pattern valid
        case h_2 => contradiction
      case h_2 computed =>
        obtain rfl := Except.ok.inj made
        exact .computedPattern right computed
    all_goals
      obtain rfl := Except.ok.inj made
      constructor
  · intro made
    cases made with
    | fixedPattern source pattern valid => simp only [Joint.join, valid]
    | computedPattern right computed =>
      simp only [Joint.join]
    | _ => rfl

/-- A function is found by its name and by no other text. -/
theorem builtin_named?_eq_some_iff {name : String} {function : Builtin} :
    Builtin.named? name = some function ↔ name = function.name := by
  constructor
  · intro found
    have same := List.find?_some (show Builtin.all.find? (·.name == name) = some function from found)
    exact (beq_iff_eq.1 same).symm
  · rintro rfl
    cases function <;> rfl

/-- A root is found by its name and by no other text. -/
theorem root_named?_eq_some_iff {name : String} {root : Root} :
    Root.named? name = some root ↔ name = root.name := by
  constructor
  · intro found
    have same := List.find?_some (show Root.all.find? (·.name == name) = some root from found)
    exact (beq_iff_eq.1 same).symm
  · rintro rfl
    cases root <;> rfl

end MessageRouting.Expr
