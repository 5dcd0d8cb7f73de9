import MessageRouting.Expr.Lexer
import MessageRouting.Expr.Syntax

/-!
# From tokens to expressions

Operators bind in six levels, from `or` over `and`, equality, relations and sums to products; each level
groups to the left. Unary operators bind closer, members and indices closest. A condition with `?` and
`:` is loosest and groups to the right. The parser goes down the levels; its first argument bounds the
depth of the descent.
-/

namespace MessageRouting.Expr

/-- A level of operators between two operands, loosest first. -/
inductive Level where
  | or
  | and
  | equality
  | relation
  | sum
  | product
  deriving Repr, DecidableEq

/-- The next closer level. -/
def Level.closer? : Level → Option Level
  | .or => some .and
  | .and => some .equality
  | .equality => some .relation
  | .relation => some .sum
  | .sum => some .product
  | .product => none

/-- How an operator joins its two operands. -/
inductive Joint where
  | or
  | and
  | binary (operator : BinaryOp)
  | matches
  deriving Repr, DecidableEq

/-- The joint a token stands for on a level. -/
def Level.joint? : Level → TokenKind → Option Joint
  | .or, .orOr => some .or
  | .or, .or => some .or
  | .and, .andAnd => some .and
  | .and, .and => some .and
  | .equality, .eqEq => some (.binary .eq)
  | .equality, .notEq => some (.binary .notEq)
  | .relation, .lt => some (.binary .lt)
  | .relation, .le => some (.binary .le)
  | .relation, .gt => some (.binary .gt)
  | .relation, .ge => some (.binary .ge)
  | .relation, .contains => some (.binary .contains)
  | .relation, .startsWith => some (.binary .startsWith)
  | .relation, .endsWith => some (.binary .endsWith)
  | .relation, .in => some (.binary .in)
  | .relation, .matches => some .matches
  | .sum, .plus => some (.binary .add)
  | .sum, .minus => some (.binary .sub)
  | .product, .star => some (.binary .mul)
  | .product, .slash => some (.binary .div)
  | .product, .percent => some (.binary .rem)
  | _, _ => none

/-- Joins two operands; a text on the right of `matches` is compiled at once, and `column` is where it
stands. -/
def Joint.join (column : Nat) (left right : Expr) : Joint → Except Misplaced Expr
  | .or => .ok (.or left right)
  | .and => .ok (.and left right)
  | .binary operator => .ok (.binary operator left right)
  | .matches =>
    match right with
    | .literal (.string source) =>
      match Regex.compile? source with
      | some pattern => .ok (.matchesStatic left pattern)
      | none => .error ⟨column, .invalidPattern (Regex.diagnostics source)⟩
    | computed => .ok (.matchesDynamic left computed)

/-- The literal a token stands for. -/
def literal? (token : Token) : Option Value :=
  match token.kind with
  | .int i => some (.int i)
  | .float x => some (.float x)
  | .str => some (.string token.text)
  | .true => some (.bool true)
  | .false => some (.bool false)
  | .null => some .null
  | _ => none

/-- The unary operator a token stands for. -/
def unary? : TokenKind → Option UnaryOp
  | .bang => some .not
  | .not => some .not
  | .minus => some .neg
  | _ => none

/-- The column of the first token. -/
def columnOf (tokens : List Token) : Nat := (tokens.head?.map Token.column).getD 0

/-- What stands where something else is expected. -/
def foundAt (tokens : List Token) : Option String :=
  match tokens with
  | [] => none
  | token :: _ =>
    match token.kind with
    | .eof => none
    | _ => some token.text

/-- The fault of a missing token. -/
def missing (tokens : List Token) (what : String) : Misplaced :=
  ⟨columnOf tokens, .expected what (foundAt tokens)⟩

/-- Reads a root of the exchange. -/
def readRoot (token : Token) : Except Misplaced Expr :=
  match Root.named? token.text with
  | some found => .ok (.root found)
  | none => .error ⟨token.column, .unknownRoot token.text (Root.all.map Root.name)⟩

/-- Makes a call, if the number of arguments is right. -/
def makeCall (name : Token) (function : Builtin) (arguments : List Expr) : Except Misplaced Expr :=
  match arguments with
  | [argument] => .ok (.call function argument)
  | other => .error ⟨name.column, .arity name.text Builtin.arity other.length⟩

mutual

/-- Reads an expression. -/
def parseExpr : Nat → List Token → Except Misplaced (Expr × List Token)
  | 0, tokens => .error ⟨columnOf tokens, .unexpectedEnd⟩
  | depth + 1, tokens =>
    match parseLevel depth .or tokens with
    | .error e => .error e
    | .ok (condition, tokens) =>
      match tokens with
      | ⟨.question, _, _, _⟩ :: rest =>
        match parseExpr depth rest with
        | .error e => .error e
        | .ok (yes, ⟨.colon, _, _, _⟩ :: rest) =>
          match parseExpr depth rest with
          | .error e => .error e
          | .ok (no, rest) => .ok (.conditional condition yes no, rest)
        | .ok (_, rest) => .error (missing rest "':' in conditional expression")
      | _ => .ok (condition, tokens)

/-- Reads the operands of a level and their joints. -/
def parseLevel : Nat → Level → List Token → Except Misplaced (Expr × List Token)
  | 0, _, tokens => .error ⟨columnOf tokens, .unexpectedEnd⟩
  | depth + 1, level, tokens =>
    match parseOperand depth level tokens with
    | .error e => .error e
    | .ok (first, rest) => parseJoints depth level first rest

/-- Reads an operand of a level. -/
def parseOperand : Nat → Level → List Token → Except Misplaced (Expr × List Token)
  | 0, _, tokens => .error ⟨columnOf tokens, .unexpectedEnd⟩
  | depth + 1, level, tokens =>
    match level.closer? with
    | some closer => parseLevel depth closer tokens
    | none => parseUnary depth tokens

/-- Reads further joints and operands of a level onto what stands left of them. -/
def parseJoints : Nat → Level → Expr → List Token → Except Misplaced (Expr × List Token)
  | 0, _, _, tokens => .error ⟨columnOf tokens, .unexpectedEnd⟩
  | _ + 1, _, left, [] => .ok (left, [])
  | depth + 1, level, left, token :: rest =>
    match level.joint? token.kind with
    | none => .ok (left, token :: rest)
    | some joint =>
      match parseOperand depth level rest with
      | .error e => .error e
      | .ok (right, tail) =>
        match joint.join (columnOf rest) left right with
        | .error e => .error e
        | .ok joined => parseJoints depth level joined tail

/-- Reads unary operators and what they stand before. -/
def parseUnary : Nat → List Token → Except Misplaced (Expr × List Token)
  | 0, tokens => .error ⟨columnOf tokens, .unexpectedEnd⟩
  | _ + 1, [] => .error ⟨0, .unexpectedEnd⟩
  | depth + 1, token :: rest =>
    match unary? token.kind with
    | some operator =>
      match parseUnary depth rest with
      | .error e => .error e
      | .ok (operand, tail) => .ok (.unary operator operand, tail)
    | none =>
      match parsePrimary depth token rest with
      | .error e => .error e
      | .ok (base, tail) => parseAccess depth base tail

/-- Reads members and indices onto what stands left of them. -/
def parseAccess : Nat → Expr → List Token → Except Misplaced (Expr × List Token)
  | 0, _, tokens => .error ⟨columnOf tokens, .unexpectedEnd⟩
  | depth + 1, base, tokens =>
    match tokens with
    | ⟨.dot, _, _, _⟩ :: ⟨.ident, name, _, _⟩ :: rest => parseAccess depth (.member base name) rest
    | ⟨.dot, _, _, _⟩ :: rest => .error (missing rest "member name after '.'")
    | ⟨.lBracket, _, _, _⟩ :: rest =>
      match parseExpr depth rest with
      | .error e => .error e
      | .ok (key, ⟨.rBracket, _, _, _⟩ :: rest) => parseAccess depth (.index base key) rest
      | .ok (_, rest) => .error (missing rest "']'")
    | _ => .ok (base, tokens)

/-- Reads an operand that begins with the given token. -/
def parsePrimary : Nat → Token → List Token → Except Misplaced (Expr × List Token)
  | 0, token, _ => .error ⟨token.column, .unexpectedEnd⟩
  | depth + 1, token, tokens =>
    match token.kind, tokens with
    | .lParen, tokens =>
      match parseExpr depth tokens with
      | .error e => .error e
      | .ok (inner, ⟨.rParen, _, _, _⟩ :: rest) => .ok (inner, rest)
      | .ok (_, rest) => .error (missing rest "')'")
    | .lBracket, ⟨.rBracket, _, _, _⟩ :: rest => .ok (.list [], rest)
    | .lBracket, tokens =>
      match parseItems depth tokens with
      | .error e => .error e
      | .ok (items, ⟨.rBracket, _, _, _⟩ :: rest) => .ok (.list items, rest)
      | .ok (_, rest) => .error (missing rest "']' closing list literal")
    | .ident, ⟨.lParen, _, _, _⟩ :: rest =>
      match Builtin.named? token.text with
      | none => .error ⟨token.column, .unknownFunction token.text⟩
      | some function =>
        match rest with
        | ⟨.rParen, _, _, _⟩ :: tail => (makeCall token function []).map (·, tail)
        | _ =>
          match parseItems depth rest with
          | .error e => .error e
          | .ok (arguments, ⟨.rParen, _, _, _⟩ :: tail) =>
            (makeCall token function arguments).map (·, tail)
          | .ok (_, tail) => .error (missing tail "')' closing argument list")
    | .ident, tokens => (readRoot token).map (·, tokens)
    | .eof, _ => .error ⟨token.column, .unexpectedEnd⟩
    | _, tokens =>
      match literal? token with
      | some value => .ok (.literal value, tokens)
      | none => .error ⟨token.column, .unexpectedToken token.text⟩

/-- Reads expressions with commas between them. -/
def parseItems : Nat → List Token → Except Misplaced (List Expr × List Token)
  | 0, tokens => .error ⟨columnOf tokens, .unexpectedEnd⟩
  | depth + 1, tokens =>
    match parseExpr depth tokens with
    | .error e => .error e
    | .ok (item, ⟨.comma, _, _, _⟩ :: rest) =>
      match parseItems depth rest with
      | .error e => .error e
      | .ok (items, rest) => .ok (item :: items, rest)
    | .ok (item, rest) => .ok ([item], rest)

end

/-- A depth that is enough for the given tokens. -/
def depthFor (tokens : List Token) : Nat := 20 * (tokens.length + 1)

/-- Reads an expression that the end of the source follows. -/
def parseTokens (tokens : List Token) : Except Misplaced Expr :=
  match tokens with
  | ⟨.eof, _, _, _⟩ :: _ => .error ⟨1, .empty⟩
  | _ =>
    match parseExpr (depthFor tokens) tokens with
    | .error e => .error e
    | .ok (expr, ⟨.eof, _, _, _⟩ :: _) => .ok expr
    | .ok (_, rest) => .error ⟨columnOf rest, .trailing ((foundAt rest).getD "")⟩

/-- Compiles an expression. -/
def parse (source : String) : Except Misplaced Expr :=
  match tokenize source with
  | .error e => .error e
  | .ok tokens => parseTokens tokens

end MessageRouting.Expr
