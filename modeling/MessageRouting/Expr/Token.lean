import MessageRouting.Failure

/-!
# Tokens of expressions

The words and marks of the expression language. Operators, marks and keywords are listed with their
spellings; a token keeps where it begins and how many characters of the source it covers.
-/

namespace MessageRouting.Expr

/-- What a token is. -/
inductive TokenKind where
  | int (i : Int64)
  | float (x : Float)
  | str
  | ident
  | «true»
  | «false»
  | null
  | and
  | or
  | not
  | contains
  | startsWith
  | endsWith
  | «in»
  | matches
  | lParen
  | rParen
  | lBracket
  | rBracket
  | dot
  | comma
  | question
  | colon
  | plus
  | minus
  | star
  | slash
  | percent
  | bang
  | eqEq
  | notEq
  | lt
  | le
  | gt
  | ge
  | andAnd
  | orOr
  | eof
  deriving Repr

/-- A token. -/
structure Token where
  /-- What it is. -/
  kind : TokenKind
  /-- Its text: of a string what it stands for, of a number its digits, else the source. -/
  text : String
  /-- The place of its first character, counted from 1. -/
  column : Nat
  /-- How many characters of the source it covers. -/
  width : Nat
  deriving Repr

/-- The keywords. -/
def keywords : List (String × TokenKind) :=
  [("true", .true), ("false", .false), ("null", .null), ("nil", .null), ("and", .and), ("or", .or),
   ("not", .not), ("contains", .contains), ("startsWith", .startsWith), ("endsWith", .endsWith),
   ("in", .in), ("matches", .matches)]

/-- The operators of two characters. -/
def pairs : List ((Char × Char) × TokenKind) :=
  [(('=', '='), .eqEq), (('!', '='), .notEq), (('<', '='), .le), (('>', '='), .ge),
   (('&', '&'), .andAnd), (('|', '|'), .orOr)]

/-- The operators and marks of one character. -/
def singles : List (Char × TokenKind) :=
  [('(', .lParen), (')', .rParen), ('[', .lBracket), (']', .rBracket), (',', .comma),
   ('?', .question), (':', .colon), ('+', .plus), ('-', .minus), ('*', .star), ('/', .slash),
   ('%', .percent), ('!', .bang), ('<', .lt), ('>', .gt), ('.', .dot)]

/-- What is wrong with an expression, beside the place. -/
inductive CompileFault where
  /-- No token begins with the character. -/
  | unexpectedCharacter (c : Char)
  /-- A string has no closing quote. -/
  | unterminatedString
  /-- A string ends inside an escape. -/
  | unterminatedEscape
  /-- A number is out of bounds. -/
  | invalidNumber (text reason : String)
  /-- There is no token. -/
  | empty
  /-- A token follows the whole expression. -/
  | trailing (text : String)
  /-- The tokens end where an operand should stand. -/
  | unexpectedEnd
  /-- No operand begins with the token. -/
  | unexpectedToken (text : String)
  /-- An identifier is no root. -/
  | unknownRoot (name : String) (roots : List String)
  /-- An identifier before a parenthesis is no function. -/
  | unknownFunction (name : String)
  /-- A function has the wrong number of arguments. -/
  | arity (name : String) (wanted given : Nat)
  /-- Another token should stand here. -/
  | expected (what : String) (found : Option String)
  /-- A pattern is not well formed. -/
  | invalidPattern (diagnostics : String)
  deriving Repr, DecidableEq

/-- The wording of what is wrong. -/
def CompileFault.message : CompileFault → String
  | .unexpectedCharacter c => s!"unexpected character '{c}'"
  | .unterminatedString => "unterminated string literal"
  | .unterminatedEscape => "unterminated escape sequence"
  | .invalidNumber text reason => s!"invalid number '{text}': {reason}"
  | .empty => "empty expression"
  | .trailing text => s!"unexpected trailing input '{text}'"
  | .unexpectedEnd => "unexpected end of expression"
  | .unexpectedToken text => s!"unexpected token '{text}'"
  | .unknownRoot name roots =>
    s!"unknown identifier '{name}' (expected one of: " ++ ", ".intercalate roots ++ ")"
  | .unknownFunction name => s!"unknown function '{name}'"
  | .arity name wanted given => s!"function '{name}' expects {wanted} argument(s), got {given}"
  | .expected what none => s!"expected {what}, found end of expression"
  | .expected what (some text) => s!"expected {what}, found '{text}'"
  | .invalidPattern diagnostics => s!"invalid regex: {diagnostics}"

/-- A fault at a place of a source. -/
structure Misplaced where
  /-- The place, counted in characters from 1. -/
  column : Nat
  /-- What is wrong there. -/
  fault : CompileFault
  deriving Repr, DecidableEq

/-- The framework's fault for a source with something wrong in it. -/
def Misplaced.toFault (source : String) (m : Misplaced) : Fault :=
  .expressionCompile source m.column m.fault.message

end MessageRouting.Expr
