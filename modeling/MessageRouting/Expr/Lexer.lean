import MessageRouting.Expr.Token
import MessageRouting.Number.FloatText
import MessageRouting.Text.Property

/-!
# From a source to tokens

The source is read once from the left. At each character that is not inside a token the next token is
found with its width, and the characters it covers are passed over. White space between tokens is passed
over; the list ends with one token for the end of the source.
-/

namespace MessageRouting.Expr

open Text Number

/-- What a character after a backslash stands for. -/
def escaped : Char → Char
  | 'n' => '\n'
  | 't' => '\t'
  | 'r' => '\r'
  | c => c

/-- Reads a string after its opening quote; the result counts the characters up to the closing quote
and that quote itself. -/
def readString (quote : Char) : List Char → Except CompileFault (List Char × Nat)
  | [] => .error .unterminatedString
  | ['\\'] => .error .unterminatedEscape
  | '\\' :: c :: rest =>
    (readString quote rest).map fun (text, width) => (escaped c :: text, width + 2)
  | c :: rest =>
    if c = quote then .ok ([], 1)
    else (readString quote rest).map fun (text, width) => (c :: text, width + 1)

/-- The ASCII decimal digits. -/
def isDigit (c : Char) : Bool := (digit? c).isSome

/-- The characters of a number: digits and underscores, and one point that a digit follows. The result
says whether there is a point. -/
def numberSpan : Bool → List Char → List Char × Bool
  | point, [] => ([], point)
  | point, c :: rest =>
    if isDigit c || c == '_' then
      let (span, float) := numberSpan point rest
      (c :: span, float)
    else if c == '.' && !point && rest.head?.any isDigit then
      let (span, float) := numberSpan true rest
      (c :: span, float)
    else ([], point)

/-- Reads a number. -/
def readNumber (column : Nat) (source : List Char) : Except CompileFault Token :=
  let (span, point) := numberSpan false source
  let text := String.ofList (span.filter (· != '_'))
  if point then
    match readFloat text with
    | .ok x => .ok ⟨.float x, text, column, span.length⟩
    | .error fault => .error (.invalidNumber text fault.message)
  else
    match readInt64 text with
    | .ok i => .ok ⟨.int i, text, column, span.length⟩
    | .error fault => .error (.invalidNumber text fault.message)

/-- A character that may begin a name. -/
def beginsName (c : Char) : Bool := isAlphabetic c || c == '_'

/-- A character that may continue a name. -/
def continuesName (c : Char) : Bool := isAlphanumeric c || c == '_'

/-- Reads a name or keyword. -/
def readName (column : Nat) (source : List Char) : Token :=
  let span := source.takeWhile continuesName
  let text := String.ofList span
  ⟨(keywords.lookup text).getD .ident, text, column, span.length⟩

/-- The token at the start of a source that begins with the given character. -/
def readToken (column : Nat) (c : Char) (rest : List Char) : Except CompileFault Token :=
  match rest.head?.bind fun d => pairs.lookup (c, d) with
  | some kind => .ok ⟨kind, String.ofList (c :: rest.take 1), column, 2⟩
  | none =>
    if isDigit c || (c == '.' && rest.head?.any isDigit) then readNumber column (c :: rest)
    else
      match singles.lookup c with
      | some kind => .ok ⟨kind, String.ofList [c], column, 1⟩
      | none =>
        if c == '"' || c == '\'' then
          (readString c rest).map fun (text, width) => ⟨.str, String.ofList text, column, width + 1⟩
        else if beginsName c then .ok (readName column (c :: rest))
        else .error (.unexpectedCharacter c)

/-- The tokens of the rest of a source, whose first `inside` characters belong to a token already read. -/
def tokensFrom : Nat → Nat → List Char → Except Misplaced (List Token)
  | _, column, [] => .ok [⟨.eof, "", column, 0⟩]
  | inside + 1, column, _ :: rest => tokensFrom inside (column + 1) rest
  | 0, column, c :: rest =>
    if isBlank c then tokensFrom 0 (column + 1) rest
    else
      match readToken column c rest with
      | .error fault => .error ⟨column, fault⟩
      | .ok token => (tokensFrom (token.width - 1) (column + 1) rest).map (token :: ·)

/-- The tokens of a source. -/
def tokenize (source : String) : Except Misplaced (List Token) := tokensFrom 0 1 source.toList

end MessageRouting.Expr
