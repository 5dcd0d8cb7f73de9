import MessageRouting.Json.Basic
import MessageRouting.Number.Digit
import MessageRouting.Number.FloatText

/-!
# Writing JSON

A document is written without blanks, or with one item a line, two blanks deeper for each level. Empty lists
and objects take no lines of their own.
-/

namespace MessageRouting.Json

/-- A character inside a string: quotes, backslashes and controls are escaped. -/
def escapeChar (c : Char) : List Char :=
  if c == '"' then ['\\', '"']
  else if c == '\\' then ['\\', '\\']
  else if c == '\x08' then ['\\', 'b']
  else if c == '\x0c' then ['\\', 'f']
  else if c == '\n' then ['\\', 'n']
  else if c == '\r' then ['\\', 'r']
  else if c == '\t' then ['\\', 't']
  else if c.toNat < 0x20 then ['\\', 'u', '0', '0'] ++ Number.hexPair c.toNat.toUInt8
  else [c]

/-- A string in quotes. -/
def quoted (text : String) : List Char := '"' :: text.toList.flatMap escapeChar ++ ['"']

/-- How a document is laid out. -/
inductive Layout where
  /-- Without blanks. -/
  | compact
  /-- One item a line. -/
  | lines
  deriving Repr, DecidableEq

/-- What stands before an item at a depth. -/
def Layout.lineStart (layout : Layout) (depth : Nat) : List Char :=
  match layout with
  | .compact => []
  | .lines => '\n' :: List.replicate (2 * depth) ' '

/-- What stands between a name and its value. -/
def Layout.colon : Layout → List Char
  | .compact => [':']
  | .lines => [':', ' ']

/-- Written items between brackets. -/
def bracketed (layout : Layout) (depth : Nat) (left right : Char) (items : List (List Char)) :
    List Char :=
  match items with
  | [] => [left, right]
  | _ =>
    let placed := items.map (layout.lineStart (depth + 1) ++ ·)
    left :: [','].intercalate placed ++ layout.lineStart depth ++ [right]

mutual

/-- The characters of a document at a depth. -/
def write (layout : Layout) (depth : Nat) : Json → List Char
  | null => "null".toList
  | bool b => if b then "true".toList else "false".toList
  | integer n => (toString n).toList
  | float x => (Number.writeFloat .json x).toList
  | string text => quoted text
  | array items => bracketed layout depth '[' ']' (writeItems layout (depth + 1) items)
  | object members => bracketed layout depth '\x7b' '\x7d' (writeMembers layout (depth + 1) members)

/-- The characters of each item at a depth. -/
def writeItems (layout : Layout) (depth : Nat) : List Json → List (List Char)
  | [] => []
  | item :: rest => write layout depth item :: writeItems layout depth rest

/-- The characters of each member at a depth. -/
def writeMembers (layout : Layout) (depth : Nat) : List (String × Json) → List (List Char)
  | [] => []
  | (name, item) :: rest =>
    (quoted name ++ layout.colon ++ write layout depth item) :: writeMembers layout depth rest

end

/-- The text of a document. -/
def text (layout : Layout) (json : Json) : String := String.ofList (json.write layout 0)

end MessageRouting.Json
