import MessageRouting.Failure
import MessageRouting.Text.LetterCase

/-!
# Kinds of values

The thirteen kinds in their order, with the names by which texts may call them.
-/

namespace MessageRouting

/-- A kind of value. -/
inductive Kind where
  | null
  | bool
  | int
  | float
  | string
  | bytes
  | time
  | duration
  | error
  | list
  | map
  | object
  | shared
  deriving Repr, DecidableEq

namespace Kind

/-- Every kind, in order. -/
def all : List Kind :=
  [null, bool, int, float, string, bytes, time, duration, error, list, map, object, shared]

/-- The place of a kind in the order. -/
def place (kind : Kind) : Nat := all.idxOf kind

/-- The name of a kind. -/
def name : Kind → String
  | null => "null"
  | bool => "bool"
  | int => "int"
  | float => "float"
  | string => "string"
  | bytes => "bytes"
  | time => "time"
  | duration => "duration"
  | error => "error"
  | list => "list"
  | map => "map"
  | object => "object"
  | shared => "shared"

/-- The other names of the kinds. -/
def aliases : List (String × Kind) :=
  [("nil", null), ("boolean", bool), ("integer", int), ("i64", int), ("long", int),
   ("double", float), ("f64", float), ("str", string), ("[]byte", bytes), ("datetime", time),
   ("timestamp", time), ("array", list), ("object_map", map)]

/-- The kind of a name in small letters. -/
def named? (name : String) : Option Kind :=
  (all.find? (·.name == name)).or (aliases.lookup name)

/-- The kind that a text names, in letters of either case and with blanks around it. -/
def parse (text : String) : Except Fault Kind :=
  let name := Text.toAsciiLower (Text.trim text)
  match named? name with
  | some kind => .ok kind
  | none => .error (.conversion name "type" "unknown type name")

end Kind

end MessageRouting
