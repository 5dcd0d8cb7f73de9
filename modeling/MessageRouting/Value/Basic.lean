import MessageRouting.History
import MessageRouting.Number.Binary
import MessageRouting.Table
import MessageRouting.Time.Timestamp
import MessageRouting.Value.Kind

/-!
# Values

What a message carries: plain data, points in time and durations, failures, lists and maps, objects that
the embedding program owns, and payloads that are shared and known by their name only.
-/

namespace MessageRouting

open Time

/-- An object that is copied with the value that holds it. -/
inductive Payload where
  /-- A record of the embedding program with one text. -/
  | text (text : String)
  /-- A message history. -/
  | history (records : History)
  deriving Repr, DecidableEq

/-- A value. -/
inductive Value where
  | null
  | bool (b : Bool)
  | int (i : Int64)
  | float (x : Float)
  | string (text : String)
  | bytes (octets : ByteArray)
  | time (t : Timestamp)
  | duration (d : Duration)
  | error (e : Raised)
  | list (items : List Value)
  | map (entries : List (String × Value))
  | object (payload : Payload)
  | shared (name : String)

instance : Inhabited Value := ⟨.null⟩

namespace Value

/-- The kind of a value. -/
def kind : Value → Kind
  | null => .null
  | bool _ => .bool
  | int _ => .int
  | float _ => .float
  | string _ => .string
  | bytes _ => .bytes
  | time _ => .time
  | duration _ => .duration
  | error _ => .error
  | list _ => .list
  | map _ => .map
  | object _ => .object
  | shared _ => .shared

/-- The value is null. -/
def isNull : Value → Bool
  | null => true
  | _ => false

/-- The text of a string. -/
def string? : Value → Option String
  | string text => some text
  | _ => none

/-- The number of an integer. -/
def int? : Value → Option Int64
  | int i => some i
  | _ => none

/-- The number of a float or an integer. -/
def float? : Value → Option Float
  | float x => some x
  | int i => some (Number.ofInt64 i)
  | _ => none

/-- The truth value of a bool. -/
def bool? : Value → Option Bool
  | bool b => some b
  | _ => none

/-- The failure of an error. -/
def error? : Value → Option Raised
  | error e => some e
  | _ => none

/-- The items of a list. -/
def list? : Value → Option (List Value)
  | list items => some items
  | _ => none

/-- The entries of a map. -/
def map? : Value → Option (Table Value)
  | map entries => some entries
  | _ => none

/-- The octets of bytes or of a string in UTF-8. -/
def octets? : Value → Option ByteArray
  | bytes octets => some octets
  | string text => some text.toUTF8
  | _ => none

/-- An integer from a natural number that wraps around at 2^64. -/
def ofNat (n : Nat) : Value := int (Int64.ofNat n)

mutual

/-- Two values are equal. Numbers are compared across kinds, failures and shared payloads by identity,
and objects are equal to nothing. -/
def equal : Value → Value → Bool
  | null, null => true
  | bool a, bool b => a == b
  | int a, int b => a == b
  | float a, float b => a == b
  | int a, float b => Number.ofInt64 a == b
  | float a, int b => Number.ofInt64 b == a
  | string a, string b => a == b
  | bytes a, bytes b => a == b
  | time a, time b => a == b
  | duration a, duration b => a == b
  | error a, error b => a.same b
  | list a, list b => equalItems a b
  | map a, map b => equalEntries a b
  | shared a, shared b => a == b
  | _, _ => false

/-- Two lists have equal items. -/
def equalItems : List Value → List Value → Bool
  | [], [] => true
  | a :: restA, b :: restB => equal a b && equalItems restA restB
  | _, _ => false

/-- Two maps have the same names with equal values. -/
def equalEntries : List (String × Value) → List (String × Value) → Bool
  | [], [] => true
  | (nameA, a) :: restA, (nameB, b) :: restB => nameA == nameB && equal a b && equalEntries restA restB
  | _, _ => false

end

instance : BEq Value := ⟨equal⟩

end Value

end MessageRouting
