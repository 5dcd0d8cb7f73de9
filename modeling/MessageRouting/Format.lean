import MessageRouting.Json.Parser
import MessageRouting.Json.Printer
import MessageRouting.Value.Printed

/-!
# JSON as a data format

Values are marshalled as JSON documents and read back from them. What JSON cannot say is either said in
another way (times, bytes, durations, failures) or refused (objects, shared payloads, floats that are no
numbers).
-/

namespace MessageRouting

/-- The name of the format in its faults. -/
def jsonName : String := "json"

namespace Json

mutual

/-- The document of a value. -/
def ofValue : Value → Except MessageRouting.Fault Json
  | .null => .ok null
  | .bool b => .ok (bool b)
  | .int i => .ok (integer i.toInt)
  | .float x =>
    if Number.isFinite x then .ok (float x)
    else .error (.format jsonName s!"{Number.writeFloat .plain x} has no JSON representation")
  | .string text => .ok (string text)
  | .bytes octets =>
    match Text.Utf8.decode octets with
    | .ok text => .ok (string text)
    | .error _ => .ok (array (octets.toList.map fun octet => integer octet.toNat))
  | .time t => .ok (string t.text)
  | .duration d => .ok (integer (min d.millis 18446744073709551615))
  | .error e => .ok (string e.message)
  | .list items => (ofValues items).map array
  | .map entries => (ofEntries entries).map object
  | .object _ => .error (.format jsonName "cannot marshal a object value")
  | .shared _ => .error (.format jsonName "cannot marshal a shared value")

/-- The documents of values, up to the first that has none. -/
def ofValues : List Value → Except MessageRouting.Fault (List Json)
  | [] => .ok []
  | item :: rest =>
    match ofValue item with
    | .error fault => .error fault
    | .ok json => (ofValues rest).map (json :: ·)

/-- The documents of named values, up to the first that has none. -/
def ofEntries : List (String × Value) → Except MessageRouting.Fault (List (String × Json))
  | [] => .ok []
  | (name, item) :: rest =>
    match ofValue item with
    | .error fault => .error fault
    | .ok json => (ofEntries rest).map ((name, json) :: ·)

end

mutual

/-- The value of a document. -/
def toValue : Json → Value
  | null => .null
  | bool b => .bool b
  | integer n => if n < 9223372036854775808 then .int (Int64.ofInt n) else .float (Float.ofInt n)
  | float x => .float x
  | string text => .string text
  | array items => .list (toValues items)
  | object members => .map (toEntries members)

/-- The values of documents. -/
def toValues : List Json → List Value
  | [] => []
  | item :: rest => toValue item :: toValues rest

/-- The values of named documents. -/
def toEntries : List (String × Json) → List (String × Value)
  | [] => []
  | (name, item) :: rest => (name, toValue item) :: toEntries rest

end

/-- Marshals a value. -/
def marshal (layout : Layout) (value : Value) : Except MessageRouting.Fault String :=
  (ofValue value).map (text layout)

/-- Takes a value that was read as one of a kind; a whole number is taken as a float where one is
wanted. -/
def adapt (target : Option Kind) (value : Value) : Except MessageRouting.Fault Value :=
  match target, value with
  | none, value => .ok value
  | some .float, .int i => .ok (.float (Number.ofInt64 i))
  | some kind, value =>
    if value.kind = kind then .ok value
    else
      .error (.format jsonName s!"expected a {kind.name} document, found {value.kind.name}")

/-- Reads a value from octets. -/
def unmarshal (octets : ByteArray) (target : Option Kind) : Except MessageRouting.Fault Value :=
  match readDocument octets.toList with
  | .error fault => .error (.format jsonName (fault.message octets.toList))
  | .ok json => adapt target json.toValue

end Json

end MessageRouting
