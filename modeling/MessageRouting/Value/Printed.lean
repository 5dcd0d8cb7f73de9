import MessageRouting.Number.FloatText
import MessageRouting.Text.Quoted
import MessageRouting.Text.Utf8
import MessageRouting.Time.Rfc3339
import MessageRouting.Value.Basic

/-!
# Texts of values

A value has two texts: the plain one that expressions and templates see, and the structured description
that shows kinds and quotes texts.
-/

namespace MessageRouting

/-- Whether a record is finished, in a structured description. -/
def HistoryRecord.described (r : HistoryRecord) : String :=
  s!"HistoryRecord \x7b route: {Text.quoted r.route}, step: {Text.quoted r.step}, finished: {r.finished} \x7d"

/-- The text of an object. -/
def Payload.described : Payload → String
  | .text content => s!"Payload \x7b text: {Text.quoted content} \x7d"
  | .history records =>
    "MessageHistory \x7b records: [" ++ ", ".intercalate (records.map HistoryRecord.described) ++ "] \x7d"

/-- The structured description of a failure. -/
def Raised.described (e : Raised) : String := s!"ExchangeError({Text.quoted e.fullMessage})"

namespace Value

mutual

/-- The plain text of a value. -/
def text : Value → String
  | null => "null"
  | bool b => if b then "true" else "false"
  | int i => toString i.toInt
  | float x => Number.writeFloat .plain x
  | string s => s
  | bytes octets => Text.Utf8.lossy octets
  | time t => t.text
  | duration d => d.text
  | error e => e.message
  | list items => "[" ++ ", ".intercalate (textsOf items) ++ "]"
  | map entries => "\x7b" ++ ", ".intercalate (entryTexts entries) ++ "\x7d"
  | object payload => payload.described
  | shared _ => "<shared>"

/-- The plain texts of values. -/
def textsOf : List Value → List String
  | [] => []
  | item :: rest => text item :: textsOf rest

/-- The plain texts of named values. -/
def entryTexts : List (String × Value) → List String
  | [] => []
  | (name, item) :: rest => (name ++ ": " ++ text item) :: entryTexts rest

end

mutual

/-- The structured description of a value. -/
def described : Value → String
  | null => "Null"
  | bool b => if b then "Bool(true)" else "Bool(false)"
  | int i => "Int(" ++ toString i.toInt ++ ")"
  | float x => "Float(" ++ Number.writeFloat .described x ++ ")"
  | string s => "String(" ++ Text.quoted s ++ ")"
  | bytes octets => "Bytes(" ++ toString octets.size ++ ")"
  | time t => "Time(" ++ t.described ++ ")"
  | duration d => "Duration(" ++ d.text ++ ")"
  | error e => "Error(" ++ e.described ++ ")"
  | list items => "List([" ++ ", ".intercalate (descriptionsOf items) ++ "])"
  | map entries => "Map(\x7b" ++ ", ".intercalate (entryDescriptions entries) ++ "\x7d)"
  | object payload => "Object(" ++ payload.described ++ ")"
  | shared _ => "Shared(..)"

/-- The structured descriptions of values. -/
def descriptionsOf : List Value → List String
  | [] => []
  | item :: rest => described item :: descriptionsOf rest

/-- The structured descriptions of named values. -/
def entryDescriptions : List (String × Value) → List String
  | [] => []
  | (name, item) :: rest => (Text.quoted name ++ ": " ++ described item) :: entryDescriptions rest

end

end Value

end MessageRouting
