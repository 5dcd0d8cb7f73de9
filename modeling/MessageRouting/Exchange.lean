import MessageRouting.Scope
import MessageRouting.Value.Basic

/-!
# Messages and exchanges

An exchange is the unit of work on a route: a message with headers and a body, properties beside it, an
error slot and the scope it lives in. Copies have identities of their own.
-/

namespace MessageRouting

/-- A message. -/
structure Message where
  /-- The identity. -/
  identity : Identity
  /-- The named headers. -/
  headers : Table Value
  /-- The body. -/
  body : Value

/-- A unit of work. -/
structure Exchange where
  /-- The identity. -/
  identity : Identity
  /-- How many things were given an identity from this one. -/
  made : Nat
  /-- The identity of the moment of creation, which copies keep. -/
  born : Identity
  /-- The named properties. -/
  properties : Table Value
  /-- The message. -/
  message : Message
  /-- The pending error. -/
  error : Option Raised
  /-- The scope that may cancel it. -/
  scope : Scope

/-- What an expression may name at its root. -/
inductive Root where
  | id
  | exchangeId
  | body
  | header
  | error
  | property
  deriving Repr, DecidableEq

/-- Every root, in order. -/
def Root.all : List Root := [.id, .exchangeId, .body, .header, .error, .property]

/-- The name of a root. -/
def Root.name : Root → String
  | .id => "id"
  | .exchangeId => "exchangeId"
  | .body => "body"
  | .header => "header"
  | .error => "error"
  | .property => "property"

/-- The root of a name. -/
def Root.named? (name : String) : Option Root := Root.all.find? (·.name == name)

namespace Message

/-- A message with the headers and body of another one and an identity of its own. -/
def copy (m : Message) (identity : Identity) : Message := { m with identity }

/-- Takes over headers and body. -/
def absorb (m other : Message) : Message := { other with identity := m.identity }

end Message

namespace Exchange

/-- An exchange with headers and a body, in a scope below the given one. Its message is the first thing
made from it. -/
def create (identity : Identity) (parent : Scope) (headers : Table Value) (body : Value) : Exchange :=
  ⟨identity, 1, identity, [], ⟨identity.made 0, headers, body⟩, none, parent.child identity⟩

/-- The body. -/
def body (x : Exchange) : Value := x.message.body

/-- The headers. -/
def headers (x : Exchange) : Table Value := x.message.headers

/-- The header of a name. -/
def header? (x : Exchange) (name : String) : Option Value := x.headers.find? name

/-- The property of a name. -/
def property? (x : Exchange) (name : String) : Option Value := x.properties.find? name

/-- Gives the exchange a body. -/
def setBody (x : Exchange) (body : Value) : Exchange := { x with message := { x.message with body } }

/-- Gives the exchange headers. -/
def setHeaders (x : Exchange) (headers : Table Value) : Exchange :=
  { x with message := { x.message with headers } }

/-- Gives a header a value. -/
def setHeader (x : Exchange) (name : String) (value : Value) : Exchange :=
  x.setHeaders (x.headers.insert name value)

/-- Takes a header away. -/
def removeHeader (x : Exchange) (name : String) : Exchange := x.setHeaders (x.headers.erase name)

/-- Gives a property a value. -/
def setProperty (x : Exchange) (name : String) (value : Value) : Exchange :=
  { x with properties := x.properties.insert name value }

/-- Takes a property away. -/
def removeProperty (x : Exchange) (name : String) : Exchange :=
  { x with properties := x.properties.erase name }

/-- Sets the pending error. -/
def setError (x : Exchange) (error : Raised) : Exchange := { x with error := some error }

/-- Forgets the pending error. -/
def clearError (x : Exchange) : Exchange := { x with error := none }

/-- An error is pending. -/
def isError (x : Exchange) : Bool := x.error.isSome

/-- The identity of the next thing made from the exchange. -/
def nextIdentity (x : Exchange) : Identity := x.identity.made x.made

/-- The exchange after one more thing was made from it. -/
def afterMaking (x : Exchange) : Exchange := { x with made := x.made + 1 }

/-- Raises a fault as the pending error. -/
def fail (x : Exchange) (fault : Fault) : Exchange := x.afterMaking.setError (fault.raise x.nextIdentity)

/-- Raises a cause as the pending error. -/
def failWith (x : Exchange) (cause : Cause) : Exchange :=
  x.afterMaking.setError (cause.raise x.nextIdentity)

/-- An exchange with the same data in a scope that depends on its identity. -/
def copyIn (x : Exchange) (scope : Identity → Scope) : Exchange :=
  let identity := x.nextIdentity
  { x with identity, made := 1, message := x.message.copy (identity.made 0), scope := scope identity }

/-- An exchange with the same data in the same scope. -/
def copy (x : Exchange) : Exchange := x.copyIn fun _ => x.scope

/-- An exchange with the same data in a scope below. -/
def fork (x : Exchange) : Exchange := x.copyIn x.scope.child

/-- Takes over the message, properties and error of another exchange; identity and scope stay. -/
def absorb (x other : Exchange) : Exchange :=
  { x with
    message := x.message.absorb other.message, properties := other.properties, error := other.error }

/-- The message history, if the reserved header holds one. -/
def history? (x : Exchange) : Option History :=
  match x.header? historyHeader with
  | some (.object (.history records)) => some records
  | _ => none

/-- Changes the message history; anything else in the reserved header counts as an empty one. -/
def mapHistory (x : Exchange) (f : History → History) : Exchange :=
  x.setHeader historyHeader (.object (.history (f (x.history?.getD []))))

/-- The value of a root. -/
def lookup (x : Exchange) : Root → Value
  | .id => .string x.message.identity.text
  | .exchangeId => .string x.identity.text
  | .body => x.body
  | .header => .map x.headers
  | .error => (x.error.map Value.error).getD .null
  | .property => .map x.properties

/-- All roots with their values. -/
def asMap (x : Exchange) : Table Value :=
  Table.ofList (Root.all.map fun root => (root.name, x.lookup root))

end Exchange

end MessageRouting
