import MessageRouting.Failure
import MessageRouting.Number.IntegerText
import MessageRouting.Table
import MessageRouting.Text.Property
import MessageRouting.Url

/-!
# Endpoint URIs

The URI of an endpoint names a component by its scheme and a thing of that component by its path or host.
Its query holds parameters; of parameters with one name the last counts.
-/

namespace MessageRouting

/-- The URI of an endpoint. -/
structure Uri where
  /-- The text without blanks around it. -/
  raw : String
  /-- Its parts. -/
  url : Url
  deriving Repr, DecidableEq

/-- The wording for a text that is no truth value. -/
def boolWanted : String := "provided string was not \x60true\x60 or \x60false\x60"

namespace Uri

/-- Reads a URI. -/
def parse (text : String) : Except Fault Uri :=
  let raw := Text.trim text
  match Url.parse raw with
  | .ok url => .ok ⟨raw, url⟩
  | .error fault => .error (.invalidUri raw fault.message)

/-- The identifier of the component. -/
def component (uri : Uri) : String := uri.url.scheme

/-- The parameters. -/
def params (uri : Uri) : Table String := Table.ofList uri.url.pairs

/-- The parameter of a name. -/
def param? (uri : Uri) (name : String) : Option String := uri.params.find? name

/-- The path without its leading slashes, or else the host. -/
def name (uri : Uri) : String :=
  let path := String.ofList (uri.url.path.toList.dropWhile (· == '/'))
  if path.isEmpty then uri.url.host.getD "" else path

/-- A parameter read in some way, or a default where it is missing. -/
def paramOr {α : Type} (uri : Uri) (name : String) (default : α) (read : String → Except String α) :
    Except Fault α :=
  match uri.param? name with
  | none => .ok default
  | some text =>
    match read text with
    | .ok value => .ok value
    | .error message => .error (.invalidUri uri.raw s!"parameter '{name}': {message}")

/-- A parameter that is a natural number below 2^64. -/
def natParam (uri : Uri) (name : String) (default : Nat) : Except Fault Nat :=
  uri.paramOr name default fun text =>
    (Number.readUInt64 text).mapError Number.IntegerFault.message

/-- A parameter that is a truth value. -/
def boolParam (uri : Uri) (name : String) (default : Bool) : Except Fault Bool :=
  uri.paramOr name default fun text =>
    if text == "true" then .ok true
    else if text == "false" then .ok false
    else .error boolWanted

end Uri

end MessageRouting
