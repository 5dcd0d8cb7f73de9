import MessageRouting.Identity

/-!
# Failures

A failure is raised once and keeps its identity wherever it is carried. Behind it stands a cause: a plain
message, an error of a type the embedding program defines, a message put around another cause, another
raised failure, or a fault of the framework. Faults that were caused by other failures keep them, so every
failure has a chain of messages from its top to its root.
-/

namespace MessageRouting

mutual

/-- What the framework itself reports. -/
inductive Fault where
  /-- A route names a function that is not registered. -/
  | unknownFunction (route name : String)
  /-- A route names a data format that is not registered. -/
  | unknownFormat (route name : String)
  /-- A route names a type that does not exist. -/
  | unknownType (route name : String)
  /-- No component has the scheme of a URI. -/
  | unknownComponent (scheme : String)
  /-- A route of that name exists. -/
  | duplicateRoute (name : String)
  /-- A thing of that sort and name exists. -/
  | duplicateRegistration (sort name : String)
  /-- A route was built in a wrong way. -/
  | routeBuild (message : String)
  /-- An expression is not well formed; the column counts characters from 1. -/
  | expressionCompile (expression : String) (column : Nat) (message : String)
  /-- An expression has no value. -/
  | expression (message : String)
  /-- A value cannot be converted. -/
  | conversion (source target message : String)
  /-- The scope of an exchange was cancelled. -/
  | cancelled
  /-- The deadline of an exchange has passed. -/
  | deadlineExceeded
  /-- User code panicked. -/
  | panicked (message : String)
  /-- A finally block failed while a failure was pending. -/
  | finallyFailed (earlier later : Raised)
  /-- A text is no endpoint URI. -/
  | invalidUri (uri message : String)
  /-- Nobody consumes from an endpoint. -/
  | noConsumer (uri : String)
  /-- An endpoint lacks an operation. -/
  | unsupported (uri operation : String)
  /-- A data format failed. -/
  | format (name message : String)
  /-- The runtime is not in the right phase. -/
  | lifecycle (message : String)
  /-- A setting is wrong. -/
  | configuration (key message : String)
  /-- User code failed. -/
  | handler (source : Cause)
  /-- A raised failure, passed on as it is. -/
  | passed (inner : Raised)
  /-- The framework or a component contradicts itself. -/
  | internal (message : String)

/-- What stands behind a failure. -/
inductive Cause where
  /-- A plain message. -/
  | plain (text : String)
  /-- An error of a type that the embedding program defines. -/
  | custom (typeName text : String)
  /-- A message around another cause. -/
  | context (text : String) (inner : Cause)
  /-- Another raised failure. -/
  | raised (inner : Raised)
  /-- A fault of the framework. -/
  | fault (inner : Fault)

/-- A failure with its identity. -/
inductive Raised where
  /-- The failure raised as the given instance. -/
  | mk (identity : Identity) (cause : Cause)

end

instance : Inhabited Fault := ⟨.cancelled⟩

instance : Inhabited Cause := ⟨.plain ""⟩

instance : Inhabited Raised := ⟨.mk [] default⟩

/-- The identity of a failure. -/
def Raised.identity : Raised → Identity
  | .mk identity _ => identity

/-- What stands behind a failure. -/
def Raised.cause : Raised → Cause
  | .mk _ cause => cause

/-- Two failures are the same instance. -/
def Raised.same (a b : Raised) : Bool := a.identity == b.identity

/-- The name by which faults of one sort are known. -/
def Fault.name : Fault → String
  | .unknownFunction _ _ => "UnknownFunction"
  | .unknownFormat _ _ => "UnknownDataFormat"
  | .unknownType _ _ => "UnknownType"
  | .unknownComponent _ => "UnknownComponent"
  | .duplicateRoute _ => "DuplicateRoute"
  | .duplicateRegistration _ _ => "DuplicateRegistration"
  | .routeBuild _ => "RouteBuild"
  | .expressionCompile _ _ _ => "ExpressionCompile"
  | .expression _ => "Expression"
  | .conversion _ _ _ => "Conversion"
  | .cancelled => "Cancelled"
  | .deadlineExceeded => "DeadlineExceeded"
  | .panicked _ => "Panic"
  | .finallyFailed _ _ => "FinallyFailed"
  | .invalidUri _ _ => "InvalidUri"
  | .noConsumer _ => "NoConsumer"
  | .unsupported _ _ => "Unsupported"
  | .format _ _ => "DataFormat"
  | .lifecycle _ => "Lifecycle"
  | .configuration _ _ => "ConfigurationError"
  | .handler _ => "HandlerError"
  | .passed _ => "Exchange"
  | .internal _ => "Internal"

/-- The fault of a name, of those that carry nothing but texts; each text is found by what it says. -/
def Fault.ofTexts? (name : String) (text : String → String) : Option Fault :=
  match name with
  | "UnknownFunction" => some (.unknownFunction (text "route") (text "name"))
  | "UnknownDataFormat" => some (.unknownFormat (text "route") (text "name"))
  | "UnknownType" => some (.unknownType (text "route") (text "name"))
  | "UnknownComponent" => some (.unknownComponent (text "scheme"))
  | "DuplicateRoute" => some (.duplicateRoute (text "name"))
  | "DuplicateRegistration" => some (.duplicateRegistration (text "what") (text "name"))
  | "RouteBuild" => some (.routeBuild (text "message"))
  | "Expression" => some (.expression (text "message"))
  | "Conversion" => some (.conversion (text "from") (text "to") (text "message"))
  | "Cancelled" => some .cancelled
  | "DeadlineExceeded" => some .deadlineExceeded
  | "Panic" => some (.panicked (text "message"))
  | "InvalidUri" => some (.invalidUri (text "uri") (text "message"))
  | "NoConsumer" => some (.noConsumer (text "uri"))
  | "Unsupported" => some (.unsupported (text "uri") (text "operation"))
  | "DataFormat" => some (.format (text "format") (text "message"))
  | "Lifecycle" => some (.lifecycle (text "message"))
  | "ConfigurationError" => some (.configuration (text "key") (text "message"))
  | "Internal" => some (.internal (text "message"))
  | _ => none

/-! ## Messages -/

mutual

/-- The wording of a fault. -/
def Fault.message : Fault → String
  | .unknownFunction route name => s!"Unknown function '{name}' referenced by route '{route}'"
  | .unknownFormat route name => s!"Unknown data format '{name}' referenced by route '{route}'"
  | .unknownType route name => s!"Unknown type '{name}' referenced by route '{route}'"
  | .unknownComponent scheme => s!"No component registered for scheme '{scheme}'"
  | .duplicateRoute name => s!"Route '{name}' is already registered"
  | .duplicateRegistration sort name => s!"Duplicate {sort} registration: '{name}'"
  | .routeBuild message => s!"Route build error: {message}"
  | .expressionCompile expression column message =>
    s!"Expression compile error at column {column} in '{expression}': {message}"
  | .expression message => s!"Expression evaluation failed: {message}"
  | .conversion source target message => s!"Cannot convert {source} to {target}: {message}"
  | .cancelled => "Exchange cancelled"
  | .deadlineExceeded => "Exchange deadline exceeded"
  | .panicked message => s!"Processor panicked: {message}"
  | .finallyFailed earlier later =>
    "Finally block failed: " ++ later.message ++ " (original error: " ++ earlier.message ++ ")"
  | .invalidUri uri message => s!"Invalid endpoint URI '{uri}': {message}"
  | .noConsumer uri => s!"No consumer available on endpoint '{uri}'"
  | .unsupported uri operation => s!"Endpoint '{uri}' does not support {operation}"
  | .format name message => s!"Data format '{name}' failed: {message}"
  | .lifecycle message => s!"Lifecycle error: {message}"
  | .configuration key message => s!"Configuration error for '{key}': {message}"
  | .handler source =>
    "Error in user-provided function or external operation. Source: " ++ source.message
  | .passed inner => inner.message
  | .internal message => s!"Internal switchyard error: {message}"

/-- The message at the top of a cause. -/
def Cause.message : Cause → String
  | .plain text => text
  | .custom _ text => text
  | .context text _ => text
  | .raised inner => inner.message
  | .fault inner => inner.message

/-- The message at the top of a failure. -/
def Raised.message : Raised → String
  | .mk _ cause => cause.message

end

/-! ## Chains -/

/-- One link of the chain of a failure. -/
inductive Link where
  /-- A plain message, or a message around the links below. -/
  | plain (text : String)
  /-- An error of a type that the embedding program defines. -/
  | custom (typeName text : String)
  /-- A raised failure; the links below are its own. -/
  | raised (inner : Raised)
  /-- A fault; the links below are what caused it. -/
  | fault (inner : Fault)

/-- The message of a link. -/
def Link.message : Link → String
  | .plain text => text
  | .custom _ text => text
  | .raised inner => inner.message
  | .fault inner => inner.message

mutual

/-- The links from a cause down to its root. -/
def Cause.chain : Cause → List Link
  | .plain text => [.plain text]
  | .custom typeName text => [.custom typeName text]
  | .context text inner => .plain text :: inner.chain
  | .raised inner => .raised inner :: inner.chain.tail
  | .fault inner => .fault inner :: inner.sources

/-- The links below a fault. A fault that passes a failure on stands in the place of its top link. -/
def Fault.sources : Fault → List Link
  | .finallyFailed earlier _ => .raised earlier :: earlier.chain.tail
  | .handler source => source.chain
  | .passed inner => inner.chain.tail
  | _ => []

/-- The links of a failure. -/
def Raised.chain : Raised → List Link
  | .mk _ cause => cause.chain

end

/-- The messages of a failure, from the top. -/
def Raised.messages (e : Raised) : List String := e.chain.map Link.message

/-- The messages of a cause in one line. -/
def Cause.fullMessage (cause : Cause) : String := ": ".intercalate (cause.chain.map Link.message)

/-- The messages of a failure in one line. -/
def Raised.fullMessage (e : Raised) : String := e.cause.fullMessage

/-- The first fault in the chain of a failure. -/
def Raised.fault? (e : Raised) : Option Fault :=
  e.chain.findSome? fun
    | .fault inner => some inner
    | _ => none

/-! ## Types of errors -/

/-- A type of error that can be looked for in a chain. -/
inductive ErrorType where
  /-- A type that the embedding program defines. -/
  | custom (typeName : String)
  /-- A fault of the framework. -/
  | fault
  /-- A raised failure. -/
  | raised
  deriving Repr, DecidableEq

/-- The full name of a type of error. -/
def ErrorType.name : ErrorType → String
  | .custom typeName => typeName
  | .fault => "switchyard::error::SwitchyardError"
  | .raised => "switchyard::error::ExchangeError"

/-- A link is an error of a type. -/
def Link.isOf (type : ErrorType) : Link → Bool
  | .plain _ => false
  | .custom typeName _ => type == .custom typeName
  | .raised _ => type == .raised
  | .fault _ => type == .fault

/-- An error of a type occurs in the chain of a failure. -/
def Raised.is (e : Raised) (type : ErrorType) : Bool := e.chain.any (Link.isOf type)

/-! ## Identity inside a chain -/

mutual

/-- The failure is the given instance, or one of the failures in its chain is. -/
def Raised.reaches (identity : Identity) : Raised → Bool
  | .mk own cause => own == identity || cause.reaches identity

/-- A failure in the chain of a cause is, or reaches, the given instance. -/
def Cause.reaches (identity : Identity) : Cause → Bool
  | .plain _ => false
  | .custom _ _ => false
  | .context _ inner => inner.reaches identity
  | .raised inner => inner.reaches identity
  | .fault inner => inner.reaches identity

/-- A failure below a fault is, or reaches, the given instance. -/
def Fault.reaches (identity : Identity) : Fault → Bool
  | .finallyFailed earlier _ => earlier.reaches identity
  | .handler source => source.reaches identity
  | .passed inner => inner.reachesBelow identity
  | _ => false

/-- A failure in the chain below the top link is, or reaches, the given instance. -/
def Raised.reachesBelow (identity : Identity) : Raised → Bool
  | .mk _ cause => cause.reachesBelow identity

/-- A failure in the chain of a cause below its top link is, or reaches, the given instance. -/
def Cause.reachesBelow (identity : Identity) : Cause → Bool
  | .plain _ => false
  | .custom _ _ => false
  | .context _ inner => inner.reaches identity
  | .raised inner => inner.reachesBelow identity
  | .fault inner => inner.reaches identity

end

/-- The failure is the target or carries it in its chain. -/
def Raised.wraps (e target : Raised) : Bool := e.reaches target.identity

/-! ## Raising -/

/-- Raises a fault as a new instance; a failure that is passed on stays the instance it is. -/
def Fault.raise (identity : Identity) : Fault → Raised
  | .passed inner => inner
  | fault => .mk identity (.fault fault)

/-- The failure that a cause is, or is a context around. -/
def Cause.raised? : Cause → Option Raised
  | .raised inner => some inner
  | .context _ inner => inner.raised?
  | _ => none

/-- Raises a cause as a new instance; a failure inside contexts comes out as the instance it is. -/
def Cause.raise (identity : Identity) (cause : Cause) : Raised := cause.raised?.getD (.mk identity cause)

/-! ## Panics -/

/-- What user code threw when it panicked. -/
inductive Panic where
  /-- A text. -/
  | text (message : String)
  /-- Something that is no text. -/
  | other
  deriving Repr, DecidableEq

/-- The text of a panic; a fixed one when it was no text. -/
def Panic.message : Panic → String
  | .text message => message
  | .other => "non-string panic payload"

/-- How a piece of work ended that may fail in one way and panic in another. -/
inductive Ending (ε α : Type) where
  /-- It returned. -/
  | returned (value : α)
  /-- It failed. -/
  | failed (error : ε)
  /-- It panicked. -/
  | panicked (panic : Panic)

namespace Ending

variable {ε δ α β : Type}

/-- The ending of work that cannot panic. -/
def ofExcept : Except ε α → Ending ε α
  | .ok value => .returned value
  | .error error => .failed error

/-- Goes on with what was returned. -/
def bind (ending : Ending ε α) (next : α → Ending ε β) : Ending ε β :=
  match ending with
  | .returned value => next value
  | .failed error => .failed error
  | .panicked panic => .panicked panic

/-- Puts a failure in other words. -/
def mapError (f : ε → δ) : Ending ε α → Ending δ α
  | .returned value => .returned value
  | .failed error => .failed (f error)
  | .panicked panic => .panicked panic

end Ending

end MessageRouting
