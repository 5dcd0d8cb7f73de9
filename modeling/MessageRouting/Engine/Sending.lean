import MessageRouting.Engine.Endpoints
import MessageRouting.Engine.Lock

/-!
# Sending

Exchanges are sent to endpoints from outside. The producer is found while the phase does not change; what it does
with the exchange is not protected.
-/

namespace MessageRouting.Engine

variable {κ η : Type}

/-- A new exchange in the scope of the runtime. -/
def newRuntimeExchange : Work κ η Exchange := do
  let (scope, timeout) ← Program.read fun engine => (engine.scope, engine.config.exchangeTimeout)
  newExchange scope timeout

/-- The producer for a text, while the phase does not change. -/
def producerShared (embedding : Embedding κ η) (uri : String) :
    Work κ η (Except Fault (Processor κ)) := do
  if (← Program.read (·.phase)) = .stopped then return .error (.lifecycle "runtime is stopped")
  else
    match ← resolve embedding uri with
    | .error fault => return .error fault
    | .ok endpoint => makeProducer embedding endpoint

/-- Hands an exchange over and contains a panic. -/
def dispatch (processor : Processor κ) (x : Exchange) : Work κ η Exchange :=
  invoke (fun x => Program.ask (processor, x)) x

/-- Sends a new exchange, prepared in some way, to an endpoint. -/
def send (embedding : Embedding κ η) (uri : String) (prepare : Exchange → Work κ η Exchange) :
    Work κ η (Except Fault Exchange) := do
  match ← sharing (producerShared embedding uri) with
  | .error fault => return .error fault
  | .ok producer => return .ok (← dispatch producer (← prepare (← newRuntimeExchange)))

/-- The body of an exchange that ended without an error; else the error, passed on. -/
def bodyOf (x : Exchange) : Except Fault Value :=
  match x.error with
  | some e => .error (.passed e)
  | none => .ok x.body

/-- Sends headers and a body, and gives the body that comes back. -/
def sendMessage (embedding : Embedding κ η) (uri : String) (headers : List (String × Value))
    (body : Value) : Work κ η (Except Fault Value) := do
  let prepare (x : Exchange) : Work κ η Exchange :=
    return (headers.foldl (fun x (name, value) => x.setHeader name value) x).setBody body
  match ← send embedding uri prepare with
  | .error fault => return .error fault
  | .ok x => return bodyOf x

end MessageRouting.Engine
