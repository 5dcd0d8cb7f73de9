import MessageRouting.Engine.State

/-!
# Endpoints and their consumers and producers

An endpoint is made at most once for a text and kept. A second look, in the section that makes it, finds what
somebody else made meanwhile.
-/

namespace MessageRouting.Engine

variable {κ η : Type}

/-- What an endpoint of a component does. -/
def roleFor (embedding : Embedding κ η) (component : Component κ) (uri : Uri) (state : η) :
    Except Fault (EndpointRole κ) × η :=
  match component with
  | .direct table =>
    if uri.name.isEmpty then (.error (.invalidUri uri.raw "direct endpoints need a name"), state)
    else (.ok (.direct uri.name table), state)
  | .timer defaultPeriod => ((TimerSettings.read defaultPeriod uri).map .timer, state)
  | .custom _ code =>
    let (answer, state) := embedding.component code (.endpoint uri) state
    (answer.map .custom, state)

/-- Makes the endpoint of a component and gives it an identity. -/
def makeEndpoint (embedding : Embedding κ η) (component : Component κ) (uri : Uri)
    (engine : Engine κ η) : Except Fault (Endpoint κ) × Engine κ η :=
  let (role, state) := roleFor embedding component uri engine.embedding
  (role.map fun role => ⟨engine.nextIdentity, uri, role⟩,
    { engine with embedding := state, made := engine.made + 1 })

/-- Makes the endpoint for a text, unless it is there by now. -/
def makeKept (embedding : Embedding κ η) (text : String) (component : Component κ) (uri : Uri)
    (engine : Engine κ η) : Except Fault (Endpoint κ) × Engine κ η :=
  match engine.endpoints.find? text with
  | some endpoint => (.ok endpoint, engine)
  | none =>
    match makeEndpoint embedding component uri engine with
    | (.error fault, engine) => (.error fault, engine)
    | (.ok endpoint, engine) =>
      (.ok endpoint, { engine with endpoints := engine.endpoints.insert text endpoint })

/-- The component of a URI. -/
def componentOf (uri : Uri) : Work κ η (Except Fault (Component κ)) :=
  Program.read fun engine =>
    (engine.components.get? uri.component).elim (.error (.unknownComponent uri.component)) .ok

/-- The endpoint for a text. -/
def resolve (embedding : Embedding κ η) (text : String) : Work κ η (Except Fault (Endpoint κ)) := do
  match ← Program.read fun engine => engine.endpoints.find? text with
  | some endpoint => return .ok endpoint
  | none =>
    match Uri.parse text with
    | .error fault => return .error fault
    | .ok uri =>
      match ← componentOf uri with
      | .error fault => return .error fault
      | .ok component => Program.atomically (makeKept embedding text component uri)

/-- Asks something of code of the embedding program. -/
def request (embedding : Embedding κ η) (code : κ) (request : ComponentRequest κ) :
    Work κ η (Except Fault κ) :=
  Program.atomically fun engine =>
    let (answer, state) := embedding.component code request engine.embedding
    (answer, { engine with embedding := state })

/-- Makes a producer of an endpoint. -/
def makeProducer (embedding : Embedding κ η) (endpoint : Endpoint κ) :
    Work κ η (Except Fault (Processor κ)) :=
  match endpoint.role with
  | .direct name table => return .ok (.direct endpoint.uri.raw name table)
  | .timer _ => return .error (.unsupported endpoint.uri.raw "producing")
  | .custom code => return (← request embedding code (.producer endpoint.uri)).map .custom

/-- Makes a consumer of an endpoint. -/
def makeConsumer (embedding : Embedding κ η) (endpoint : Endpoint κ) (context : ConsumerContext κ) :
    Work κ η (Except Fault (Consumer κ)) :=
  match endpoint.role with
  | .direct name table => return .ok (.direct name table context.processor false)
  | .timer settings => return .ok (.timer (← newIdentity) settings context false false)
  | .custom code => return (← request embedding code (.consumer endpoint.uri context)).map .custom

/-- Changes the table of direct consumers of a number. -/
def changeTable (table : Nat) (f : Table (Processor κ) → Table (Processor κ)) (engine : Engine κ η) :
    Engine κ η :=
  { engine with tables := engine.tables.modify table f }

/-- The table of direct consumers of a number. -/
def tableAt (engine : Engine κ η) (table : Nat) : Table (Processor κ) := engine.tables.getD table []

/-- Puts a direct consumer into its table, if its name is free. -/
def enter (table : Nat) (name : String) (processor : Processor κ) (engine : Engine κ η) :
    Except Fault Unit × Engine κ η :=
  if (engine.tableAt table).has name then (.error (.duplicateRegistration "direct consumer" name), engine)
  else (.ok (), changeTable table (·.insert name processor) engine)

/-- Sets a timer going. -/
def setGoing (identity : Identity) (settings : TimerSettings) (context : ConsumerContext κ)
    (engine : Engine κ η) : Engine κ η :=
  let due := engine.now.after? settings.delay
  { engine with timers := engine.timers ++ [⟨identity, settings, context, 0, due⟩] }

/-- Takes a timer away. -/
def takeTimer (identity : Identity) (engine : Engine κ η) : Engine κ η :=
  { engine with timers := engine.timers.filter (·.identity != identity) }

/-- Starts a consumer. A timer that was told to stop before ends at once. -/
def startConsumer (embedding : Embedding κ η) (consumer : Consumer κ) :
    Work κ η (Except Fault (Consumer κ)) :=
  match consumer with
  | .direct name table processor _ => do
    match ← Program.atomically (enter table name processor) with
    | .error fault => return .error fault
    | .ok () => return .ok (.direct name table processor true)
  | .timer identity settings context active stopped => do
    if active then
      return .error (.lifecycle s!"timer '{settings.name}' is already running")
    else
      unless stopped do Program.change (setGoing identity settings context)
      return .ok (.timer identity settings context true stopped)
  | .custom code => return (← request embedding code .start).map .custom

/-- Stops a consumer, and gives it back with what went wrong. -/
def stopConsumer (embedding : Embedding κ η) (consumer : Consumer κ) :
    Work κ η (Consumer κ × Option Fault) :=
  match consumer with
  | .direct name table processor active => do
    if active then Program.change (changeTable table (·.erase name))
    return (.direct name table processor false, none)
  | .timer identity settings context _ _ => do
    Program.change (takeTimer identity)
    return (.timer identity settings context false true, none)
  | .custom code => do
    match ← request embedding code .stop with
    | .ok code => return (.custom code, none)
    | .error fault => return (.custom code, some fault)

/-- Lets go of a consumer without stopping it; only a timer ends by that. -/
def discardConsumer (consumer : Consumer κ) : Work κ η Unit :=
  match consumer with
  | .timer identity _ _ _ _ => Program.change (takeTimer identity)
  | _ => return ()

end MessageRouting.Engine
