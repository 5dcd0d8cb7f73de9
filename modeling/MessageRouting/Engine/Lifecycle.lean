import MessageRouting.Engine.Conversion
import MessageRouting.Engine.Endpoints
import MessageRouting.Engine.Lock
import MessageRouting.Route.Builder

/-!
# The life of a runtime

Routes are registered, started and stopped together. What fails leaves the phase, the routes and the consumers as
they were.
-/

namespace MessageRouting.Engine

variable {κ η : Type}

/-! ## Consumers of routes -/

/-- Makes the consumer of a route and starts it. -/
def startRoute (embedding : Embedding κ η) (route : Route κ) :
    Work κ η (Except Fault (ActiveConsumer κ)) := do
  match ← resolve embedding route.source with
  | .error fault => return .error fault
  | .ok endpoint =>
    let context ← Program.read fun engine =>
      ⟨route.name, route.processor, engine.scope, engine.config.exchangeTimeout⟩
    match ← makeConsumer embedding endpoint context with
    | .error fault => return .error fault
    | .ok consumer =>
      return (← startConsumer embedding consumer).map fun started => ⟨route.name, started⟩

/-- Stops consumers in order, and gives the first fault. -/
def stopAll (embedding : Embedding κ η) : List (ActiveConsumer κ) → Work κ η (Option Fault)
  | [] => return none
  | active :: rest => do
    let (_, fault) ← stopConsumer embedding active.consumer
    let later ← stopAll embedding rest
    return fault.or later

/-- Starts routes in order; the first that fails has those before it stopped again, the latest first. The
consumers started so far are given backwards. -/
def startAll (embedding : Embedding κ η) (started : List (ActiveConsumer κ)) :
    List (Route κ) → Work κ η (Except Fault (List (ActiveConsumer κ)))
  | [] => return .ok started.reverse
  | route :: rest => do
    match ← startRoute embedding route with
    | .ok active => startAll embedding (active :: started) rest
    | .error fault =>
      let _ ← stopAll embedding started
      return .error fault

/-! ## Routes -/

/-- Compiles a definition and gives the route an identity. -/
def compileRoute (definition : Definition κ) (engine : Engine κ η) :
    Except Fault (Route κ) × Engine κ η :=
  (definition.compile engine.compileContext engine.nextIdentity,
    { engine with made := engine.made + 1 })

/-- Adds consumers to the active ones. -/
def activate (consumers : List (ActiveConsumer κ)) (engine : Engine κ η) : Engine κ η :=
  { engine with consumers := engine.consumers ++ consumers }

/-- Keeps a route. -/
def keepRoute (route : Route κ) (engine : Engine κ η) : Engine κ η :=
  { engine with routes := engine.routes.insert route.name route }

/-- Keeps a compiled route whose name is free, and starts it if the others are running. -/
def enrol (embedding : Embedding κ η) (route : Route κ) : Work κ η (Except Fault Unit) := do
  if ← Program.read fun engine => engine.routes.has route.name then
    return .error (.duplicateRoute route.name)
  else if (← Program.read (·.phase)) = .started then
    match ← startRoute embedding route with
    | .error fault => return .error fault
    | .ok active =>
      Program.change (activate [active])
      Program.change (keepRoute route)
      return .ok ()
  else
    Program.change (keepRoute route)
    return .ok ()

/-- Registers a route while the phase does not change. -/
def registerShared (embedding : Embedding κ η) (definition : Definition κ) :
    Work κ η (Except Fault Unit) := do
  if (← Program.read (·.phase)) = .stopped then
    return .error (.lifecycle "cannot register routes on a stopped runtime")
  else if ← Program.read fun engine => engine.routes.has definition.name then
    return .error (.duplicateRoute definition.name)
  else
    match ← Program.atomically (compileRoute definition) with
    | .error fault => return .error fault
    | .ok route => holdingRoutes (enrol embedding route)

/-- Registers a route. -/
def registerRoute (embedding : Embedding κ η) (definition : Definition κ) :
    Work κ η (Except Fault Unit) :=
  sharing (registerShared embedding definition)

/-- Registers the route that a builder has built. -/
def addRoute (embedding : Embedding κ η) (builder : Builder κ) : Work κ η (Except Fault Unit) :=
  match builder.build with
  | .error fault => return .error fault
  | .ok definition => registerRoute embedding definition

/-! ## Phases -/

/-- Starts all routes while holding the lock of the phase. -/
def startHolding (embedding : Embedding κ η) : Work κ η (Except Fault Unit) := do
  match ← Program.read (·.phase) with
  | .started => return .error (.lifecycle "runtime is already started")
  | .stopped => return .error (.lifecycle "a stopped runtime cannot be started again")
  | .created =>
    let routes ← Program.read fun engine => engine.routes.map Prod.snd
    match ← startAll embedding [] routes with
    | .error fault => return .error fault
    | .ok started =>
      Program.change (activate started)
      Program.change fun engine => { engine with phase := .started }
      return .ok ()

/-- Starts a runtime. -/
def start (embedding : Embedding κ η) : Work κ η (Except Fault Unit) := holding (startHolding embedding)

/-- Takes a runtime to its last phase, cancels its scope and hands over its consumers. -/
def retire (engine : Engine κ η) : List (ActiveConsumer κ) × Engine κ η :=
  (engine.consumers,
    { engine with
      phase := .stopped
      cancelled := engine.scope.identity :: engine.cancelled
      consumers := [] })

/-- The consumers to stop, unless the runtime was stopped before. -/
def retireHolding : Work κ η (Option (List (ActiveConsumer κ))) := do
  if (← Program.read (·.phase)) = .stopped then return none
  else return some (← Program.atomically retire)

/-- Empties the registries. -/
def clearAll : Work κ η Unit := do
  holdingRoutes (Program.change fun engine => { engine with routes := [] })
  Program.change fun engine => { engine with functions := engine.functions.clear }
  Program.change fun engine => { engine with components := engine.components.clear }
  Program.change fun engine => { engine with formats := engine.formats.clear }
  clearConverters
  Program.change fun engine => { engine with endpoints := [] }

/-- Stops a runtime. Its consumers are stopped in any case; the first fault among theirs is the answer. -/
def stop (embedding : Embedding κ η) : Work κ η (Except Fault Unit) := do
  match ← holding retireHolding with
  | none => return .ok ()
  | some consumers =>
    let fault ← stopAll embedding consumers.reverse
    clearAll
    return fault.elim (.ok ()) .error

/-- Lets go of a runtime: one that was started is stopped. -/
def discard (embedding : Embedding κ η) : Work κ η Unit := do
  if (← Program.read (·.phase)) = .started then
    let _ ← stop embedding

end MessageRouting.Engine
