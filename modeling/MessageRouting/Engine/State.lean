import MessageRouting.Component.Basic
import MessageRouting.Config
import MessageRouting.Convert.Converters
import MessageRouting.Program
import MessageRouting.Route.Compiled

/-!
# The state of an engine

All that the parts of an engine share: the registries and routes of its runtime, the consumers that are active,
the tables of direct consumers, the timers that run, the scopes that were cancelled, the clock, and whatever the
embedding program keeps.
-/

namespace MessageRouting

open Time

/-- The phases of a runtime. -/
inductive Phase where
  | created
  | started
  | stopped
  deriving Repr, DecidableEq

/-- Who holds the locks of a runtime. The lock of the phase is shared by many or held by one. -/
structure Locks where
  /-- How many share the lock of the phase. -/
  sharing : Nat := 0
  /-- Somebody holds the lock of the phase alone. -/
  exclusive : Bool := false
  /-- Somebody holds the lock of the routes. -/
  routes : Bool := false
  deriving Repr, DecidableEq

/-- The consumer of a route that was started. -/
structure ActiveConsumer (κ : Type) where
  /-- The name of the route. -/
  route : String
  /-- The consumer. -/
  consumer : Consumer κ

/-- Everything an engine holds; the embedding program keeps a state of type `η`. -/
structure Engine (κ η : Type) where
  /-- The settings. -/
  config : Config
  /-- The phase of the runtime. -/
  phase : Phase := .created
  /-- The scope above all exchanges of the runtime. -/
  scope : Scope
  /-- The registered functions. -/
  functions : Registry (Processor κ) := ⟨"function", []⟩
  /-- The registered components. -/
  components : Registry (Component κ) := ⟨"component", []⟩
  /-- The registered data formats. -/
  formats : Registry (Format κ) := ⟨"data format", []⟩
  /-- The registered converters. -/
  converters : Converters κ := .standard
  /-- The endpoints by the texts they were made for. -/
  endpoints : Table (Endpoint κ) := []
  /-- The registered routes. -/
  routes : Table (Route κ) := []
  /-- The active consumers, in the order in which they were started. -/
  consumers : List (ActiveConsumer κ) := []
  /-- The hooks that routes are compiled with. -/
  hooks : Hooks κ := {}
  /-- Who holds the locks. -/
  locks : Locks := {}
  /-- The tables of direct consumers. -/
  tables : List (Table (Processor κ)) := []
  /-- The producers that steps keep, by the identities and the URIs of the steps. -/
  producers : List ((Identity × String) × Processor κ) := []
  /-- The timers that run, in the order in which they were started. -/
  timers : List (RunningTimer κ) := []
  /-- How many things without an owner were made. -/
  made : Nat := 0
  /-- The time. -/
  now : Instant := 0
  /-- The scopes that were cancelled. -/
  cancelled : List Identity := []
  /-- What happened, the latest first. -/
  journal : List Event := []
  /-- What the embedding program keeps. -/
  embedding : η

/-- A program over an engine; its tasks are processors that are to work on exchanges. -/
abbrev Work (κ η α : Type) : Type := Program (Engine κ η) (Processor κ × Exchange) Outcome α

/-- How the code of the embedding program behaves. -/
structure Embedding (κ η : Type) where
  /-- The value of an expression. -/
  evaluate : κ → Exchange → Work κ η (Ending Cause Value)
  /-- A function of exchanges. -/
  function : κ → Exchange → Work κ η (Exchange × Ending Cause Unit)
  /-- A processor. -/
  process : κ → Exchange → Work κ η Outcome
  /-- A hook. -/
  hook : κ → HookPoint → StepInfo → Exchange → Work κ η Outcome
  /-- A function that joins the branches of a multicast. -/
  aggregate : κ → Option Exchange → Exchange → Work κ η (Except Panic Exchange)
  /-- A converter. -/
  convert : κ → Value → Table String → Work κ η (Ending Cause Value)
  /-- The name of a data format. -/
  formatName : κ → String
  /-- Writes a value in a data format. -/
  marshal : κ → Value → Work κ η (Ending Fault String)
  /-- Reads a value in a data format. -/
  unmarshal : κ → ByteArray → Option Kind → Work κ η (Ending Fault Value)
  /-- A request to a component or to what it made; it is answered inside a section. -/
  component : κ → ComponentRequest κ → η → Except Fault κ × η

namespace Engine

variable {κ η : Type}

/-- The identity of the next thing without an owner. -/
def nextIdentity (engine : Engine κ η) : Identity := .root engine.made

/-- Makes a thing without an owner. -/
def newIdentity : Work κ η Identity :=
  Program.atomically fun engine => (engine.nextIdentity, { engine with made := engine.made + 1 })

/-- Notes what happened. -/
def note (event : Event) : Work κ η Unit :=
  Program.change fun engine => { engine with journal := event :: engine.journal }

/-- Why nothing may run on an exchange any more. -/
def check (x : Exchange) : Work κ η (Except Fault Unit) :=
  Program.read fun engine => x.scope.check engine.now engine.cancelled

/-- Cancels a scope. -/
def cancel (scope : Scope) : Work κ η Unit :=
  Program.change fun engine => { engine with cancelled := scope.identity :: engine.cancelled }

/-- A scope for exchanges below a given one, with a timeout if there is one, and an identity for an exchange
in it. -/
def scopeFor (scope : Scope) (timeout : Option Duration) (engine : Engine κ η) :
    (Scope × Identity) × Engine κ η :=
  match timeout with
  | none => ((scope, engine.nextIdentity), { engine with made := engine.made + 1 })
  | some timeout =>
    ((scope.withTimeout engine.nextIdentity engine.now timeout, .root (engine.made + 1)),
      { engine with made := engine.made + 2 })

/-- A new exchange below a scope. -/
def newExchange (scope : Scope) (timeout : Option Duration) : Work κ η Exchange := do
  let (parent, identity) ← Program.atomically (scopeFor scope timeout)
  return .create identity parent [] .null

/-- The context in which routes are compiled. -/
def compileContext (engine : Engine κ η) : CompileContext κ :=
  ⟨engine.functions, engine.formats, engine.components.names, engine.hooks, engine.config.history⟩

/-- An engine with the standard components, formats and converters. -/
def standard (config : Config) (now : Instant) (embedding : η) : Engine κ η :=
  { config
    scope := .root (.root 0)
    made := 1
    components :=
      ⟨"component", [("direct", .direct 0), ("timer", .timer config.timerPeriod)]⟩
    formats := ⟨"data format", [("json", .json .compact)]⟩
    tables := [[]]
    now
    embedding }

/-! ## Registries -/

/-- Registers a thing in one of the registries. -/
def registerIn {α : Type} (get : Engine κ η → Registry α)
    (put : Registry α → Engine κ η → Engine κ η) (name : String) (item : α) :
    Work κ η (Except Fault Unit) :=
  Program.atomically fun engine =>
    match (get engine).register name item with
    | .error fault => (.error fault, engine)
    | .ok registry => (.ok (), put registry engine)

/-- Registers a function. -/
def registerFunction (name : String) (processor : Processor κ) : Work κ η (Except Fault Unit) :=
  registerIn (·.functions) (fun functions engine => { engine with functions }) name processor

/-- Registers a component under its scheme. -/
def registerComponent (component : Component κ) : Work κ η (Except Fault Unit) :=
  registerIn (·.components) (fun components engine => { engine with components })
    component.scheme component

/-- Registers a data format. -/
def registerFormat (name : String) (format : Format κ) : Work κ η (Except Fault Unit) :=
  registerIn (·.formats) (fun formats engine => { engine with formats }) name format

/-- Sets the hooks that routes are compiled with from now on. -/
def setHooks (hooks : Hooks κ) : Work κ η Unit :=
  Program.change fun engine => { engine with hooks }

end Engine

end MessageRouting
