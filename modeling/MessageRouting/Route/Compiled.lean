import MessageRouting.Processor
import MessageRouting.Registry
import MessageRouting.Route.Definition
import MessageRouting.Uri

/-!
# Compiling routes

All expressions are compiled and all names are resolved before a route runs, so what is wrong with a definition
shows when the route is registered. Every step is decorated. A list of steps that is one thing for the step around
it becomes a pipeline that does not stop on errors, unless it is a single step.
-/

namespace MessageRouting

/-- What a definition is compiled against. -/
structure CompileContext (κ : Type) where
  /-- The registered functions. -/
  functions : Registry (Processor κ)
  /-- The registered data formats. -/
  formats : Registry (Format κ)
  /-- The schemes of the registered components. -/
  schemes : List String
  /-- The hooks around each step. -/
  hooks : Hooks κ
  /-- Histories are kept. -/
  tracked : Bool

/-- A compiled route. -/
structure Route (κ : Type) where
  /-- The name. -/
  name : String
  /-- The URI the route consumes from. -/
  source : String
  /-- What is done with each exchange. -/
  processor : Processor κ

namespace CompileContext

variable {κ : Type}

/-- Reads a URI and looks for its component. -/
def validate (schemes : List String) (uri : String) : Except Fault Uri := do
  let parsed ← Uri.parse uri
  if schemes.contains parsed.component then .ok parsed
  else .error (.unknownComponent parsed.component)

/-- Compiles the source of a value. -/
def evaluator : ValueSource κ → Except Fault (Evaluator κ)
  | .constant value => .ok (.constant value)
  | .code code => .ok (.code code)
  | .simple source => (Formula.compile source).map .formula

/-- The kind of a name. -/
def kindOf (route name : String) : Except Fault Kind :=
  (Kind.parse name).mapError fun _ => .unknownType route name

/-- The data format of a name. -/
def formatOf (context : CompileContext κ) (route name : String) : Except Fault (Format κ) :=
  (context.formats.get? name).elim (.error (.unknownFormat route name)) .ok

/-- The function of a name. -/
def functionOf (context : CompileContext κ) (route name : String) : Except Fault (Processor κ) :=
  (context.functions.get? name).elim (.error (.unknownFunction route name)) .ok

/-- A step with all that surrounds it. -/
def decorate (context : CompileContext κ) (route step : String) (inner : Processor κ) : Processor κ :=
  .decorated ⟨route, step⟩ context.hooks context.tracked inner

/-- The parts of a block as one processor: a single part is itself. -/
def joined (context : CompileContext κ) (route : String) : List (Processor κ) → Processor κ
  | [only] => only
  | parts => context.decorate route "pipeline" (.pipeline false parts)

/-- What a loop does with its compiled body. -/
def looping (policy : Pattern.ConditionPolicy) (mode : LoopMode κ) :
    Except Fault (Processor κ → Processor κ) :=
  match mode with
  | .count times => (evaluator times).map .countLoop
  | .while condition => (evaluator condition).map (.whileLoop · policy)

mutual

/-- Compiles a step without what surrounds it. The identity is the place of the step in its route. -/
def inner (context : CompileContext κ) (route : String) (place : Identity) :
    Step κ → Except Fault (Processor κ)
  | .setBody value => (evaluator value).map (.leaf <| .setBody ·)
  | .setHeader name value => (evaluator value).map (.leaf <| .setHeader name ·)
  | .setProperty name value => (evaluator value).map (.leaf <| .setProperty name ·)
  | .removeHeader name => .ok (.leaf (.removeHeader name))
  | .removeProperty name => .ok (.leaf (.removeProperty name))
  | .to uri => (validate context.schemes uri).map fun _ => .to place uri
  | .function name => context.functionOf route name
  | .setError value => (evaluator value).map (.leaf <| .setError ·)
  | .delay value => (evaluator value).map (.leaf <| .delay ·)
  | .log message level =>
    (Template.compile message).map fun template => .leaf (.log route template level)
  | .marshal format => (context.formatOf route format).map (.leaf <| .marshal ·)
  | .unmarshal format target => do
    let kind ← target.mapM (kindOf route)
    let found ← context.formatOf route format
    .ok (.leaf (.unmarshal found kind))
  | .convertBody target params =>
    (kindOf route target).map fun kind => .leaf (.convert .body kind params)
  | .convertHeader name target params =>
    (kindOf route target).map fun kind => .leaf (.convert (.header name) kind params)
  | .convertProperty name target params =>
    (kindOf route target).map fun kind => .leaf (.convert (.property name) kind params)
  | .pipeline steps stopOnError =>
    (each context route place 0 steps).map (.pipeline stopOnError)
  | .choice clauses otherwise => do
    let branches ← eachClause context route (place.made 0) 0 clauses
    match otherwise with
    | none => .ok (.choice branches none)
    | some steps =>
      let parts ← each context route (place.made 1) 0 steps
      .ok (.choice branches (some (context.joined route parts)))
  | .tryCatch steps catches last => do
    let handlers ← eachCatch context route (place.made 0) 0 catches
    let ends ←
      match last with
      | none => .ok []
      | some steps => each context route (place.made 1) 0 steps
    let parts ← each context route (place.made 2) 0 steps
    .ok (.tryCatch parts handlers ends)
  | .multicast outputs parallel stopOnError aggregator =>
    (each context route place 0 outputs).map (.multicast parallel stopOnError aggregator)
  | .loop mode steps policy => do
    let around ← looping policy mode
    let parts ← each context route place 0 steps
    .ok (around (context.joined route parts))

/-- Compiles steps one by one; the index is that of the first. -/
def each (context : CompileContext κ) (route : String) (place : Identity) (index : Nat) :
    List (Step κ) → Except Fault (List (Processor κ))
  | [] => .ok []
  | step :: rest => do
    let first ← inner context route (place.made index) step
    let others ← each context route place (index + 1) rest
    .ok (context.decorate route step.name first :: others)

/-- Compiles the clauses of a choice. -/
def eachClause (context : CompileContext κ) (route : String) (place : Identity) (index : Nat) :
    List (ValueSource κ × List (Step κ)) → Except Fault (List (Evaluator κ × Processor κ))
  | [] => .ok []
  | (condition, steps) :: rest => do
    let compiled ← evaluator condition
    let parts ← each context route (place.made index) 0 steps
    let others ← eachClause context route place (index + 1) rest
    .ok ((compiled, context.joined route parts) :: others)

/-- Compiles the clauses that handle errors. -/
def eachCatch (context : CompileContext κ) (route : String) (place : Identity) (index : Nat) :
    List (Matcher × List (Step κ)) → Except Fault (List (Matcher × Processor κ))
  | [] => .ok []
  | (matcher, steps) :: rest => do
    let parts ← each context route (place.made index) 0 steps
    let others ← eachCatch context route place (index + 1) rest
    .ok ((matcher, context.joined route parts) :: others)

end

/-- Compiles the steps of a block as one processor. -/
def block (context : CompileContext κ) (route : String) (place : Identity) (steps : List (Step κ)) :
    Except Fault (Processor κ) :=
  (each context route place 0 steps).map (context.joined route)

end CompileContext

/-- Compiles a definition; the identity is that of the route. -/
def Definition.compile {κ : Type} (definition : Definition κ) (context : CompileContext κ)
    (identity : Identity) : Except Fault (Route κ) := do
  if (Text.trim definition.name).isEmpty then .error (.routeBuild "route name must not be empty")
  else
    let _ ← Uri.parse definition.source
    let processor ← context.block definition.name identity definition.steps
    .ok ⟨definition.name, definition.source, processor⟩

end MessageRouting
