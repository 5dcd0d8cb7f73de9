import MessageRouting.Engine.Conversion
import MessageRouting.Engine.Endpoints
import MessageRouting.Format
import MessageRouting.Pattern.Choice
import MessageRouting.Pattern.Decorated
import MessageRouting.Pattern.Multicast
import MessageRouting.Pattern.Pipeline
import MessageRouting.Pattern.TryCatch

/-!
# Running processors

What a processor does with an exchange. Composite processors are the patterns over what their parts do. An
exchange that is handed to another route becomes a task of whoever runs the program.
-/

namespace MessageRouting.Engine

open Time

variable {κ η : Type}

/-! ## Values -/

/-- The fault of code of the embedding program that failed. -/
def handlerFault (cause : Cause) : Fault := .handler cause

/-- The value of an evaluator over an exchange. -/
def evaluate (embedding : Embedding κ η) (evaluator : Evaluator κ) (x : Exchange) :
    Work κ η (Ending Fault Value) :=
  match evaluator with
  | .constant value => return .returned value
  | .formula formula => return .ofExcept (formula.eval x)
  | .code code => return (← embedding.evaluate code x).mapError handlerFault

/-- An evaluator as a condition. -/
def holds (embedding : Embedding κ η) (evaluator : Evaluator κ) (x : Exchange) :
    Work κ η (Ending Fault Bool) :=
  return (← evaluate embedding evaluator x).bind fun value => .ofExcept value.truth

/-- What a step does with a value that may be missing. -/
def withValue (x : Exchange) (ending : Ending Fault Value) (use : Value → Exchange) : Outcome :=
  match ending with
  | .returned value => .returned (use value)
  | .failed fault => .returned (x.fail fault)
  | .panicked panic => .panicked x panic

/-! ## Delays -/

/-- The longest time between two looks at the scope of a delayed exchange. -/
def delaySlice : Nat := 10000000

/-- The delay that a value asks for. -/
def delayOf (value : Value) : Except Fault Duration :=
  let refusal : Except Fault Duration :=
    .error (.conversion value.kind.name "duration" s!"'{value.text}' is not a delay")
  match value with
  | .duration d => .ok d
  | .int n => if n < 0 then refusal else .ok (Duration.ofMillis n.toInt.toNat)
  | _ => refusal

/-- Lets the time go on, at most up to an instant and by one slice. -/
def passSlice (until_ : Instant) (engine : Engine κ η) : Engine κ η :=
  { engine with now := max engine.now (min until_ (engine.now + delaySlice)) }

/-- Waits for an instant as long as the exchange may go on; so many slices are left at most. -/
def waitUntil (until_ : Instant) : Nat → Exchange → Work κ η Outcome
  | 0, x => return .returned x
  | slices + 1, x => do
    match ← check x with
    | .error fault => return .returned (x.fail fault)
    | .ok () =>
      if until_ ≤ (← Program.read (·.now)) then return .returned x
      else
        Program.change (passSlice until_)
        waitUntil until_ slices x

/-- Delays an exchange. -/
def delay (x : Exchange) (d : Duration) : Work κ η Outcome := do
  match (← Program.read (·.now)).after? d with
  | none =>
    return .returned
      (x.fail (.conversion "duration" "deadline" s!"delay of {d.text} is out of range"))
  | some until_ => waitUntil until_ (d.nanos / delaySlice + 2) x

/-! ## Steps without steps inside -/

/-- Marshals a value. -/
def marshal (embedding : Embedding κ η) (format : Format κ) (value : Value) :
    Work κ η (Ending Fault String) :=
  match format with
  | .json layout => return .ofExcept (Json.marshal layout value)
  | .custom code => embedding.marshal code value

/-- Reads a value from octets. -/
def unmarshal (embedding : Embedding κ η) (format : Format κ) (octets : ByteArray)
    (target : Option Kind) : Work κ η (Ending Fault Value) :=
  match format with
  | .json _ => return .ofExcept (Json.unmarshal octets target)
  | .custom code => embedding.unmarshal code octets target

/-- The name of a data format. -/
def formatName (embedding : Embedding κ η) : Format κ → String
  | .json _ => jsonName
  | .custom code => embedding.formatName code

/-- The value at a place. -/
def valueAt (x : Exchange) : Place → Option Value
  | .body => some x.body
  | .header name => x.header? name
  | .property name => x.property? name

/-- Puts a value at a place. -/
def putAt (x : Exchange) (value : Value) : Place → Exchange
  | .body => x.setBody value
  | .header name => x.setHeader name value
  | .property name => x.setProperty name value

/-- Sets a value as the pending error; what is no failure becomes a message. -/
def setErrorTo (x : Exchange) (value : Value) : Exchange :=
  match value with
  | .error e => x.setError e
  | other => x.failWith (.plain other.text)

/-- Runs a step without steps inside. -/
def runLeaf (embedding : Embedding κ η) (leaf : Leaf κ) (x : Exchange) : Work κ η Outcome :=
  match leaf with
  | .setBody value => return withValue x (← evaluate embedding value x) x.setBody
  | .setHeader name value => return withValue x (← evaluate embedding value x) (x.setHeader name)
  | .setProperty name value =>
    return withValue x (← evaluate embedding value x) (x.setProperty name)
  | .removeHeader name => return .returned (x.removeHeader name)
  | .removeProperty name => return .returned (x.removeProperty name)
  | .setError value => return withValue x (← evaluate embedding value x) (setErrorTo x)
  | .delay duration => do
    match (← evaluate embedding duration x).bind fun value => .ofExcept (delayOf value) with
    | .returned d => delay x d
    | .failed fault => return .returned (x.fail fault)
    | .panicked panic => return .panicked x panic
  | .log route template level => do
    match template.render x with
    | .error fault => return .returned (x.fail fault)
    | .ok message =>
      note (.logged level route message)
      return .returned x
  | .marshal format => do
    let ending ← marshal embedding format x.body
    return withValue x (ending.bind fun text => .returned (.string text)) x.setBody
  | .unmarshal format target =>
    match x.body.octets? with
    | none =>
      return .returned (x.fail
        (.format (formatName embedding format) s!"cannot unmarshal a {x.body.kind.name} body"))
    | some octets => return withValue x (← unmarshal embedding format octets target) x.setBody
  | .convert place target params =>
    match valueAt x place with
    | none => return .returned x
    | some value => return withValue x (← convert embedding value target params) (putAt x · place)

/-! ## Handing over -/

/-- Keeps the producer of a step. -/
def keepProducer (keptAs : Identity) (uri : String) (producer : Processor κ) (engine : Engine κ η) : Engine κ η :=
  { engine with producers := ((keptAs, uri), producer) :: engine.producers }

/-- The producer for a step, made on the first use and kept. -/
def producerFor (embedding : Embedding κ η) (keptAs : Identity) (uri : String) :
    Work κ η (Except Fault (Processor κ)) := do
  match ← Program.read fun engine => engine.producers.lookup (keptAs, uri) with
  | some producer => return .ok producer
  | none =>
    match ← resolve embedding uri with
    | .error fault => return .error fault
    | .ok endpoint =>
      match ← makeProducer embedding endpoint with
      | .error fault => return .error fault
      | .ok producer =>
        Program.change (keepProducer keptAs uri producer)
        return .ok producer

/-- Hands an exchange to an endpoint. -/
def handTo (embedding : Embedding κ η) (keptAs : Identity) (uri : String) (x : Exchange) :
    Work κ η Outcome := do
  match ← producerFor embedding keptAs uri with
  | .ok producer => Program.ask (producer, x)
  | .error fault => return .returned (x.fail fault)

/-- Hands an exchange to a direct consumer. -/
def handOver (uri name : String) (table : Nat) (x : Exchange) : Work κ η Outcome := do
  match ← Program.read fun engine => (engine.tableAt table).find? name with
  | some processor => Program.ask (processor, x)
  | none => return .returned (x.fail (.noConsumer uri))

/-- Runs a function of the embedding program. -/
def runFunction (embedding : Embedding κ η) (code : κ) (x : Exchange) : Work κ η Outcome := do
  match ← embedding.function code x with
  | (x, .returned ()) => return .returned x
  | (x, .failed cause) => return .returned (x.failWith cause)
  | (x, .panicked panic) => return .panicked x panic

/-! ## Trees -/

/-- What surrounds every step of an engine. -/
def surroundings : Pattern.Surroundings (Program (Engine κ η) (Processor κ × Exchange) Outcome) :=
  ⟨check, note⟩

/-- How the outputs of a multicast run when branches that run side by side finish in the order in which they
were declared. -/
def modeOf (parallel stopOnError : Bool) (outputs : Nat) : Pattern.Mode :=
  if parallel then .sideBySide (List.range outputs) else .inTurn stopOnError

/-- A hook as a behaviour. -/
def hookAt (embedding : Embedding κ η) (point : HookPoint) (info : StepInfo) (hook : Option κ) :
    Option (Exchange → Work κ η Outcome) :=
  hook.map fun code => embedding.hook code point info

mutual

/-- What a processor does; the patience bounds the iterations of each loop with a condition. -/
def behaviour (embedding : Embedding κ η) (patience : Nat) :
    Processor κ → Exchange → Work κ η Outcome
  | .leaf leaf => runLeaf embedding leaf
  | .to keptAs uri => handTo embedding keptAs uri
  | .direct uri name table => handOver uri name table
  | .function code => runFunction embedding code
  | .custom code => embedding.process code
  | .decorated info hooks tracked inner =>
    Pattern.decorated surroundings info (hookAt embedding .pre info hooks.pre)
      (hookAt embedding .post info hooks.post) tracked (behaviour embedding patience inner)
  | .pipeline stopOnError steps =>
    Pattern.pipeline stopOnError (behaviours embedding patience steps)
  | .choice clauses none => Pattern.choice none (clauseBehaviours embedding patience clauses)
  | .choice clauses (some otherwise) =>
    Pattern.choice (some (behaviour embedding patience otherwise))
      (clauseBehaviours embedding patience clauses)
  | .tryCatch steps handlers last =>
    Pattern.tryCatch (behaviours embedding patience steps)
      (handlerBehaviours embedding patience handlers) (behaviours embedding patience last)
  | .multicast parallel stopOnError aggregator outputs =>
    Pattern.multicast (modeOf parallel stopOnError outputs.length)
      (aggregator.map embedding.aggregate) (behaviours embedding patience outputs)
  | .countLoop count body =>
    Pattern.countLoop (evaluate embedding count) (behaviour embedding patience body)
  | .whileLoop condition policy body =>
    Pattern.whileLoop (fun x => Program.blocked (.returned x)) patience (holds embedding condition)
      policy (behaviour embedding patience body)

/-- What each of some processors does. -/
def behaviours (embedding : Embedding κ η) (patience : Nat) :
    List (Processor κ) → List (Exchange → Work κ η Outcome)
  | [] => []
  | processor :: rest =>
    behaviour embedding patience processor :: behaviours embedding patience rest

/-- What the clauses of a choice do. -/
def clauseBehaviours (embedding : Embedding κ η) (patience : Nat) :
    List (Evaluator κ × Processor κ) →
      List ((Exchange → Work κ η (Ending Fault Bool)) × (Exchange → Work κ η Outcome))
  | [] => []
  | (condition, processor) :: rest =>
    (holds embedding condition, behaviour embedding patience processor) ::
      clauseBehaviours embedding patience rest

/-- What the handlers of errors do. -/
def handlerBehaviours (embedding : Embedding κ η) (patience : Nat) :
    List (Matcher × Processor κ) →
      List (Pattern.Handler (Program (Engine κ η) (Processor κ × Exchange) Outcome))
  | [] => []
  | (matcher, processor) :: rest =>
    ⟨matcher.accepts, behaviour embedding patience processor⟩ ::
      handlerBehaviours embedding patience rest

end

/-- Carries out a task. -/
def carryOut (embedding : Embedding κ η) (patience : Nat) (task : Processor κ × Exchange) :
    Work κ η Outcome :=
  behaviour embedding patience task.1 task.2

/-- Runs a program of an engine alone. -/
def run {α : Type} (embedding : Embedding κ η) (fuel : Nat) (work : Work κ η α) (engine : Engine κ η) :
    Option (α × Engine κ η) :=
  Program.runWithin (carryOut embedding) fuel work engine

end MessageRouting.Engine
