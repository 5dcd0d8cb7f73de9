import MessageRouting.Engine.Run
import MessageRouting.Proofs.Exchange.Converted
import MessageRouting.Proofs.Pattern.Simulation
import MessageRouting.Proofs.Route.Constants

/-!
# Work that is related to itself

What a processor does is put together from few pieces: it reads the state of the engine, keeps what it found, notes
events, hands exchanges over, and runs code of the embedding program. A relation between programs that goes along with
patterns and relates each of these pieces to itself relates what any processor does to itself.
-/

namespace MessageRouting

/-- The program is related to itself, for results of a kind. -/
abbrev Pattern.Simulation.Self {m : Type → Type} [Monad m] (sim : Pattern.Simulation m) {α : Type} (good : α → Prop)
    (program : m α) : Prop :=
  sim.relates good program program

/-- What an answer says is wrong raises only what is allowed. -/
def FailsOnly {α : Type} (allowed : Raised → Prop) (answer : Except Fault α) : Prop :=
  ∀ fault, answer = .error fault → fault.RaisesOnly allowed

/-- A value that a piece of work returns carries only errors that are allowed. -/
def Ending.GivesOnly {ε : Type} (allowed : Raised → Prop) (ending : Ending ε Value) : Prop :=
  ∀ value, ending = .returned value → value.CarriesOnly allowed

/-- What a function leaves and raises is allowed. -/
structure FunctionKeeps (allowed : Raised → Prop) (ended : Exchange × Ending Cause Unit) : Prop where
  /-- What it leaves on the exchange. -/
  left : ended.1.CarriesOnly allowed
  /-- What it fails with. -/
  raised : ∀ cause, ended.2 = .failed cause → ∀ identity, allowed (cause.raise identity)

/-- All code of an embedding program is of a kind. -/
structure Embedding.AllCode {κ η : Type} (kind : {α : Type} → Work κ η α → Prop) (embedding : Embedding κ η) :
    Prop where
  /-- Finding values. -/
  evaluate : ∀ code x, kind (embedding.evaluate code x)
  /-- Functions. -/
  function : ∀ code x, kind (embedding.function code x)
  /-- Processors. -/
  process : ∀ code x, kind (embedding.process code x)
  /-- Hooks. -/
  hook : ∀ code point info x, kind (embedding.hook code point info x)
  /-- Joining branches. -/
  aggregate : ∀ code before branch, kind (embedding.aggregate code before branch)
  /-- Converting values. -/
  convert : ∀ code value params, kind (embedding.convert code value params)
  /-- Writing in a data format. -/
  marshal : ∀ code value, kind (embedding.marshal code value)
  /-- Reading from a data format. -/
  unmarshal : ∀ code octets target, kind (embedding.unmarshal code octets target)

/-- Code of a kind is of a weaker kind. -/
theorem Embedding.AllCode.mono {κ η : Type} {kind weaker : {α : Type} → Work κ η α → Prop} {embedding : Embedding κ η}
    (all : embedding.AllCode kind) (implies : ∀ {α : Type} (work : Work κ η α), kind work → weaker work) :
    embedding.AllCode weaker where
  evaluate code x := implies _ (all.evaluate code x)
  function code x := implies _ (all.function code x)
  process code x := implies _ (all.process code x)
  hook code point info x := implies _ (all.hook code point info x)
  aggregate code before branch := implies _ (all.aggregate code before branch)
  convert code value params := implies _ (all.convert code value params)
  marshal code value := implies _ (all.marshal code value)
  unmarshal code octets target := implies _ (all.unmarshal code octets target)

/-- Code of two kinds is of both. -/
theorem Embedding.AllCode.and {κ η : Type} {kind other : {α : Type} → Work κ η α → Prop} {embedding : Embedding κ η}
    (all : embedding.AllCode kind) (also : embedding.AllCode other) :
    embedding.AllCode fun work => kind work ∧ other work where
  evaluate code x := ⟨all.evaluate code x, also.evaluate code x⟩
  function code x := ⟨all.function code x, also.function code x⟩
  process code x := ⟨all.process code x, also.process code x⟩
  hook code point info x := ⟨all.hook code point info x, also.hook code point info x⟩
  aggregate code before branch := ⟨all.aggregate code before branch, also.aggregate code before branch⟩
  convert code value params := ⟨all.convert code value params, also.convert code value params⟩
  marshal code value := ⟨all.marshal code value, also.marshal code value⟩
  unmarshal code octets target := ⟨all.unmarshal code octets target, also.unmarshal code octets target⟩

namespace Engine

open Pattern

variable {κ η : Type}

/-- The programs of an engine, as the monad of patterns. -/
abbrev Working (κ η : Type) : Type → Type := Program (Engine κ η) (Processor κ × Exchange) Outcome

/-- What is read of an engine does not depend on what was noted. -/
def Blind {α : Type} (f : Engine κ η → α) : Prop := ∀ engine journal, f { engine with journal } = f engine

/-- Whatever does not depend on what was noted can be read; sections meet states of a kind only. -/
def Reads (sim : Simulation (Working κ η)) (states : Engine κ η → Prop) : Prop :=
  ∀ {α : Type} {good : α → Prop} {f : Engine κ η → α}, Blind f → (∀ engine, states engine → good (f engine)) →
    sim.Self good (Program.read f)

/-- Related steps are related when they are decorated in the same way. -/
def Decorates (sim : Simulation (Working κ η)) (allowed : Raised → Prop) (embedding : Embedding κ η) : Prop :=
  ∀ (info : StepInfo) (hooks : Hooks κ) (tracked : Bool) {inner other : Exchange → Work κ η Outcome},
    sim.Behaviours allowed inner other →
    sim.Behaviours allowed
      (Pattern.decorated surroundings info (hookAt embedding .pre info hooks.pre)
        (hookAt embedding .post info hooks.post) tracked inner)
      (Pattern.decorated surroundings info (hookAt embedding .pre info hooks.pre)
        (hookAt embedding .post info hooks.post) tracked other)

/-- The pieces that work is made of are related to themselves. Sections meet states of a kind only. -/
structure Basis (sim : Simulation (Working κ η)) (allowed : Raised → Prop) (states : Engine κ η → Prop)
    (embedding : Embedding κ η) : Prop where
  /-- Reading. -/
  read : Reads sim states
  /-- Letting time pass. -/
  pass : ∀ due, sim.Self (fun _ => True) (Program.change (passSlice due))
  /-- Keeping a path. -/
  remember : ∀ edge path, sim.Self (fun _ => True) (changeConverters (.remember edge path))
  /-- Logging. -/
  log : ∀ level route text, sim.Self (fun _ => True) (note (.logged level route text))
  /-- Decorating. -/
  decorates : Decorates sim allowed embedding
  /-- Finding the producer of a step. -/
  producer : ∀ keptAs uri, sim.Self (FailsOnly allowed) (producerFor embedding keptAs uri)
  /-- Handing an exchange over. -/
  ask : ∀ (processor : Processor κ) (x : Exchange), x.CarriesOnly allowed →
    sim.Self (Outcome.CarriesOnly allowed) (Program.ask (processor, x))
  /-- Waiting in vain. -/
  blocked : ∀ {α : Type} {good : α → Prop} (result : α), sim.Self good (Program.blocked result)
  /-- The converters of the framework bring no errors. -/
  converters : ∀ engine, states engine → ∀ edge converter, engine.converters.at? edge = some converter →
    converter.GivesOnly allowed
  /-- Finding values. -/
  evaluate : ∀ code (x : Exchange), x.CarriesOnly allowed →
    sim.Self (Ending.GivesOnly allowed) (embedding.evaluate code x)
  /-- Functions. -/
  function : ∀ code (x : Exchange), x.CarriesOnly allowed → sim.Self (FunctionKeeps allowed) (embedding.function code x)
  /-- Processors. -/
  process : ∀ code, sim.Behaviours allowed (embedding.process code) (embedding.process code)
  /-- Joining branches. -/
  aggregate : ∀ code, sim.Joins allowed (embedding.aggregate code)
  /-- Converting values. -/
  convert : ∀ code (value : Value) params, value.CarriesOnly allowed →
    sim.Self (Ending.GivesOnly allowed) (embedding.convert code value params)
  /-- Writing in a data format. -/
  marshal : ∀ code (value : Value), value.CarriesOnly allowed →
    sim.Self (Ending.Keeps allowed fun _ => True) (embedding.marshal code value)
  /-- Reading from a data format. -/
  unmarshal : ∀ code octets target,
    sim.Self (Ending.Keeps allowed (Value.CarriesOnly allowed)) (embedding.unmarshal code octets target)

/-- All errors are allowed. -/
abbrev anyError : Raised → Prop := fun _ => True

/-- The pieces that work is made of are related to themselves, whatever errors they bring. -/
structure Pieces (sim : Simulation (Working κ η)) (embedding : Embedding κ η) : Prop where
  /-- Reading. -/
  read : Reads sim fun _ => True
  /-- Letting time pass. -/
  pass : ∀ due, sim.Self (fun _ => True) (Program.change (passSlice due))
  /-- Keeping a path. -/
  remember : ∀ edge path, sim.Self (fun _ => True) (changeConverters (.remember edge path))
  /-- Logging. -/
  log : ∀ level route text, sim.Self (fun _ => True) (note (.logged level route text))
  /-- Decorating. -/
  decorates : Decorates sim anyError embedding
  /-- Finding the producer of a step. -/
  producer : ∀ keptAs uri, sim.Self (FailsOnly anyError) (producerFor embedding keptAs uri)
  /-- Handing an exchange over. -/
  ask : ∀ task, sim.Self (fun _ => True) (Program.ask task)
  /-- Waiting in vain. -/
  blocked : ∀ {α : Type} {good : α → Prop} (result : α), sim.Self good (Program.blocked result)
  /-- The code of the embedding program. -/
  code : embedding.AllCode (sim.Self fun _ => True)

variable {sim : Simulation (Working κ η)} {allowed : Raised → Prop} {states : Engine κ η → Prop}
  {embedding : Embedding κ η}

/-- What is related to itself, whatever it results in, is so for results of a kind that holds of all. -/
theorem self_of_all {α : Type} {good : α → Prop} (all : ∀ result, good result) {program : Work κ η α}
    (self : sim.Self (fun _ => True) program) : sim.Self good program := by
  have followed := sim.bind self fun result (_ : True) => sim.pure (all result)
  rwa [bind_pure] at followed

/-- Pieces that are related to themselves are so when all errors are allowed. -/
theorem Pieces.basis (pieces : Pieces sim embedding) : Basis sim anyError (fun _ => True) embedding where
  read := pieces.read
  pass := pieces.pass
  remember := pieces.remember
  log := pieces.log
  decorates := pieces.decorates
  producer := pieces.producer
  ask processor x _ := self_of_all (fun o => o.exchange.carriesOnly_of_all fun _ => trivial) (pieces.ask (processor, x))
  blocked := pieces.blocked
  converters _ _ _ converter _ := by
    cases converter with
    | builtin conversion => exact fun _ _ given _ _ => given.carriesOnly_of_all fun _ => trivial
    | custom code => trivial
  evaluate code x _ :=
    self_of_all (fun _ value _ => value.carriesOnly_of_all fun _ => trivial) (pieces.code.evaluate code x)
  function code x _ := self_of_all
    (fun ended => ⟨ended.1.carriesOnly_of_all fun _ => trivial, fun _ _ _ => trivial⟩) (pieces.code.function code x)
  process code x _ :=
    self_of_all (fun o => o.exchange.carriesOnly_of_all fun _ => trivial) (pieces.code.process code x)
  aggregate code before branch _ _ :=
    self_of_all (fun _ y _ => y.carriesOnly_of_all fun _ => trivial) (pieces.code.aggregate code before branch)
  convert code value params _ :=
    self_of_all (fun _ given _ => given.carriesOnly_of_all fun _ => trivial) (pieces.code.convert code value params)
  marshal code value _ := by
    refine self_of_all (fun ending => ?_) (pieces.code.marshal code value)
    cases ending with
    | returned text => trivial
    | failed fault => exact fun _ => trivial
    | panicked panic => trivial
  unmarshal code octets target := by
    refine self_of_all (fun ending => ?_) (pieces.code.unmarshal code octets target)
    cases ending with
    | returned value => exact value.carriesOnly_of_all fun _ => trivial
    | failed fault => exact fun _ => trivial
    | panicked panic => trivial

/-! ## Values -/

section Pieces

variable (admits : Admits allowed) (basis : Basis sim allowed states embedding)

include basis in
/-- Reading is related to itself. -/
theorem self_read {α : Type} {f : Engine κ η → α} (blind : Blind f) : sim.Self (fun _ => True) (Program.read f) :=
  basis.read blind fun _ _ => trivial

include admits basis

/-- Evaluating is related to itself. -/
theorem self_evaluate {evaluator : Evaluator κ} (own : evaluator.CarriesOnly allowed) :
    sim.Queries allowed (Value.CarriesOnly allowed) (evaluate embedding evaluator) (evaluate embedding evaluator) := by
  intro x carried
  cases evaluator with
  | constant value => exact sim.pure own
  | formula formula => exact sim.pure (Formula.keeps_eval admits own carried)
  | code code =>
    refine sim.bind (basis.evaluate code x carried) fun ending kept => sim.pure ?_
    cases ending with
    | returned value => exact kept value rfl
    | failed cause => exact Fault.IsPlain.raisesOnly admits trivial
    | panicked panic => trivial

/-- Asking a condition is related to itself. -/
theorem self_holds {evaluator : Evaluator κ} (own : evaluator.CarriesOnly allowed) :
    sim.Queries allowed (fun _ => True) (holds embedding evaluator) (holds embedding evaluator) :=
  fun x carried => sim.bind (self_evaluate admits basis own x carried) fun _ kept =>
    sim.pure (kept.bind fun _ _ => Ending.keeps_ofExcept admits (fun _ _ => trivial) fun _ => Value.isPlain_of_truth)

omit admits in
/-- Looking for a path is related to itself. -/
theorem self_pathBetween (edge : Convert.Edge) :
    sim.Self (fun _ => True) (pathBetween edge : Work κ η (Option (List Kind))) := by
  refine sim.bind (self_read basis fun _ _ => rfl) fun known _ => ?_
  split
  · exact sim.pure trivial
  · exact sim.bind (self_read basis fun _ _ => rfl) fun path _ =>
      sim.bind (basis.remember edge path) fun _ _ => sim.pure trivial

/-- Converting along edges is related to itself. -/
theorem self_convertAlong (params : Table String) (edges : List Convert.Edge) {value : Value}
    (carried : value.CarriesOnly allowed) :
    sim.Self (Ending.Keeps allowed (Value.CarriesOnly allowed)) (convertAlong embedding params edges value) := by
  induction edges generalizing value with
  | nil => exact sim.pure carried
  | cons edge rest later =>
    have plain {fault : Fault} (holds : fault.IsPlain) : fault.RaisesOnly allowed := holds.raisesOnly admits
    have found : sim.Self (fun found => ∀ converter ∈ found, converter.GivesOnly allowed)
        (Program.read fun engine : Engine κ η => engine.converters.at? edge) :=
      basis.read (fun _ _ => rfl) fun engine state converter => basis.converters engine state edge converter
    refine sim.bind found fun converter given => ?_
    split
    · exact sim.pure (plain trivial)
    · rename_i converter
      have applied : sim.Self (Ending.GivesOnly allowed) (applyConverter embedding converter value params) := by
        cases converter with
        | builtin conversion => exact sim.pure fun next => given _ rfl value params next carried
        | custom code => exact basis.convert code value params carried
      refine sim.bind applied fun ending kept => ?_
      cases ending with
      | returned next => exact later (kept next rfl)
      | failed cause => exact sim.pure (plain trivial)
      | panicked panic => exact sim.pure trivial

/-- Converting is related to itself. -/
theorem self_convert {value : Value} (carried : value.CarriesOnly allowed) (target : Kind) (params : Table String) :
    sim.Self (Ending.Keeps allowed (Value.CarriesOnly allowed)) (convert embedding value target params) := by
  unfold Engine.convert
  split
  · exact sim.pure carried
  · refine sim.bind (self_pathBetween basis _) fun path _ => ?_
    split
    · exact sim.pure (Fault.IsPlain.raisesOnly admits trivial)
    · exact self_convertAlong admits basis params _ carried

/-- Marshalling is related to itself. -/
theorem self_marshal (format : Format κ) {value : Value} (carried : value.CarriesOnly allowed) :
    sim.Self (Ending.Keeps allowed fun _ => True) (marshal embedding format value) := by
  cases format with
  | json layout =>
    exact sim.pure (Ending.keeps_ofExcept admits (fun _ _ => trivial) fun _ => Json.isPlain_of_marshal)
  | custom code => exact basis.marshal code value carried

/-- Unmarshalling is related to itself. -/
theorem self_unmarshal (format : Format κ) (octets : ByteArray) (target : Option Kind) :
    sim.Self (Ending.Keeps allowed (Value.CarriesOnly allowed)) (unmarshal embedding format octets target) := by
  cases format with
  | json layout =>
    exact sim.pure (Ending.keeps_ofExcept admits (fun _ => Json.carriesOnly_unmarshal)
      fun _ => Json.isPlain_of_unmarshal)
  | custom code => exact basis.unmarshal code octets target

/-! ## Steps without steps inside -/

omit admits basis in
/-- A scope is refused by plain faults. -/
theorem isPlain_of_check {scope : Scope} {now : Instant} {cancelled : List Identity} {fault : Fault}
    (refused : scope.check now cancelled = .error fault) : fault.IsPlain := by
  unfold Scope.check at refused
  split at refused
  · cases refused
    trivial
  · split at refused <;> cases refused
    trivial

omit basis in
/-- Checking is related to itself, if it can be read. -/
theorem self_check (read : Reads sim states) (x : Exchange) :
    sim.Self (FailsOnly allowed) (check x : Work κ η (Except Fault Unit)) :=
  read (fun _ _ => rfl) fun _ _ _ refused => (isPlain_of_check refused).raisesOnly admits

/-- Waiting is related to itself. -/
theorem self_waitUntil (due : Instant) (slices : Nat) :
    sim.Behaviours allowed (waitUntil due slices : Exchange → Work κ η Outcome) (waitUntil due slices) := by
  induction slices with
  | zero => exact fun x carried => sim.pure carried
  | succ slices later =>
    refine fun x carried => sim.bind (self_check admits basis.read x) fun verdict refused => ?_
    split
    · rename_i fault
      exact sim.pure (carried.fail (refused fault rfl))
    · refine sim.bind (self_read basis fun _ _ => rfl) fun now _ => ?_
      split
      · exact sim.pure carried
      · exact sim.bind (basis.pass due) fun _ _ => later x carried

/-- Delaying is related to itself. -/
theorem self_delay {x : Exchange} (carried : x.CarriesOnly allowed) (duration : Time.Duration) :
    sim.Self (Outcome.CarriesOnly allowed) (delay x duration : Work κ η Outcome) := by
  refine sim.bind (self_read basis fun _ _ => rfl) fun now _ => ?_
  split
  · exact sim.pure (carried.fail (Fault.IsPlain.raisesOnly admits trivial))
  · exact self_waitUntil admits basis _ _ x carried

omit admits basis in
/-- A value that is no delay is refused by a plain fault. -/
theorem isPlain_of_delayOf {value : Value} {fault : Fault} (refused : delayOf value = .error fault) :
    fault.IsPlain := by
  unfold delayOf at refused
  split at refused
  · cases refused
  · split at refused <;> cases refused
    trivial
  · cases refused
    trivial

omit admits basis in
/-- What a step does with a value that may be missing carries what the value does. -/
theorem carriesOnly_withValue {x : Exchange} (carried : x.CarriesOnly allowed) {ending : Ending Fault Value}
    (kept : ending.Keeps allowed (Value.CarriesOnly allowed)) {use : Value → Exchange}
    (used : ∀ value, value.CarriesOnly allowed → (use value).CarriesOnly allowed) :
    (withValue x ending use).CarriesOnly allowed := by
  cases ending with
  | returned value => exact used value kept
  | failed fault => exact carried.fail kept
  | panicked panic => exact carried

omit basis in
/-- A value that is set as the error is carried. -/
theorem carriesOnly_setErrorTo {x : Exchange} (carried : x.CarriesOnly allowed) {value : Value}
    (new : value.CarriesOnly allowed) : (setErrorTo x value).CarriesOnly allowed := by
  have plain : (x.failWith (.plain value.text)).CarriesOnly allowed :=
    carried.failWith fun identity => admits _ fun unresolved => nomatch unresolved.choose_spec.1
  unfold setErrorTo
  split
  · exact carried.setError new
  · exact plain

omit admits basis in
/-- The value at a place is carried. -/
theorem carriesOnly_valueAt {x : Exchange} (carried : x.CarriesOnly allowed) {place : Place} {value : Value}
    (found : valueAt x place = some value) : value.CarriesOnly allowed := by
  cases place with
  | body =>
    cases found
    exact carried.body
  | header name => exact carried.headers.find? found
  | property name => exact carried.properties.find? found

omit admits basis in
/-- A value that is put at a place is carried. -/
theorem carriesOnly_putAt {x : Exchange} (carried : x.CarriesOnly allowed) {value : Value}
    (new : value.CarriesOnly allowed) (place : Place) : (putAt x value place).CarriesOnly allowed := by
  cases place with
  | body => exact carried.setBody new
  | header name => exact carried.setHeader new
  | property name => exact carried.setProperty new

/-- A step without steps inside is related to itself. -/
theorem self_runLeaf {leaf : Leaf κ} (own : ∀ evaluator ∈ leaf.evaluators, evaluator.CarriesOnly allowed) :
    sim.Behaviours allowed (runLeaf embedding leaf) (runLeaf embedding leaf) := by
  intro x carried
  have plain {fault : Fault} (holds : fault.IsPlain) : (x.fail fault).CarriesOnly allowed :=
    carried.fail (holds.raisesOnly admits)
  cases leaf with
  | setBody value =>
    exact sim.bind (self_evaluate admits basis (own value List.mem_cons_self) x carried) fun _ kept =>
      sim.pure (carriesOnly_withValue carried kept fun _ new => carried.setBody new)
  | setHeader name value =>
    exact sim.bind (self_evaluate admits basis (own value List.mem_cons_self) x carried) fun _ kept =>
      sim.pure (carriesOnly_withValue carried kept fun _ new => carried.setHeader new)
  | setProperty name value =>
    exact sim.bind (self_evaluate admits basis (own value List.mem_cons_self) x carried) fun _ kept =>
      sim.pure (carriesOnly_withValue carried kept fun _ new => carried.setProperty new)
  | removeHeader name => exact sim.pure (carried.removeHeader name)
  | removeProperty name => exact sim.pure (carried.removeProperty name)
  | setError value =>
    exact sim.bind (self_evaluate admits basis (own value List.mem_cons_self) x carried) fun _ kept =>
      sim.pure (carriesOnly_withValue carried kept fun _ new => carriesOnly_setErrorTo admits carried new)
  | delay duration =>
    refine sim.bind (self_evaluate admits basis (own duration List.mem_cons_self) x carried) fun ending kept => ?_
    have wanted : (ending.bind fun value => .ofExcept (delayOf value)).Keeps allowed fun _ => True :=
      kept.bind fun value _ => Ending.keeps_ofExcept admits (fun _ _ => trivial) fun _ => isPlain_of_delayOf
    split
    · exact self_delay admits basis carried _
    · rename_i refused
      rw [refused] at wanted
      exact sim.pure (carried.fail wanted)
    · exact sim.pure carried
  | log route template level =>
    unfold runLeaf
    dsimp only
    split
    · rename_i refused
      exact sim.pure (plain (Template.isPlain_of_render refused))
    · exact sim.bind (basis.log _ _ _) fun _ _ => sim.pure carried
  | marshal format =>
    refine sim.bind (self_marshal admits basis format carried.body) fun ending kept => sim.pure ?_
    have written : (ending.bind fun text => .returned (.string text)).Keeps allowed (Value.CarriesOnly allowed) :=
      kept.bind fun text _ => trivial
    exact carriesOnly_withValue carried written fun _ new => carried.setBody new
  | unmarshal format target =>
    unfold runLeaf
    dsimp only
    split
    · exact sim.pure (plain trivial)
    · exact sim.bind (self_unmarshal admits basis format _ target) fun _ kept =>
        sim.pure (carriesOnly_withValue carried kept fun _ new => carried.setBody new)
  | convert place target params =>
    unfold runLeaf
    dsimp only
    split
    · exact sim.pure carried
    · rename_i found
      exact sim.bind (self_convert admits basis (carriesOnly_valueAt carried found) target params) fun _ kept =>
        sim.pure (carriesOnly_withValue carried kept fun _ new => carriesOnly_putAt carried new place)

omit admits in
/-- Running a function is related to itself. -/
theorem self_runFunction (code : κ) :
    sim.Behaviours allowed (runFunction embedding code) (runFunction embedding code) := by
  refine fun x carried => sim.bind (basis.function code x carried) fun ended kept => ?_
  obtain ⟨y, ending⟩ := ended
  cases ending with
  | returned done => exact sim.pure kept.left
  | failed cause => exact sim.pure (kept.left.failWith (kept.raised cause rfl))
  | panicked panic => exact sim.pure kept.left

/-! ## Handing over -/

omit basis in
/-- Making a producer is related to itself, if requests are. -/
theorem self_makeProducer (request : ∀ code wanted, sim.Self (FailsOnly allowed) (request embedding code wanted))
    (endpoint : Endpoint κ) : sim.Self (FailsOnly allowed) (makeProducer embedding endpoint) := by
  unfold makeProducer
  split
  · exact sim.pure nofun
  · refine sim.pure fun fault same => ?_
    cases same
    exact Fault.IsPlain.raisesOnly admits trivial
  · refine sim.bind (request _ _) fun answer failed => sim.pure fun fault same => ?_
    exact failed fault (eq_error_of_map same)

omit basis in
/-- Finding the producer of a step is related to itself, if looking for endpoints, requests and keeping any producer
are. -/
theorem self_producerFor (read : Reads sim states)
    (resolve : ∀ text, sim.Self (FailsOnly allowed) (resolve embedding text))
    (request : ∀ code wanted, sim.Self (FailsOnly allowed) (request embedding code wanted))
    (keep : ∀ keptAs uri producer, sim.Self (fun _ => True) (Program.change (keepProducer keptAs uri producer)))
    (keptAs : Identity) (uri : String) : sim.Self (FailsOnly allowed) (producerFor embedding keptAs uri) := by
  have looked : sim.Self (fun _ => True)
      (Program.read fun engine : Engine κ η => engine.producers.lookup (keptAs, uri)) :=
    read (fun _ _ => rfl) fun _ _ => trivial
  refine sim.bind looked fun kept _ => ?_
  split
  · exact sim.pure nofun
  · refine sim.bind (resolve uri) fun resolved failed => ?_
    split
    · rename_i fault
      exact sim.pure fun other same => by cases same; exact failed fault rfl
    · refine sim.bind (self_makeProducer admits request _) fun made failed => ?_
      split
      · rename_i fault
        exact sim.pure fun other same => by cases same; exact failed fault rfl
      · exact sim.bind (keep keptAs uri _) fun _ _ => sim.pure nofun

omit admits basis in
/-- Finding the producer of a step is related to itself, whatever errors it brings. -/
theorem self_producerFor_of_any (read : Reads sim fun _ => True)
    (resolve : ∀ text, sim.Self (fun _ => True) (resolve embedding text))
    (request : ∀ code wanted, sim.Self (fun _ => True) (request embedding code wanted))
    (keep : ∀ keptAs uri producer, sim.Self (fun _ => True) (Program.change (keepProducer keptAs uri producer)))
    (keptAs : Identity) (uri : String) : sim.Self (FailsOnly anyError) (producerFor embedding keptAs uri) :=
  self_producerFor (fun _ _ => trivial) read (fun text => self_of_all (fun _ _ _ _ => trivial) (resolve text))
    (fun code wanted => self_of_all (fun _ _ _ _ => trivial) (request code wanted)) keep keptAs uri

omit admits in
/-- Handing an exchange to an endpoint is related to itself. -/
theorem self_handTo (keptAs : Identity) (uri : String) :
    sim.Behaviours allowed (handTo embedding keptAs uri) (handTo embedding keptAs uri) := by
  refine fun x carried => sim.bind (basis.producer keptAs uri) fun found failed => ?_
  split
  · exact basis.ask _ x carried
  · rename_i fault
    exact sim.pure (carried.fail (failed fault rfl))

/-- Handing an exchange to a direct consumer is related to itself. -/
theorem self_handOver (uri name : String) (table : Nat) :
    sim.Behaviours allowed (handOver uri name table : Exchange → Work κ η Outcome) (handOver uri name table) := by
  refine fun x carried => sim.bind (self_read basis fun _ _ => rfl) fun found _ => ?_
  split
  · exact basis.ask _ x carried
  · exact sim.pure (carried.fail (Fault.IsPlain.raisesOnly admits trivial))

/-! ## Decorating -/

omit basis in
/-- Steps between hooks that are related to themselves are decorated, if whatever happens can be noted. -/
theorem decorates_of_noted (read : Reads sim states)
    (noted : ∀ event, sim.Self (fun _ => True) (note event : Work κ η Unit))
    (hooks : ∀ code point info,
      sim.Behaviours allowed (embedding.hook code point info) (embedding.hook code point info)) :
    Decorates sim allowed embedding := by
  have hooked (point : HookPoint) (info : StepInfo) (hook : Option κ) :
      ∀ behaviour ∈ hookAt embedding point info hook, sim.Behaviours allowed behaviour behaviour := by
    intro behaviour found
    obtain ⟨code, -, rfl⟩ := Option.map_eq_some_iff.mp found
    exact hooks code point info
  exact fun info own tracked _ _ part =>
    Simulation.decorated ⟨self_check admits read, noted⟩ info (hooked .pre info own.pre) (hooked .post info own.post)
      tracked part

end Pieces

/-! ## Trees -/

mutual

/-- What a processor does is related to itself. -/
theorem self_behaviour (admits : Admits allowed) (basis : Basis sim allowed states embedding) (patience : Nat) :
    ∀ processor : Processor κ, processor.CarriesOnly allowed →
    sim.Behaviours allowed (behaviour embedding patience processor) (behaviour embedding patience processor)
  | .leaf leaf, all => self_runLeaf admits basis fun _ member => all.evaluator member
  | .to keptAs uri, _ => self_handTo basis keptAs uri
  | .direct uri name table, _ => self_handOver admits basis uri name table
  | .function code, _ => self_runFunction basis code
  | .custom code, _ => basis.process code
  | .decorated info hooks tracked inner, all =>
    basis.decorates info hooks tracked (self_behaviour admits basis patience inner (all.part List.mem_cons_self))
  | .pipeline stopOnError steps, all =>
    Simulation.pipeline stopOnError (self_behaviours admits basis patience steps fun _ => all.part)
  | .choice clauses none, all =>
    Simulation.choice .none (self_clauses admits basis patience clauses (fun _ => all.evaluator)
      fun _ member => all.part (List.mem_append_left _ member))
  | .choice clauses (some otherwise), all =>
    have last := all.part (List.mem_append_right _ List.mem_cons_self)
    Simulation.choice (.some (self_behaviour admits basis patience otherwise last))
      (self_clauses admits basis patience clauses (fun _ => all.evaluator)
        fun _ member => all.part (List.mem_append_left _ member))
  | .tryCatch steps handlers last, all =>
    Simulation.tryCatch admits
      (self_behaviours admits basis patience steps
        fun _ member => all.part (List.mem_append_left _ (List.mem_append_left _ member)))
      (self_handlers admits basis patience handlers
        fun _ member => all.part (List.mem_append_left _ (List.mem_append_right _ member)))
      (self_behaviours admits basis patience last fun _ member => all.part (List.mem_append_right _ member))
  | .multicast parallel stopOnError aggregator outputs, all =>
    Simulation.multicast admits _ (fun _ found => by
        obtain ⟨code, -, rfl⟩ := Option.map_eq_some_iff.mp found
        exact basis.aggregate code)
      (self_behaviours admits basis patience outputs fun _ => all.part)
  | .countLoop count body, all =>
    Simulation.countLoop admits (self_evaluate admits basis (all.evaluator List.mem_cons_self))
      (self_behaviour admits basis patience body (all.part List.mem_cons_self))
  | .whileLoop condition policy body, all =>
    Simulation.whileFrom admits policy (fun _ _ => basis.blocked _)
      (self_holds admits basis (all.evaluator List.mem_cons_self))
      (self_behaviour admits basis patience body (all.part List.mem_cons_self)) patience 0

/-- What each of some processors does is related to itself. -/
theorem self_behaviours (admits : Admits allowed) (basis : Basis sim allowed states embedding) (patience : Nat) :
    ∀ processors : List (Processor κ), (∀ part ∈ processors, part.CarriesOnly allowed) →
    List.Forall₂ (sim.Behaviours allowed) (behaviours embedding patience processors)
      (behaviours embedding patience processors)
  | [], _ => .nil
  | processor :: rest, all =>
    .cons (self_behaviour admits basis patience processor (all processor List.mem_cons_self))
      (self_behaviours admits basis patience rest fun part member => all part (List.mem_cons_of_mem _ member))

/-- What the clauses of a choice do is related to itself. -/
theorem self_clauses (admits : Admits allowed) (basis : Basis sim allowed states embedding) (patience : Nat) :
    ∀ clauses : List (Evaluator κ × Processor κ),
    (∀ evaluator ∈ clauses.map Prod.fst, evaluator.CarriesOnly allowed) →
    (∀ part ∈ clauses.map Prod.snd, part.CarriesOnly allowed) →
    List.Forall₂ (fun clause other => sim.Queries allowed (fun _ => True) clause.1 other.1 ∧
        sim.Behaviours allowed clause.2 other.2)
      (clauseBehaviours embedding patience clauses) (clauseBehaviours embedding patience clauses)
  | [], _, _ => .nil
  | (condition, processor) :: rest, asked, all =>
    .cons ⟨self_holds admits basis (asked condition List.mem_cons_self),
        self_behaviour admits basis patience processor (all processor List.mem_cons_self)⟩
      (self_clauses admits basis patience rest (fun evaluator member => asked evaluator (List.mem_cons_of_mem _ member))
        fun part member => all part (List.mem_cons_of_mem _ member))

/-- What the handlers of errors do is related to itself. -/
theorem self_handlers (admits : Admits allowed) (basis : Basis sim allowed states embedding) (patience : Nat) :
    ∀ handlers : List (Matcher × Processor κ),
    (∀ part ∈ handlers.map Prod.snd, part.CarriesOnly allowed) →
    List.Forall₂ (sim.Handlers allowed) (handlerBehaviours embedding patience handlers)
      (handlerBehaviours embedding patience handlers)
  | [], _ => .nil
  | (_, processor) :: rest, all =>
    .cons ⟨rfl, self_behaviour admits basis patience processor (all processor List.mem_cons_self)⟩
      (self_handlers admits basis patience rest fun part member => all part (List.mem_cons_of_mem _ member))

end

/-- What a processor does is related to itself on all exchanges, if all errors are allowed. -/
theorem Pieces.self_behaviour (pieces : Pieces sim embedding) (patience : Nat) (processor : Processor κ)
    (x : Exchange) : sim.Self (Outcome.CarriesOnly anyError) (behaviour embedding patience processor x) :=
  Engine.self_behaviour (fun _ _ => trivial) pieces.basis patience processor
    (processor.carriesOnly_of_all fun _ => trivial) x (x.carriesOnly_of_all fun _ => trivial)

/-- Code that does nothing. -/
def idle : Embedding Nat Unit where
  evaluate _ _ := return .returned .null
  function _ x := return (x, .returned ())
  process _ x := return .returned x
  hook _ _ _ x := return .returned x
  aggregate _ _ branch := return .ok branch
  convert _ value _ := return .returned value
  formatName _ := ""
  marshal _ _ := return .returned ""
  unmarshal _ _ _ := return .returned .null
  component _ _ state := (.error .cancelled, state)

end Engine

end MessageRouting
