import MessageRouting.Proofs.Engine.Alike

/-!
# The meaning of a definition

A definition means something without being compiled: a step is checked and then acts, a block is checked and then all
its steps are taken in order, and the patterns combine what is inside. Expressions are compiled and names are looked up
where they are met. A compiled route does what its definition means; what the compiler makes of blocks with one step or
none cannot be told from outside.
-/

namespace MessageRouting

namespace Engine

open Pattern CompileContext

variable {κ η : Type}

/-! ## Meanings -/

/-- Acts on an exchange that may go on; one that may not gets the reason as its error. -/
def checked (act : Exchange → Work κ η Outcome) (x : Exchange) : Work κ η Outcome := do
  match ← check x with
  | .error fault => return .returned (x.fail fault)
  | .ok () => act x

/-- Takes all steps of a block, whatever errors they leave. -/
def block (steps : List (Exchange → Work κ η Outcome)) : Exchange → Work κ η Outcome :=
  checked (Pattern.pipeline false steps)

/-- Acts with what was found, or fails. -/
def withFound {α : Type} (found : Except Fault α) (act : α → Exchange → Work κ η Outcome) (x : Exchange) :
    Work κ η Outcome :=
  match found with
  | .error fault => return .returned (x.fail fault)
  | .ok result => act result x

/-- The value of a source over an exchange. -/
def valueOf (embedding : Embedding κ η) (source : ValueSource κ) (x : Exchange) : Work κ η (Ending Fault Value) :=
  match source with
  | .constant value => return .returned value
  | .code code => return (← embedding.evaluate code x).mapError handlerFault
  | .simple text =>
    match Formula.compile text with
    | .error fault => return .failed fault
    | .ok formula => return .ofExcept (formula.eval x)

/-- A source as a condition. -/
def conditionOf (embedding : Embedding κ η) (source : ValueSource κ) (x : Exchange) : Work κ η (Ending Fault Bool) :=
  return (← valueOf embedding source x).bind fun value => .ofExcept value.truth

section Meaning

variable (embedding : Embedding κ η) (patience : Nat) (context : CompileContext κ) (route : String)

/-- Converts the value at a place, if there is one. -/
def convertAt (place : Place) (params : Table String) (kind : Kind) (x : Exchange) : Work κ η Outcome :=
  match valueAt x place with
  | none => return .returned x
  | some value => return withValue x (← convert embedding value kind params) (putAt x · place)

mutual

/-- What a step does once it was checked; its place is the identity under which it keeps a producer. -/
def act (place : Identity) : Step κ → Exchange → Work κ η Outcome
  | .setBody source => fun x => return withValue x (← valueOf embedding source x) x.setBody
  | .setHeader name source => fun x => return withValue x (← valueOf embedding source x) (x.setHeader name)
  | .setProperty name source => fun x => return withValue x (← valueOf embedding source x) (x.setProperty name)
  | .removeHeader name => fun x => return .returned (x.removeHeader name)
  | .removeProperty name => fun x => return .returned (x.removeProperty name)
  | .to uri => handTo embedding place uri
  | .function name => withFound (context.functionOf route name) (behaviour embedding patience)
  | .setError source => fun x => return withValue x (← valueOf embedding source x) (setErrorTo x)
  | .delay source => fun x => do
    match (← valueOf embedding source x).bind fun value => .ofExcept (delayOf value) with
    | .returned d => delay x d
    | .failed fault => return .returned (x.fail fault)
    | .panicked panic => return .panicked x panic
  | .log message level => withFound (Template.compile message) fun template x =>
    withFound (template.render x) (fun text x => do
      note (.logged level route text)
      return .returned x) x
  | .marshal name => withFound (context.formatOf route name) fun format x => do
    let ending ← marshal embedding format x.body
    return withValue x (ending.bind fun text => .returned (.string text)) x.setBody
  | .unmarshal name target => withFound (target.mapM (kindOf route)) fun kind =>
    withFound (context.formatOf route name) fun format x =>
      match x.body.octets? with
      | none =>
        return .returned (x.fail
          (.format (formatName embedding format) s!"cannot unmarshal a {x.body.kind.name} body"))
      | some octets => return withValue x (← unmarshal embedding format octets kind) x.setBody
  | .convertBody target params => withFound (kindOf route target) (convertAt embedding .body params)
  | .convertHeader name target params => withFound (kindOf route target) (convertAt embedding (.header name) params)
  | .convertProperty name target params =>
    withFound (kindOf route target) (convertAt embedding (.property name) params)
  | .pipeline steps stopOnError => Pattern.pipeline stopOnError (actEach place 0 steps)
  | .choice clauses none => Pattern.choice none (actClauses (place.made 0) 0 clauses)
  | .choice clauses (some steps) =>
    Pattern.choice (some (block (actEach (place.made 1) 0 steps))) (actClauses (place.made 0) 0 clauses)
  | .tryCatch steps catches none =>
    Pattern.tryCatch (actEach (place.made 2) 0 steps) (actCatches (place.made 0) 0 catches) []
  | .tryCatch steps catches (some last) =>
    Pattern.tryCatch (actEach (place.made 2) 0 steps) (actCatches (place.made 0) 0 catches)
      (actEach (place.made 1) 0 last)
  | .multicast outputs parallel stopOnError aggregator =>
    Pattern.multicast (modeOf parallel stopOnError outputs.length) (aggregator.map embedding.aggregate)
      (actEach place 0 outputs)
  | .loop (.count times) steps _ => Pattern.countLoop (valueOf embedding times) (block (actEach place 0 steps))
  | .loop (.while condition) steps policy =>
    Pattern.whileLoop (fun x => Program.blocked (.returned x)) patience (conditionOf embedding condition) policy
      (block (actEach place 0 steps))

/-- What each of some steps does, from an index on: it is checked and acts. -/
def actEach (place : Identity) (index : Nat) : List (Step κ) → List (Exchange → Work κ η Outcome)
  | [] => []
  | step :: rest => checked (act (place.made index) step) :: actEach place (index + 1) rest

/-- What the clauses of a choice do, from an index on. -/
def actClauses (place : Identity) (index : Nat) : List (ValueSource κ × List (Step κ)) →
    List ((Exchange → Work κ η (Ending Fault Bool)) × (Exchange → Work κ η Outcome))
  | [] => []
  | (condition, steps) :: rest =>
    (conditionOf embedding condition, block (actEach (place.made index) 0 steps)) ::
      actClauses place (index + 1) rest

/-- What the clauses that handle errors do, from an index on. -/
def actCatches (place : Identity) (index : Nat) : List (Matcher × List (Step κ)) → List (Handler (Working κ η))
  | [] => []
  | (matcher, steps) :: rest =>
    ⟨matcher.accepts, block (actEach (place.made index) 0 steps)⟩ :: actCatches place (index + 1) rest

end

end Meaning

/-- What a definition means; the identity is that of the route. -/
def meaning (embedding : Embedding κ η) (patience : Nat) (context : CompileContext κ) (definition : Definition κ)
    (identity : Identity) : Exchange → Work κ η Outcome :=
  block (actEach embedding patience context definition.name identity 0 definition.steps)

/-! ## Steps that are checked -/

variable {α : Type} {answer : Processor κ × Exchange → Engine κ η → Option (Outcome × Engine κ η)}

/-- What is noted of a step cannot be told from what is not. -/
theorem alike_noted {event : Event} (unlogged : event.isLogged = false) {program other : Work κ η α}
    (alike : Alike answer program other) : Alike answer (note event >>= fun _ => program) other := by
  intro engine instead same
  refine alike _ instead ?_
  rw [same.eq]
  exact sameButNotes_of_journal (by simp [unlogged, same.logged])

/-- Behaviours are related if what they do is alike. -/
theorem behaviours_of_alike {child other : Exchange → Work κ η Outcome} (all : ∀ x, Alike answer (child x) (other x)) :
    (alike answer).Behaviours anyError child other :=
  fun x _ => ⟨all x, fun _ o _ _ => o.exchange.carriesOnly_of_all fun _ => trivial⟩

/-- A step without hooks and history is checked and acts. -/
theorem alike_decorated (info : StepInfo) {inner other : Exchange → Work κ η Outcome}
    (part : (alike answer).Behaviours anyError inner other) :
    (alike answer).Behaviours anyError (Pattern.decorated surroundings info none none false inner) (checked other) := by
  refine behaviours_of_alike fun x => ?_
  have looked : (alike answer).Self (fun _ => True) (check x : Work κ η (Except Fault Unit)) :=
    reads_alike (fun _ _ => rfl) fun _ _ => trivial
  refine looked.1.bind looked.2 fun verdict _ => ?_
  cases verdict with
  | error fault => exact alike_noted rfl (.pure _)
  | ok _ =>
    have ran := part x (x.carriesOnly_of_all fun _ => trivial)
    refine alike_noted rfl ?_
    rw [← bind_pure (other x)]
    exact ran.1.bind ran.2 fun done _ => alike_noted rfl (.pure _)

/-- A block with one behaviour does what the behaviour does. -/
theorem pipeline_singleton (behaviour : Exchange → Work κ η Outcome) (x : Exchange) :
    Pattern.pipeline false [behaviour] x = behaviour x := by
  have ended (o : Outcome) : (if o.panic.isSome || (false && o.exchange.isError) then Pure.pure o
      else Pattern.pipeline false [] o.exchange : Work κ η Outcome) = Pure.pure o := by
    obtain ⟨exchange, panic⟩ := o
    cases panic <;> rfl
  simp only [Pattern.pipeline]
  exact (congrArg (behaviour x >>= ·) (funext ended)).trans (bind_pure _)

/-- To check twice is to check once. -/
theorem runWith_checked_checked (act : Exchange → Work κ η Outcome) (x : Exchange) (engine : Engine κ η) :
    (checked (checked act) x).runWith answer engine = (checked act x).runWith answer engine := by
  have ran (next : Except Fault Unit → Work κ η Outcome) : (check x >>= next).runWith answer engine =
      (next (x.scope.check engine.now engine.cancelled)).runWith answer engine := by
    rw [Program.runWith_bind, check, Program.runWith_read]
    rfl
  unfold checked
  rw [ran, ran]
  cases verdict : x.scope.check engine.now engine.cancelled with
  | error fault => rfl
  | ok _ =>
    dsimp only
    rw [ran, verdict]

/-! ## Compiled steps -/

variable {embedding : Embedding κ η} {patience : Nat} {context : CompileContext κ} {route : String}

/-- The evaluator that a source is compiled to finds the value of the source. -/
theorem valueOf_eq {source : ValueSource κ} {compiled : Evaluator κ}
    (found : CompileContext.evaluator source = .ok compiled) :
    valueOf embedding source = evaluate embedding compiled := by
  cases source with
  | constant value =>
    cases found
    rfl
  | code code =>
    cases found
    rfl
  | simple text =>
    obtain ⟨formula, compiledFormula, rfl⟩ := exists_of_map_eq_ok found
    funext x
    simp only [valueOf, compiledFormula, evaluate]

/-- It asks the condition of the source. -/
theorem conditionOf_eq {source : ValueSource κ} {compiled : Evaluator κ}
    (found : CompileContext.evaluator source = .ok compiled) :
    conditionOf embedding source = holds embedding compiled := by
  funext x
  rw [conditionOf, valueOf_eq found, holds]

/-- What is found acts. -/
@[simp] theorem withFound_ok (result : α) (act : α → Exchange → Work κ η Outcome) :
    withFound (.ok result) act = act result := rfl

/-- The processor of a step does what the step does. -/
def Means (answer : Processor κ × Exchange → Engine κ η → Option (Outcome × Engine κ η)) (embedding : Embedding κ η)
    (patience : Nat) (context : CompileContext κ) (route : String) (place : Identity) (step : Step κ)
    (processor : Processor κ) : Prop :=
  (alike answer).Behaviours anyError (behaviour embedding patience processor)
    (act embedding patience context route place step)

/-- Steps are compiled without hooks, and no history is kept. -/
structure Bare (context : CompileContext κ) : Prop where
  /-- There are no hooks. -/
  hooks : context.hooks = {}
  /-- There is no history. -/
  untracked : context.tracked = false

/-- A compiled step is checked and acts. -/
theorem alike_decorate (bare : Bare context) (route name : String) {processor : Processor κ}
    {other : Exchange → Work κ η Outcome}
    (part : (alike answer).Behaviours anyError (behaviour embedding patience processor) other) :
    (alike answer).Behaviours anyError
      (behaviour embedding patience (context.decorate route name processor)) (checked other) := by
  simp only [CompileContext.decorate, behaviour, bare.hooks, bare.untracked]
  exact alike_decorated ⟨route, name⟩ part

/-- Steps that are compiled one by one are checked and act one by one. -/
theorem alike_each (bare : Bare context) {place : Identity} {index : Nat} {steps : List (Step κ)}
    {parts : List (Processor κ)}
    (each : Each context route (Means answer embedding patience context route) place index steps parts) :
    List.Forall₂ ((alike answer).Behaviours anyError) (behaviours embedding patience parts)
      (actEach embedding patience context route place index steps) := by
  induction each with
  | nil => exact .nil
  | @cons _ step _ _ _ first _ later => exact .cons (alike_decorate bare route step.name first) later

/-- A compiled block checks its exchange and takes all steps, whether it is a pipeline or its only step. -/
theorem alike_block (bare : Bare context) {place : Identity} {index : Nat} {steps : List (Step κ)}
    {parts : List (Processor κ)}
    (each : Each context route (Means answer embedding patience context route) place index steps parts) :
    (alike answer).Behaviours anyError (behaviour embedding patience (context.joined route parts))
      (block (actEach embedding patience context route place index steps)) := by
  have together : (alike answer).Behaviours anyError (behaviour embedding patience (.pipeline false parts))
      (Pattern.pipeline false (actEach embedding patience context route place index steps)) := by
    rw [behaviour]
    exact Simulation.pipeline false (alike_each bare each)
  match parts, each with
  | [], _ => exact alike_decorate bare route "pipeline" together
  | [_], .cons first (.nil _) =>
    -- The only step is checked once where the block would be checked before it.
    refine behaviours_of_alike fun x => ?_
    refine (alike_decorate bare route _ first x (x.carriesOnly_of_all fun _ => trivial)).1.congr fun engine => ?_
    rw [block, ← runWith_checked_checked]
    congr 2
    funext y
    exact (pipeline_singleton _ y).symm
  | _ :: _ :: _, _ => exact alike_decorate bare route "pipeline" together

section Related

variable (overlooks : embedding.Overlooks) (tasks : AnswersAlike answer)

include overlooks tasks

/-- Finding the value of a source is alike what it is compiled to. -/
theorem alike_valueOf {source : ValueSource κ} {compiled : Evaluator κ}
    (found : CompileContext.evaluator source = .ok compiled) :
    (alike answer).Queries anyError (Value.CarriesOnly anyError) (evaluate embedding compiled)
      (valueOf embedding source) := by
  rw [valueOf_eq found]
  exact self_evaluate (fun _ _ => trivial) (basis_alike overlooks tasks)
    (compiled.carriesOnly_of_all fun _ => trivial)

/-- Asking the condition of a source is alike what it is compiled to. -/
theorem alike_conditionOf {source : ValueSource κ} {compiled : Evaluator κ}
    (found : CompileContext.evaluator source = .ok compiled) :
    (alike answer).Queries anyError (fun _ => True) (holds embedding compiled) (conditionOf embedding source) := by
  rw [conditionOf_eq found]
  exact self_holds (fun _ _ => trivial) (basis_alike overlooks tasks) (compiled.carriesOnly_of_all fun _ => trivial)

/-- What a processor does is related to itself. -/
theorem alike_own (processor : Processor κ) :
    (alike answer).Behaviours anyError (behaviour embedding patience processor)
      (behaviour embedding patience processor) :=
  fun x _ => (pieces_alike overlooks tasks).self_behaviour patience processor x

/-- The clauses of a choice are asked and act as they are compiled. -/
theorem alike_clauses (bare : Bare context)
    {place : Identity} {index : Nat} {clauses : List (ValueSource κ × List (Step κ))}
    {branches : List (Evaluator κ × Processor κ)}
    (each : EachClause context route (Means answer embedding patience context route) place index clauses branches) :
    List.Forall₂ (fun clause other => (alike answer).Queries anyError (fun _ => True) clause.1 other.1 ∧
        (alike answer).Behaviours anyError clause.2 other.2)
      (clauseBehaviours embedding patience branches)
      (actClauses embedding patience context route place index clauses) := by
  induction each with
  | nil => exact .nil
  | cons asked block _ later => exact .cons ⟨alike_conditionOf overlooks tasks asked, alike_block bare block⟩ later

omit overlooks tasks in
/-- The clauses that handle errors act as they are compiled. -/
theorem alike_catches (bare : Bare context)
    {place : Identity} {index : Nat} {catches : List (Matcher × List (Step κ))}
    {handlers : List (Matcher × Processor κ)}
    (each : EachCatch context route (Means answer embedding patience context route) place index catches handlers) :
    List.Forall₂ ((alike answer).Handlers anyError) (handlerBehaviours embedding patience handlers)
      (actCatches embedding patience context route place index catches) := by
  induction each with
  | nil => exact .nil
  | cons block _ later => exact .cons ⟨rfl, alike_block bare block⟩ later

/-- A step without steps inside acts as it is compiled. -/
theorem means_of_eq {place : Identity} {step : Step κ} {processor : Processor κ}
    (same : act embedding patience context route place step = behaviour embedding patience processor) :
    Means answer embedding patience context route place step processor := by
  rw [Means, same]
  exact alike_own overlooks tasks processor

/-- What is compiled of a step does what the step does, if that holds of what is inside. -/
theorem means_of_shape (bare : Bare context) {place : Identity} {step : Step κ} {processor : Processor κ}
    (shape : Shape context route (Means answer embedding patience context route) place step processor) :
    Means answer embedding patience context route place step processor := by
  have asExpected : Admits anyError := fun _ _ => trivial
  cases shape with
  | setBody found | setHeader _ found | setProperty _ found | setError found =>
    refine means_of_eq overlooks tasks (funext fun x => ?_)
    simp only [act, behaviour, runLeaf, valueOf_eq found]
  | delay found =>
    refine means_of_eq overlooks tasks (funext fun x => ?_)
    rw [act, valueOf_eq found]
    rfl
  | function found =>
    refine means_of_eq overlooks tasks ?_
    simp only [act, functionOf, found, Option.elim_some, withFound_ok]
  | log level found =>
    refine means_of_eq overlooks tasks (funext fun x => ?_)
    simp only [act, behaviour, runLeaf, found, withFound_ok]
    cases rendered : Template.render _ x <;> rfl
  | marshal found =>
    refine means_of_eq overlooks tasks (funext fun x => ?_)
    simp only [act, behaviour, runLeaf, formatOf, found, Option.elim_some, withFound_ok]
  | unmarshal typed found =>
    refine means_of_eq overlooks tasks ?_
    rw [act, typed, formatOf, found]
    rfl
  | convertBody _ typed | convertHeader _ _ typed | convertProperty _ _ typed =>
    refine means_of_eq overlooks tasks ?_
    rw [act, typed]
    rfl
  | pipeline stopOnError inside =>
    simp only [Means, act, behaviour]
    exact Simulation.pipeline stopOnError (alike_each bare inside)
  | choice inside =>
    simp only [Means, act, behaviour]
    exact Simulation.choice .none (alike_clauses overlooks tasks bare inside)
  | otherwise inside block =>
    simp only [Means, act, behaviour]
    exact Simulation.choice (.some (alike_block bare block)) (alike_clauses overlooks tasks bare inside)
  | @tryCatch _ _ last _ _ _ tried caught ending =>
    have ended := alike_each bare ending
    -- No last steps mean the same as an empty list of them.
    cases last <;>
    · simp only [Means, act, behaviour]
      exact Simulation.tryCatch asExpected (alike_each bare tried) (alike_catches bare caught) ended
  | multicast parallel stopOnError aggregator inside =>
    have outputs := alike_each bare inside
    simp only [Means, act, behaviour, inside.length_eq]
    refine Simulation.multicast asExpected _ (fun _ found => ?_) outputs
    obtain ⟨code, -, rfl⟩ := Option.map_eq_some_iff.mp found
    exact (basis_alike overlooks tasks).aggregate code
  | countLoop _ found block =>
    simp only [Means, act, behaviour]
    exact Simulation.countLoop asExpected (alike_valueOf overlooks tasks found) (alike_block bare block)
  | whileLoop policy found block =>
    simp only [Means, act, behaviour]
    exact Simulation.whileFrom asExpected policy (fun _ _ => (basis_alike overlooks tasks).blocked _)
      (alike_conditionOf overlooks tasks found) (alike_block bare block) patience 0
  | _ => exact means_of_eq overlooks tasks rfl

end Related

end Engine

open Engine in
/-- Compilation preserves meaning: a route without hooks and history does to every exchange what its definition
means. -/
theorem Definition.compile_preserves_meaning {κ η : Type} {embedding : Embedding κ η} (overlooks : embedding.Overlooks)
    (definition : Definition κ) {context : CompileContext κ} (bare : Bare context) (identity : Identity)
    {route : Route κ} (compiled : definition.compile context identity = .ok route) (fuel patience : Nat) (x : Exchange)
    (engine : Engine κ η) :
    SameEnd (run embedding fuel (behaviour embedding patience route.processor x) engine)
      (run embedding fuel (meaning embedding patience context definition identity x) engine) := by
  have tasks := answersAlike overlooks fuel
  obtain ⟨parts, each, rfl⟩ := definition.rel_of_compile compiled fun shape =>
    means_of_shape overlooks tasks bare shape
  exact (alike_block bare each x (x.carriesOnly_of_all fun _ => trivial)).1 engine engine rfl

namespace Engine

/-- The only function fails. -/
def failing : Embedding Nat Unit := { idle with function := fun _ x => return (x, .failed (.plain "boom")) }

/-- Code that only fails does not look at notes. -/
theorem overlooks_failing : failing.Overlooks where
  evaluate _ _ := trivial
  function _ _ := trivial
  process _ _ := trivial
  hook _ _ _ _ := trivial
  aggregate _ _ _ := trivial
  convert _ _ _ := trivial
  marshal _ _ := trivial
  unmarshal _ _ _ := trivial

/-- The function is tried in a loop; a block of one step handles that it fails, and an empty block is taken. -/
def recovering : Definition Nat :=
  ⟨"r", "direct:in", [.loop (.count (.constant (.int 2)))
    [.tryCatch [.function "fail"] [(.any, [.setBody (.constant (.int 7))])]
      (some [.choice [(.constant (.bool true), [])] none])] .propagate]⟩

/-- A context with the function, without hooks and history. -/
def recoveringContext : CompileContext Nat :=
  ⟨⟨"function", [("fail", .function 0)]⟩, ⟨"data format", []⟩, [], {}, false⟩

/-- The compiled route recovers as its definition does. -/
theorem compile_preserves_meaning_recovering :
    let x := Exchange.create (.root 1) (.root (.root 0)) [] .null
    let engine : Engine Nat Unit := .standard {} 0 ()
    let meant := run failing 3 (meaning failing 4 recoveringContext recovering (.root 0) x) engine
    (meant.map fun ended => ended.1.exchange.body) = some (.int 7) ∧
      ∃ route, recovering.compile recoveringContext (.root 0) = .ok route ∧
        SameEnd (run failing 3 (behaviour failing 4 route.processor x) engine) meant :=
  ⟨rfl, _, rfl, Definition.compile_preserves_meaning overlooks_failing recovering ⟨rfl, rfl⟩ (.root 0) rfl 3 4 _ _⟩

end Engine

end MessageRouting
