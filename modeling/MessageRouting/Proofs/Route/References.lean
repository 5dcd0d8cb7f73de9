import MessageRouting.Proofs.Route.Guarded

/-!
# What a definition refers to

A definition refers to expressions, templates, endpoints, functions, data formats and types by texts, in its steps and
in the clauses of its steps at any depth. It is compiled exactly if its name is not blank, its source is a URI and
every reference in it resolves; so what is wrong with a reference shows when the route is registered.
-/

namespace MessageRouting

variable {κ : Type}

/-- What a step refers to by a text. -/
inductive Reference where
  /-- An expression. -/
  | expression (source : String)
  /-- A template of a message. -/
  | template (source : String)
  /-- An endpoint. -/
  | endpoint (uri : String)
  /-- A registered function. -/
  | function (name : String)
  /-- A registered data format. -/
  | format (name : String)
  /-- A type. -/
  | type (name : String)

/-- The reference stands for something: expressions and templates are well formed, a URI names a component that is
registered, functions and data formats are registered, and a type exists. -/
def Reference.Resolves (context : CompileContext κ) : Reference → Prop
  | .expression source => ∃ formula, Formula.compile source = .ok formula
  | .template source => ∃ template, Template.compile source = .ok template
  | .endpoint text => ∃ uri, Uri.parse text = .ok uri ∧ uri.component ∈ context.schemes
  | .function name => ∃ processor, context.functions.get? name = some processor
  | .format name => ∃ format, context.formats.get? name = some format
  | .type name => ∃ kind, Kind.parse name = .ok kind

/-- What the source of a value refers to. -/
def ValueSource.references : ValueSource κ → List Reference
  | .constant _ => []
  | .code _ => []
  | .simple source => [.expression source]

/-- What a loop goes by refers to. -/
def LoopMode.references : LoopMode κ → List Reference
  | .count times => times.references
  | .while condition => condition.references

namespace Step

/-- What a step itself refers to, the steps inside left aside. -/
def references : Step κ → List Reference
  | .setBody value => value.references
  | .setHeader _ value => value.references
  | .setProperty _ value => value.references
  | .removeHeader _ => []
  | .removeProperty _ => []
  | .to uri => [.endpoint uri]
  | .function name => [.function name]
  | .setError value => value.references
  | .delay value => value.references
  | .log message _ => [.template message]
  | .marshal format => [.format format]
  | .unmarshal format target => .format format :: target.toList.map .type
  | .convertBody target _ => [.type target]
  | .convertHeader _ target _ => [.type target]
  | .convertProperty _ target _ => [.type target]
  | .pipeline _ _ => []
  | .choice clauses _ => clauses.flatMap fun clause => clause.1.references
  | .tryCatch _ _ _ => []
  | .multicast _ _ _ _ => []
  | .loop mode _ _ => mode.references

/-- The steps right inside a step, in all its clauses. -/
def children : Step κ → List (Step κ)
  | .pipeline steps _ => steps
  | .choice clauses otherwise => clauses.flatMap Prod.snd ++ otherwise.getD []
  | .tryCatch steps catches last => steps ++ catches.flatMap Prod.snd ++ last.getD []
  | .multicast outputs _ _ _ => outputs
  | .loop _ steps _ => steps
  | _ => []

/-- The step is one of some steps, or occurs inside one of them at any depth. -/
inductive Occurs (step : Step κ) : List (Step κ) → Prop
  /-- It is one of the steps. -/
  | here {steps : List (Step κ)} (member : step ∈ steps) : Occurs step steps
  /-- It occurs inside one of them. -/
  | inside {steps : List (Step κ)} {parent : Step κ} (member : parent ∈ steps) (below : Occurs step parent.children) :
    Occurs step steps

/-- A property holds of some steps and of all steps inside them, at any depth. -/
def Throughout (property : Step κ → Prop) (steps : List (Step κ)) : Prop :=
  ∀ step : Step κ, step.Occurs steps → property step

/-- All that a step itself refers to resolves. -/
def Resolves (context : CompileContext κ) (step : Step κ) : Prop :=
  ∀ reference ∈ step.references, reference.Resolves context

end Step

/-- The definition is in order: its name is not blank, its source is a URI, and every reference in it resolves. -/
structure Definition.WellFormed (definition : Definition κ) (context : CompileContext κ) : Prop where
  /-- The name is not blank. -/
  named : (Text.trim definition.name).isEmpty = false
  /-- The source is a URI. -/
  sourced : ∃ uri, Uri.parse definition.source = .ok uri
  /-- Every reference resolves. -/
  resolved : Step.Throughout (Step.Resolves context) definition.steps

variable {context : CompileContext κ}

/-! ## All steps of a list -/

namespace Step

variable {property : Step κ → Prop}

theorem throughout_nil : Throughout property [] := by
  intro step occurs
  cases occurs with
  | here member => cases member
  | inside member below => cases member

/-- A property holds throughout some steps and others exactly if it holds throughout both. -/
theorem throughout_append {steps others : List (Step κ)} :
    Throughout property (steps ++ others) ↔ Throughout property steps ∧ Throughout property others := by
  constructor
  · refine fun all => ⟨fun step occurs => all step ?_, fun step occurs => all step ?_⟩
    · cases occurs with
      | here member => exact .here (List.mem_append_left _ member)
      | inside member below => exact .inside (List.mem_append_left _ member) below
    · cases occurs with
      | here member => exact .here (List.mem_append_right _ member)
      | inside member below => exact .inside (List.mem_append_right _ member) below
  · rintro ⟨first, second⟩ step occurs
    cases occurs with
    | here member =>
      rcases List.mem_append.mp member with member | member
      · exact first step (.here member)
      · exact second step (.here member)
    | inside member below =>
      rcases List.mem_append.mp member with member | member
      · exact first step (.inside member below)
      · exact second step (.inside member below)

/-- A property holds throughout a single step exactly if it holds of the step and throughout the steps inside. -/
theorem throughout_singleton {step : Step κ} :
    Throughout property [step] ↔ property step ∧ Throughout property step.children := by
  constructor
  · refine fun all => ⟨all step (.here List.mem_cons_self), fun below occurs => ?_⟩
    exact all below (.inside List.mem_cons_self occurs)
  · rintro ⟨own, inside⟩ below occurs
    cases occurs with
    | here member =>
      cases List.mem_singleton.mp member
      exact own
    | inside member deeper =>
      cases List.mem_singleton.mp member
      exact inside below deeper

/-- A property holds throughout steps exactly if it does for the first and the others. -/
theorem throughout_cons {step : Step κ} {rest : List (Step κ)} :
    Throughout property (step :: rest) ↔
      (property step ∧ Throughout property step.children) ∧ Throughout property rest := by
  rw [← List.singleton_append, throughout_append, throughout_singleton]

end Step

/-! ## Compiling one thing after the other -/

/-- What is mapped comes to a result exactly if it did before. -/
theorem exists_map_eq_ok {ε α β : Type} {before : Except ε α} {f : α → β} :
    (∃ result, before.map f = .ok result) ↔ ∃ result, before = .ok result := by
  cases before <;> simp [Except.map]

/-- What goes on after a first part comes to a result exactly if the first part does, and the rest does whatever the
first part came to. -/
theorem exists_bind_eq_ok {ε α β : Type} {before : Except ε α} {next : α → Except ε β} (later : Prop)
    (goesOn : ∀ result, (∃ final, next result = .ok final) ↔ later) :
    (∃ final, before >>= next = .ok final) ↔ (∃ result, before = .ok result) ∧ later := by
  cases before with
  | error fault => simp [bind, Except.bind]
  | ok result =>
    change (∃ final, next result = .ok final) ↔ _
    simp [goesOn result]

namespace CompileContext

open Step

/-- The source of a value is compiled exactly if its reference resolves. -/
theorem exists_evaluator_eq_ok (context : CompileContext κ) (source : ValueSource κ) :
    (∃ compiled, evaluator source = .ok compiled) ↔
      ∀ reference ∈ source.references, reference.Resolves context := by
  cases source with
  | constant value => simp [evaluator, ValueSource.references]
  | code code => simp [evaluator, ValueSource.references]
  | simple source =>
    simp only [evaluator, exists_map_eq_ok, ValueSource.references, List.forall_mem_singleton, Reference.Resolves]

/-- What a loop goes by is compiled exactly if its reference resolves. -/
theorem exists_looping_eq_ok (policy : Pattern.ConditionPolicy) (mode : LoopMode κ) :
    (∃ compiled, looping policy mode = .ok compiled) ↔
      ∀ reference ∈ mode.references, reference.Resolves context := by
  cases mode with
  | count times =>
    simpa only [looping, exists_map_eq_ok, LoopMode.references] using exists_evaluator_eq_ok context times
  | «while» condition =>
    simpa only [looping, exists_map_eq_ok, LoopMode.references] using exists_evaluator_eq_ok context condition

/-- The name of a type is found exactly if the type exists. -/
theorem exists_kindOf_eq_ok (route name : String) :
    (∃ kind, kindOf route name = .ok kind) ↔ ∃ kind, Kind.parse name = .ok kind := by
  rw [kindOf]
  cases Kind.parse name with
  | ok kind => exact Iff.rfl
  | error fault => constructor <;> rintro ⟨_, ⟨⟩⟩

/-- A registered thing is found exactly if it is registered. -/
theorem exists_elim_eq_ok {ε α : Type} {found : Option α} {fault : ε} :
    (∃ result, found.elim (.error fault) (.ok : α → Except ε α) = .ok result) ↔ ∃ result, found = some result := by
  cases found <;> simp

/-- A URI is valid exactly if it is well formed and names a component that is registered. -/
theorem exists_validate_eq_ok (schemes : List String) (text : String) :
    (∃ uri, validate schemes text = .ok uri) ↔ ∃ uri, Uri.parse text = .ok uri ∧ uri.component ∈ schemes := by
  unfold validate
  cases Uri.parse text with
  | error fault => simp [bind, Except.bind]
  | ok uri =>
    by_cases member : uri.component ∈ schemes <;> simp [bind, Except.bind, member]

mutual

/-- A step is compiled exactly if its references resolve, and all inside it. -/
theorem exists_inner_eq_ok (route : String) (place : Identity) : ∀ step : Step κ,
    (∃ processor, inner context route place step = .ok processor) ↔
      step.Resolves context ∧ Throughout (Step.Resolves context) step.children
  | .setBody value | .setHeader _ value | .setProperty _ value | .setError value | .delay value => by
    simpa only [inner, exists_map_eq_ok, Step.Resolves, Step.references, Step.children, throughout_nil, and_true] using
      exists_evaluator_eq_ok context value
  | .removeHeader _ | .removeProperty _ => by
    simp [inner, Step.Resolves, Step.references, Step.children, throughout_nil]
  | .to uri => by
    simp only [inner, exists_map_eq_ok, exists_validate_eq_ok, Step.Resolves, Step.references, Step.children,
      throughout_nil, and_true, List.forall_mem_singleton, Reference.Resolves]
  | .function name => by
    simp only [inner, functionOf, exists_elim_eq_ok, Step.Resolves, Step.references, Step.children, throughout_nil,
      and_true, List.forall_mem_singleton, Reference.Resolves]
  | .log message _ => by
    simp only [inner, exists_map_eq_ok, Step.Resolves, Step.references, Step.children, throughout_nil, and_true,
      List.forall_mem_singleton, Reference.Resolves]
  | .marshal format => by
    simp only [inner, exists_map_eq_ok, formatOf, exists_elim_eq_ok, Step.Resolves, Step.references, Step.children,
      throughout_nil, and_true, List.forall_mem_singleton, Reference.Resolves]
  | .unmarshal format target => by
    have formats (kind : Option Kind) :
        (∃ processor, (do let found ← context.formatOf route format; .ok (.leaf (.unmarshal found kind))) =
          Except.ok (ε := Fault) (α := Processor κ) processor) ↔ ∃ found, context.formats.get? format = some found := by
      rw [exists_bind_eq_ok True fun found => by simp, formatOf, exists_elim_eq_ok, and_true]
    -- The type is looked up before the format, which is named first.
    rw [inner, exists_bind_eq_ok _ formats, and_comm]
    cases target with
    | none =>
      simp [Step.Resolves, Step.references, Step.children, throughout_nil, Reference.Resolves, Pure.pure, Except.pure]
    | some target =>
      have kinds : (∃ kind, (some target).mapM (kindOf route) = .ok kind) ↔ ∃ kind, Kind.parse target = .ok kind := by
        rw [Option.mapM_some, ← exists_kindOf_eq_ok route target]
        exact exists_map_eq_ok
      rw [kinds]
      simp [Step.Resolves, Step.references, Step.children, throughout_nil, Reference.Resolves]
  | .convertBody target _ | .convertHeader _ target _ | .convertProperty _ target _ => by
    simp only [inner, exists_map_eq_ok, exists_kindOf_eq_ok, Step.Resolves, Step.references, Step.children,
      throughout_nil, and_true, List.forall_mem_singleton, Reference.Resolves]
  | .pipeline steps _ => by
    simp [inner, exists_map_eq_ok, Step.Resolves, Step.references, Step.children, exists_each_eq_ok route place 0 steps]
  | .choice clauses none => by
    rw [inner, exists_bind_eq_ok True fun branches => by simp, and_true,
      exists_eachClause_eq_ok route (place.made 0) 0 clauses]
    simp [Step.Resolves, Step.references, Step.children]
  | .choice clauses (some steps) => by
    rw [inner, exists_bind_eq_ok (Throughout (Step.Resolves context) steps) fun branches => ?_,
      exists_eachClause_eq_ok route (place.made 0) 0 clauses]
    · simp [Step.Resolves, Step.references, Step.children, throughout_append, and_assoc]
    · rw [exists_bind_eq_ok True fun parts => by simp, and_true]
      exact exists_each_eq_ok route (place.made 1) 0 steps
  | .tryCatch steps catches none => by
    rw [inner, exists_bind_eq_ok (Throughout (Step.Resolves context) steps) fun handlers => ?_,
      exists_eachCatch_eq_ok route (place.made 0) 0 catches]
    · simp [Step.Resolves, Step.references, Step.children, throughout_append, and_comm]
    · refine (exists_bind_eq_ok (Throughout (Step.Resolves context) steps) fun ends => ?_).trans
        (and_iff_right ⟨[], rfl⟩)
      rw [exists_bind_eq_ok True fun parts => by simp, and_true]
      exact exists_each_eq_ok route (place.made 2) 0 steps
  | .tryCatch steps catches (some last) => by
    -- Handlers are compiled first and the steps that are tried last, so the conditions come in another order.
    let inBlocks := Throughout (Step.Resolves context) last ∧ Throughout (Step.Resolves context) steps
    rw [inner, exists_bind_eq_ok inBlocks fun handlers => ?_, exists_eachCatch_eq_ok route (place.made 0) 0 catches]
    · simp [inBlocks, Step.Resolves, Step.references, Step.children, throughout_append, and_comm, and_assoc]
    · refine (exists_bind_eq_ok (Throughout (Step.Resolves context) steps) fun ends => ?_).trans
        (and_congr_left' (exists_each_eq_ok route (place.made 1) 0 last))
      rw [exists_bind_eq_ok True fun parts => by simp, and_true]
      exact exists_each_eq_ok route (place.made 2) 0 steps
  | .multicast outputs _ _ _ => by
    simp [inner, exists_map_eq_ok, Step.Resolves, Step.references, Step.children,
      exists_each_eq_ok route place 0 outputs]
  | .loop mode steps policy => by
    rw [inner, exists_bind_eq_ok (Throughout (Step.Resolves context) steps) fun around => ?_]
    · exact and_congr_left' (exists_looping_eq_ok policy mode)
    · rw [exists_bind_eq_ok True fun parts => by simp, and_true]
      exact exists_each_eq_ok route place 0 steps

/-- Steps are compiled exactly if all their references resolve. -/
theorem exists_each_eq_ok (route : String) (place : Identity) (index : Nat) : ∀ steps : List (Step κ),
    (∃ parts, each context route place index steps = .ok parts) ↔ Throughout (Step.Resolves context) steps
  | [] => by simp [each, throughout_nil]
  | step :: rest => by
    rw [each, exists_bind_eq_ok (Throughout (Step.Resolves context) rest) fun first => ?_,
      exists_inner_eq_ok route (place.made index) step, throughout_cons]
    rw [exists_bind_eq_ok True fun others => by simp, and_true]
    exact exists_each_eq_ok route place (index + 1) rest

/-- The clauses of a choice are compiled exactly if their conditions and steps resolve. -/
theorem exists_eachClause_eq_ok (route : String) (place : Identity) (index : Nat) :
    ∀ clauses : List (ValueSource κ × List (Step κ)),
      (∃ branches, eachClause context route place index clauses = .ok branches) ↔
        (∀ reference ∈ clauses.flatMap fun clause => clause.1.references, reference.Resolves context) ∧
          Throughout (Step.Resolves context) (clauses.flatMap Prod.snd)
  | [] => by simp [eachClause, throughout_nil]
  | (condition, steps) :: rest => by
    let others := (∀ reference ∈ rest.flatMap fun clause => clause.1.references, reference.Resolves context) ∧
      Throughout (Step.Resolves context) (rest.flatMap Prod.snd)
    rw [eachClause, exists_bind_eq_ok (Throughout (Step.Resolves context) steps ∧ others) fun compiled => ?_]
    · rw [exists_evaluator_eq_ok context condition]
      simp only [others, List.flatMap_cons, throughout_append, List.forall_mem_append, and_assoc, and_left_comm]
    · rw [exists_bind_eq_ok others fun parts => ?_, exists_each_eq_ok route (place.made index) 0 steps]
      rw [exists_bind_eq_ok True fun branches => by simp, and_true]
      exact exists_eachClause_eq_ok route place (index + 1) rest

/-- The clauses that handle errors are compiled exactly if their steps resolve. -/
theorem exists_eachCatch_eq_ok (route : String) (place : Identity) (index : Nat) :
    ∀ catches : List (Matcher × List (Step κ)),
      (∃ handlers, eachCatch context route place index catches = .ok handlers) ↔
        Throughout (Step.Resolves context) (catches.flatMap Prod.snd)
  | [] => by simp [eachCatch, throughout_nil]
  | (matcher, steps) :: rest => by
    rw [eachCatch, exists_bind_eq_ok (Throughout (Step.Resolves context) (rest.flatMap Prod.snd)) fun parts => ?_,
      exists_each_eq_ok route (place.made index) 0 steps, List.flatMap_cons, throughout_append]
    rw [exists_bind_eq_ok True fun others => by simp, and_true]
    exact exists_eachCatch_eq_ok route place (index + 1) rest

end

end CompileContext

/-- Exactly a definition that is in order is compiled. -/
theorem Definition.exists_compile_eq_ok (definition : Definition κ) (context : CompileContext κ) (identity : Identity) :
    (∃ route, definition.compile context identity = .ok route) ↔ definition.WellFormed context := by
  unfold Definition.compile
  split
  · next blank =>
    refine iff_of_false (by simp) fun wellFormed => ?_
    simp [wellFormed.named] at blank
  · next named =>
    rw [exists_bind_eq_ok (Step.Throughout (Step.Resolves context) definition.steps) fun source => ?_]
    · exact ⟨fun ⟨sourced, resolved⟩ => ⟨by simpa using named, sourced, resolved⟩,
        fun wellFormed => ⟨wellFormed.sourced, wellFormed.resolved⟩⟩
    · rw [exists_bind_eq_ok True fun processor => by simp, and_true, CompileContext.block, exists_map_eq_ok]
      exact CompileContext.exists_each_eq_ok definition.name identity 0 definition.steps

end MessageRouting
