import MessageRouting.Proofs.Route.Shape

/-!
# Decorated steps everywhere

A compiled route is a tree in which every step is decorated: the steps of a pipeline, the branches of a choice, the
steps that are tried, that handle errors and that come last, the outputs of a multicast and the body of a loop, at
any depth, and empty blocks, too. Only what a registered function is made of is its own affair.
-/

namespace MessageRouting

variable {κ : Type}

namespace Processor

/-- The processors right below a processor. -/
def parts : Processor κ → List (Processor κ)
  | .leaf _ => []
  | .to _ _ => []
  | .direct _ _ _ => []
  | .function _ => []
  | .custom _ => []
  | .decorated _ _ _ inner => [inner]
  | .pipeline _ steps => steps
  | .choice clauses otherwise => clauses.map Prod.snd ++ otherwise.toList
  | .tryCatch steps handlers last => steps ++ handlers.map Prod.snd ++ last
  | .multicast _ _ _ outputs => outputs
  | .countLoop _ body => [body]
  | .whileLoop _ _ body => [body]

/-- The processor is a step with all that surrounds it. -/
def IsDecorated (processor : Processor κ) : Prop :=
  ∃ info hooks tracked inner, processor = .decorated info hooks tracked inner

/-- A tree of decorated steps, where what is decorated has a property or is a registered function. -/
inductive Guarded (functions : Registry (Processor κ)) (property : Processor κ → Prop) : Processor κ → Prop
  /-- A step that runs a registered function. -/
  | function (info : StepInfo) (hooks : Hooks κ) (tracked : Bool) {name : String} {processor : Processor κ}
      (found : functions.get? name = some processor) :
      Guarded functions property (.decorated info hooks tracked processor)
  /-- A step with steps inside. -/
  | step (info : StepInfo) (hooks : Hooks κ) (tracked : Bool) {inner : Processor κ} (holds : property inner)
      (parts : ∀ part ∈ inner.parts, Guarded functions property part) :
      Guarded functions property (.decorated info hooks tracked inner)

/-- The property holds of all processors whose parts are decorated. -/
def HoldsOverDecorated (property : Processor κ → Prop) : Prop :=
  ∀ inner : Processor κ, (∀ part ∈ inner.parts, part.IsDecorated) → property inner

/-- What is guarded is decorated. -/
theorem Guarded.isDecorated {functions : Registry (Processor κ)} {property : Processor κ → Prop}
    {processor : Processor κ} (guarded : Guarded functions property processor) : processor.IsDecorated := by
  cases guarded with
  | function info hooks tracked found => exact ⟨info, hooks, tracked, _, rfl⟩
  | step info hooks tracked holds parts => exact ⟨info, hooks, tracked, _, rfl⟩

end Processor

namespace CompileContext

open Processor

/-! ## From steps to all that is decorated -/

/-- What a relation says of steps gives decorated steps a property, and blocks of parts that have it have it, too. -/
structure Spreads (context : CompileContext κ) (route : String) (rel : Identity → Step κ → Processor κ → Prop)
    (good : Processor κ → Prop) : Prop where
  /-- Steps of which the relation says so. -/
  step : ∀ {place step inner}, rel place step inner → good (context.decorate route step.name inner)
  /-- Blocks. -/
  block : ∀ {parts : List (Processor κ)}, (∀ part ∈ parts, good part) →
    good (context.decorate route "pipeline" (.pipeline false parts))

section Spreads

variable {context : CompileContext κ} {route : String} {rel : Identity → Step κ → Processor κ → Prop}
  {good : Processor κ → Prop} (spreads : Spreads context route rel good)

include spreads

/-- The parts of a block have the property as one processor. -/
theorem Spreads.joined {parts : List (Processor κ)} (all : ∀ part ∈ parts, good part) :
    good (context.joined route parts) := by
  match parts with
  | [] => exact spreads.block all
  | [only] => exact all only List.mem_cons_self
  | first :: second :: rest => exact spreads.block all

/-- Steps that are compiled one by one have it. -/
theorem Spreads.each {place : Identity} {index : Nat} {steps : List (Step κ)} {parts : List (Processor κ)}
    (each : Each context route rel place index steps parts) : ∀ part ∈ parts, good part := by
  induction each with
  | nil => exact List.forall_mem_nil _
  | cons first _ others => exact List.forall_mem_cons.mpr ⟨spreads.step first, others⟩

/-- The branches of a choice have it. -/
theorem Spreads.clauses {place : Identity} {index : Nat} {clauses : List (ValueSource κ × List (Step κ))}
    {branches : List (Evaluator κ × Processor κ)} (each : EachClause context route rel place index clauses branches) :
    ∀ part ∈ branches.map Prod.snd, good part := by
  induction each with
  | nil => exact List.forall_mem_nil _
  | cons _ block _ others => exact List.forall_mem_cons.mpr ⟨spreads.joined (spreads.each block), others⟩

/-- The clauses that handle errors have it. -/
theorem Spreads.catches {place : Identity} {index : Nat} {catches : List (Matcher × List (Step κ))}
    {handlers : List (Matcher × Processor κ)} (each : EachCatch context route rel place index catches handlers) :
    ∀ part ∈ handlers.map Prod.snd, good part := by
  induction each with
  | nil => exact List.forall_mem_nil _
  | cons block _ others => exact List.forall_mem_cons.mpr ⟨spreads.joined (spreads.each block), others⟩

/-- What a step is compiled to is a registered function, or its parts have the property. -/
theorem Spreads.shape {place : Identity} {step : Step κ} {inner : Processor κ}
    (shape : Shape context route rel place step inner) :
    (∃ name, context.functions.get? name = some inner) ∨ ∀ part ∈ inner.parts, good part := by
  cases shape with
  | function found => exact .inl ⟨_, found⟩
  | pipeline _ inside | multicast _ _ _ inside => exact .inr (spreads.each inside)
  | choice inside =>
    refine .inr fun part member => spreads.clauses inside part ?_
    simpa [Processor.parts] using member
  | otherwise inside block =>
    refine .inr (List.forall_mem_append.mpr ⟨spreads.clauses inside, ?_⟩)
    exact List.forall_mem_singleton.mpr (spreads.joined (spreads.each block))
  | tryCatch tried caught ending =>
    refine .inr (List.forall_mem_append.mpr ⟨?_, spreads.each ending⟩)
    exact List.forall_mem_append.mpr ⟨spreads.each tried, spreads.catches caught⟩
  | countLoop _ _ block | whileLoop _ _ block =>
    exact .inr (List.forall_mem_singleton.mpr (spreads.joined (spreads.each block)))
  | _ => exact .inr (List.forall_mem_nil _)

end Spreads

/-! ## Guarded steps -/

variable {context : CompileContext κ} {route : String} {property : Processor κ → Prop}

/-- A step over guarded parts is guarded. -/
theorem guarded_step (general : HoldsOverDecorated property) (info : StepInfo) (hooks : Hooks κ) (tracked : Bool)
    {inner : Processor κ} (parts : ∀ part ∈ inner.parts, Guarded context.functions property part) :
    Guarded context.functions property (.decorated info hooks tracked inner) :=
  .step info hooks tracked (general inner fun part member => (parts part member).isDecorated) parts

/-- Whatever a step is compiled to, decorated it is guarded. -/
def GuardedInside (context : CompileContext κ) (property : Processor κ → Prop) (_ : Identity) (_ : Step κ)
    (inner : Processor κ) : Prop :=
  ∀ info hooks tracked, Guarded context.functions property (.decorated info hooks tracked inner)

/-- Being guarded spreads from steps. -/
theorem spreads_guarded (general : HoldsOverDecorated property) :
    Spreads context route (GuardedInside context property) (Guarded context.functions property) where
  step inside := inside _ _ _
  block parts := guarded_step general _ _ _ parts

/-- What has the shape of a compiled step over guarded parts is guarded when it is decorated. -/
theorem Shape.guardedInside (general : HoldsOverDecorated property) {place : Identity} {step : Step κ}
    {inner : Processor κ} (shape : Shape context route (GuardedInside context property) place step inner) :
    GuardedInside context property place step inner := by
  intro info hooks tracked
  rcases (spreads_guarded general).shape shape with ⟨name, found⟩ | parts
  · exact .function info hooks tracked found
  · exact guarded_step general info hooks tracked parts

end CompileContext

/-- A property that spreads from steps holds of what a definition is compiled to, if the relation follows from the
shape of processors. -/
theorem Definition.holds_of_compile {definition : Definition κ} {context : CompileContext κ} {identity : Identity}
    {route : Route κ} (compiled : definition.compile context identity = .ok route)
    {rel : Identity → Step κ → Processor κ → Prop}
    (closed : ∀ {place step processor}, CompileContext.Shape context definition.name rel place step processor →
      rel place step processor)
    {good : Processor κ → Prop} (spreads : CompileContext.Spreads context definition.name rel good) :
    good route.processor := by
  obtain ⟨parts, each, rfl⟩ := definition.rel_of_compile compiled closed
  exact spreads.joined (spreads.each each)

/-- What a definition is compiled to is guarded. -/
theorem Definition.guarded_of_compile {definition : Definition κ} {context : CompileContext κ} {identity : Identity}
    {route : Route κ} (compiled : definition.compile context identity = .ok route)
    {property : Processor κ → Prop} (general : Processor.HoldsOverDecorated property) :
    route.processor.Guarded context.functions property :=
  Definition.holds_of_compile compiled (fun shape => shape.guardedInside general)
    (CompileContext.spreads_guarded general)

end MessageRouting
