import MessageRouting.Proofs.Expr.Carried
import MessageRouting.Proofs.Route.References

/-!
# The constants of a route

The values that a route has of its own are those that stand in its definition and those of the functions it was
compiled with. The literals of its expressions are no errors, so the errors that a compiled route brings along are
errors inside these values.
-/

namespace MessageRouting

variable {κ : Type} {allowed : Raised → Prop}

/-! ## What processors have of their own -/

/-- All errors inside what an evaluator has of its own are allowed. -/
def Evaluator.CarriesOnly (allowed : Raised → Prop) : Evaluator κ → Prop
  | .constant value => value.CarriesOnly allowed
  | .formula compiled => compiled.CarriesOnly allowed
  | .code _ => True

/-- If all errors are allowed, those inside what an evaluator has of its own are. -/
theorem Evaluator.carriesOnly_of_all (all : ∀ e, allowed e) : ∀ evaluator : Evaluator κ, evaluator.CarriesOnly allowed
  | .constant value => Value.carriesOnly_of_all all value
  | .formula compiled => Expr.carriesOnly_of_all all compiled.expr
  | .code _ => trivial

/-- The evaluators of a step without steps inside. -/
def Leaf.evaluators : Leaf κ → List (Evaluator κ)
  | .setBody value => [value]
  | .setHeader _ value => [value]
  | .setProperty _ value => [value]
  | .setError value => [value]
  | .delay duration => [duration]
  | _ => []

namespace Processor

/-- The evaluators of a processor itself, those of its parts left aside. -/
def evaluators : Processor κ → List (Evaluator κ)
  | .leaf step => step.evaluators
  | .choice clauses _ => clauses.map Prod.fst
  | .countLoop count _ => [count]
  | .whileLoop condition _ _ => [condition]
  | _ => []

/-- The processor is the whole or one of its parts, at any depth. -/
inductive Within (part : Processor κ) : Processor κ → Prop
  /-- It is the whole. -/
  | whole : Within part part
  /-- It is within one of the parts. -/
  | part {whole inner : Processor κ} (member : inner ∈ whole.parts) (below : Within part inner) : Within part whole

/-- All errors inside what a processor and its parts have of their own are allowed. -/
def CarriesOnly (allowed : Raised → Prop) (processor : Processor κ) : Prop :=
  ∀ part : Processor κ, part.Within processor → ∀ evaluator ∈ part.evaluators, evaluator.CarriesOnly allowed

/-- What is within a part of the whole is within the whole. -/
theorem Within.trans {inner part whole : Processor κ} (below : inner.Within part) (above : part.Within whole) :
    inner.Within whole := by
  induction above with
  | whole => exact below
  | part member _ later => exact .part member later

/-- What holds of a processor holds of what is within. -/
theorem CarriesOnly.within {part whole : Processor κ} (all : whole.CarriesOnly allowed) (below : part.Within whole) :
    part.CarriesOnly allowed :=
  fun inner inside => all inner (inside.trans below)

/-- It holds of the parts. -/
theorem CarriesOnly.part {part whole : Processor κ} (all : whole.CarriesOnly allowed) (member : part ∈ whole.parts) :
    part.CarriesOnly allowed :=
  all.within (.part member .whole)

/-- It holds of the evaluators. -/
theorem CarriesOnly.evaluator {processor : Processor κ} {evaluator : Evaluator κ}
    (all : processor.CarriesOnly allowed) (member : evaluator ∈ processor.evaluators) :
    evaluator.CarriesOnly allowed :=
  all processor .whole evaluator member

/-- It holds of a processor if it does of its evaluators and its parts. -/
theorem carriesOnly_of_parts {processor : Processor κ}
    (own : ∀ evaluator ∈ processor.evaluators, evaluator.CarriesOnly allowed)
    (parts : ∀ part ∈ processor.parts, part.CarriesOnly allowed) : processor.CarriesOnly allowed := by
  intro part within
  cases within with
  | whole => exact own
  | part member below => exact parts _ member part below

/-- If all errors are allowed, those inside what a processor has of its own are. -/
theorem carriesOnly_of_all (all : ∀ e, allowed e) (processor : Processor κ) : processor.CarriesOnly allowed :=
  fun _ _ evaluator _ => evaluator.carriesOnly_of_all all

end Processor

/-! ## What definitions have of their own -/

/-- All errors inside the value are allowed, if the source is a value. -/
def ValueSource.CarriesOnly (allowed : Raised → Prop) : ValueSource κ → Prop
  | .constant value => value.CarriesOnly allowed
  | _ => True

/-- The source that a loop goes by. -/
def LoopMode.source : LoopMode κ → ValueSource κ
  | .count times => times
  | .while condition => condition

/-- The sources of values of a step itself, the steps inside left aside. -/
def Step.sources : Step κ → List (ValueSource κ)
  | .setBody value => [value]
  | .setHeader _ value => [value]
  | .setProperty _ value => [value]
  | .setError value => [value]
  | .delay value => [value]
  | .choice clauses _ => clauses.map Prod.fst
  | .loop mode _ _ => [mode.source]
  | _ => []

/-- All errors inside the values of a step itself are allowed. -/
def Step.CarriesOnly (allowed : Raised → Prop) (step : Step κ) : Prop :=
  ∀ source ∈ step.sources, source.CarriesOnly allowed

namespace CompileContext

variable {context : CompileContext κ} {route : String}

/-- A source that was compiled has the values it had. -/
theorem carriesOnly_evaluator {source : ValueSource κ} {compiled : Evaluator κ}
    (found : evaluator source = .ok compiled) (own : source.CarriesOnly allowed) : compiled.CarriesOnly allowed := by
  cases source with
  | constant value =>
    cases found
    exact own
  | code code =>
    cases found
    trivial
  | simple text =>
    obtain ⟨formula, compiledFormula, rfl⟩ := exists_of_map_eq_ok found
    exact Formula.carriesOnly_of_compile compiledFormula

/-- A step whose values are allowed, at any depth, is compiled to a processor whose values are. -/
def KeepsConstants (allowed : Raised → Prop) (_ : Identity) (step : Step κ) (processor : Processor κ) : Prop :=
  Step.Throughout (Step.CarriesOnly allowed) [step] → processor.CarriesOnly allowed

/-- A decorated step has the values of the step. -/
theorem carriesOnly_decorate {step : String} {processor : Processor κ} (inner : processor.CarriesOnly allowed) :
    (context.decorate route step processor).CarriesOnly allowed :=
  Processor.carriesOnly_of_parts nofun (List.forall_mem_singleton.mpr inner)

/-- A block has the values of its parts. -/
theorem carriesOnly_joined {parts : List (Processor κ)} (inside : ∀ part ∈ parts, part.CarriesOnly allowed) :
    (context.joined route parts).CarriesOnly allowed := by
  match parts with
  | [] => exact carriesOnly_decorate (Processor.carriesOnly_of_parts nofun nofun)
  | [only] => exact inside only List.mem_cons_self
  | first :: second :: rest => exact carriesOnly_decorate (Processor.carriesOnly_of_parts nofun inside)

/-- Steps whose values are allowed are compiled to parts whose values are. -/
theorem Each.carriesOnly {place : Identity} {index : Nat} {steps : List (Step κ)} {parts : List (Processor κ)}
    (each : Each context route (KeepsConstants allowed) place index steps parts)
    (own : Step.Throughout (Step.CarriesOnly allowed) steps) : ∀ part ∈ parts, part.CarriesOnly allowed := by
  induction each with
  | nil => exact nofun
  | cons first _ later =>
    rw [← List.singleton_append, Step.throughout_append] at own
    exact List.forall_mem_cons.mpr ⟨carriesOnly_decorate (first own.1), later own.2⟩

/-- The clauses of a choice keep their values. -/
theorem EachClause.carriesOnly {place : Identity} {index : Nat} {clauses : List (ValueSource κ × List (Step κ))}
    {branches : List (Evaluator κ × Processor κ)}
    (each : EachClause context route (KeepsConstants allowed) place index clauses branches)
    (conditions : ∀ source ∈ clauses.map Prod.fst, source.CarriesOnly allowed)
    (blocks : Step.Throughout (Step.CarriesOnly allowed) (clauses.flatMap Prod.snd)) :
    (∀ evaluator ∈ branches.map Prod.fst, evaluator.CarriesOnly allowed) ∧
      ∀ part ∈ branches.map Prod.snd, part.CarriesOnly allowed := by
  induction each with
  | nil => exact ⟨nofun, nofun⟩
  | cons asked block _ later =>
    obtain ⟨condition, others⟩ := List.forall_mem_cons.mp conditions
    rw [List.flatMap_cons, Step.throughout_append] at blocks
    obtain ⟨evaluators, parts⟩ := later others blocks.2
    exact ⟨List.forall_mem_cons.mpr ⟨carriesOnly_evaluator asked condition, evaluators⟩,
      List.forall_mem_cons.mpr ⟨carriesOnly_joined (block.carriesOnly blocks.1), parts⟩⟩

/-- The clauses that handle errors keep their values. -/
theorem EachCatch.carriesOnly {place : Identity} {index : Nat} {catches : List (Matcher × List (Step κ))}
    {handlers : List (Matcher × Processor κ)}
    (each : EachCatch context route (KeepsConstants allowed) place index catches handlers)
    (blocks : Step.Throughout (Step.CarriesOnly allowed) (catches.flatMap Prod.snd)) :
    ∀ part ∈ handlers.map Prod.snd, part.CarriesOnly allowed := by
  induction each with
  | nil => exact nofun
  | cons block _ later =>
    rw [List.flatMap_cons, Step.throughout_append] at blocks
    exact List.forall_mem_cons.mpr ⟨carriesOnly_joined (block.carriesOnly blocks.1), later blocks.2⟩

/-- What has the shape of a compiled step keeps its values. -/
theorem Shape.keepsConstants (functions : ∀ name processor, context.functions.get? name = some processor →
      processor.CarriesOnly allowed) {place : Identity} {step : Step κ} {processor : Processor κ}
    (shape : Shape context route (KeepsConstants allowed) place step processor) :
    KeepsConstants allowed place step processor := by
  intro all
  obtain ⟨own, inside⟩ := Step.throughout_singleton.mp all
  cases shape with
  | setBody found | setHeader _ found | setProperty _ found | setError found | delay found =>
    refine Processor.carriesOnly_of_parts (List.forall_mem_singleton.mpr ?_) (List.forall_mem_nil _)
    exact carriesOnly_evaluator found (List.forall_mem_singleton.mp own)
  | function found => exact functions _ _ found
  | pipeline _ each | multicast _ _ _ each =>
    exact Processor.carriesOnly_of_parts (List.forall_mem_nil _) (each.carriesOnly inside)
  | choice each =>
    obtain ⟨evaluators, parts⟩ := each.carriesOnly own (by simpa [Step.children] using inside)
    exact Processor.carriesOnly_of_parts evaluators (by simpa [Processor.parts] using parts)
  | otherwise each block =>
    obtain ⟨inClauses, inBlock⟩ := Step.throughout_append.mp inside
    obtain ⟨evaluators, parts⟩ := each.carriesOnly own inClauses
    refine Processor.carriesOnly_of_parts evaluators (List.forall_mem_append.mpr ⟨parts, ?_⟩)
    exact List.forall_mem_singleton.mpr (carriesOnly_joined (block.carriesOnly inBlock))
  | tryCatch tried caught ending =>
    obtain ⟨before, inLast⟩ := Step.throughout_append.mp inside
    obtain ⟨inSteps, inCatches⟩ := Step.throughout_append.mp before
    refine Processor.carriesOnly_of_parts (List.forall_mem_nil _) (List.forall_mem_append.mpr ⟨?_, ?_⟩)
    · exact List.forall_mem_append.mpr ⟨tried.carriesOnly inSteps, caught.carriesOnly inCatches⟩
    · exact ending.carriesOnly inLast
  | countLoop _ found block | whileLoop _ found block =>
    refine Processor.carriesOnly_of_parts (List.forall_mem_singleton.mpr ?_) (List.forall_mem_singleton.mpr ?_)
    · exact carriesOnly_evaluator found (List.forall_mem_singleton.mp own)
    · exact carriesOnly_joined (block.carriesOnly inside)
  | _ => exact Processor.carriesOnly_of_parts (List.forall_mem_nil _) (List.forall_mem_nil _)

end CompileContext

/-- A route that was compiled has the values of its definition and of the functions it was compiled with. -/
theorem Definition.carriesOnly_of_compile {definition : Definition κ} {context : CompileContext κ}
    {identity : Identity} {route : Route κ} (compiled : definition.compile context identity = .ok route)
    (own : Step.Throughout (Step.CarriesOnly allowed) definition.steps)
    (functions : ∀ name processor, context.functions.get? name = some processor → processor.CarriesOnly allowed) :
    route.processor.CarriesOnly allowed := by
  obtain ⟨parts, each, rfl⟩ := definition.rel_of_compile compiled fun shape => shape.keepsConstants functions
  exact CompileContext.carriesOnly_joined (each.carriesOnly own)

end MessageRouting
