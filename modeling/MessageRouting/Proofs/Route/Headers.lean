import MessageRouting.Proofs.Engine.Accounts

/-!
# Steps that change a header

The name of a step tells whether it gives a header a value or takes it away. In a compiled route every step that does
stands under such a name, so nothing but steps of such names and registered functions changes the header.
-/

namespace MessageRouting

variable {κ : Type}

/-- By its name, the step sets the header, removes it or converts it. -/
def StepInfo.Changes (header : String) (info : StepInfo) : Prop :=
  info.step = s!"setHeader[{header}]" ∨ info.step = s!"removeHeader[{header}]" ∨
    ∃ target kind, Kind.parse target = .ok kind ∧ info.step = s!"convertHeaderTo[{header}:{target}]"

/-- Nothing changes the header but steps whose names say so. -/
abbrev Processor.SparesHeader (header : String) (processor : Processor κ) : Prop :=
  processor.Spares (· ≠ header) (StepInfo.Changes header)

namespace CompileContext

open Processor

variable {context : CompileContext κ} {route header : String}

/-- Whatever a step is compiled to, under the name of the step it spares the header. -/
def SparesInside (header : String) (_ : Identity) (step : Step κ) (inner : Processor κ) : Prop :=
  ∀ (route : String) (hooks : Hooks κ) (tracked : Bool),
    (Processor.decorated ⟨route, step.name⟩ hooks tracked inner).SparesHeader header

/-- What changes no header itself spares the header if its parts do. -/
theorem spares_of_parts {free : String → Prop} {excused : StepInfo → Prop} {processor : Processor κ}
    (silent : processor.header? = none) (parts : ∀ part ∈ processor.parts, part.Spares free excused) :
    processor.Spares free excused := by
  refine .within (fun name own => ?_) parts
  rw [silent] at own
  cases own

/-- A decorated step spares the header if it does without. -/
theorem spares_decorated {info : StepInfo} {hooks : Hooks κ} {tracked : Bool} {free : String → Prop}
    {excused : StepInfo → Prop} {inner : Processor κ} (spares : inner.Spares free excused) :
    (Processor.decorated info hooks tracked inner).Spares free excused :=
  spares_of_parts rfl (List.forall_mem_singleton.mpr spares)

/-- Sparing the header spreads from steps. -/
theorem spreads_sparesHeader :
    Spreads context route (SparesInside header) (Processor.SparesHeader header) where
  step inside := inside _ _ _
  block parts := spares_decorated (spares_of_parts rfl parts)

/-- A step without steps inside spares the header, unless its name says that it changes it. -/
theorem spares_leaf {leaf : Leaf κ} {info : StepInfo} {hooks : Hooks κ} {tracked : Bool}
    (own : header ∈ leaf.header? → info.Changes header) :
    (Processor.decorated info hooks tracked (.leaf leaf)).SparesHeader header := by
  by_cases changes : header ∈ leaf.header?
  · exact .excused hooks tracked _ (own changes)
  · refine spares_decorated (.within (fun name member => ?_) (List.forall_mem_nil _))
    rintro rfl
    exact changes member

/-- A name that was found to be one of a type is one. -/
theorem parse_of_kindOf {target : String} {kind : Kind} (typed : kindOf route target = .ok kind) :
    Kind.parse target = .ok kind := by
  unfold kindOf at typed
  cases parsed : Kind.parse target with
  | ok found =>
    rw [parsed] at typed
    exact typed
  | error fault =>
    rw [parsed] at typed
    cases typed

/-- What has the shape of a compiled step spares the header under the name of the step. -/
theorem Shape.sparesInside (functions : ∀ name processor, context.functions.get? name = some processor →
      processor.SparesHeader header) {place : Identity} {step : Step κ} {inner : Processor κ}
    (shape : Shape context route (SparesInside header) place step inner) :
    SparesInside header place step inner := by
  intro name hooks tracked
  rcases spreads_sparesHeader.shape shape with ⟨_, found⟩ | parts
  · exact spares_decorated (functions _ _ found)
  cases shape with
  | setHeader changed _ =>
    refine spares_leaf fun same => ?_
    cases same
    exact .inl rfl
  | removeHeader changed =>
    refine spares_leaf fun same => ?_
    cases same
    exact .inr (.inl rfl)
  | @convertHeader changed target params kind typed =>
    refine spares_leaf fun same => ?_
    cases same
    exact .inr (.inr ⟨target, kind, parse_of_kindOf typed, rfl⟩)
  | function found => exact spares_decorated (functions _ _ found)
  | _ => exact spares_decorated (spares_of_parts rfl parts)

end CompileContext

/-- The name of the step that a compiled route is: that of its only step, or that of a pipeline. -/
def Definition.rootName (definition : Definition κ) : String :=
  match definition.steps with
  | [only] => only.name
  | _ => "pipeline"

/-- A compiled route is one decorated step. -/
theorem Definition.decorated_of_compile {definition : Definition κ} {context : CompileContext κ}
    {identity : Identity} {route : Route κ} (compiled : definition.compile context identity = .ok route) :
    ∃ inner, route.processor =
      .decorated ⟨definition.name, definition.rootName⟩ context.hooks context.tracked inner := by
  have always {place : Identity} {step : Step κ} {processor : Processor κ}
      (_ : CompileContext.Shape context definition.name (fun _ _ _ => True) place step processor) : True := trivial
  obtain ⟨parts, each, rfl⟩ := definition.rel_of_compile compiled always
  unfold Definition.rootName
  generalize definition.steps = steps at each
  cases each with
  | nil => exact ⟨_, rfl⟩
  | cons first rest =>
    cases rest with
    | nil => exact ⟨_, rfl⟩
    | cons second others => exact ⟨_, rfl⟩

/-- A compiled route spares the header if registered functions do. -/
theorem Definition.sparesHeader_of_compile {definition : Definition κ} {context : CompileContext κ}
    {identity : Identity} {route : Route κ} {header : String}
    (compiled : definition.compile context identity = .ok route)
    (functions : ∀ name processor, context.functions.get? name = some processor → processor.SparesHeader header) :
    route.processor.SparesHeader header :=
  Definition.holds_of_compile compiled (fun shape => shape.sparesInside functions) CompileContext.spreads_sparesHeader

end MessageRouting
