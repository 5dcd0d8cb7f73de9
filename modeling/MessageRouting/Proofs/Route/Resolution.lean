import MessageRouting.Proofs.Engine.Basis
import MessageRouting.Proofs.Program.Yielding

/-!
# References that do not resolve

What is wrong with a reference shows when a route is compiled, and then only. A definition is compiled exactly if it is
in order; and whatever is registered or taken away later, no processor of a compiled route raises that a function, a
data format or a type is unknown, or that an expression is not well formed. Such an error comes to an exchange only
from what the route was given: its exchanges, its constants, and what code of the embedding program and other routes
leave and raise.
-/

namespace MessageRouting

variable {allowed : Raised → Prop}

/-! ## Faults of endpoints -/

/-- A text that is no URI is refused by a plain fault. -/
theorem Uri.isPlain_of_parse {text : String} {fault : Fault} (refused : Uri.parse text = .error fault) :
    fault.IsPlain := by
  unfold Uri.parse at refused
  dsimp only at refused
  split at refused <;> cases refused
  trivial

/-- A parameter that is no number is refused by a plain fault. -/
theorem Uri.isPlain_of_natParam {uri : Uri} {name : String} {default : Nat} {fault : Fault}
    (refused : uri.natParam name default = .error fault) : fault.IsPlain := by
  unfold Uri.natParam Uri.paramOr at refused
  split at refused
  · cases refused
  · split at refused <;> cases refused
    trivial

/-- What is followed failed first, or later. -/
theorem eq_error_of_bind {ε α β : Type} {before : Except ε α} {next : α → Except ε β} {fault : ε}
    (followed : before >>= next = .error fault) : before = .error fault ∨ ∃ result, next result = .error fault := by
  cases before with
  | error other =>
    cases followed
    exact .inl rfl
  | ok result => exact .inr ⟨result, followed⟩

/-- Settings of a timer are refused by plain faults. -/
theorem TimerSettings.isPlain_of_read {period : Time.Duration} {uri : Uri} {fault : Fault}
    (refused : TimerSettings.read period uri = .error fault) : fault.IsPlain := by
  unfold TimerSettings.read at refused
  rcases eq_error_of_bind refused with failed | ⟨period, refused⟩
  · exact Uri.isPlain_of_natParam failed
  · split at refused
    · cases refused
      trivial
    · rcases eq_error_of_bind refused with failed | ⟨delay, refused⟩
      · exact Uri.isPlain_of_natParam failed
      · rcases eq_error_of_bind refused with failed | ⟨times, refused⟩
        · exact Uri.isPlain_of_natParam failed
        · cases refused

namespace Engine

variable {κ η : Type}

/-- The converters of the framework that are registered are the built-in ones. -/
def BuiltinConverters (engine : Engine κ η) : Prop :=
  ∀ edge conversion, (edge, Converter.builtin conversion) ∈ engine.converters.edges →
    ∃ original, (original, conversion) ∈ Convert.builtins

/-- Whoever an exchange is handed to leaves only errors that are allowed if it carried no others. -/
def AnswersOnly (allowed : Raised → Prop) (task : Processor κ × Exchange) (outcome : Outcome) : Prop :=
  task.2.CarriesOnly allowed → outcome.CarriesOnly allowed

/-- The work comes to results of a kind whatever else happens: any routes, functions, components and formats may be
registered or taken away between its sections. -/
abbrev Brings (allowed : Raised → Prop) {α : Type} (good : α → Prop) (work : Work κ η α) : Prop :=
  work.Yields BuiltinConverters (AnswersOnly allowed) good

end Engine

open Engine

/-- The code of an embedding program leaves and raises only what is allowed, if it is given nothing else. -/
structure Embedding.BringsOnly {κ η : Type} (allowed : Raised → Prop) (embedding : Embedding κ η) : Prop where
  /-- Values that are found. -/
  evaluate : ∀ code (x : Exchange), x.CarriesOnly allowed →
    Brings allowed (Ending.GivesOnly allowed) (embedding.evaluate code x)
  /-- Functions. -/
  function : ∀ code (x : Exchange), x.CarriesOnly allowed →
    Brings allowed (FunctionKeeps allowed) (embedding.function code x)
  /-- Processors. -/
  process : ∀ code (x : Exchange), x.CarriesOnly allowed →
    Brings allowed (Outcome.CarriesOnly allowed) (embedding.process code x)
  /-- Hooks. -/
  hook : ∀ code point info (x : Exchange), x.CarriesOnly allowed →
    Brings allowed (Outcome.CarriesOnly allowed) (embedding.hook code point info x)
  /-- Branches that are joined. -/
  aggregate : ∀ code (before : Option Exchange) (branch : Exchange), (∀ folded ∈ before, folded.CarriesOnly allowed) →
    branch.CarriesOnly allowed →
    Brings allowed (fun joined => ∀ y, joined = .ok y → y.CarriesOnly allowed) (embedding.aggregate code before branch)
  /-- Values that are converted. -/
  convert : ∀ code (value : Value) params, value.CarriesOnly allowed →
    Brings allowed (Ending.GivesOnly allowed) (embedding.convert code value params)
  /-- Values that are written. -/
  marshal : ∀ code (value : Value), value.CarriesOnly allowed →
    Brings allowed (Ending.Keeps allowed fun _ => True) (embedding.marshal code value)
  /-- Values that are read. -/
  unmarshal : ∀ code octets target,
    Brings allowed (Ending.Keeps allowed (Value.CarriesOnly allowed)) (embedding.unmarshal code octets target)
  /-- Components. -/
  component : ∀ code request state, FailsOnly allowed (embedding.component code request state).1

namespace Engine

variable {κ η : Type} {embedding : Embedding κ η}

/-- Making an endpoint fails only as is allowed. -/
theorem failsOnly_makeKept (admits : Admits allowed) (brings : embedding.BringsOnly allowed) (text : String)
    (component : Component κ) (uri : Uri) (engine : Engine κ η) :
    FailsOnly allowed (makeKept embedding text component uri engine).1 := by
  have role : FailsOnly allowed (roleFor embedding component uri engine.embedding).1 := by
    intro fault failed
    cases component with
    | direct table =>
      simp only [roleFor] at failed
      split at failed <;> cases failed
      exact Fault.IsPlain.raisesOnly admits trivial
    | timer defaultPeriod =>
      exact (TimerSettings.isPlain_of_read (eq_error_of_map failed)).raisesOnly admits
    | custom scheme code => exact brings.component _ _ _ fault (eq_error_of_map failed)
  intro fault failed
  unfold makeKept at failed
  split at failed
  · cases failed
  · split at failed
    · rename_i made
      cases failed
      exact role fault (eq_error_of_map (congrArg Prod.fst made))
    · cases failed

/-- Looking for an endpoint fails only as is allowed. -/
theorem brings_resolve (admits : Admits allowed) (brings : embedding.BringsOnly allowed) (text : String) :
    Brings allowed (FailsOnly allowed) (resolve embedding text) := by
  have plain {α : Type} {fault : Fault} (holds : fault.IsPlain) : FailsOnly allowed (.error fault : Except Fault α) :=
    fun other same => by
      cases same
      exact holds.raisesOnly admits
  have looked : Brings allowed (fun _ => True) (Program.read fun engine : Engine κ η => engine.endpoints.find? text) :=
    .read fun _ _ => trivial
  refine looked.bind fun found _ => ?_
  split
  · exact nofun
  · split
    · rename_i refused
      exact plain (Uri.isPlain_of_parse refused)
    · rename_i uri _
      have known : Brings allowed (FailsOnly allowed) (componentOf uri : Work κ η (Except Fault (Component κ))) := by
        refine .read fun engine _ fault missing => ?_
        cases found : engine.components.get? uri.component with
        | some component => simp [found] at missing
        | none =>
          simp only [found, Option.elim_none, Except.error.injEq] at missing
          subst missing
          exact Fault.IsPlain.raisesOnly admits trivial
      refine known.bind fun component failed => ?_
      split
      · rename_i fault
        exact fun other same => by cases same; exact failed fault rfl
      · exact .atomically fun engine _ => failsOnly_makeKept admits brings text _ _ engine

/-- Asking a component fails only as is allowed. -/
theorem brings_request (brings : embedding.BringsOnly allowed) (code : κ) (wanted : ComponentRequest κ) :
    Brings allowed (FailsOnly allowed) (request embedding code wanted) :=
  .atomically fun engine _ => brings.component code wanted engine.embedding

/-- The converters of the framework bring no errors. -/
theorem givesOnly_of_builtinConverters {engine : Engine κ η} (builtin : BuiltinConverters engine) {edge : Convert.Edge}
    {converter : Converter κ} (found : engine.converters.at? edge = some converter) :
    converter.GivesOnly allowed := by
  cases converter with
  | custom code => trivial
  | builtin conversion =>
    obtain ⟨before, after, split, -⟩ := List.lookup_eq_some_iff.mp found
    obtain ⟨original, member⟩ := builtin edge conversion (split ▸ List.mem_append_right before List.mem_cons_self)
    exact Convert.givesOnly_builtins _ member

/-- What is read is of a kind, if it is in all states that are met. -/
theorem reads_yielding : Reads (Program.yielding BuiltinConverters (AnswersOnly allowed))
    (BuiltinConverters : Engine κ η → Prop) :=
  fun _ holds => Program.Yields.read holds

/-- All pieces of work bring only errors that are allowed. -/
theorem basis_yielding (admits : Admits allowed) (brings : embedding.BringsOnly allowed) :
    Basis (Program.yielding BuiltinConverters (AnswersOnly allowed)) allowed BuiltinConverters embedding where
  read := reads_yielding
  pass _ := Program.Yields.change _
  remember _ _ := Program.Yields.change _
  log _ _ _ := Program.Yields.change _
  decorates := decorates_of_noted admits reads_yielding (fun _ => Program.Yields.change _) brings.hook
  producer := by
    apply self_producerFor admits reads_yielding
    · intro text
      exact brings_resolve admits brings text
    · intro code wanted
      exact brings_request brings code wanted
    · intro keptAs uri producer
      exact Program.Yields.change _
  ask _ _ carried := Program.Yields.ask fun _ kept => kept carried
  blocked := Program.Yields.blocked
  converters _ builtin _ _ found := givesOnly_of_builtinConverters builtin found
  evaluate := brings.evaluate
  function := brings.function
  process := brings.process
  aggregate := brings.aggregate
  convert := brings.convert
  marshal := brings.marshal
  unmarshal := brings.unmarshal

/-- The failure is a given one, if it says that a reference does not resolve. -/
def OnlyGiven (given : Raised → Prop) (e : Raised) : Prop := e.IsUnresolved → given e

/-- All failures but some that say that a reference does not resolve are allowed. -/
theorem admits_onlyGiven (given : Raised → Prop) : Admits (OnlyGiven given) :=
  fun _ resolved unresolved => absurd unresolved resolved

/-- A processor whose constants are allowed brings only errors that are allowed. -/
theorem brings_behaviour (admits : Admits allowed) (brings : embedding.BringsOnly allowed) (patience : Nat)
    {processor : Processor κ} (own : processor.CarriesOnly allowed) {x : Exchange} (carried : x.CarriesOnly allowed) :
    Brings allowed (Outcome.CarriesOnly allowed) (behaviour embedding patience processor x) :=
  self_behaviour admits (basis_yielding admits brings) patience processor own x carried

end Engine

/-- A definition is compiled exactly if it is in order. And every processor of a route that was compiled, at any depth,
brings no error that a reference does not resolve but those that were given: to the exchange, in the constants of the
definition and of its functions, or by code of the embedding program and other routes. This is so in whatever states
its sections meet, after more registrations and with emptied registries, too. -/
theorem Definition.unresolved_shows_when_compiled {κ : Type} (definition : Definition κ) (context : CompileContext κ)
    (identity : Identity) :
    ((∃ route, definition.compile context identity = .ok route) ↔ definition.WellFormed context) ∧
      ∀ route, definition.compile context identity = .ok route →
        ∀ (η : Type) (embedding : Embedding κ η) (given : Raised → Prop),
          embedding.BringsOnly (OnlyGiven given) →
          Step.Throughout (Step.CarriesOnly (OnlyGiven given)) definition.steps →
          (∀ name processor, context.functions.get? name = some processor →
            processor.CarriesOnly (OnlyGiven given)) →
          ∀ part : Processor κ, part.Within route.processor → ∀ (patience : Nat) (x : Exchange),
            x.CarriesOnly (OnlyGiven given) →
            Brings (OnlyGiven given) (Outcome.CarriesOnly (OnlyGiven given)) (behaviour embedding patience part x) := by
  refine ⟨definition.exists_compile_eq_ok context identity, ?_⟩
  intro route compiled η embedding given brings own functions part within patience x carried
  have constants := Definition.carriesOnly_of_compile compiled own functions
  exact brings_behaviour (admits_onlyGiven given) brings patience (constants.within within) carried

namespace Engine

/-- Code that does nothing brings only what it is given. -/
theorem bringsOnly_idle (admits : Admits allowed) : idle.BringsOnly allowed where
  evaluate _ _ _ value same := by
    cases same
    trivial
  function _ _ carried := ⟨carried, nofun⟩
  process _ _ carried := carried
  hook _ _ _ _ carried := carried
  aggregate _ _ _ _ carried y same := by
    cases same
    exact carried
  convert _ _ _ carried value same := by
    cases same
    exact carried
  marshal _ _ _ := trivial
  unmarshal _ _ _ := trivial
  component _ _ _ fault same := by
    cases same
    exact Fault.IsPlain.raisesOnly admits trivial

/-- A route that refers to an expression, a type, a function, a data format and an endpoint, in a loop. -/
def referring : Definition Nat :=
  ⟨"r", "direct:in", [.loop (.count (.constant (.int 2)))
    [.setBody (.simple "body"), .convertBody "string" [], .function "f", .marshal "json", .to "direct:out"]
    .propagate]⟩

/-- The context in which its references resolve. -/
def referringContext : CompileContext Nat :=
  ⟨⟨"function", [("f", .function 0)]⟩, ⟨"data format", [("json", .json .compact)]⟩, ["direct"], {}, false⟩

/-- An exchange for the route. -/
def referringExchange : Exchange := .create (.root 1) (.root (.root 0)) [] .null

/-- There is nothing on the exchange. -/
theorem carriesOnly_referringExchange : referringExchange.CarriesOnly allowed := ⟨nofun, trivial, nofun, nofun⟩

/-- The references of the route resolve when it is compiled, and it does not raise that one does not. -/
theorem unresolved_shows_when_compiled_referring :
    referring.WellFormed referringContext ∧
      ∃ route, referring.compile referringContext (.root 0) = .ok route ∧
        Brings (OnlyGiven fun _ => False) (Outcome.CarriesOnly (OnlyGiven fun _ => False))
          (behaviour idle 3 route.processor referringExchange) := by
  obtain ⟨compiles, brings⟩ := Definition.unresolved_shows_when_compiled referring referringContext (.root 0)
  have succeeds : (referring.compile referringContext (.root 0)).isOk = true := by decide +kernel
  cases compiled : referring.compile referringContext (.root 0) with
  | error fault => simp [compiled, Except.isOk, Except.toBool] at succeeds
  | ok route =>
    refine ⟨compiles.mp ⟨route, compiled⟩, route, rfl, ?_⟩
    refine brings route compiled Unit idle (fun _ => False) (bringsOnly_idle (admits_onlyGiven _)) ?_ ?_ _ .whole 3
      referringExchange carriesOnly_referringExchange
    · simp [referring, Step.throughout_cons, Step.throughout_nil, Step.children, Step.CarriesOnly, Step.sources,
        LoopMode.source, ValueSource.CarriesOnly, Value.CarriesOnly]
    · intro name processor found
      simp only [referringContext, Registry.get?, Table.find?] at found
      split at found
      · cases found
        exact Processor.carriesOnly_of_parts (List.forall_mem_nil _) (List.forall_mem_nil _)
      · cases found

end Engine

end MessageRouting
