import Mathlib.Data.List.Forall2
import MessageRouting.Proofs.Convert.Registered
import MessageRouting.Proofs.Engine.Basis
import MessageRouting.Proofs.Engine.Running

/-!
# Calls on converters

Registering, clearing, asking and converting may follow each other in any order. Their answers are those of converters
without kept paths, where each conversion searches the path anew and applies the converters that are registered along
it, one after the other, up to the first that fails. So keeping paths shows nowhere but in the paths that are kept.
-/

namespace MessageRouting

open MessageRouting.Convert

variable {κ η : Type}

/-! ## Calls -/

/-- A call on the converters of an engine. -/
inductive ConverterCall (κ : Type) where
  /-- Registers a converter. -/
  | register (edge : Edge) (converter : Converter κ)
  /-- Takes all converters away. -/
  | clear
  /-- Asks for a way from one kind to another. -/
  | canConvert (source target : Kind)
  /-- Converts a value. -/
  | convert (value : Value) (target : Kind) (params : Table String)

/-- What a call answers. -/
inductive ConverterAnswer where
  /-- Nothing. -/
  | done
  /-- There is a way, or there is none. -/
  | possible (answer : Bool)
  /-- How the conversion ended. -/
  | converted (ending : Ending Fault Value)

namespace Engine

/-- Carries out a call. -/
def perform (embedding : Embedding κ η) : ConverterCall κ → Work κ η ConverterAnswer
  | .register edge converter => do
    registerConverter edge converter
    return .done
  | .clear => do
    clearConverters
    return .done
  | .canConvert source target => return .possible (← canConvert source target)
  | .convert value target params => return .converted (← convert embedding value target params)

/-! ## Calls without kept paths -/

/-- Applies converters one after the other, up to the first that does not return. -/
def applyInTurn (embedding : Embedding κ η) (params : Table String) :
    List (Edge × Converter κ) → Value → Work κ η (Ending Fault Value)
  | [], value => return .returned value
  | (edge, converter) :: rest, value => do
    match (← applyConverter embedding converter value params).mapError (hopFault edge) with
    | .returned next => applyInTurn embedding params rest next
    | .failed fault => return .failed fault
    | .panicked panic => return .panicked panic

/-- There is a way from one kind to another, over the converters that are registered now. -/
def canConvertAfresh (source target : Kind) : Work κ η Bool := do
  if source = target then return true
  else return (← Program.read fun engine => engine.converters.find (source, target)).isSome

/-- Converts a value to a kind, by the converters that are registered now along the path over them. -/
def convertAfresh (embedding : Embedding κ η) (value : Value) (target : Kind) (params : Table String) :
    Work κ η (Ending Fault Value) := do
  let converters ← Program.read fun engine => engine.converters
  if value.kind = target then return .returned value
  else
    match converters.find (value.kind, target) with
    | none => return .failed (.conversion value.kind.name target.name "no converter path")
    | some path => applyInTurn embedding params (converters.along (hops path)) value

/-- Carries out a call where no paths are kept. -/
def performAfresh (embedding : Embedding κ η) : ConverterCall κ → Work κ η ConverterAnswer
  | .register edge converter => do
    changeConverters (.place edge converter)
    return .done
  | .clear => do
    changeConverters .takeAway
    return .done
  | .canConvert source target => return .possible (← canConvertAfresh source target)
  | .convert value target params => return .converted (← convertAfresh embedding value target params)

/-- The engine with other paths kept. -/
def withPaths (paths : List (Edge × Option (List Kind))) (engine : Engine κ η) : Engine κ η :=
  { engine with converters := { engine.converters with paths } }

end Engine

/-- The converters of an embedding program neither look at what is registered nor change it: whatever is registered,
they do the same. -/
def Embedding.IgnoresConverters (embedding : Embedding κ η) (fuel : Nat) : Prop :=
  ∀ (code : κ) (value : Value) (params : Table String) (converters : Converters κ) (engine : Engine κ η),
    Engine.run embedding fuel (embedding.convert code value params) { engine with converters } =
      (Engine.run embedding fuel (embedding.convert code value params) engine).map fun ended =>
        (ended.1, { ended.2 with converters })

namespace Engine

variable {embedding : Embedding κ η} {fuel : Nat} {paths : List (Edge × Option (List Kind))}

/-! ## Runs that mirror each other -/

/-- From an engine, one program does what another one does when other paths are kept, and those that it keeps itself
are right. -/
structure Mirrors (embedding : Embedding κ η) (fuel : Nat) (paths : List (Edge × Option (List Kind))) {α : Type}
    (work other : Work κ η α) (engine : Engine κ η) : Prop where
  /-- The other one does the same. -/
  same : run embedding fuel other (engine.withPaths paths) =
    (run embedding fuel work engine).map fun ended => (ended.1, ended.2.withPaths paths)
  /-- The kept paths are right in the end. -/
  current : ∀ result after, run embedding fuel work engine = some (result, after) → after.converters.Current

/-- An end mirrors itself. -/
theorem Mirrors.pure {α : Type} (result : α) {engine : Engine κ η} (current : engine.converters.Current) :
    Mirrors embedding fuel paths (Pure.pure result) (Pure.pure result) engine where
  same := rfl
  current final after ran := by
    cases ran
    exact current

/-- Programs that mirror each other are followed by others that do. -/
theorem Mirrors.bind {α β : Type} {work other : Work κ η α} {next follow : α → Work κ η β} {engine : Engine κ η}
    (first : Mirrors embedding fuel paths work other engine)
    (later : ∀ result after, run embedding fuel work engine = some (result, after) → after.converters.Current →
      Mirrors embedding fuel paths (next result) (follow result) after) :
    Mirrors embedding fuel paths (work >>= next) (other >>= follow) engine := by
  have same := first.same
  cases ran : run embedding fuel work engine with
  | none =>
    have stuck : run embedding fuel (work >>= next) engine = none := by rw [run_bind, ran]; rfl
    rw [ran] at same
    refine ⟨?_, fun result after never => ?_⟩
    · rw [run_bind, same, stuck]
      rfl
    · rw [stuck] at never
      cases never
  | some ended =>
    obtain ⟨result, after⟩ := ended
    rw [ran] at same
    have rest := later result after ran (first.current result after ran)
    refine ⟨?_, fun final last finished => ?_⟩
    · rw [run_bind_of_run ran, run_bind_of_run same]
      exact rest.same
    · rw [run_bind_of_run ran] at finished
      exact rest.current final last finished

/-- How programs mirror each other is seen from their runs. -/
theorem Mirrors.congr {α : Type} {work other work' other' : Work κ η α} {engine : Engine κ η}
    (mirrors : Mirrors embedding fuel paths work' other' engine)
    (left : run embedding fuel work engine = run embedding fuel work' engine)
    (right : run embedding fuel other (engine.withPaths paths) = run embedding fuel other' (engine.withPaths paths)) :
    Mirrors embedding fuel paths work other engine where
  same := by rw [left, right]; exact mirrors.same
  current result after ran := mirrors.current result after (by rwa [← left])

/-! ## Paths -/

/-- The path between two kinds is that over the converters that are registered now; nothing changes but what is kept. -/
theorem run_pathBetween (embedding : Embedding κ η) (fuel : Nat) (edge : Edge) {engine : Engine κ η}
    (current : engine.converters.Current) :
    ∃ kept, run embedding fuel (pathBetween edge) engine =
      some (engine.converters.find edge, engine.withPaths kept) ∧ (engine.withPaths kept).converters.Current := by
  have looked : run embedding fuel (pathBetween edge) engine = _ :=
    run_bind_of_run (run_read (fun engine => engine.converters.known? edge) engine)
  cases known : engine.converters.known? edge with
  | some path =>
    have right := current edge path known
    rw [known, right] at looked
    exact ⟨engine.converters.paths, looked, current⟩
  | none =>
    rw [known] at looked
    exact ⟨(engine.converters.remember edge (engine.converters.find edge)).paths, looked, current.remember edge⟩

/-- Looking for a path mirrors the search. -/
theorem mirrors_pathBetween (edge : Edge) {engine : Engine κ η} (current : engine.converters.Current) :
    Mirrors embedding fuel paths (pathBetween edge) (Program.read fun engine => engine.converters.find edge)
      engine := by
  obtain ⟨kept, ran, right⟩ := run_pathBetween embedding fuel edge current
  refine ⟨?_, fun result after finished => ?_⟩
  · rw [ran]
    rfl
  · rw [ran] at finished
    cases finished
    exact right

/-- Asking for a way mirrors asking without kept paths. -/
theorem mirrors_canConvert (source target : Kind) {engine : Engine κ η} (current : engine.converters.Current) :
    Mirrors embedding fuel paths (canConvert source target) (canConvertAfresh source target) engine := by
  unfold canConvert canConvertAfresh
  split
  · exact .pure true current
  · exact (mirrors_pathBetween (source, target) current).bind fun path after _ right => .pure path.isSome right

/-! ## Conversions -/

section Conversions

variable (ignores : embedding.IgnoresConverters fuel)

include ignores

/-- Converters of the embedding program leave what is registered as it is. -/
theorem converters_of_run {code : κ} {value : Value} {params : Table String} {engine after : Engine κ η}
    {ending : Ending Cause Value}
    (ran : run embedding fuel (embedding.convert code value params) engine = some (ending, after)) :
    after.converters = engine.converters := by
  have same := ignores code value params engine.converters engine
  have whole : { engine with converters := engine.converters } = engine := rfl
  rw [whole, ran] at same
  simp only [Option.map_some, Option.some.injEq, Prod.mk.injEq, true_and] at same
  rw [same]

/-- Applying a converter leaves what is registered as it is. -/
theorem converters_of_applyConverter {converter : Converter κ} {value : Value} {params : Table String}
    {engine after : Engine κ η} {ending : Ending Cause Value}
    (ran : run embedding fuel (applyConverter embedding converter value params) engine = some (ending, after)) :
    after.converters = engine.converters := by
  cases converter with
  | builtin conversion =>
    cases ran
    rfl
  | custom code => exact converters_of_run ignores ran

/-- Applying a converter mirrors itself. -/
theorem mirrors_applyConverter (converter : Converter κ) (value : Value) (params : Table String)
    {engine : Engine κ η} (current : engine.converters.Current) :
    Mirrors embedding fuel paths (applyConverter embedding converter value params)
      (applyConverter embedding converter value params) engine := by
  cases converter with
  | builtin conversion => exact .pure _ current
  | custom code =>
    refine ⟨?_, fun ending after ran => ?_⟩
    · have same := ignores code value params { engine.converters with paths } engine
      unfold applyConverter withPaths
      rw [same]
      cases ran : run embedding fuel (embedding.convert code value params) engine with
      | none => rfl
      | some ended =>
        have kept := converters_of_run ignores ran
        rw [Option.map_some, Option.map_some, kept]
    · rw [converters_of_run ignores ran]
      exact current

/-- Converting along registered edges mirrors applying the converters along them. -/
theorem mirrors_convertAlong (params : Table String) {converters : Converters κ} {edges : List Edge}
    (all : ∀ edge ∈ edges, edge ∈ converters.registered) : ∀ (value : Value) {engine : Engine κ η},
      engine.converters.Current → engine.converters.edges = converters.edges →
      Mirrors embedding fuel paths (convertAlong embedding params edges value)
        (applyInTurn embedding params (converters.along edges) value) engine := by
  induction edges with
  | nil => exact fun value engine current _ => .pure (Ending.returned value) current
  | cons edge rest ih =>
    intro value engine current same
    obtain ⟨first, others⟩ := List.forall_mem_cons.mp all
    obtain ⟨converter, found⟩ := Converters.exists_at? first
    have here : engine.converters.at? edge = some converter := by
      unfold Converters.at?
      rw [same]
      exact found
    have applied : Mirrors embedding fuel paths
        (do match (← applyConverter embedding converter value params).mapError (hopFault edge) with
          | .returned next => convertAlong embedding params rest next
          | .failed fault => return .failed fault
          | .panicked panic => return .panicked panic)
        (applyInTurn embedding params ((edge, converter) :: converters.along rest) value) engine := by
      refine (mirrors_applyConverter ignores converter value params current).bind fun ending after ran right => ?_
      have kept : after.converters.edges = converters.edges := by rw [converters_of_applyConverter ignores ran, same]
      cases ending with
      | returned next => exact ih others next right kept
      | failed cause => exact .pure (Ending.failed (hopFault edge cause)) right
      | panicked panic => exact .pure (Ending.panicked panic) right
    rw [Converters.along_cons found]
    have opened : run embedding fuel (convertAlong embedding params (edge :: rest) value) engine = _ :=
      run_bind_of_run (run_read (fun engine => engine.converters.at? edge) engine)
    rw [here] at opened
    exact applied.congr opened rfl

/-- Converting mirrors converting without kept paths. -/
theorem mirrors_convert (value : Value) (target : Kind) (params : Table String) {engine : Engine κ η}
    (current : engine.converters.Current) :
    Mirrors embedding fuel paths (convert embedding value target params)
      (convertAfresh embedding value target params) engine := by
  by_cases same : value.kind = target
  · refine (Mirrors.pure (.returned value) current).congr ?_ ?_
    · rw [convert, if_pos same]
    · rw [convertAfresh, run_bind_of_run (run_read _ _), if_pos same]
  · have searching : Mirrors embedding fuel paths
        (do match ← pathBetween (value.kind, target) with
          | none => return .failed (.conversion value.kind.name target.name "no converter path")
          | some path => convertAlong embedding params (hops path) value)
        (do match ← Program.read fun engine => engine.converters.find (value.kind, target) with
          | none => return .failed (.conversion value.kind.name target.name "no converter path")
          | some path => applyInTurn embedding params (engine.converters.along (hops path)) value) engine := by
      refine (mirrors_pathBetween (value.kind, target) current).bind fun found after ran right => ?_
      obtain ⟨kept, looked, -⟩ := run_pathBetween embedding fuel (value.kind, target) current
      rw [looked] at ran
      cases ran
      cases found : engine.converters.find (value.kind, target) with
      | none => exact .pure _ right
      | some path =>
        have shortest := Converters.isShortest_of_find found
        exact mirrors_convertAlong ignores params shortest.leads.along value right rfl
    refine searching.congr ?_ ?_
    · exact congrArg (fun work => run embedding fuel work engine) (if_neg same)
    · rw [convertAfresh, run_bind_of_run (run_read _ _), if_neg same]
      rfl

/-- Carrying out a call mirrors carrying it out without kept paths. -/
theorem mirrors_perform (call : ConverterCall κ) {engine : Engine κ η} (current : engine.converters.Current) :
    Mirrors embedding fuel paths (perform embedding call) (performAfresh embedding call) engine := by
  have changes {work other : Work κ η Unit}
      (changed : Mirrors embedding fuel paths work other engine) :
      Mirrors embedding fuel paths (work >>= fun _ => pure ConverterAnswer.done)
        (other >>= fun _ => pure ConverterAnswer.done) engine :=
    changed.bind fun _ _ _ right => .pure ConverterAnswer.done right
  cases call with
  | register edge converter =>
    refine changes ⟨rfl, fun result after ran => ?_⟩
    cases ran
    exact Converters.current_of_fresh rfl
  | clear =>
    refine changes ⟨rfl, fun result after ran => ?_⟩
    cases ran
    exact Converters.current_of_fresh rfl
  | canConvert source target =>
    exact (mirrors_canConvert source target current).bind fun answer _ _ right =>
      .pure (ConverterAnswer.possible answer) right
  | convert value target params =>
    exact (mirrors_convert ignores value target params current).bind fun ending _ _ right =>
      .pure (ConverterAnswer.converted ending) right

/-- Carrying out calls mirrors carrying them out without kept paths. -/
theorem mirrors_calls (calls : List (ConverterCall κ)) : ∀ {engine : Engine κ η}, engine.converters.Current →
    Mirrors embedding fuel paths (calls.mapM (perform embedding)) (calls.mapM (performAfresh embedding)) engine := by
  induction calls with
  | nil => exact fun current => .pure [] current
  | cons call rest ih =>
    intro engine current
    rw [List.mapM_cons, List.mapM_cons]
    refine (mirrors_perform ignores call current).bind fun answer after _ right => ?_
    exact (ih right).bind fun answers _ _ last => .pure (answer :: answers) last

end Conversions

/-! ## Answers without kept paths -/

/-- The converter makes values of the kind to which its edge leads of those from which it leads. -/
def KeepsKinds (embedding : Embedding κ η) (fuel : Nat) (edge : Edge) (converter : Converter κ) : Prop :=
  ∀ (value : Value) (params : Table String) (engine after : Engine κ η) (result : Value), value.kind = edge.1 →
    run embedding fuel (applyConverter embedding converter value params) engine = some (.returned result, after) →
    result.kind = edge.2

/-- All registered converters do so. -/
def AllKeepKinds (embedding : Embedding κ η) (fuel : Nat) (converters : Converters κ) : Prop :=
  ∀ edge converter, converters.at? edge = some converter → KeepsKinds embedding fuel edge converter

/-- If the answer is that a conversion failed, it failed as a conversion. -/
def FailsAsConversion : ConverterAnswer → Prop
  | .converted (.failed fault) => ∃ (edge : Edge) (text : String), fault = .conversion edge.1.name edge.2.name text
  | _ => True

/-- If the answer is the value that came of a conversion, it is of the kind that was asked for. -/
def OfTargetKind : ConverterCall κ → ConverterAnswer → Prop
  | .convert _ target _, .converted (.returned result) => result.kind = target
  | _, _ => True

/-- Converters that are applied in turn fail with the error of a hop. -/
theorem fault_of_applyInTurn (params : Table String) (chain : List (Edge × Converter κ)) :
    ∀ (value : Value) {engine after : Engine κ η} {fault : Fault},
      run embedding fuel (applyInTurn embedding params chain value) engine = some (.failed fault, after) →
      ∃ link ∈ chain, ∃ cause, fault = hopFault link.1 cause := by
  induction chain with
  | nil =>
    intro value engine after fault ran
    cases ran
  | cons link rest ih =>
    intro value engine after fault ran
    obtain ⟨edge, converter⟩ := link
    rw [applyInTurn] at ran
    obtain ⟨ending, between, -, later⟩ := exists_of_run_bind ran
    cases ending with
    | returned next =>
      obtain ⟨failing, member, cause, same⟩ := ih next later
      exact ⟨failing, List.mem_cons_of_mem _ member, cause, same⟩
    | failed cause =>
      cases later
      exact ⟨(edge, converter), List.mem_cons_self, cause, rfl⟩
    | panicked panic => cases later

/-- A conversion without kept paths fails as a conversion. -/
theorem failsAsConversion_convertAfresh {value : Value} {target : Kind} {params : Table String}
    {engine after : Engine κ η} {ending : Ending Fault Value}
    (ran : run embedding fuel (convertAfresh embedding value target params) engine = some (ending, after)) :
    FailsAsConversion (.converted ending) := by
  cases ending with
  | returned result => trivial
  | panicked panic => trivial
  | failed fault =>
    rw [convertAfresh, run_bind_of_run (run_read _ engine)] at ran
    by_cases same : value.kind = target
    · rw [if_pos same] at ran
      cases ran
    · rw [if_neg same] at ran
      cases found : engine.converters.find (value.kind, target) with
      | none =>
        rw [found] at ran
        cases ran
        exact ⟨(value.kind, target), _, rfl⟩
      | some path =>
        rw [found] at ran
        obtain ⟨link, -, cause, raised⟩ := fault_of_applyInTurn params _ value ran
        exact ⟨link.1, cause.fullMessage, raised⟩

/-- Converters that keep to the kinds of their edges, applied along a path, make a value of its last kind. -/
theorem kind_of_applyInTurn (params : Table String) {converters : Converters κ}
    (typed : AllKeepKinds embedding fuel converters) {target : Kind} {path : List Kind} :
    ∀ (value : Value) {engine after : Engine κ η} {result : Value},
      Leads converters.registered value.kind target path →
      run embedding fuel (applyInTurn embedding params (converters.along (hops path)) value) engine =
        some (.returned result, after) → result.kind = target := by
  induction path with
  | nil =>
    intro value engine after result leads
    have never := leads.starts
    cases never
  | cons first rest ih =>
    intro value engine after result leads ran
    have starts : first = value.kind := Option.some.inj leads.starts
    cases rest with
    | nil =>
      have ends : first = target := Option.some.inj leads.ends
      cases ran
      exact starts.symm.trans ends
    | cons second others =>
      have registered := leads.along (first, second) List.mem_cons_self
      obtain ⟨converter, found⟩ := Converters.exists_at? registered
      rw [hops, Converters.along_cons found, applyInTurn] at ran
      obtain ⟨ending, between, applied, later⟩ := exists_of_run_bind ran
      cases ending with
      | failed cause => cases later
      | panicked panic => cases later
      | returned next =>
        have kind : next.kind = second := typed _ _ found value params engine between next starts.symm applied
        exact ih next (kind.symm ▸ leads.tail) later

/-- A conversion without kept paths that returns makes a value of the kind that was asked for. -/
theorem kind_of_convertAfresh {value result : Value} {target : Kind} {params : Table String}
    {engine after : Engine κ η} (typed : AllKeepKinds embedding fuel engine.converters)
    (ran : run embedding fuel (convertAfresh embedding value target params) engine =
      some (.returned result, after)) : result.kind = target := by
  rw [convertAfresh, run_bind_of_run (run_read _ engine)] at ran
  by_cases same : value.kind = target
  · rw [if_pos same] at ran
    cases ran
    exact same
  · rw [if_neg same] at ran
    cases found : engine.converters.find (value.kind, target) with
    | none =>
      rw [found] at ran
      cases ran
    | some path =>
      rw [found] at ran
      exact kind_of_applyInTurn params typed value (Converters.isShortest_of_find found).leads ran

/-- Answers without kept paths are failures of conversions only. -/
theorem failsAsConversion_performAfresh {call : ConverterCall κ} {engine after : Engine κ η} {answer : ConverterAnswer}
    (ran : run embedding fuel (performAfresh embedding call) engine = some (answer, after)) :
    FailsAsConversion answer := by
  cases call with
  | register edge converter =>
    cases ran
    trivial
  | clear =>
    cases ran
    trivial
  | canConvert source target =>
    obtain ⟨possible, between, -, later⟩ := exists_of_run_bind ran
    cases later
    trivial
  | convert value target params =>
    obtain ⟨ending, between, converted, later⟩ := exists_of_run_bind ran
    cases later
    exact failsAsConversion_convertAfresh converted

/-- So are those of many calls. -/
theorem failsAsConversion_calls (calls : List (ConverterCall κ)) : ∀ {engine after : Engine κ η}
    {answers : List ConverterAnswer},
      run embedding fuel (calls.mapM (performAfresh embedding)) engine = some (answers, after) →
      ∀ answer ∈ answers, FailsAsConversion answer := by
  induction calls with
  | nil =>
    intro engine after answers ran
    cases ran
    exact List.forall_mem_nil _
  | cons call rest ih =>
    intro engine after answers ran
    rw [List.mapM_cons] at ran
    obtain ⟨answer, between, first, later⟩ := exists_of_run_bind ran
    obtain ⟨others, last, more, ends⟩ := exists_of_run_bind later
    cases ends
    exact List.forall_mem_cons.mpr ⟨failsAsConversion_performAfresh first, ih more⟩

section Kinds

variable (ignores : embedding.IgnoresConverters fuel)

include ignores

/-- Converters that are applied in turn leave what is registered as it is. -/
theorem converters_of_applyInTurn (params : Table String) (chain : List (Edge × Converter κ)) :
    ∀ (value : Value) {engine after : Engine κ η} {ending : Ending Fault Value},
      run embedding fuel (applyInTurn embedding params chain value) engine = some (ending, after) →
      after.converters = engine.converters := by
  induction chain with
  | nil =>
    intro value engine after ending ran
    cases ran
    rfl
  | cons link rest ih =>
    intro value engine after ending ran
    obtain ⟨edge, converter⟩ := link
    rw [applyInTurn] at ran
    obtain ⟨applied, between, first, later⟩ := exists_of_run_bind ran
    have kept := converters_of_applyConverter ignores first
    cases applied with
    | returned next => exact (ih next later).trans kept
    | failed cause =>
      cases later
      exact kept
    | panicked panic =>
      cases later
      exact kept

/-- Converting without kept paths leaves what is registered as it is. -/
theorem converters_of_convertAfresh {value : Value} {target : Kind} {params : Table String}
    {engine after : Engine κ η} {ending : Ending Fault Value}
    (ran : run embedding fuel (convertAfresh embedding value target params) engine = some (ending, after)) :
    after.converters = engine.converters := by
  rw [convertAfresh, run_bind_of_run (run_read _ engine)] at ran
  by_cases same : value.kind = target
  · rw [if_pos same] at ran
    cases ran
    rfl
  · rw [if_neg same] at ran
    cases found : engine.converters.find (value.kind, target) with
    | none =>
      rw [found] at ran
      cases ran
      rfl
    | some path =>
      rw [found] at ran
      exact converters_of_applyInTurn ignores params _ value ran

/-- A call without kept paths makes a value of the kind that was asked for, and leaves converters that keep to the kinds
of their edges, if it registers no other. -/
theorem ofTargetKind_performAfresh {call : ConverterCall κ} {engine after : Engine κ η} {answer : ConverterAnswer}
    (typed : AllKeepKinds embedding fuel engine.converters)
    (own : ∀ edge converter, call = .register edge converter → KeepsKinds embedding fuel edge converter)
    (ran : run embedding fuel (performAfresh embedding call) engine = some (answer, after)) :
    OfTargetKind call answer ∧ AllKeepKinds embedding fuel after.converters := by
  cases call with
  | register edge converter =>
    cases ran
    refine ⟨trivial, fun other found registered => ?_⟩
    have looked := Converters.at?_place edge other converter engine.converters
    rw [registered] at looked
    by_cases same : other = edge
    · rw [if_pos same] at looked
      cases looked
      rw [same]
      exact own edge converter rfl
    · rw [if_neg same] at looked
      exact typed other found looked.symm
  | clear =>
    cases ran
    refine ⟨trivial, fun other found registered => ?_⟩
    cases registered
  | canConvert source target =>
    obtain ⟨possible, between, asked, later⟩ := exists_of_run_bind ran
    cases later
    have unchanged : after = engine := by
      unfold canConvertAfresh at asked
      split at asked
      · cases asked
        rfl
      · cases asked
        rfl
    rw [unchanged]
    exact ⟨trivial, typed⟩
  | convert value target params =>
    obtain ⟨ending, between, converted, later⟩ := exists_of_run_bind ran
    cases later
    rw [converters_of_convertAfresh ignores converted]
    cases ending with
    | returned result => exact ⟨kind_of_convertAfresh typed converted, typed⟩
    | failed fault => exact ⟨trivial, typed⟩
    | panicked panic => exact ⟨trivial, typed⟩

/-- So do many calls. -/
theorem ofTargetKind_calls (calls : List (ConverterCall κ))
    (own : ∀ edge converter, .register edge converter ∈ calls → KeepsKinds embedding fuel edge converter) :
    ∀ {engine after : Engine κ η} {answers : List ConverterAnswer},
      AllKeepKinds embedding fuel engine.converters →
      run embedding fuel (calls.mapM (performAfresh embedding)) engine = some (answers, after) →
      List.Forall₂ OfTargetKind calls answers := by
  induction calls with
  | nil =>
    intro engine after answers typed ran
    cases ran
    exact .nil
  | cons call rest ih =>
    intro engine after answers typed ran
    rw [List.mapM_cons] at ran
    obtain ⟨answer, between, first, later⟩ := exists_of_run_bind ran
    obtain ⟨others, last, more, ends⟩ := exists_of_run_bind later
    cases ends
    have registers edge converter (same : call = .register edge converter) : KeepsKinds embedding fuel edge converter :=
      own edge converter (same ▸ List.mem_cons_self)
    obtain ⟨fits, kept⟩ := ofTargetKind_performAfresh ignores typed registers first
    exact .cons fits (ih (fun edge converter member => own edge converter (List.mem_cons_of_mem _ member)) kept more)

end Kinds

/-! ## Calls in a row -/

/-- The calls, made one after the other from the engine on, are answered as they are where no paths are kept: each
conversion searches a path over the converters that are registered then and applies the converters along it. -/
structure AnsweredAfresh (embedding : Embedding κ η) (fuel : Nat) (engine : Engine κ η)
    (calls : List (ConverterCall κ)) : Prop where
  /-- The answers are the same, and the engine is, but for the paths. -/
  same : run embedding fuel (calls.mapM (performAfresh embedding)) engine =
    (run embedding fuel (calls.mapM (perform embedding)) engine).map fun ended => (ended.1, ended.2.withPaths [])
  /-- The path that is searched is a shortest one over registered converters, and each of its hops has one. -/
  found : ∀ (converters : Converters κ) (edge : Edge) (path : List Kind), converters.find edge = some path →
    IsShortest converters.registered edge.1 edge.2 path ∧ (converters.along (hops path)).map Prod.fst = hops path
  /-- Where no path is found, there is none. -/
  missing : ∀ (converters : Converters κ) (edge : Edge), converters.find edge = none ↔
    ∀ path, ¬Leads converters.registered edge.1 edge.2 path
  /-- What fails, fails as a conversion. -/
  fails : ∀ answers after, run embedding fuel (calls.mapM (perform embedding)) engine = some (answers, after) →
    ∀ answer ∈ answers, FailsAsConversion answer
  /-- If all converters keep to the kinds of their edges, what comes of a conversion is of the kind asked for. -/
  kinds : AllKeepKinds embedding fuel engine.converters →
    (∀ edge converter, .register edge converter ∈ calls → KeepsKinds embedding fuel edge converter) →
    ∀ answers after, run embedding fuel (calls.mapM (perform embedding)) engine = some (answers, after) →
      List.Forall₂ OfTargetKind calls answers

/-- Whatever is registered, cleared, asked and converted in whichever order, the answers are those of converters that
keep no paths, if the converters of the embedding program have nothing to do with what is registered. -/
theorem converters_answer_afresh (ignores : embedding.IgnoresConverters fuel) {engine : Engine κ η}
    (fresh : engine.converters.paths = []) (calls : List (ConverterCall κ)) :
    AnsweredAfresh embedding fuel engine calls := by
  have mirrors : Mirrors embedding fuel [] (calls.mapM (perform embedding)) (calls.mapM (performAfresh embedding))
      engine := mirrors_calls ignores calls (Converters.current_of_fresh fresh)
  have whole : engine.withPaths [] = engine := by
    unfold withPaths
    rw [← fresh]
  have same := mirrors.same
  rw [whole] at same
  have ends {answers : List ConverterAnswer} {after : Engine κ η}
      (ran : run embedding fuel (calls.mapM (perform embedding)) engine = some (answers, after)) :
      run embedding fuel (calls.mapM (performAfresh embedding)) engine = some (answers, after.withPaths []) := by
    rw [same, ran]
    rfl
  refine ⟨same, ?_, ?_, ?_, ?_⟩
  · intro converters edge path found
    have shortest := Converters.isShortest_of_find found
    exact ⟨shortest, Converters.map_along shortest.leads.along⟩
  · exact fun converters edge => shortestPath_eq_none_iff
  · exact fun answers after ran => failsAsConversion_calls calls (ends ran)
  · exact fun typed own answers after ran => ofTargetKind_calls ignores calls own typed (ends ran)

/-- One converter makes a text of whatever there is, and the others fail. -/
def spelling : Embedding Nat Unit :=
  { idle with
    convert := fun code _ _ => return if code = 0 then .returned (.string "yes") else .failed (.plain "no number") }

/-- An engine without converters. -/
def bareEngine : Engine Nat Unit := { Engine.standard {} 0 () with converters := .empty }

/-- A way that is asked for before there is one and after it was registered, a conversion whose second hop fails, and
one for which the converters are gone. -/
def callsOverSpelling : List (ConverterCall Nat) :=
  [.canConvert .bool .string, .register (.bool, .string) (.custom 0), .canConvert .bool .string,
    .register (.string, .int) (.custom 1), .convert (.bool true) .int [], .clear, .convert (.bool true) .string []]

/-- A way is found as soon as it is there and no longer than that, although the answer was kept in between. -/
theorem converters_answer_afresh_spelling :
    spelling.IgnoresConverters 1 ∧ bareEngine.converters.paths = [] ∧
    AnsweredAfresh spelling 1 bareEngine callsOverSpelling ∧
    (run spelling 1 (callsOverSpelling.mapM (perform spelling)) bareEngine).map Prod.fst =
      some [.possible false, .done, .possible true, .done,
        .converted (.failed (hopFault (.string, .int) (.plain "no number"))), .done,
        .converted (.failed (.conversion "bool" "string" "no converter path"))] := by
  have ignores : spelling.IgnoresConverters 1 := by
    intro code value params converters engine
    rfl
  exact ⟨ignores, rfl, converters_answer_afresh ignores rfl callsOverSpelling, rfl⟩

end Engine

end MessageRouting
