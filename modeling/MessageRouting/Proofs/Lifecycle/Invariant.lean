import MessageRouting.Engine.Lifecycle

/-!
# What holds of a runtime between calls

The phase, the routes, the active consumers, the table of direct consumers and the registries are kept apart, and each
call changes several of them. What ties them together is stated here: for the endpoints that are kept, for the consumers
that are active, and for the engine as a whole.
-/

namespace MessageRouting

open Time

variable {κ η : Type}

/-- A phase is left for the phases after it only. -/
inductive Phase.Precedes : Phase → Phase → Prop
  /-- The phase lasts. -/
  | refl (phase : Phase) : Precedes phase phase
  /-- It is started. -/
  | start : Precedes .created .started
  /-- It is stopped without having been started. -/
  | abandon : Precedes .created .stopped
  /-- It is stopped. -/
  | stop : Precedes .started .stopped

/-- Phases follow each other over any time. -/
theorem Phase.Precedes.trans {first second third : Phase} (before : first.Precedes second)
    (after : second.Precedes third) : first.Precedes third := by
  cases before <;> cases after <;> constructor

/-! ## Endpoints -/

/-- What an endpoint does fits its URI: with the direct component it goes by the name in the URI and the first table. -/
def EndpointRole.Fits (uri : Uri) : EndpointRole κ → Prop
  | .direct name table => uri.component = "direct" ∧ uri.name = name ∧ table = 0
  | _ => uri.component ≠ "direct"

/-- The endpoint is one for the text. -/
def Endpoint.Fits (text : String) (endpoint : Endpoint κ) : Prop :=
  ∃ uri, Uri.parse text = .ok uri ∧ endpoint.role.Fits uri

namespace Engine

/-- Components are kept under their schemes, the direct one is there, and endpoints are kept under their texts. -/
structure Equipped (engine : Engine κ η) : Prop where
  /-- Components are kept under their schemes. -/
  schemes : ∀ scheme component, engine.components.get? scheme = some component → component.scheme = scheme
  /-- The direct component works with the first table. -/
  direct : engine.components.get? "direct" = some (.direct 0)
  /-- Endpoints are kept under their texts. -/
  endpoints : ∀ text endpoint, engine.endpoints.find? text = some endpoint → endpoint.Fits text

/-- But for identities and what the embedding program keeps, nothing has changed except that there may be more
endpoints. -/
structure OnlyGrew (engine after : Engine κ η) : Prop where
  /-- Nothing else has changed. -/
  same : after = { engine with endpoints := after.endpoints, made := after.made, embedding := after.embedding }
  /-- The endpoints that were there are there. -/
  kept : ∀ text endpoint, engine.endpoints.find? text = some endpoint → after.endpoints.find? text = some endpoint
  /-- The new ones are in order. -/
  equipped : engine.Equipped → after.Equipped

/-- Nothing has changed over no time. -/
theorem OnlyGrew.refl (engine : Engine κ η) : OnlyGrew engine engine := ⟨rfl, fun _ _ found => found, id⟩

/-- The engine afterwards is the one before with other endpoints, identities and state of the embedding program. -/
theorem OnlyGrew.exists_eq {engine after : Engine κ η} (grew : OnlyGrew engine after) :
    ∃ endpoints made embedding, after = { engine with endpoints, made, embedding } :=
  ⟨_, _, _, grew.same⟩

/-- There are more and more endpoints. -/
theorem OnlyGrew.trans {engine middle after : Engine κ η} (first : OnlyGrew engine middle)
    (second : OnlyGrew middle after) : OnlyGrew engine after where
  same := by
    rw [second.same, first.same]
  kept text endpoint found := second.kept text endpoint (first.kept text endpoint found)
  equipped := second.equipped ∘ first.equipped

/-- What does not change components and endpoints leaves them in order. -/
theorem Equipped.congr {engine after : Engine κ η} (equipped : engine.Equipped)
    (components : after.components = engine.components) (endpoints : after.endpoints = engine.endpoints) :
    after.Equipped where
  schemes := components ▸ equipped.schemes
  direct := components ▸ equipped.direct
  endpoints := endpoints ▸ equipped.endpoints

/-- Making things and asking the embedding program adds no endpoints. -/
theorem onlyGrew_of_made (engine : Engine κ η) (made : Nat) (embedding : η) :
    OnlyGrew engine { engine with made, embedding } :=
  ⟨rfl, fun _ _ found => found, fun equipped => equipped.congr rfl rfl⟩

end Engine

/-! ## Consumers -/

/-- The consumer is active and feeds the route from its source. -/
def Consumer.Serves (route : Route κ) (consumer : Consumer κ) : Prop :=
  ∃ uri, Uri.parse route.source = .ok uri ∧
    match consumer with
    | .direct name table processor active =>
      uri.component = "direct" ∧ uri.name = name ∧ table = 0 ∧ processor = route.processor ∧ active = true
    | .timer _ _ context active _ => uri.component ≠ "direct" ∧ context.processor = route.processor ∧ active = true
    | .custom _ => uri.component ≠ "direct"

/-- The active consumer is that of the route. -/
def ActiveConsumer.IsOf (active : ActiveConsumer κ) (route : Route κ) : Prop :=
  active.route = route.name ∧ active.consumer.Serves route

/-- The consumer is the timer of an identity. -/
def Consumer.IsTimer (identity : Identity) : Consumer κ → Prop
  | .timer own _ _ _ _ => own = identity
  | _ => False

namespace Engine

/-- What is in the first table and the timers that run belong to some consumers. -/
structure Covered (consumers : List (ActiveConsumer κ)) (engine : Engine κ η) : Prop where
  /-- There is one table. -/
  single : engine.tables.length = 1
  /-- It is sorted. -/
  sorted : (engine.tableAt 0).Sorted
  /-- Its entries are those of consumers. -/
  entries : ∀ name processor, (engine.tableAt 0).find? name = some processor →
    ∃ active ∈ consumers, active.consumer = .direct name 0 processor true
  /-- Timers are those of consumers. -/
  timers : ∀ timer ∈ engine.timers, ∃ active ∈ consumers, active.consumer.IsTimer timer.identity

/-- Direct consumers are in the first table. -/
def Entered (consumers : List (ActiveConsumer κ)) (engine : Engine κ η) : Prop :=
  ∀ active ∈ consumers, ∀ name processor, active.consumer = .direct name 0 processor true →
    (engine.tableAt 0).find? name = some processor

/-- The engine is as it is between calls. -/
structure Orderly (engine : Engine κ η) : Prop where
  /-- The routes are sorted. -/
  sorted : engine.routes.Sorted
  /-- Each is kept under its name. -/
  named : ∀ name route, engine.routes.find? name = some route → route.name = name
  /-- Routes can be started until the engine is stopped. -/
  equipped : engine.phase ≠ .stopped → engine.Equipped
  /-- There are active consumers only while it is started. -/
  idle : engine.phase ≠ .started → engine.consumers = []
  /-- There are no routes when it was stopped. -/
  emptied : engine.phase = .stopped → engine.routes = []
  /-- While it is started, each route has one active consumer, and there are no others. -/
  served : engine.phase = .started → (engine.consumers.map ActiveConsumer.route).Perm engine.routes.names
  /-- Each active consumer is that of the route whose name it bears. -/
  serving : ∀ active ∈ engine.consumers, ∃ route, engine.routes.find? active.route = some route ∧ active.IsOf route
  /-- Table and timers belong to the active consumers. -/
  covered : engine.Covered engine.consumers
  /-- The active consumers are in the table. -/
  entered : engine.Entered engine.consumers

namespace Covered

variable {engine after : Engine κ η} {consumers others : List (ActiveConsumer κ)}

/-- It holds of more consumers, and as long as table and timers stay. -/
theorem mono (covered : engine.Covered consumers) (more : consumers ⊆ others) (tables : after.tables = engine.tables)
    (timers : after.timers = engine.timers) : after.Covered others where
  single := tables ▸ covered.single
  sorted := by
    rw [tableAt, tables]
    exact covered.sorted
  entries name processor found := by
    rw [tableAt, tables] at found
    obtain ⟨active, member, same⟩ := covered.entries name processor found
    exact ⟨active, more member, same⟩
  timers timer running := by
    rw [timers] at running
    obtain ⟨active, member, own⟩ := covered.timers timer running
    exact ⟨active, more member, own⟩

/-- Without consumers there is nothing in the table. -/
theorem tableAt_eq_nil (covered : engine.Covered []) : engine.tableAt 0 = [] :=
  Table.eq_nil_of_find? fun name processor found => by
    obtain ⟨_, member, -⟩ := covered.entries name processor found
    cases member

/-- Without consumers there is one empty table. -/
theorem tables_eq (covered : engine.Covered []) : engine.tables = [[]] := by
  obtain ⟨table, single⟩ := List.length_eq_one_iff.mp covered.single
  have empty := covered.tableAt_eq_nil
  simp only [tableAt, single, List.getD_cons_zero] at empty
  rw [single, empty]

/-- Without consumers no timer runs. -/
theorem timers_eq_nil (covered : engine.Covered []) : engine.timers = [] :=
  List.eq_nil_iff_forall_not_mem.mpr fun timer running => by
    obtain ⟨_, member, -⟩ := covered.timers timer running
    cases member

/-- The first table can be changed. -/
theorem tableAt_changeTable (covered : engine.Covered consumers) (f : Table (Processor κ) → Table (Processor κ)) :
    (changeTable 0 f engine).tableAt 0 = f (engine.tableAt 0) := by
  obtain ⟨table, single⟩ := List.length_eq_one_iff.mp covered.single
  simp [tableAt, changeTable, single]

end Covered

/-- The engine stays orderly if nothing of what is between calls changes. -/
theorem Orderly.congr {engine after : Engine κ η} (orderly : engine.Orderly) (phase : after.phase = engine.phase)
    (routes : after.routes = engine.routes) (consumers : after.consumers = engine.consumers)
    (tables : after.tables = engine.tables)
    (timers : ∀ timer ∈ after.timers, ∃ other ∈ engine.timers, other.identity = timer.identity)
    (equipped : engine.Equipped → after.Equipped) : after.Orderly where
  sorted := routes ▸ orderly.sorted
  named := routes ▸ orderly.named
  equipped going := equipped (orderly.equipped (phase ▸ going))
  idle unstarted := consumers ▸ orderly.idle (phase ▸ unstarted)
  emptied stopped := routes ▸ orderly.emptied (phase ▸ stopped)
  served started := by
    rw [consumers, routes]
    exact orderly.served (phase ▸ started)
  serving := by
    rw [consumers, routes]
    exact orderly.serving
  covered := by
    rw [consumers]
    refine ⟨tables ▸ orderly.covered.single, ?_, ?_, fun timer running => ?_⟩
    · rw [tableAt, tables]
      exact orderly.covered.sorted
    · rw [tableAt, tables]
      exact orderly.covered.entries
    · obtain ⟨other, before, same⟩ := timers timer running
      exact same ▸ orderly.covered.timers other before
  entered := by
    rw [consumers, Entered, tableAt, tables]
    exact orderly.entered

/-- The engine stays orderly when there are more endpoints. -/
theorem Orderly.grew {engine after : Engine κ η} (orderly : engine.Orderly) (grew : OnlyGrew engine after) :
    after.Orderly := by
  have equipped := grew.equipped
  obtain ⟨_, _, _, rfl⟩ := grew.exists_eq
  exact orderly.congr rfl rfl rfl rfl (fun timer running => ⟨timer, running, rfl⟩) equipped

end Engine

end MessageRouting
