import MessageRouting.Proofs.Lifecycle.Invariant
import MessageRouting.Proofs.Program.Arriving
import MessageRouting.Proofs.Route.Shape
import Mathlib.Data.List.Forall2

/-!
# Starting and stopping consumers

Each consumer is for an endpoint that its route asks for. Starting one sets it going or changes nothing that counts, and
stopping it leaves nothing of it behind; so some routes are all started, or else no consumer of theirs is left.
-/

namespace MessageRouting.Engine

variable {κ η : Type} {answer : Processor κ × Exchange → Engine κ η → Option (Outcome × Engine κ η)}
  (embedding : Embedding κ η)

/-! ## Endpoints -/

variable {embedding} in
/-- What an endpoint of the component under a scheme does fits the URI. -/
theorem fits_of_roleFor {engine : Engine κ η} (equipped : engine.Equipped) {uri : Uri} {component : Component κ}
    (known : engine.components.get? uri.component = some component) {state : η} {role : EndpointRole κ}
    (found : (roleFor embedding component uri state).1 = .ok role) : role.Fits uri := by
  have scheme := equipped.schemes _ _ known
  cases component with
  | direct table =>
    have direct : uri.component = "direct" := scheme.symm
    have first := equipped.direct
    rw [← direct, known] at first
    cases first
    simp only [roleFor] at found
    split at found
    · cases found
    · cases found
      exact ⟨direct, rfl, rfl⟩
  | timer period =>
    obtain ⟨_, -, rfl⟩ := exists_of_map_eq_ok found
    intro direct
    change "timer" = uri.component at scheme
    rw [direct] at scheme
    exact absurd scheme (by decide)
  | custom own code =>
    obtain ⟨_, -, rfl⟩ := exists_of_map_eq_ok found
    intro direct
    have first := equipped.direct
    rw [← direct, known] at first
    cases first

/-- An endpoint is added for a text that had none. -/
theorem onlyGrew_insert {engine : Engine κ η} {text : String} (missing : engine.endpoints.find? text = none)
    {endpoint : Endpoint κ} (fits : engine.Equipped → endpoint.Fits text) (made : Nat) (state : η) :
    OnlyGrew engine
      { engine with endpoints := engine.endpoints.insert text endpoint, made := made, embedding := state } where
  same := rfl
  kept other found there := by
    rw [Table.find?_insert, if_neg, there]
    rintro rfl
    cases missing.symm.trans there
  equipped equipped := by
    refine ⟨equipped.schemes, equipped.direct, fun other found there => ?_⟩
    rw [Table.find?_insert] at there
    split at there
    · rename_i same
      cases there
      exact same ▸ fits equipped
    · exact equipped.endpoints other found there

/-- Making an endpoint for a text adds it at most. -/
theorem onlyGrew_makeKept {engine : Engine κ η} {text : String} {uri : Uri} (parsed : Uri.parse text = .ok uri)
    {component : Component κ} (known : engine.components.get? uri.component = some component) :
    OnlyGrew engine (makeKept embedding text component uri engine).2 ∧
      (engine.Equipped → ∀ endpoint, (makeKept embedding text component uri engine).1 = .ok endpoint →
        endpoint.Fits text) := by
  unfold makeKept
  split
  · rename_i endpoint found
    refine ⟨.refl engine, fun equipped other same => ?_⟩
    cases same
    exact equipped.endpoints text endpoint found
  · rename_i missing
    simp only [makeEndpoint]
    cases shaped : roleFor embedding component uri engine.embedding with
    | mk role state =>
      cases role with
      | error fault => exact ⟨onlyGrew_of_made engine _ _, fun _ _ same => nomatch same⟩
      | ok role =>
        have fits (equipped : engine.Equipped) : Endpoint.Fits text ⟨engine.nextIdentity, uri, role⟩ :=
          ⟨uri, parsed, fits_of_roleFor equipped known (congrArg Prod.fst shaped)⟩
        refine ⟨onlyGrew_insert missing fits _ _, fun equipped endpoint same => ?_⟩
        cases same
        exact fits equipped

/-- Looking for an endpoint adds it at most, and finds one for the text. -/
theorem arrives_resolve (text : String) (engine : Engine κ η) :
    (resolve embedding text).Arrives answer engine fun found after => OnlyGrew engine after ∧
      (engine.Equipped → ∀ endpoint, found = .ok endpoint → endpoint.Fits text) := by
  simp only [resolve, Program.arrives_bind, Program.arrives_read]
  cases found : engine.endpoints.find? text with
  | some endpoint =>
    refine Program.arrives_pure.mpr ⟨.refl engine, fun equipped other same => ?_⟩
    cases same
    exact equipped.endpoints text endpoint found
  | none =>
    cases parsed : Uri.parse text with
    | error fault => exact Program.arrives_pure.mpr ⟨.refl engine, by rintro _ _ ⟨⟩⟩
    | ok uri =>
      simp only [componentOf, Program.arrives_bind, Program.arrives_read]
      cases known : engine.components.get? uri.component with
      | none => exact Program.arrives_pure.mpr ⟨.refl engine, by rintro _ _ ⟨⟩⟩
      | some component => exact Program.arrives_atomically.mpr (onlyGrew_makeKept embedding parsed known)

/-! ## Consumers -/

/-- Asking the embedding program changes what it keeps. -/
theorem arrives_request (code : κ) (wanted : ComponentRequest κ) (engine : Engine κ η) :
    (request embedding code wanted).Arrives answer engine fun _ after =>
      ∃ state, after = { engine with embedding := state } := by
  rw [request, Program.arrives_atomically]
  exact ⟨_, rfl⟩

/-- The consumer is one for an endpoint that was not started yet. -/
def NotStarted (role : EndpointRole κ) (context : ConsumerContext κ) (consumer : Consumer κ) : Prop :=
  match role with
  | .direct name table => consumer = .direct name table context.processor false
  | .timer settings => ∃ identity, consumer = .timer identity settings context false false
  | .custom _ => ∃ code, consumer = .custom code

/-- Making a consumer changes nothing that counts. -/
theorem arrives_makeConsumer (endpoint : Endpoint κ) (context : ConsumerContext κ) (engine : Engine κ η) :
    (makeConsumer embedding endpoint context).Arrives answer engine fun made after =>
      OnlyGrew engine after ∧ ∀ consumer, made = .ok consumer → NotStarted endpoint.role context consumer := by
  obtain ⟨_, uri, role⟩ := endpoint
  cases role with
  | direct name table =>
    refine Program.arrives_pure.mpr ⟨.refl engine, fun consumer same => ?_⟩
    cases same
    rfl
  | timer settings =>
    simp only [makeConsumer, newIdentity, Program.arrives_bind, Program.arrives_atomically, Program.arrives_pure]
    refine ⟨onlyGrew_of_made engine _ _, fun consumer same => ?_⟩
    cases same
    exact ⟨_, rfl⟩
  | custom code =>
    simp only [makeConsumer, Program.arrives_bind, Program.arrives_pure]
    refine (arrives_request embedding code _ engine).mono ?_
    rintro named after ⟨state, changed⟩
    rw [changed]
    refine ⟨onlyGrew_of_made engine _ _, fun consumer same => ?_⟩
    obtain ⟨made, -, rfl⟩ := exists_of_map_eq_ok same
    exact ⟨made, rfl⟩

/-- Making a producer changes nothing that counts. -/
theorem arrives_makeProducer (endpoint : Endpoint κ) (engine : Engine κ η) :
    (makeProducer embedding endpoint).Arrives answer engine fun _ after => OnlyGrew engine after := by
  obtain ⟨_, uri, role⟩ := endpoint
  cases role with
  | direct name table => exact Program.arrives_pure.mpr (.refl engine)
  | timer settings => exact Program.arrives_pure.mpr (.refl engine)
  | custom code =>
    simp only [makeProducer, Program.arrives_bind, Program.arrives_pure]
    refine (arrives_request embedding code _ engine).mono ?_
    rintro named after ⟨state, changed⟩
    rw [changed]
    exact onlyGrew_of_made engine _ _

/-- The consumer was started: a direct one is in the first table under a name that was free, a timer runs. -/
def Begun (engine after : Engine κ η) : Consumer κ → Prop
  | .direct name _ processor _ =>
    (engine.tableAt 0).find? name = none ∧ after = changeTable 0 (·.insert name processor) engine
  | .timer identity settings context _ _ => after = setGoing identity settings context engine
  | .custom _ => ∃ state, after = { engine with embedding := state }

/-- Starting a consumer sets it going, or else changes nothing that counts. -/
theorem arrives_startConsumer {route : Route κ} {uri : Uri} (parsed : Uri.parse route.source = .ok uri)
    {role : EndpointRole κ} (fits : role.Fits uri) {context : ConsumerContext κ}
    (own : context.processor = route.processor) {consumer : Consumer κ} (fresh : NotStarted role context consumer)
    (engine : Engine κ η) :
    (startConsumer embedding consumer).Arrives answer engine fun started after =>
      match started with
      | .error _ => OnlyGrew engine after
      | .ok running => running.Serves route ∧ Begun engine after running := by
  cases role with
  | direct name table =>
    obtain ⟨direct, named, rfl⟩ := fits
    cases fresh
    simp only [startConsumer, Program.arrives_bind, Program.arrives_atomically, enter]
    cases taken : (engine.tableAt 0).has name with
    | true => exact Program.arrives_pure.mpr (.refl engine)
    | false =>
      exact Program.arrives_pure.mpr
        ⟨⟨uri, parsed, direct, named, rfl, own, rfl⟩, Table.has_eq_false_iff.mp taken, rfl⟩
  | timer settings =>
    obtain ⟨identity, rfl⟩ := fresh
    exact Program.arrives_bind.mpr (Program.arrives_change.mpr
      (Program.arrives_pure.mpr ⟨⟨uri, parsed, fits, own, rfl⟩, rfl⟩))
  | custom code =>
    obtain ⟨code, rfl⟩ := fresh
    simp only [startConsumer, Program.arrives_bind, Program.arrives_pure]
    refine (arrives_request embedding code _ engine).mono ?_
    rintro named after ⟨state, changed⟩
    cases named with
    | error fault => exact changed ▸ onlyGrew_of_made engine _ _
    | ok code => exact ⟨⟨uri, parsed, fits⟩, state, changed⟩

/-- Starting a route adds its consumer, or else an endpoint at most. -/
theorem arrives_startRoute (route : Route κ) {engine : Engine κ η} (equipped : engine.Equipped) :
    (startRoute embedding route).Arrives answer engine fun started after =>
      match started with
      | .error _ => OnlyGrew engine after
      | .ok active => active.IsOf route ∧ ∃ middle, OnlyGrew engine middle ∧ Begun middle after active.consumer := by
  simp only [startRoute, Program.arrives_bind]
  refine (arrives_resolve embedding route.source engine).mono ?_
  rintro found resolved ⟨grew, fits⟩
  cases found with
  | error fault => exact Program.arrives_pure.mpr grew
  | ok endpoint =>
    obtain ⟨uri, parsed, role⟩ := fits equipped endpoint rfl
    simp only [Program.arrives_bind, Program.arrives_read]
    refine (arrives_makeConsumer embedding endpoint _ resolved).mono ?_
    rintro made middle ⟨more, fresh⟩
    cases made with
    | error fault => exact Program.arrives_pure.mpr (grew.trans more)
    | ok consumer =>
      simp only [Program.arrives_bind, Program.arrives_pure]
      have fresh := fresh consumer rfl
      refine (arrives_startConsumer embedding parsed role rfl fresh middle).mono fun started after ended => ?_
      cases started with
      | error fault => exact (grew.trans more).trans ended
      | ok running => exact ⟨⟨rfl, ended.1⟩, middle, grew.trans more, ended.2⟩

/-! ## Tables and timers -/

section Covering

variable {engine after : Engine κ η} {consumers others : List (ActiveConsumer κ)} {route name : String}

/-- A change of another table leaves the first one alone. -/
theorem tableAt_changeTable_of_ne {table : Nat} (other : table ≠ 0) (f : Table (Processor κ) → Table (Processor κ))
    (start : Engine κ η) : (changeTable table f start).tableAt 0 = start.tableAt 0 := by
  simp [tableAt, changeTable, List.getD_eq_getElem?_getD, other]

/-- A direct consumer that is put into its table belongs to those that are covered. -/
theorem Covered.enter {table : Nat} {processor : Processor κ} (covered : engine.Covered consumers) :
    (changeTable table (·.insert name processor) engine).Covered
      (⟨route, .direct name table processor true⟩ :: consumers) := by
  have more : engine.Covered (⟨route, .direct name table processor true⟩ :: consumers) :=
    covered.mono (List.subset_cons_self _ _) rfl rfl
  have single : (changeTable table (·.insert name processor) engine).tables.length = 1 :=
    (List.length_modify _ _ _).trans covered.single
  by_cases first : table = 0
  · subst first
    have table := covered.tableAt_changeTable (·.insert name processor)
    refine ⟨single, table ▸ Table.sorted_insert covered.sorted, fun other entry found => ?_, more.timers⟩
    rw [table, Table.find?_insert] at found
    split at found
    · rename_i same
      cases found
      exact ⟨_, List.mem_cons_self, same ▸ rfl⟩
    · exact more.entries other entry found
  · have kept := tableAt_changeTable_of_ne first (·.insert name processor) engine
    exact ⟨single, kept ▸ covered.sorted, kept ▸ more.entries, more.timers⟩

/-- A timer that is set going belongs to those that are covered. -/
theorem Covered.setGoing {identity : Identity} {settings : TimerSettings} {context : ConsumerContext κ}
    {running stopped : Bool} (covered : engine.Covered consumers) :
    (setGoing identity settings context engine).Covered
      (⟨route, .timer identity settings context running stopped⟩ :: consumers) := by
  have more : engine.Covered (⟨route, .timer identity settings context running stopped⟩ :: consumers) :=
    covered.mono (List.subset_cons_self _ _) rfl rfl
  refine ⟨covered.single, covered.sorted, more.entries, fun timer member => ?_⟩
  rcases List.mem_append.mp member with member | new
  · exact more.timers timer member
  · cases List.mem_singleton.mp new
    exact ⟨_, List.mem_cons_self, rfl⟩

/-- Table and timers are those of the others if nothing of a consumer is left. -/
theorem Covered.leave {active : ActiveConsumer κ}
    (covered : engine.Covered (active :: others)) (single : after.tables.length = 1) (sorted : (after.tableAt 0).Sorted)
    (entries : ∀ name processor, (after.tableAt 0).find? name = some processor →
      (engine.tableAt 0).find? name = some processor ∧ active.consumer ≠ .direct name 0 processor true)
    (timers : ∀ timer ∈ after.timers, timer ∈ engine.timers ∧ ¬ active.consumer.IsTimer timer.identity) :
    after.Covered others where
  single := single
  sorted := sorted
  entries name processor found := by
    obtain ⟨before, left⟩ := entries name processor found
    obtain ⟨active, member, same⟩ := covered.entries name processor before
    rcases List.mem_cons.mp member with rfl | member
    · exact absurd same left
    · exact ⟨active, member, same⟩
  timers timer running := by
    obtain ⟨before, left⟩ := timers timer running
    obtain ⟨active, member, own⟩ := covered.timers timer before
    rcases List.mem_cons.mp member with rfl | member
    · exact absurd own left
    · exact ⟨active, member, own⟩

/-- Without the entry of a direct consumer the table is that of the others. -/
theorem Covered.erase {table : Nat} {processor : Processor κ}
    (covered : engine.Covered (⟨route, .direct name table processor true⟩ :: others)) :
    (changeTable table (·.erase name) engine).Covered others := by
  have single : (changeTable table (·.erase name) engine).tables.length = 1 :=
    (List.length_modify _ _ _).trans covered.single
  by_cases first : table = 0
  · subst first
    have erased := covered.tableAt_changeTable (·.erase name)
    refine covered.leave single (erased ▸ Table.sorted_erase covered.sorted) (fun other entry found => ?_)
      fun timer running => ⟨running, id⟩
    rw [erased] at found
    have different : other ≠ name := by
      rintro rfl
      cases (Table.find?_erase_self covered.sorted).symm.trans found
    refine ⟨(Table.find?_erase_of_ne different _).symm.trans found, fun same => ?_⟩
    cases same
    exact different rfl
  · have kept := tableAt_changeTable_of_ne first (·.erase name) engine
    refine covered.leave single (kept ▸ covered.sorted) (fun other entry found => ⟨kept ▸ found, fun same => ?_⟩)
      fun timer running => ⟨running, id⟩
    cases same
    exact first rfl

/-- Without a timer those that run are those of the others. -/
theorem Covered.takeTimer {identity : Identity} {settings : TimerSettings} {context : ConsumerContext κ}
    {running stopped : Bool}
    (covered : engine.Covered (⟨route, .timer identity settings context running stopped⟩ :: others)) :
    (takeTimer identity engine).Covered others := by
  refine covered.leave covered.single covered.sorted (fun name processor found => ⟨found, by rintro ⟨⟩⟩) ?_
  intro timer running
  obtain ⟨member, different⟩ := List.mem_filter.mp running
  exact ⟨member, fun own => absurd own.symm (by simpa using different)⟩

/-- A consumer that was not started, or that is one of the embedding program, has nothing in table and timers. -/
theorem Covered.without {active : ActiveConsumer κ} (covered : engine.Covered (active :: others))
    (direct : ∀ name processor, active.consumer ≠ .direct name 0 processor true)
    (timer : ∀ identity, ¬active.consumer.IsTimer identity) : engine.Covered others :=
  covered.leave covered.single covered.sorted (fun name processor found => ⟨found, direct name processor⟩)
    fun running member => ⟨member, timer running.identity⟩

end Covering

/-! ## Starting some routes -/

/-- Consumers were started since an engine that ran none, and nothing else has changed that counts. -/
structure Underway (before : Engine κ η) (started : List (ActiveConsumer κ)) (engine : Engine κ η) : Prop where
  /-- Beside endpoints, only table and timers have changed. -/
  same : engine = { before with
    endpoints := engine.endpoints, made := engine.made, embedding := engine.embedding
    tables := engine.tables, timers := engine.timers }
  /-- The endpoints that were there are there. -/
  kept : ∀ text endpoint, before.endpoints.find? text = some endpoint → engine.endpoints.find? text = some endpoint
  /-- More routes can be started. -/
  equipped : engine.Equipped
  /-- Table and timers belong to the consumers. -/
  covered : engine.Covered started
  /-- The consumers are in the table. -/
  entered : engine.Entered started

namespace Underway

variable {embedding} {before engine after : Engine κ η} {started others : List (ActiveConsumer κ)}

/-- The engine is the one before but for endpoints, table and timers. -/
theorem exists_eq (underway : Underway before started engine) : ∃ endpoints made state tables timers,
    engine = { before with
      endpoints := endpoints, made := made, embedding := state, tables := tables, timers := timers } :=
  ⟨_, _, _, _, _, underway.same⟩

/-- It does not matter in which order the consumers are listed. -/
theorem congr (underway : Underway before started engine) (all : ∀ active, active ∈ started ↔ active ∈ others) :
    Underway before others engine where
  same := underway.same
  kept := underway.kept
  equipped := underway.equipped
  covered := underway.covered.mono (fun active => (all active).mp) rfl rfl
  entered active member := underway.entered active ((all active).mpr member)

/-- More endpoints do not matter. -/
theorem grew (underway : Underway before started engine) (grew : OnlyGrew engine after) :
    Underway before started after where
  same := by
    rw [grew.same, underway.same]
  kept text endpoint found := grew.kept text endpoint (underway.kept text endpoint found)
  equipped := grew.equipped underway.equipped
  covered := by
    obtain ⟨_, _, _, rfl⟩ := grew.exists_eq
    exact underway.covered.mono (List.Subset.refl _) rfl rfl
  entered := by
    obtain ⟨_, _, _, rfl⟩ := grew.exists_eq
    exact underway.entered

/-- One more consumer is started. -/
theorem begun (underway : Underway before started engine) {active : ActiveConsumer κ} {route : Route κ}
    (own : active.IsOf route) (begun : Begun engine after active.consumer) :
    Underway before (active :: started) after := by
  obtain ⟨-, uri, -, serves⟩ := own
  obtain ⟨name, consumer⟩ := active
  cases consumer with
  | direct name table processor running =>
    obtain ⟨-, -, rfl, -, rfl⟩ := serves
    obtain ⟨free, rfl⟩ := begun
    have table := underway.covered.tableAt_changeTable (·.insert name processor)
    refine ⟨?_, underway.kept, underway.equipped.congr rfl rfl, underway.covered.enter, ?_⟩
    · exact congrArg (changeTable 0 (·.insert name processor)) underway.same
    · intro active member other entry same
      rw [table, Table.find?_insert]
      rcases List.mem_cons.mp member with rfl | member
      · cases same
        exact if_pos rfl
      · have there := underway.entered active member other entry same
        -- The name was free, so no other consumer goes by it.
        rw [if_neg, there]
        rintro rfl
        cases free.symm.trans there
  | timer identity settings context running stopped =>
    cases begun
    refine ⟨?_, underway.kept, underway.equipped.congr rfl rfl, underway.covered.setGoing, ?_⟩
    · obtain ⟨_, _, _, _, _, rfl⟩ := underway.exists_eq
      rfl
    · exact List.forall_mem_cons.mpr ⟨fun _ _ same => (nomatch same), underway.entered⟩
  | custom code =>
    obtain ⟨state, rfl⟩ := begun
    refine ⟨congrArg (fun engine => { engine with embedding := state }) underway.same, underway.kept,
      underway.equipped.congr rfl rfl, underway.covered.mono (List.subset_cons_self _ _) rfl rfl, ?_⟩
    exact List.forall_mem_cons.mpr ⟨fun _ _ same => (nomatch same), underway.entered⟩

end Underway

variable {before : Engine κ η}

/-- A consumer that is stopped leaves table and timers to the others. -/
theorem arrives_stopConsumer {engine : Engine κ η} {active : ActiveConsumer κ} {others : List (ActiveConsumer κ)}
    (covered : engine.Covered (active :: others)) :
    (stopConsumer embedding active.consumer).Arrives answer engine fun _ after =>
      (∃ tables timers state, after = { engine with tables := tables, timers := timers, embedding := state }) ∧
        after.Covered others := by
  obtain ⟨route, consumer⟩ := active
  cases consumer with
  | direct name table processor running =>
    cases running with
    | true =>
      simp only [stopConsumer, if_true, Program.arrives_bind, Program.arrives_change, Program.arrives_pure]
      exact ⟨⟨_, _, _, rfl⟩, covered.erase⟩
    | false =>
      exact Program.arrives_pure.mpr ⟨⟨_, _, _, rfl⟩, covered.without (by rintro _ _ ⟨⟩) fun _ => id⟩
  | timer identity settings context running stopped =>
    simp only [stopConsumer, Program.arrives_bind, Program.arrives_change, Program.arrives_pure]
    exact ⟨⟨_, _, _, rfl⟩, covered.takeTimer⟩
  | custom code =>
    simp only [stopConsumer, Program.arrives_bind]
    refine (arrives_request embedding code .stop engine).mono ?_
    rintro named after ⟨state, changed⟩
    cases changed
    have rest : ({ engine with embedding := state } : Engine κ η).Covered others :=
      (covered.without (by rintro _ _ ⟨⟩) fun _ => id).mono (List.Subset.refl _) rfl rfl
    cases named <;> exact Program.arrives_pure.mpr ⟨⟨_, _, _, rfl⟩, rest⟩

/-- Consumers that are stopped leave nothing behind. -/
theorem arrives_stopAll {consumers : List (ActiveConsumer κ)} {engine : Engine κ η}
    (covered : engine.Covered consumers) :
    (stopAll embedding consumers).Arrives answer engine fun _ after =>
      (∃ tables timers state, after = { engine with tables := tables, timers := timers, embedding := state }) ∧
        after.Covered [] := by
  induction consumers generalizing engine with
  | nil => exact Program.arrives_pure.mpr ⟨⟨_, _, _, rfl⟩, covered⟩
  | cons active others later =>
    simp only [stopAll, Program.arrives_bind]
    refine (arrives_stopConsumer embedding covered).mono ?_
    rintro _ middle ⟨⟨_, _, _, rfl⟩, rest⟩
    refine (later rest).mono ?_
    rintro _ after ⟨⟨_, _, _, rfl⟩, nothing⟩
    exact Program.arrives_pure.mpr ⟨⟨_, _, _, rfl⟩, nothing⟩

/-- When nothing of the consumers is left, all is as it was before them, but for endpoints. -/
theorem Underway.undone {before engine : Engine κ η} {started : List (ActiveConsumer κ)} (quiet : before.Covered [])
    (underway : Underway before started engine) {tables : List (Table (Processor κ))} {timers : List (RunningTimer κ)}
    {state : η} (nothing : ({ engine with tables, timers, embedding := state } : Engine κ η).Covered []) :
    OnlyGrew before { engine with tables, timers, embedding := state } := by
  obtain rfl : tables = before.tables := nothing.tables_eq.trans quiet.tables_eq.symm
  obtain rfl : timers = before.timers := nothing.timers_eq_nil.trans quiet.timers_eq_nil.symm
  refine ⟨?_, underway.kept, fun _ => underway.equipped.congr rfl rfl⟩
  obtain ⟨_, _, _, _, _, rfl⟩ := underway.exists_eq
  rfl

/-- Starting some routes adds their consumers in order; if one fails, nothing is left of those before it. -/
theorem arrives_startAll {before : Engine κ η} (quiet : before.Covered []) {routes : List (Route κ)}
    {started : List (ActiveConsumer κ)} {engine : Engine κ η} (underway : Underway before started engine) :
    (startAll embedding started routes).Arrives answer engine fun all after =>
      match all with
      | .error _ => OnlyGrew before after
      | .ok all => Underway before all after ∧ ∃ more, all = started.reverse ++ more ∧
        List.Forall₂ ActiveConsumer.IsOf more routes := by
  -- What was started so far is underway since the first engine, to which a failure leads back.
  induction routes generalizing started engine with
  | nil =>
    refine Program.arrives_pure.mpr ⟨underway.congr fun _ => List.mem_reverse.symm, [], ?_, .nil⟩
    exact (List.append_nil _).symm
  | cons route rest later =>
    simp only [startAll, Program.arrives_bind]
    refine (arrives_startRoute embedding route underway.equipped).mono fun begun middle ended => ?_
    cases begun with
    | error fault =>
      have reached := underway.grew ended
      simp only [Program.arrives_bind]
      refine (arrives_stopAll embedding reached.covered).mono ?_
      rintro _ after ⟨⟨_, _, _, rfl⟩, nothing⟩
      exact Program.arrives_pure.mpr (reached.undone quiet nothing)
    | ok active =>
      obtain ⟨own, between, grew, begun⟩ := ended
      refine (later ((underway.grew grew).begun own begun)).mono fun all after ended => ?_
      cases all with
      | error fault => exact ended
      | ok all =>
        obtain ⟨underway, more, same, each⟩ := ended
        exact ⟨underway, active :: more, by simp [same], .cons own each⟩

end MessageRouting.Engine
