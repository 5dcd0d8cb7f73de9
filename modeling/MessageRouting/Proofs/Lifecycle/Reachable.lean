import MessageRouting.Proofs.Lifecycle.Clients

/-!
# The states that calls lead to

From a new runtime on, clients register routes, start, stop and send in any order, do whatever else clients can, and let
time pass meanwhile. In every state that is reached in this way phase, routes, consumers and the table of direct
consumers agree, and a call that registers or starts and fails has changed none of them.
-/

namespace MessageRouting.Engine

open Pattern Time

variable {κ η α : Type} {embedding : Embedding κ η}
  {answer : Processor κ × Exchange → Engine κ η → Option (Outcome × Engine κ η)}

/-! ## Calls -/

/-- What is done with an engine from outside. -/
inductive Call (embedding : Embedding κ η) : {α : Type} → Work κ η α → Prop
  /-- A route is registered. -/
  | register (definition : Definition κ) : Call embedding (registerRoute embedding definition)
  /-- The runtime is started. -/
  | start : Call embedding (Engine.start embedding)
  /-- The runtime is stopped. -/
  | stop : Call embedding (Engine.stop embedding)
  /-- An exchange is prepared by a client and sent. -/
  | send (uri : String) {prepare : Exchange → Work κ η Exchange} (client : ∀ x, Client embedding (prepare x)) :
    Call embedding (Engine.send embedding uri prepare)
  /-- Time passes, and timers fire. -/
  | pass (limit : Instant) (enough : Engine κ η → Bool) (firings : Nat) :
    Call embedding (passTime limit enough firings : Work κ η Unit)
  /-- A client does something else. -/
  | other {α : Type} {work : Work κ η α} (client : Client embedding work) : Call embedding work

/-- Calls lead from a new runtime to the engine. -/
inductive Reachable (embedding : Embedding κ η) : Engine κ η → Prop
  /-- The runtime is new. -/
  | new (config : Config) (now : Instant) (state : η) : Reachable embedding (.standard config now state)
  /-- A call came to its end. -/
  | call {α : Type} {work : Work κ η α} {engine after : Engine κ η} {fuel : Nat} {result : α}
    (before : Reachable embedding engine) (call : Call embedding work)
    (ran : run embedding fuel work engine = some (result, after)) : Reachable embedding after

/-- Reading is what a client may do. -/
theorem Client.read (f : Engine κ η → α) : Client embedding (Program.read f) :=
  .act (fun engine _ same => by cases same; exact .refl engine) fun _ => .done _

/-- A section that spares what calls keep is what a client may do. -/
theorem Client.atomically {f : Engine κ η → α × Engine κ η} (spares : ∀ engine, Spares engine (f engine).2) :
    Client embedding (Program.atomically f) :=
  .act (fun engine _ same => by cases same; exact spares engine) fun _ => .done _

/-- Identities for an exchange are made without touching what calls keep. -/
theorem spares_scopeFor (scope : Scope) (timeout : Option Duration) (engine : Engine κ η) :
    Spares engine (scopeFor scope timeout engine).2 := by
  cases timeout <;> exact ⟨rfl, rfl, rfl, rfl, rfl, rfl, rfl, .inl rfl⟩

/-- Sending what a client prepares is what a client may do. -/
theorem client_send (uri : String) {prepare : Exchange → Work κ η Exchange}
    (client : ∀ x, Client embedding (prepare x)) : Client embedding (send embedding uri prepare) := by
  refine .produce uri fun found => ?_
  cases found with
  | error fault => exact .done _
  | ok producer =>
    have prepared : Client embedding (newRuntimeExchange : Work κ η Exchange) :=
      .bind (.read _) fun found => .bind (.atomically (spares_scopeFor found.1 found.2)) fun made => .done _
    exact prepared.bind fun x => (client x).bind fun y => .call (producer, y) fun o => .done _

/-! ## Timers -/

/-- The engine proceeds when time passes and each timer that runs has been one before. -/
theorem Settled.passed {engine : Engine κ η} (settled : engine.Settled) (now : Instant)
    {timers : List (RunningTimer κ)}
    (each : ∀ timer ∈ timers, ∃ other ∈ engine.timers, other.identity = timer.identity) :
    Proceeds engine { engine with now, timers } :=
  ⟨⟨settled.orderly.congr rfl rfl rfl rfl each fun equipped => equipped.congr rfl rfl, settled.unlocked⟩, .refl _⟩

/-- Timers that are left have been there before. -/
theorem timers_takeTimer (identity : Identity) (timers : List (RunningTimer κ)) :
    ∀ timer ∈ timers.filter (·.identity != identity), ∃ other ∈ timers, other.identity = timer.identity :=
  fun timer running => ⟨timer, List.mem_of_mem_filter running, rfl⟩

/-- Timers that are changed keep their identities. -/
theorem timers_changeTimer (identity : Identity) {f : RunningTimer κ → RunningTimer κ}
    (same : ∀ timer, (f timer).identity = timer.identity) (timers : List (RunningTimer κ)) :
    ∀ timer ∈ timers.map fun timer => if timer.identity = identity then f timer else timer,
      ∃ other ∈ timers, other.identity = timer.identity := by
  intro timer running
  obtain ⟨other, before, rfl⟩ := List.mem_map.mp running
  refine ⟨other, before, ?_⟩
  split
  · exact (same other).symm
  · rfl

/-- Waking the timer that is due first lets an engine proceed. -/
theorem proceeds_wake (limit : Instant) {engine : Engine κ η} (settled : engine.Settled) :
    Proceeds engine (wake limit engine).2 := by
  unfold wake
  split
  · exact settled.passed _ fun timer running => ⟨timer, running, rfl⟩
  · dsimp only
    split
    · exact settled.passed _ (timers_takeTimer _ _)
    · refine settled.passed _ (timers_changeTimer _ ?_ _)
      exact fun _ => rfl

/-- Letting a timer rest lets an engine proceed. -/
theorem proceeds_rest (timer : RunningTimer κ) (number : Nat) {engine : Engine κ η} (settled : engine.Settled) :
    Proceeds engine (rest timer number engine) := by
  unfold rest
  split
  · exact settled.passed engine.now (timers_takeTimer _ _)
  · refine settled.passed engine.now (timers_changeTimer _ ?_ _)
    exact fun _ => rfl

/-- Firing an exchange keeps an engine in order. -/
theorem keeps_fire (tasks : TasksKeep answer) (timer : RunningTimer κ) (number : Nat) :
    Keeps answer (fun _ => True) (fire timer number : Work κ η Unit) := by
  have made : Keeps answer (fun _ => True)
      (newExchange timer.context.scope timer.context.exchangeTimeout : Work κ η Exchange) :=
    .bind (.atomically fun engine settled => settled.spared (spares_scopeFor _ _ engine)) fun _ _ => .pure trivial
  refine made.bind fun fresh _ => .bind (.read fun _ => trivial) fun now (_ : True) => ?_
  refine .bind (.bind (keeps_ask tasks _) fun _ (_ : True) => .pure trivial) fun _ (_ : True) => ?_
  exact .change fun _ settled => proceeds_rest timer number settled

/-- Letting time pass keeps an engine in order. -/
theorem keeps_passTime (tasks : TasksKeep answer) (limit : Instant) (enough : Engine κ η → Bool) (firings : Nat) :
    Keeps answer (fun _ => True) (passTime limit enough firings : Work κ η Unit) := by
  induction firings with
  | zero => exact .pure trivial
  | succ firings later =>
    refine .bind (.read fun _ => trivial) fun done (_ : True) => ?_
    split
    · exact .pure trivial
    · refine .bind (.atomically fun _ => proceeds_wake limit) fun woken (_ : True) => ?_
      split
      · exact .pure trivial
      · exact later
      · exact (keeps_fire tasks _ _).bind fun _ _ => later

/-- What is done with an engine from outside lets it proceed. -/
theorem Call.keeps (tasks : TasksKeep answer) {work : Work κ η α}
    (call : Call embedding work) : Keeps answer (fun _ => True) work := by
  cases call with
  | register definition => exact keeps_registerRoute definition
  | start => exact keeps_start
  | stop => exact keeps_stop
  | send uri client => exact (client_send uri client).keeps tasks
  | pass limit enough firings => exact keeps_passTime tasks limit enough firings
  | other client => exact client.keeps tasks

/-! ## Reachable states -/

/-- A new runtime is settled. -/
theorem settled_standard (config : Config) (now : Instant) (state : η) :
    (Engine.standard config now state : Engine κ η).Settled where
  unlocked := rfl
  orderly := {
    sorted := Table.sorted_nil
    named := fun _ _ found => nomatch found
    equipped := fun _ => {
      schemes := fun scheme component found => by
        simp only [standard, Registry.get?, Table.find?] at found
        split at found
        · cases found
          assumption
        · split at found
          · cases found
            assumption
          · cases found
      direct := rfl
      endpoints := fun _ _ found => nomatch found }
    idle := fun _ => rfl
    emptied := fun _ => rfl
    served := fun started => nomatch started
    serving := nofun
    covered := ⟨rfl, Table.sorted_nil, fun _ _ found => (nomatch found), nofun⟩
    entered := nofun }

/-- Every state that is reached is settled. -/
theorem settled_of_reachable (client : embedding.IsClient) {engine : Engine κ η}
    (reachable : Reachable embedding engine) : engine.Settled := by
  induction reachable with
  | new config now state => exact settled_standard config now state
  | @call _ _ engine _ fuel result _ call ran settled =>
    exact (call.keeps (tasksKeep client fuel) engine settled result _ ran).1.settled

end MessageRouting.Engine

namespace MessageRouting

/-- The route consumes from the direct endpoint of a name. -/
def Route.ConsumesDirect {κ : Type} (route : Route κ) (name : String) : Prop :=
  ∃ uri, Uri.parse route.source = .ok uri ∧ uri.component = "direct" ∧ uri.name = name

namespace Engine

variable {κ η α : Type} {embedding : Embedding κ η}

/-- Phase, routes, consumers and the table of the direct component agree. -/
structure Coherent (engine : Engine κ η) : Prop where
  /-- The names of routes are unique. -/
  unique : engine.routes.names.Nodup
  /-- Each route is kept under its name. -/
  named : ∀ entry ∈ engine.routes, entry.2.name = entry.1
  /-- Until it is stopped the direct component works with the first table. -/
  component : engine.phase ≠ .stopped → engine.components.get? "direct" = some (.direct 0)
  /-- Unless it is started there are no active consumers, and the table of the direct component is empty. -/
  idle : engine.phase ≠ .started → engine.consumers = [] ∧ engine.tableAt 0 = []
  /-- While it is started each route has exactly one active consumer, and no consumer lacks a route. -/
  served : engine.phase = .started → (engine.consumers.map ActiveConsumer.route).Perm engine.routes.names
  /-- Each active consumer is that of the route of its name. -/
  serving : ∀ active ∈ engine.consumers, ∃ route, engine.routes.find? active.route = some route ∧ active.IsOf route
  /-- While it is started the table has the names of the direct routes, each with the processor of its route. -/
  direct : engine.phase = .started → ∀ name processor, (engine.tableAt 0).find? name = some processor ↔
    ∃ entry ∈ engine.routes, entry.2.ConsumesDirect name ∧ entry.2.processor = processor
  /-- When it was stopped there are no routes. -/
  emptied : engine.phase = .stopped → engine.routes = []

/-- A consumer that serves a route from the direct endpoint of a name is the direct one of that name. -/
theorem eq_direct_of_serves {route : Route κ} {consumer : Consumer κ} (serves : consumer.Serves route) {name : String}
    (direct : route.ConsumesDirect name) : consumer = .direct name 0 route.processor true := by
  obtain ⟨uri, parsed, scheme, named⟩ := direct
  obtain ⟨_, same, kind⟩ := serves
  cases parsed.symm.trans same
  cases consumer with
  | direct own table processor active =>
    obtain ⟨-, rfl, rfl, rfl, rfl⟩ := kind
    rw [named]
  | timer identity settings context active stopped => exact absurd scheme kind.1
  | custom code => exact absurd scheme kind

/-- An engine that is orderly is coherent. -/
theorem coherent_of_orderly {engine : Engine κ η} (orderly : engine.Orderly) : engine.Coherent where
  unique := orderly.sorted.nodup
  named entry member := orderly.named entry.1 entry.2 (Table.find?_of_mem orderly.sorted member)
  component going := (orderly.equipped going).direct
  idle unstarted := by
    have none := orderly.idle unstarted
    have covered := orderly.covered
    rw [none] at covered
    exact ⟨none, covered.tableAt_eq_nil⟩
  served := orderly.served
  serving := orderly.serving
  direct started name processor := by
    constructor
    · intro found
      obtain ⟨active, member, same⟩ := orderly.covered.entries name processor found
      obtain ⟨route, kept, -, uri, parsed, serves⟩ := orderly.serving active member
      rw [same] at serves
      obtain ⟨scheme, named, -, rfl, -⟩ := serves
      exact ⟨(active.route, route), Table.mem_of_find? kept, ⟨uri, parsed, scheme, named⟩, rfl⟩
    · rintro ⟨⟨key, route⟩, member, direct, rfl⟩
      have served : key ∈ engine.consumers.map ActiveConsumer.route :=
        (orderly.served started).symm.subset (List.mem_map_of_mem member)
      obtain ⟨active, belongs, rfl⟩ := List.mem_map.mp served
      obtain ⟨other, kept, -, serves⟩ := orderly.serving active belongs
      cases (Table.find?_of_mem orderly.sorted member).symm.trans kept
      exact orderly.entered active belongs name route.processor (eq_direct_of_serves serves direct)
  emptied := orderly.emptied

/-- All calls but stopping are refused and change nothing, and stopping does nothing. -/
structure RefusesAll (embedding : Embedding κ η) (engine : Engine κ η) : Prop where
  /-- No route can be registered. -/
  register : ∀ fuel definition, run embedding fuel (registerRoute embedding definition) engine =
    some (.error (.lifecycle "cannot register routes on a stopped runtime"), engine)
  /-- It cannot be started. -/
  start : ∀ fuel, run embedding fuel (start embedding) engine =
    some (.error (.lifecycle "a stopped runtime cannot be started again"), engine)
  /-- Nothing can be sent. -/
  send : ∀ fuel uri prepare, run embedding fuel (send embedding uri prepare) engine =
    some (.error (.lifecycle "runtime is stopped"), engine)
  /-- Stopping succeeds. -/
  stop : ∀ fuel, run embedding fuel (stop embedding) engine = some (.ok (), engine)

/-- A settled engine that was stopped refuses all calls. -/
theorem refusesAll_of_settled {engine : Engine κ η} (settled : engine.Settled) (stopped : engine.phase = .stopped) :
    RefusesAll embedding engine where
  register fuel definition := by
    obtain ⟨_, _, ran, -, late⟩ := arrives_registerRoute embedding definition settled.orderly settled.unlocked
    obtain ⟨rfl, rfl⟩ := late stopped
    exact ran
  start fuel := by
    obtain ⟨_, _, ran, -, late⟩ := arrives_start embedding settled.orderly settled.unlocked
    obtain ⟨rfl, rfl⟩ := late stopped
    exact ran
  send fuel uri prepare := by
    obtain ⟨_, _, ran, -, late⟩ := arrives_sharing_producerShared embedding uri settled.unlocked
    obtain ⟨rfl, rfl⟩ := late stopped
    rw [run, Program.runWithin, Engine.send, Program.runWith_bind, ran]
    rfl
  stop fuel := by
    obtain ⟨_, _, ran, -, -, -, late⟩ := arrives_stop embedding settled.orderly settled.unlocked
    obtain ⟨rfl, rfl⟩ := late stopped
    exact ran

/-- In every state that calls lead to, phase, routes, consumers and the table of the direct component agree; every call
leaves the phase or moves it on, from new to started or from either to stopped; and in the last phase all calls but
stopping are refused. -/
theorem lifecycle_of_reachable (client : embedding.IsClient) {engine : Engine κ η}
    (reachable : Reachable embedding engine) :
    engine.Coherent ∧
      (∀ {α : Type} {work : Work κ η α} (_ : Call embedding work) (fuel : Nat) (result : α) (after : Engine κ η),
        run embedding fuel work engine = some (result, after) → engine.phase.Precedes after.phase) ∧
      (engine.phase = .stopped → RefusesAll embedding engine) := by
  have settled := settled_of_reachable client reachable
  refine ⟨coherent_of_orderly settled.orderly, fun call fuel result after ran => ?_, refusesAll_of_settled settled⟩
  exact (call.keeps (tasksKeep client fuel) engine settled result after ran).1.phase

/-- Code that does nothing is that of a client. -/
theorem isClient_idle : idle.IsClient where
  evaluate _ _ := .done _
  function _ _ := .done _
  process _ _ := .done _
  hook _ _ _ _ := .done _
  aggregate _ _ _ := .done _
  convert _ _ _ := .done _
  marshal _ _ := .done _
  unmarshal _ _ _ := .done _

/-- A route is registered and started, and whoever prepares an exchange for it registers another one meanwhile. -/
def growing : Work Nat Unit Unit := do
  let _ ← registerRoute idle ⟨"first", "direct:first", []⟩
  let _ ← start idle
  let _ ← send idle "direct:first" fun x => do
    let _ ← registerRoute idle ⟨"second", "direct:second", []⟩
    return x
  return ()

/-- A client does so. -/
theorem client_growing : Client idle growing :=
  .register _ fun _ => .start fun _ => (client_send _ fun _ => .register _ fun _ => .done _).bind fun _ => .done _

/-- Both routes have their consumers in the end. -/
theorem lifecycle_of_reachable_growing : idle.IsClient ∧ ∃ engine, Reachable idle engine ∧
    engine.phase = .started ∧ engine.routes.names = ["first", "second"] ∧
      (engine.tableAt 0).names = ["first", "second"] ∧ engine.Coherent := by
  have ran : ((run idle 9 growing (.standard {} 0 ())).map fun ended =>
      (ended.2.phase, ended.2.routes.names, (ended.2.tableAt 0).names)) =
        some (.started, ["first", "second"], ["first", "second"]) := by decide +kernel
  obtain ⟨⟨_, engine⟩, ended, same⟩ := Option.map_eq_some_iff.mp ran
  simp only [Prod.mk.injEq] at same
  have reachable : Reachable idle engine := .call (.new {} 0 ()) (.other client_growing) ended
  obtain ⟨coherent, -, -⟩ := lifecycle_of_reachable isClient_idle reachable
  exact ⟨isClient_idle, engine, reachable, same.1, same.2.1, same.2.2, coherent⟩

/-- In every state that calls lead to, registering a route and starting come to an end, and if they fail, only endpoints
have been added. -/
theorem failure_of_reachable (client : embedding.IsClient) {engine : Engine κ η}
    (reachable : Reachable embedding engine) (fuel : Nat) :
    (∀ definition, ∃ given after, run embedding fuel (registerRoute embedding definition) engine = some (given, after) ∧
      ∀ fault, given = .error fault → OnlyGrew engine after) ∧
    ∃ given after, run embedding fuel (start embedding) engine = some (given, after) ∧
      ∀ fault, given = .error fault → OnlyGrew engine after := by
  obtain ⟨orderly, unlocked⟩ := settled_of_reachable client reachable
  refine ⟨fun definition => ?_, ?_⟩
  · obtain ⟨given, after, ran, answered, -⟩ := arrives_registerRoute embedding definition orderly unlocked
    exact ⟨given, after, ran, answered.failed⟩
  · obtain ⟨given, after, ran, answered, -⟩ := arrives_start embedding orderly unlocked
    exact ⟨given, after, ran, answered.failed⟩

/-- Two routes are registered that consume from one direct name under different URIs. -/
def clashing : Work Nat Unit Unit := do
  let _ ← registerRoute idle ⟨"first", "direct:shared", []⟩
  let _ ← registerRoute idle ⟨"second", "direct:/shared", []⟩
  return ()

/-- The fault is that a direct consumer is there already. -/
def isDuplicate : Except Fault Unit → Bool
  | .error (.duplicateRegistration "direct consumer" "shared") => true
  | _ => false

/-- Starting them fails at the second one, and nothing is left of the first. -/
theorem failure_of_reachable_clashing : idle.IsClient ∧ ∃ engine, Reachable idle engine ∧
    engine.routes.names = ["first", "second"] ∧
      ∃ given after, run idle 9 (start idle) engine = some (given, after) ∧ isDuplicate given = true ∧
        OnlyGrew engine after := by
  have ran : ((run idle 9 clashing (.standard {} 0 ())).map fun ended => (ended.2.routes.names,
      (run idle 9 (start idle) ended.2).map fun again => isDuplicate again.1)) =
        some (["first", "second"], some true) := by decide +kernel
  obtain ⟨⟨_, engine⟩, ended, same⟩ := Option.map_eq_some_iff.mp ran
  obtain ⟨names, fails⟩ := Prod.mk.inj same
  have reachable : Reachable idle engine :=
    .call (.new {} 0 ()) (.other (.register _ fun _ => .register _ fun _ => .done _)) ended
  obtain ⟨-, given, after, again, kept⟩ := failure_of_reachable isClient_idle reachable 9
  rw [again] at fails
  have duplicate : isDuplicate given = true := Option.some.inj fails
  refine ⟨isClient_idle, engine, reachable, names, given, after, again, duplicate, ?_⟩
  cases given with
  | error fault => exact kept fault rfl
  | ok done => cases duplicate

end Engine

end MessageRouting
