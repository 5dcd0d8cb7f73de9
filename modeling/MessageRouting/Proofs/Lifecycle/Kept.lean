import MessageRouting.Proofs.Engine.Sections
import MessageRouting.Proofs.Lifecycle.Reachable

/-!
# What is kept for later

Endpoints are kept by the texts they were made for, and every step keeps the producer that it made on its first use.
Nobody ever changes an entry of either: calls add endpoints for their texts at most, and of the producers only a step
adds one, its own. So whatever is kept stays what would be made for the text again, until the runtime is stopped.
-/

namespace MessageRouting

/-- A phase that leads to one before the last is before the last. -/
theorem Phase.Precedes.going {first second : Phase} (precedes : first.Precedes second) (going : second ≠ .stopped) :
    first ≠ .stopped := by
  rintro rfl
  cases precedes
  exact going rfl

namespace Engine

open Pattern Time

variable {κ η α β : Type} {embedding : Embedding κ η}
  {answer : Processor κ × Exchange → Engine κ η → Option (Outcome × Engine κ η)}

/-- Each endpoint is kept by a text that says its URI. -/
def Addressed (engine : Engine κ η) : Prop :=
  ∀ text endpoint, engine.endpoints.find? text = some endpoint → Uri.parse text = .ok endpoint.uri

/-- With a direct URI, the producer hands over under the name in it and by the first table. -/
def Directs (text : String) (producer : Processor κ) : Prop :=
  ∀ uri, Uri.parse text = .ok uri → uri.component = "direct" → producer = .direct uri.raw uri.name 0

/-- What is kept is for the texts that it is kept by. -/
structure Wired (engine : Engine κ η) : Prop where
  /-- Endpoints are. -/
  endpoints : engine.Addressed
  /-- Producers are, until the runtime is stopped. -/
  producers : engine.phase ≠ .stopped → ∀ keptAs text producer,
    ((keptAs, text), producer) ∈ engine.producers → Directs text producer

/-! ## Sections of calls -/

/-- Steps keep the producers that they kept, and endpoints are kept by their texts if they were before. -/
structure Retains (engine after : Engine κ η) : Prop where
  /-- Producers are the same. -/
  producers : after.producers = engine.producers
  /-- Endpoints are kept by their texts. -/
  endpoints : engine.Addressed → after.Addressed

/-- What touches neither endpoints nor producers retains them. -/
theorem Retains.of_same {engine after : Engine κ η} (endpoints : after.endpoints = engine.endpoints)
    (producers : after.producers = engine.producers) : Retains engine after :=
  ⟨producers, fun addressed => by rwa [Addressed, endpoints]⟩

/-- What is kept is retained over time. -/
theorem overTime_retains : OverTime (Retains : Engine κ η → Engine κ η → Prop) where
  refl _ := .of_same rfl rfl
  trans first second := ⟨second.producers.trans first.producers, second.endpoints ∘ first.endpoints⟩

/-- An engine stays wired when what it keeps is retained and its phase goes on at most. -/
theorem Wired.retained {engine after : Engine κ η} (wired : engine.Wired) (retains : Retains engine after)
    (phase : engine.phase.Precedes after.phase) : after.Wired where
  endpoints := retains.endpoints wired.endpoints
  producers going := by
    rw [retains.producers]
    exact wired.producers (phase.going going)

section Sections

variable (embedding)

/-- Reading retains everything. -/
theorem retains_read (f : Engine κ η → α) : (Program.read f : Work κ η α).Sections Retains :=
  .read overTime_retains f

/-- Making the endpoint for a text retains what is kept. -/
theorem retains_makeKept {text : String} {uri : Uri} (parsed : Uri.parse text = .ok uri) (component : Component κ)
    (engine : Engine κ η) : Retains engine (makeKept embedding text component uri engine).2 := by
  unfold makeKept
  split
  · exact overTime_retains.refl engine
  · simp only [makeEndpoint]
    cases (roleFor embedding component uri engine.embedding).1 with
    | error fault => exact .of_same rfl rfl
    | ok role =>
      refine ⟨rfl, fun addressed other endpoint found => ?_⟩
      simp only [Except.map, Table.find?_insert] at found
      by_cases same : other = text
      · rw [if_pos same] at found
        cases found
        rw [same]
        exact parsed
      · rw [if_neg same] at found
        exact addressed other endpoint found

/-- Looking for an endpoint retains what is kept. -/
theorem retains_resolve (text : String) : (resolve embedding text).Sections Retains :=
  sections_resolve overTime_retains fun _ => retains_makeKept embedding

/-- Asking the embedding program retains what is kept. -/
theorem retains_request (code : κ) (wanted : ComponentRequest κ) : (request embedding code wanted).Sections Retains :=
  .atomically fun _ => .of_same rfl rfl

/-- Making a producer retains what is kept. -/
theorem retains_makeProducer (endpoint : Endpoint κ) : (makeProducer embedding endpoint).Sections Retains := by
  unfold makeProducer
  split
  · trivial
  · trivial
  · exact (retains_request embedding _ _).bind fun _ => trivial

/-- Making a consumer retains what is kept. -/
theorem retains_makeConsumer (endpoint : Endpoint κ) (context : ConsumerContext κ) :
    (makeConsumer embedding endpoint context).Sections Retains :=
  sections_makeConsumer (.atomically fun _ => .of_same rfl rfl) (retains_request embedding) endpoint context

/-- Starting a consumer retains what is kept. -/
theorem retains_startConsumer (consumer : Consumer κ) : (startConsumer embedding consumer).Sections Retains := by
  cases consumer with
  | direct name table processor active =>
    have entering (engine : Engine κ η) : Retains engine (enter table name processor engine).2 := by
      unfold enter
      split <;> exact .of_same rfl rfl
    refine (Program.Sections.atomically entering).bind fun given => ?_
    cases given <;> trivial
  | timer identity settings context active stopped =>
    simp only [startConsumer]
    split
    · trivial
    · split
      · trivial
      · exact (Program.Sections.change fun _ => .of_same rfl rfl).bind fun _ => trivial
  | custom code => exact (retains_request embedding _ _).bind fun _ => trivial

/-- Stopping a consumer retains what is kept. -/
theorem retains_stopConsumer (consumer : Consumer κ) : (stopConsumer embedding consumer).Sections Retains := by
  cases consumer with
  | direct name table processor active =>
    cases active with
    | true => exact (Program.Sections.change fun _ => .of_same rfl rfl).bind fun _ => trivial
    | false => trivial
  | timer identity settings context active stopped =>
    exact (Program.Sections.change fun _ => .of_same rfl rfl).bind fun _ => trivial
  | custom code =>
    refine (retains_request embedding _ _).bind fun given => ?_
    cases given <;> trivial

/-- Starting a route retains what is kept. -/
theorem retains_startRoute (route : Route κ) : (startRoute embedding route).Sections Retains := by
  refine (retains_resolve embedding route.source).bind fun found => ?_
  cases found with
  | error fault => trivial
  | ok endpoint =>
    refine (retains_read _).bind fun context => ?_
    refine (retains_makeConsumer embedding endpoint context).bind fun made => ?_
    cases made with
    | error fault => trivial
    | ok consumer => exact (retains_startConsumer embedding consumer).bind fun _ => trivial

/-- Stopping some consumers retains what is kept. -/
theorem retains_stopAll (consumers : List (ActiveConsumer κ)) : (stopAll embedding consumers).Sections Retains := by
  induction consumers with
  | nil => trivial
  | cons active rest later =>
    exact (retains_stopConsumer embedding active.consumer).bind fun _ => later.bind fun _ => trivial

/-- Starting some routes retains what is kept, also when it is taken back. -/
theorem retains_startAll (started : List (ActiveConsumer κ)) (routes : List (Route κ)) :
    (startAll embedding started routes).Sections Retains := by
  induction routes generalizing started with
  | nil => trivial
  | cons route rest later =>
    refine (retains_startRoute embedding route).bind fun given => ?_
    cases given with
    | error fault => exact (retains_stopAll embedding started).bind fun _ => trivial
    | ok active => exact later (active :: started)

/-! ## Calls -/

omit embedding in
/-- Work between taking a lock and giving it back retains what is kept, if it does so inside. -/
theorem retains_locked {free : Engine κ η → Bool} {take give : Engine κ η → Locks} {work : Work κ η α}
    (inside : work.Sections Retains) :
    Program.Sections Retains (do
      Program.tryAtomically
        (fun engine => if free engine then none else some ((), { engine with locks := take engine })) ()
      let result ← work
      Program.change fun engine => { engine with locks := give engine }
      return result : Work κ η α) := by
  refine .bind (.tryAtomically fun engine result after took => ?_) fun _ => inside.bind fun _ => ?_
  · split at took
    · cases took
    · cases took
      exact .of_same rfl rfl
  · exact .bind (.change fun _ => .of_same rfl rfl) fun _ => trivial

omit embedding in
/-- Work that shares the lock of the phase retains what is kept, if it does so inside. -/
theorem retains_sharing {work : Work κ η α} (inside : work.Sections Retains) : (sharing work).Sections Retains :=
  retains_locked inside

omit embedding in
/-- Work that holds the lock of the phase retains what is kept, if it does so inside. -/
theorem retains_holding {work : Work κ η α} (inside : work.Sections Retains) : (holding work).Sections Retains :=
  retains_locked inside

omit embedding in
/-- Work that holds the lock of the routes retains what is kept, if it does so inside. -/
theorem retains_holdingRoutes {work : Work κ η α} (inside : work.Sections Retains) :
    (holdingRoutes work).Sections Retains :=
  retains_locked inside

/-- Keeping a compiled route retains what is kept. -/
theorem retains_enrol (route : Route κ) : (enrol embedding route).Sections Retains := by
  refine (retains_read _).bind fun taken => ?_
  split
  · trivial
  · refine (retains_read _).bind fun phase => ?_
    split
    · refine (retains_startRoute embedding route).bind fun given => ?_
      cases given with
      | error fault => trivial
      | ok active =>
        refine .bind (.change fun _ => .of_same rfl rfl) fun _ => ?_
        exact .bind (.change fun _ => .of_same rfl rfl) fun _ => trivial
    · exact .bind (.change fun _ => .of_same rfl rfl) fun _ => trivial

/-- Registering a route retains what is kept. -/
theorem retains_registerRoute (definition : Definition κ) :
    (registerRoute embedding definition).Sections Retains := by
  refine retains_sharing ((retains_read _).bind fun phase => ?_)
  split
  · trivial
  · refine (retains_read _).bind fun taken => ?_
    split
    · trivial
    · refine (Program.Sections.atomically fun _ => .of_same rfl rfl).bind fun compiled => ?_
      cases compiled with
      | error fault => trivial
      | ok route => exact retains_holdingRoutes (retains_enrol embedding route)

/-- Starting a runtime retains what is kept. -/
theorem retains_start : (start embedding).Sections Retains := by
  refine retains_holding ((retains_read _).bind fun phase => ?_)
  split
  · trivial
  · trivial
  · refine (retains_read _).bind fun routes => (retains_startAll embedding [] routes).bind fun given => ?_
    cases given with
    | error fault => trivial
    | ok started =>
      refine .bind (.change fun _ => .of_same rfl rfl) fun _ => ?_
      exact .bind (.change fun _ => .of_same rfl rfl) fun _ => trivial

omit embedding in
/-- Emptying the registries retains the producers of steps, and leaves no endpoint. -/
theorem retains_clearAll : (clearAll : Work κ η Unit).Sections Retains := by
  have emptied : (holdingRoutes (Program.change fun engine => { engine with routes := [] }) : Work κ η Unit).Sections
      Retains := retains_holdingRoutes (.change fun _ => .of_same rfl rfl)
  refine emptied.bind fun _ => ?_
  refine .bind (.change fun _ => .of_same rfl rfl) fun _ => .bind (.change fun _ => .of_same rfl rfl) fun _ => ?_
  have converters : (clearConverters : Work κ η Unit).Sections Retains :=
    .bind (.change fun _ => .of_same rfl rfl) fun _ => .change fun _ => .of_same rfl rfl
  refine .bind (.change fun _ => .of_same rfl rfl) fun _ => converters.bind fun _ => ?_
  refine .change fun _ => ⟨rfl, fun _ text endpoint found => ?_⟩
  cases found

/-- Stopping a runtime retains the producers of steps, and endpoints are kept by their texts as long as they are. -/
theorem retains_stop : (stop embedding).Sections Retains := by
  have retiring : (retireHolding : Work κ η (Option (List (ActiveConsumer κ)))).Sections Retains := by
    refine (retains_read _).bind fun phase => ?_
    split
    · trivial
    · exact .bind (.atomically fun _ => .of_same rfl rfl) fun _ => trivial
  refine (retains_holding retiring).bind fun handed => ?_
  cases handed with
  | none => trivial
  | some consumers =>
    exact (retains_stopAll embedding consumers.reverse).bind fun _ => retains_clearAll.bind fun _ => trivial

/-- Looking for a producer under the lock of the phase retains what is kept. -/
theorem retains_producerShared (uri : String) : (sharing (producerShared embedding uri)).Sections Retains := by
  refine retains_sharing ((retains_read _).bind fun phase => ?_)
  split
  · trivial
  · refine (retains_resolve embedding uri).bind fun found => ?_
    cases found with
    | error fault => trivial
    | ok endpoint => exact retains_makeProducer embedding endpoint

end Sections

/-! ## The producer of a step -/

/-- When endpoints are added at most, the phase stays. -/
theorem OnlyGrew.phase_eq {engine after : Engine κ η} (grew : OnlyGrew engine after) : after.phase = engine.phase := by
  obtain ⟨_, _, _, rfl⟩ := grew.exists_eq
  rfl

/-- Where a program arrives without any answer, it has retained what its sections retain. -/
theorem arrives_retains {work : Work κ η α} (sections : work.Sections Retains) {engine : Engine κ η}
    {expected : α → Engine κ η → Prop} (arrives : work.Arrives (fun _ _ => none) engine expected) :
    work.Arrives answer engine fun result after => expected result after ∧ Retains engine after := by
  obtain ⟨result, after, ran, holds⟩ := arrives
  exact ⟨result, after, Program.runWith_of_unanswered ran, holds, sections.relates overTime_retains ran⟩

/-- Looking for an endpoint finds one whose URI the text says. -/
theorem arrives_resolve_addressed (text : String) {engine : Engine κ η} (addressed : engine.Addressed) :
    (resolve embedding text).Arrives answer engine fun found _ =>
      ∀ endpoint, found = .ok endpoint → Uri.parse text = .ok endpoint.uri := by
  simp only [resolve, Program.arrives_bind, Program.arrives_read]
  cases found : engine.endpoints.find? text with
  | some endpoint =>
    refine Program.arrives_pure.mpr fun other same => ?_
    cases same
    exact addressed text endpoint found
  | none =>
    cases parsed : Uri.parse text with
    | error fault => exact Program.arrives_pure.mpr (by rintro _ ⟨⟩)
    | ok uri =>
      simp only [componentOf, Program.arrives_bind, Program.arrives_read]
      cases engine.components.get? uri.component with
      | none => exact Program.arrives_pure.mpr (by rintro _ ⟨⟩)
      | some component =>
        refine Program.arrives_atomically.mpr fun endpoint made => ?_
        simp only [makeKept, found, makeEndpoint] at made
        cases given : (roleFor embedding component uri engine.embedding).1 with
        | error fault => simp [given, Except.map] at made
        | ok role =>
          simp only [given, Except.map] at made
          cases made
          rfl

/-- A producer that is made of an endpoint for a text hands over as the text says. -/
theorem arrives_makeProducer_directs {text : String} {endpoint : Endpoint κ}
    (own : Uri.parse text = .ok endpoint.uri) (engine : Engine κ η) :
    (makeProducer embedding endpoint).Arrives answer engine fun made _ =>
      endpoint.Fits text → ∀ producer, made = .ok producer → Directs text producer := by
  obtain ⟨identity, given, role⟩ := endpoint
  cases role with
  | direct name table =>
    refine Program.arrives_pure.mpr ?_
    rintro ⟨fitting, spelled, -, rfl, rfl⟩ producer same uri parsed -
    cases same
    obtain rfl : given = uri := Except.ok.inj (own.symm.trans parsed)
    obtain rfl : given = fitting := Except.ok.inj (own.symm.trans spelled)
    rfl
  | timer settings =>
    refine Program.arrives_pure.mpr ?_
    rintro - producer ⟨⟩
  | custom code =>
    simp only [makeProducer, Program.arrives_bind, Program.arrives_pure]
    refine (arrives_request embedding code _ engine).mono ?_
    rintro answered after - ⟨fitting, spelled, other⟩ producer - uri parsed direct
    cases spelled.symm.trans parsed
    exact absurd direct other

/-- An engine stays wired when a step keeps a producer that hands over as its text says. -/
theorem Wired.keepProducer {engine : Engine κ η} (wired : engine.Wired) {text : String} {producer : Processor κ}
    (directs : engine.phase ≠ .stopped → Directs text producer) (keptAs : Identity) :
    (keepProducer keptAs text producer engine).Wired where
  endpoints := wired.endpoints
  producers going other found kept member := by
    rcases List.mem_cons.mp member with new | member
    · cases new
      exact directs going
    · exact wired.producers going other found kept member

/-- Finding the producer of a step leaves an engine wired. -/
theorem arrives_producerFor_wired (keptAs : Identity) (text : String) {engine : Engine κ η}
    (equipped : engine.phase ≠ .stopped → engine.Equipped) (wired : engine.Wired) :
    (producerFor embedding keptAs text).Arrives answer engine fun _ after => after.Wired := by
  simp only [producerFor, Program.arrives_bind, Program.arrives_read]
  cases engine.producers.lookup (keptAs, text) with
  | some producer => exact Program.arrives_pure.mpr wired
  | none =>
    simp only [Program.arrives_bind]
    refine ((arrives_retains (retains_resolve embedding text) (arrives_resolve embedding text engine)).and
      (arrives_resolve_addressed text wired.endpoints)).mono ?_
    rintro found middle ⟨⟨⟨grew, fits⟩, retains⟩, own⟩
    have phase : middle.phase = engine.phase := grew.phase_eq
    have wired : middle.Wired := wired.retained retains (phase ▸ .refl _)
    cases found with
    | error fault => exact Program.arrives_pure.mpr wired
    | ok endpoint =>
      have fits (going : middle.phase ≠ .stopped) : endpoint.Fits text := fits (equipped (phase ▸ going)) endpoint rfl
      simp only [Program.arrives_bind]
      refine ((arrives_retains (retains_makeProducer embedding endpoint)
        (arrives_makeProducer embedding endpoint middle)).and
          (arrives_makeProducer_directs (own endpoint rfl) middle)).mono ?_
      rintro producer after ⟨⟨grew, retains⟩, directs⟩
      have same : after.phase = middle.phase := grew.phase_eq
      have wired : after.Wired := wired.retained retains (same ▸ .refl _)
      cases producer with
      | error fault => exact Program.arrives_pure.mpr wired
      | ok producer =>
        simp only [Program.arrives_bind, Program.arrives_change, Program.arrives_pure]
        exact wired.keepProducer (fun going => directs (fits (same ▸ going)) producer rfl) keptAs

/-! ## Staying wired -/

/-- Wherever a program arrives from a settled engine that is wired, the engine is wired. -/
def StaysWired (answer : Processor κ × Exchange → Engine κ η → Option (Outcome × Engine κ η)) (program : Work κ η α) :
    Prop :=
  ∀ engine, engine.Settled → engine.Wired → ∀ result after, program.runWith answer engine = some (result, after) →
    after.Wired

/-- An end leaves an engine wired. -/
theorem StaysWired.pure (result : α) : StaysWired answer (Pure.pure result : Work κ η α) := by
  intro engine settled wired result after ran
  cases ran
  exact wired

/-- What goes on with a program leaves an engine wired, too. -/
theorem StaysWired.bind {good : α → Prop} {program : Work κ η α} {next : α → Work κ η β}
    (keeps : Keeps answer good program) (first : StaysWired answer program)
    (later : ∀ result, good result → StaysWired answer (next result)) : StaysWired answer (program >>= next) := by
  intro engine settled wired result after ran
  rw [Program.runWith_bind] at ran
  obtain ⟨⟨middle, between⟩, before, ran⟩ := Option.bind_eq_some_iff.mp ran
  obtain ⟨proceeds, holds⟩ := keeps engine settled middle between before
  exact later middle holds between proceeds.settled (first engine settled wired middle between before) result after ran

/-- Keeping an engine in order and wired as a relation that goes along with patterns; it leaves the second program
out. -/
def wiring (answer : Processor κ × Exchange → Engine κ η → Option (Outcome × Engine κ η)) :
    Simulation (Working κ η) where
  relates good program _ := Keeps answer good program ∧ StaysWired answer program
  pure good := ⟨.pure good, .pure _⟩
  bind first later :=
    ⟨first.1.bind fun result holds => (later result holds).1,
      first.2.bind first.1 fun result holds => (later result holds).2⟩

/-- A program that needs no answers and whose sections retain what is kept leaves an engine wired. -/
theorem StaysWired.of_retains {good : α → Prop} {program : Work κ η α} (keeps : Keeps answer good program)
    (sections : program.Sections Retains)
    (arrives : ∀ engine, engine.Settled → program.Arrives (fun _ _ => none) engine fun _ _ => True) :
    StaysWired answer program := by
  intro engine settled wired result after ran
  have retains := ((arrives_retains sections (arrives engine settled)).of_run ran).2
  exact wired.retained retains (keeps engine settled result after ran).1.phase

/-- A change that keeps an engine in order and retains what is kept leaves it wired. -/
theorem wires_change {f : Engine κ η → Engine κ η} (keeps : Keeps answer (fun _ => True) (Program.change f))
    (retains : ∀ engine, Retains engine (f engine)) :
    (wiring answer).Self (fun _ => True) (Program.change f : Work κ η Unit) :=
  ⟨keeps, .of_retains keeps (.change retains) fun _ _ => Program.arrives_change.mpr trivial⟩

/-- A section that keeps an engine in order and retains what is kept leaves it wired. -/
theorem wires_atomically {f : Engine κ η → α × Engine κ η} (keeps : Keeps answer (fun _ => True) (Program.atomically f))
    (retains : ∀ engine, Retains engine (f engine).2) :
    (wiring answer).Self (fun _ => True) (Program.atomically f : Work κ η α) :=
  ⟨keeps, .of_retains keeps (.atomically retains) fun _ _ => Program.arrives_atomically.mpr trivial⟩

/-- Reading leaves an engine wired. -/
theorem wires_read {good : α → Prop} {f : Engine κ η → α} (holds : ∀ engine, good (f engine)) :
    (wiring answer).Self good (Program.read f) :=
  ⟨.read holds, .of_retains (.read holds) (retains_read f) fun _ _ => Program.arrives_read.mpr trivial⟩

/-- Whatever is read leaves an engine wired. -/
theorem reads_wiring : Reads (wiring answer) fun _ : Engine κ η => True :=
  fun _ holds => wires_read fun engine => holds engine trivial

/-- Tasks leave an engine wired. -/
def TasksStayWired (answer : Processor κ × Exchange → Engine κ η → Option (Outcome × Engine κ η)) : Prop :=
  ∀ task engine, engine.Settled → engine.Wired → ∀ o after, answer task engine = some (o, after) → after.Wired

/-- Handing an exchange over leaves an engine wired. -/
theorem wires_ask (tasks : TasksKeep answer) (wired : TasksStayWired answer) (task : Processor κ × Exchange) :
    (wiring answer).Self (fun _ => True) (Program.ask task : Work κ η Outcome) := by
  refine ⟨keeps_ask tasks task, fun engine settled before o after ran => ?_⟩
  rw [Program.runWith_ask] at ran
  exact wired task engine settled before o after ran

/-! ## Clients -/

/-- The code leaves alone the producers that steps keep; only a step has access to its own. -/
def LeavesProducers (work : Work κ η α) : Prop :=
  work.Sections fun engine after : Engine κ η => after.producers = engine.producers

/-- Whatever a part of such code comes to, what follows is such code, too. -/
theorem Keeps.leaving {program : Work κ η α} {next : α → Work κ η β} (keeps : Keeps answer (fun _ => True) program)
    (leaves : LeavesProducers (program >>= next)) :
    Keeps answer (fun result => LeavesProducers (next result)) program := by
  intro engine settled result after ran
  exact ⟨(keeps engine settled result after ran).1, leaves.rest ran⟩

/-- Registering a route leaves an engine wired. -/
theorem stays_registerRoute (definition : Definition κ) :
    StaysWired answer (registerRoute embedding definition) :=
  .of_retains (keeps_registerRoute definition) (retains_registerRoute embedding definition) fun _ settled =>
    (arrives_registerRoute embedding definition settled.orderly settled.unlocked).mono fun _ _ _ => trivial

/-- Starting leaves an engine wired. -/
theorem stays_start : StaysWired answer (start embedding) :=
  .of_retains keeps_start (retains_start embedding) fun _ settled =>
    (arrives_start embedding settled.orderly settled.unlocked).mono fun _ _ _ => trivial

/-- Stopping leaves an engine wired. -/
theorem stays_stop : StaysWired answer (stop embedding) :=
  .of_retains keeps_stop (retains_stop embedding) fun _ settled =>
    (arrives_stop embedding settled.orderly settled.unlocked).mono fun _ _ _ => trivial

/-- Looking for a producer leaves an engine wired. -/
theorem stays_producer (uri : String) : StaysWired answer (sharing (producerShared embedding uri)) :=
  .of_retains (keeps_producer uri) (retains_producerShared embedding uri) fun _ settled =>
    (arrives_sharing_producerShared embedding uri settled.unlocked).mono fun _ _ _ => trivial

/-- What clients do leaves an engine wired if they leave alone what steps keep, and if tasks do. -/
theorem Client.staysWired (tasks : TasksKeep answer) (wired : TasksStayWired answer) {work : Work κ η α}
    (client : Client embedding work) (leaves : LeavesProducers work) : StaysWired answer work := by
  induction client with
  | done result => exact .pure result
  | @act update next spares _ ih =>
    intro engine settled before result after ran
    simp only [Program.runWith] at ran
    cases took : update engine with
    | none => simp [took] at ran
    | some middle =>
      simp only [took] at ran
      have spared := spares engine middle took
      have proceeds := settled.spared spared
      have retains : Retains engine middle := .of_same spared.endpoints (leaves.1 engine middle took)
      have between : middle.Wired := before.retained retains proceeds.phase
      exact ih engine (leaves.2 engine) middle proceeds.settled between result after ran
  | call task _ ih =>
    exact (wires_ask tasks wired task).2.bind (keeps_ask tasks task) fun o _ => ih o (leaves o)
  | register definition _ ih =>
    exact (stays_registerRoute definition).bind ((keeps_registerRoute definition).leaving leaves) ih
  | start _ ih => exact stays_start.bind (keeps_start.leaving leaves) ih
  | stop _ ih => exact stays_stop.bind (keeps_stop.leaving leaves) ih
  | produce uri _ ih => exact (stays_producer uri).bind ((keeps_producer uri).leaving leaves) ih

/-- What clients do keeps an engine in order and wired. -/
theorem Client.wires (tasks : TasksKeep answer) (wired : TasksStayWired answer) {work : Work κ η α}
    (client : Client embedding work) (leaves : LeavesProducers work) : (wiring answer).Self (fun _ => True) work :=
  ⟨client.keeps tasks, client.staysWired tasks wired leaves⟩

/-- All pieces of work leave an engine wired, if tasks and the embedding program do. -/
theorem pieces_wiring (client : embedding.IsClient) (leaves : embedding.AllCode LeavesProducers)
    (tasks : TasksKeep answer) (wired : TasksStayWired answer) : Pieces (wiring answer) embedding where
  read := reads_wiring
  pass due := wires_change ((pieces_keeping client tasks).pass due) fun _ => .of_same rfl rfl
  remember edge path := wires_change ((pieces_keeping client tasks).remember edge path) fun _ => .of_same rfl rfl
  log level route text := wires_change ((pieces_keeping client tasks).log level route text) fun _ => .of_same rfl rfl
  decorates := decorates_of_noted (fun _ _ => trivial) reads_wiring
    (fun event => wires_change (keeps_note event) fun _ => .of_same rfl rfl)
    fun code point info x _ => self_of_all (fun o => o.exchange.carriesOnly_of_all fun _ => trivial)
      ((client.hook code point info x).wires tasks wired (leaves.hook code point info x))
  producer keptAs uri := by
    refine ⟨(pieces_keeping client tasks).producer keptAs uri, fun engine settled before result after ran => ?_⟩
    exact (arrives_producerFor_wired keptAs uri settled.orderly.equipped before).of_run ran
  ask := wires_ask tasks wired
  blocked result := ⟨(pieces_keeping client tasks).blocked result, fun _ _ _ _ _ never => nomatch never⟩
  code := (client.and leaves).mono fun _ both => both.1.wires tasks wired both.2

/-- Tasks leave an engine wired, at every depth. -/
theorem tasksStayWired (client : embedding.IsClient) (leaves : embedding.AllCode LeavesProducers) (fuel : Nat) :
    TasksStayWired (Program.answerWithin (carryOut embedding) fuel) := by
  -- A task is carried out with the fuel that is left, and what it hands over is answered with less.
  induction fuel with
  | zero => exact fun _ _ _ _ _ _ never => nomatch never
  | succ fuel below =>
    intro task engine settled wired o after ran
    have pieces := pieces_wiring client leaves (tasksKeep client fuel) below
    exact (pieces.self_behaviour fuel task.1 task.2).2 engine settled wired o after ran

/-! ## Timers -/

/-- Firing an exchange leaves an engine wired. -/
theorem wires_fire (tasks : TasksKeep answer) (wired : TasksStayWired answer) (timer : RunningTimer κ) (number : Nat) :
    (wiring answer).Self (fun _ => True) (fire timer number : Work κ η Unit) := by
  have numbered (engine : Engine κ η) :
      Retains engine (scopeFor timer.context.scope timer.context.exchangeTimeout engine).2 := by
    unfold scopeFor
    split <;> exact .of_same rfl rfl
  have rested (engine : Engine κ η) : Retains engine (rest timer number engine) := by
    unfold rest
    split <;> exact .of_same rfl rfl
  have fresh : (wiring answer).Self (fun _ => True)
      (newExchange timer.context.scope timer.context.exchangeTimeout : Work κ η Exchange) :=
    (wiring answer).bind
      (wires_atomically (.atomically fun engine settled => settled.spared (spares_scopeFor _ _ engine)) numbered)
      fun _ _ => (wiring answer).pure trivial
  refine (wiring answer).bind fresh fun x _ => ?_
  refine (wiring answer).bind (wires_read fun _ => trivial) fun now (_ : True) => ?_
  have dispatched (x : Exchange) : (wiring answer).Self (fun _ => True)
      (dispatch timer.context.processor x : Work κ η Exchange) :=
    (wiring answer).bind (wires_ask tasks wired _) fun _ _ => (wiring answer).pure trivial
  refine (wiring answer).bind (dispatched _) fun _ _ => ?_
  exact wires_change (.change fun _ settled => proceeds_rest timer number settled) rested

/-- Waking the timer that is due first retains what is kept. -/
theorem retains_wake (limit : Instant) (engine : Engine κ η) : Retains engine (wake limit engine).2 := by
  unfold wake
  split
  · exact .of_same rfl rfl
  · dsimp only
    split <;> exact .of_same rfl rfl

/-- Letting time pass leaves an engine wired. -/
theorem wires_passTime (tasks : TasksKeep answer) (wired : TasksStayWired answer) (limit : Instant)
    (enough : Engine κ η → Bool) (firings : Nat) :
    (wiring answer).Self (fun _ => True) (passTime limit enough firings : Work κ η Unit) := by
  induction firings with
  | zero => exact (wiring answer).pure trivial
  | succ firings later =>
    refine (wiring answer).bind (wires_read fun _ => trivial) fun done (_ : True) => ?_
    split
    · exact (wiring answer).pure trivial
    · have woken : (wiring answer).Self (fun _ => True) (Program.atomically (wake limit) : Work κ η _) :=
        wires_atomically (.atomically fun _ => proceeds_wake limit) (retains_wake limit)
      refine (wiring answer).bind woken fun move _ => ?_
      split
      · exact (wiring answer).pure trivial
      · exact later
      · exact (wiring answer).bind (wires_fire tasks wired _ _) fun _ _ => later

/-! ## Reachable states -/

/-- What is done with an engine from outside keeps it in order and wired, if it leaves alone what steps keep. -/
theorem Call.wires (tasks : TasksKeep answer) (wired : TasksStayWired answer) {work : Work κ η α}
    (call : Call embedding work) (leaves : LeavesProducers work) : (wiring answer).Self (fun _ => True) work := by
  cases call with
  | register definition => exact ⟨keeps_registerRoute definition, stays_registerRoute definition⟩
  | start => exact ⟨keeps_start, stays_start⟩
  | stop => exact ⟨keeps_stop, stays_stop⟩
  | send uri client => exact (client_send uri client).wires tasks wired leaves
  | pass limit enough firings => exact wires_passTime tasks wired limit enough firings
  | other client => exact client.wires tasks wired leaves

/-- Calls that leave alone what steps keep lead from a new runtime to the engine. -/
inductive Untampered (embedding : Embedding κ η) : Engine κ η → Prop
  /-- The runtime is new. -/
  | new (config : Config) (now : Instant) (state : η) : Untampered embedding (.standard config now state)
  /-- A call came to its end. -/
  | call {α : Type} {work : Work κ η α} {engine after : Engine κ η} {fuel : Nat} {result : α}
    (before : Untampered embedding engine) (call : Call embedding work) (leaves : LeavesProducers work)
    (ran : run embedding fuel work engine = some (result, after)) : Untampered embedding after

/-- Such an engine is reachable. -/
theorem Untampered.reachable {engine : Engine κ η} (untampered : Untampered embedding engine) :
    Reachable embedding engine := by
  induction untampered with
  | new config now state => exact .new config now state
  | call _ call _ ran reachable => exact .call reachable call ran

/-- Every state that is reached without touching what steps keep is wired. -/
theorem wired_of_untampered (client : embedding.IsClient) (leaves : embedding.AllCode LeavesProducers)
    {engine : Engine κ η} (untampered : Untampered embedding engine) : engine.Wired := by
  induction untampered with
  | new config now state =>
    refine ⟨fun _ _ found => ?_, fun _ _ _ _ member => ?_⟩
    · cases found
    · cases member
  | @call _ _ engine _ fuel result before call spares ran wired =>
    have settled := settled_of_reachable client before.reachable
    have stays := call.wires (tasksKeep client fuel) (tasksStayWired client leaves fuel) spares
    exact stays.2 engine settled wired result _ ran

end Engine

end MessageRouting
