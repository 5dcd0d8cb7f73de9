import MessageRouting.Engine.Timers
import MessageRouting.Proofs.Engine.Alike
import MessageRouting.Proofs.Lifecycle.Calls

/-!
# Clients

The code of an embedding program works on an engine through calls, and it may do so while an exchange is on its way: a
function of a route can register routes, start, stop and send. Whatever such clients do, an orderly engine stays
orderly, and its phase only goes on.
-/

namespace MessageRouting.Engine

open Pattern Time

variable {κ η α β : Type} {embedding : Embedding κ η}
  {answer : Processor κ × Exchange → Engine κ η → Option (Outcome × Engine κ η)}

/-! ## What clients do -/

/-- A section leaves alone what the calls keep; components are registered only. -/
structure Spares (engine after : Engine κ η) : Prop where
  /-- The phase stays. -/
  phase : after.phase = engine.phase
  /-- The routes stay. -/
  routes : after.routes = engine.routes
  /-- The active consumers stay. -/
  consumers : after.consumers = engine.consumers
  /-- The tables of direct consumers stay. -/
  tables : after.tables = engine.tables
  /-- The timers stay. -/
  timers : after.timers = engine.timers
  /-- The locks stay. -/
  locks : after.locks = engine.locks
  /-- The endpoints stay. -/
  endpoints : after.endpoints = engine.endpoints
  /-- At most a component is registered. -/
  components : after.components = engine.components ∨
    ∃ component, engine.components.register component.scheme component = .ok after.components

/-- The code is that of a client: it changes the engine by calls only, apart from what no call keeps. -/
inductive Client (embedding : Embedding κ η) {α : Type} : Work κ η α → Prop
  /-- It ends. -/
  | done (result : α) : Client embedding (.done result)
  /-- It does something else in a section. -/
  | act {update : Engine κ η → Option (Engine κ η)} {next : Engine κ η → Work κ η α}
    (spares : ∀ engine after, update engine = some after → Spares engine after)
    (later : ∀ engine, Client embedding (next engine)) : Client embedding (.act update next)
  /-- It hands an exchange over. -/
  | call (task : Processor κ × Exchange) {next : Outcome → Work κ η α} (later : ∀ o, Client embedding (next o)) :
    Client embedding (.call task next)
  /-- It registers a route. -/
  | register (definition : Definition κ) {next : Except Fault Unit → Work κ η α}
    (later : ∀ given, Client embedding (next given)) : Client embedding (registerRoute embedding definition >>= next)
  /-- It starts the runtime. -/
  | start {next : Except Fault Unit → Work κ η α} (later : ∀ given, Client embedding (next given)) :
    Client embedding (Engine.start embedding >>= next)
  /-- It stops the runtime. -/
  | stop {next : Except Fault Unit → Work κ η α} (later : ∀ given, Client embedding (next given)) :
    Client embedding (Engine.stop embedding >>= next)
  /-- It looks for a producer, to send to it. -/
  | produce (uri : String) {next : Except Fault (Processor κ) → Work κ η α}
    (later : ∀ found, Client embedding (next found)) :
    Client embedding (sharing (producerShared embedding uri) >>= next)

/-- What goes on with a client as a client is one. -/
theorem Client.bind {work : Work κ η α} {next : α → Work κ η β} (first : Client embedding work)
    (later : ∀ result, Client embedding (next result)) : Client embedding (work >>= next) := by
  induction first with
  | done result => exact later result
  | act spares _ ih => exact .act spares ih
  | call task _ ih => exact .call task ih
  | register definition _ ih =>
    rw [bind_assoc]
    exact .register definition ih
  | start _ ih =>
    rw [bind_assoc]
    exact .start ih
  | stop _ ih =>
    rw [bind_assoc]
    exact .stop ih
  | produce uri _ ih =>
    rw [bind_assoc]
    exact .produce uri ih

end MessageRouting.Engine

namespace MessageRouting

/-- All code of an embedding program is that of clients. -/
abbrev Embedding.IsClient {κ η : Type} (embedding : Embedding κ η) : Prop := embedding.AllCode (Engine.Client embedding)

namespace Engine

open Pattern Time

variable {κ η α β : Type} {embedding : Embedding κ η}
  {answer : Processor κ × Exchange → Engine κ η → Option (Outcome × Engine κ η)}

/-! ## What stays as it is -/

/-- The engine is orderly, and nobody holds a lock. -/
structure Settled (engine : Engine κ η) : Prop where
  /-- It is orderly. -/
  orderly : engine.Orderly
  /-- Nobody holds a lock. -/
  unlocked : engine.locks = {}

/-- A settled engine has become another settled one, and its phase has gone on at most. -/
structure Proceeds (engine after : Engine κ η) : Prop where
  /-- It is settled. -/
  settled : after.Settled
  /-- The phase has gone on at most. -/
  phase : engine.phase.Precedes after.phase

/-- Wherever a program arrives from a settled engine, the engine has proceeded, and the result is of a kind. -/
def Keeps (answer : Processor κ × Exchange → Engine κ η → Option (Outcome × Engine κ η)) (good : α → Prop)
    (program : Work κ η α) : Prop :=
  ∀ engine, engine.Settled → ∀ result after, program.runWith answer engine = some (result, after) →
    Proceeds engine after ∧ good result

/-- An end keeps an engine as it is. -/
theorem Keeps.pure {good : α → Prop} {result : α} (holds : good result) :
    Keeps answer good (Pure.pure result : Work κ η α) := by
  intro engine settled result after ran
  cases ran
  exact ⟨⟨settled, .refl _⟩, holds⟩

/-- What goes on with a program keeps an engine in order, too. -/
theorem Keeps.bind {good : α → Prop} {fine : β → Prop} {program : Work κ η α} {next : α → Work κ η β}
    (first : Keeps answer good program) (later : ∀ result, good result → Keeps answer fine (next result)) :
    Keeps answer fine (program >>= next) := by
  intro engine settled result after ran
  rw [Program.runWith_bind] at ran
  obtain ⟨⟨middle, between⟩, before, ran⟩ := Option.bind_eq_some_iff.mp ran
  obtain ⟨proceeds, holds⟩ := first engine settled middle between before
  obtain ⟨goesOn, ends⟩ := later middle holds between proceeds.settled result after ran
  exact ⟨⟨goesOn.settled, proceeds.phase.trans goesOn.phase⟩, ends⟩

/-- Keeping an engine in order as a relation that goes along with patterns; it leaves the second program out. -/
def keeping (answer : Processor κ × Exchange → Engine κ η → Option (Outcome × Engine κ η)) :
    Simulation (Working κ η) where
  relates good program _ := Keeps answer good program
  pure := .pure
  bind first later := first.bind later

/-- A settled engine with more endpoints. -/
theorem Settled.grew {engine after : Engine κ η} (settled : engine.Settled) (grew : OnlyGrew engine after) :
    Proceeds engine after := by
  have orderly := settled.orderly.grew grew
  obtain ⟨_, _, _, rfl⟩ := grew.exists_eq
  exact ⟨⟨orderly, settled.unlocked⟩, .refl _⟩

/-- What spares components keeps them in order. -/
theorem Equipped.spared {engine after : Engine κ η} (equipped : engine.Equipped) (spares : Spares engine after) :
    after.Equipped := by
  rcases spares.components with same | ⟨component, registered⟩
  · exact equipped.congr same spares.endpoints
  · have found (scheme : String) : after.components.get? scheme =
        if scheme = component.scheme then some component else engine.components.get? scheme :=
      Registry.get?_of_register registered scheme
    obtain ⟨free, -⟩ := Registry.register_eq_ok_iff.mp registered
    refine ⟨fun scheme other there => ?_, ?_, spares.endpoints ▸ equipped.endpoints⟩
    · rw [found] at there
      split at there
      · rename_i same
        cases there
        exact same.symm
      · exact equipped.schemes scheme other there
    · rw [found, if_neg, equipped.direct]
      intro same
      have taken := equipped.direct
      rw [same] at taken
      simp [Registry.contains, Table.has, ← Registry.get?.eq_def, taken] at free

/-- A settled engine that was spared. -/
theorem Settled.spared {engine after : Engine κ η} (settled : engine.Settled) (spares : Spares engine after) :
    Proceeds engine after := by
  refine ⟨⟨?_, spares.locks.trans settled.unlocked⟩, spares.phase ▸ .refl _⟩
  refine settled.orderly.congr spares.phase spares.routes spares.consumers spares.tables (fun timer running => ?_)
    fun equipped => equipped.spared spares
  rw [spares.timers] at running
  exact ⟨timer, running, rfl⟩

/-- A program keeps an engine in order if it arrives where it should. -/
theorem Keeps.of_arrives {good : α → Prop} {program : Work κ η α}
    (arrives : ∀ engine, engine.Settled →
      program.Arrives answer engine fun result after => Proceeds engine after ∧ good result) :
    Keeps answer good program :=
  fun engine settled _ _ ran => (arrives engine settled).of_run ran

/-- A section keeps an engine in order if it lets it proceed. -/
theorem Keeps.atomically {f : Engine κ η → α × Engine κ η}
    (proceeds : ∀ engine, engine.Settled → Proceeds engine (f engine).2) :
    Keeps answer (fun _ => True) (Program.atomically f) :=
  .of_arrives fun engine settled => Program.arrives_atomically.mpr ⟨proceeds engine settled, trivial⟩

/-- A change keeps an engine in order if it lets it proceed. -/
theorem Keeps.change {f : Engine κ η → Engine κ η} (proceeds : ∀ engine, engine.Settled → Proceeds engine (f engine)) :
    Keeps answer (fun _ => True) (Program.change f) :=
  .of_arrives fun engine settled => Program.arrives_change.mpr ⟨proceeds engine settled, trivial⟩

/-- Reading keeps an engine in order. -/
theorem Keeps.read {good : α → Prop} {f : Engine κ η → α} (holds : ∀ engine, good (f engine)) :
    Keeps answer good (Program.read f) :=
  .of_arrives fun engine settled => Program.arrives_read.mpr ⟨⟨settled, .refl _⟩, holds engine⟩

/-- Nothing is left alone more than by an engine that stays. -/
theorem Spares.refl (engine : Engine κ η) : Spares engine engine := ⟨rfl, rfl, rfl, rfl, rfl, rfl, rfl, .inl rfl⟩

/-- Tasks keep an engine in order. -/
def TasksKeep (answer : Processor κ × Exchange → Engine κ η → Option (Outcome × Engine κ η)) : Prop :=
  ∀ task engine, engine.Settled → ∀ o after, answer task engine = some (o, after) → Proceeds engine after

/-- A call that was answered lets an engine proceed, if its success moves the phase on. -/
theorem Answered.proceeds {moves : Phase → Phase → Prop} (on : ∀ phase next, moves phase next → phase.Precedes next)
    {engine after : Engine κ η} (settled : engine.Settled) {given : Except Fault Unit}
    (answered : Answered moves engine given after) : Proceeds engine after := by
  refine ⟨⟨answered.orderly, answered.locks.trans settled.unlocked⟩, ?_⟩
  cases given with
  | error fault => exact (settled.grew (answered.failed fault rfl)).phase
  | ok done => exact on _ _ (answered.succeeded rfl)

/-- Handing an exchange over keeps an engine in order. -/
theorem keeps_ask (tasks : TasksKeep answer) (task : Processor κ × Exchange) :
    Keeps answer (fun _ => True) (Program.ask task) := by
  intro engine settled o after ran
  rw [Program.runWith_ask] at ran
  exact ⟨tasks task engine settled o after ran, trivial⟩

/-- Registering a route keeps an engine in order. -/
theorem keeps_registerRoute (definition : Definition κ) :
    Keeps answer (fun _ => True) (registerRoute embedding definition) :=
  .of_arrives fun _ settled =>
    (arrives_registerRoute embedding definition settled.orderly settled.unlocked).mono
      fun given after ⟨answered, _⟩ => by
        refine ⟨answered.proceeds ?_ settled, trivial⟩
        rintro phase _ rfl
        exact .refl phase

/-- Starting keeps an engine in order. -/
theorem keeps_start : Keeps answer (fun _ => True) (start embedding) :=
  .of_arrives fun _ settled =>
    (arrives_start embedding settled.orderly settled.unlocked).mono fun given after ⟨answered, _⟩ => by
      refine ⟨answered.proceeds ?_ settled, trivial⟩
      rintro _ _ ⟨rfl, rfl⟩
      exact .start

/-- Stopping keeps an engine in order. -/
theorem keeps_stop : Keeps answer (fun _ => True) (stop embedding) :=
  .of_arrives fun engine settled =>
    (arrives_stop embedding settled.orderly settled.unlocked).mono fun given after ⟨orderly, locks, phase, _⟩ => by
      refine ⟨⟨⟨orderly, locks.trans settled.unlocked⟩, ?_⟩, trivial⟩
      rw [phase]
      cases engine.phase <;> constructor

/-- Looking for a producer keeps an engine in order. -/
theorem keeps_producer (uri : String) : Keeps answer (fun _ => True) (sharing (producerShared embedding uri)) :=
  .of_arrives fun _ settled =>
    (arrives_sharing_producerShared embedding uri settled.unlocked).mono
      fun _ _ ⟨grew, _⟩ => ⟨settled.grew grew, trivial⟩

/-- What clients do keeps an engine in order, if tasks do. -/
theorem Client.keeps (tasks : TasksKeep answer) {work : Work κ η α} (client : Client embedding work) :
    Keeps answer (fun _ => True) work := by
  induction client with
  | done result => exact .pure trivial
  | @act update next spares _ ih =>
    intro engine settled result after ran
    simp only [Program.runWith] at ran
    cases took : update engine with
    | none => simp [took] at ran
    | some middle =>
      simp only [took] at ran
      have spared := settled.spared (spares engine middle took)
      obtain ⟨goesOn, ends⟩ := ih engine middle spared.settled result after ran
      exact ⟨⟨goesOn.settled, spared.phase.trans goesOn.phase⟩, ends⟩
  | call task _ ih => exact (keeps_ask tasks task).bind fun o _ => ih o
  | register definition _ ih => exact (keeps_registerRoute definition).bind fun given _ => ih given
  | start _ ih => exact keeps_start.bind fun given _ => ih given
  | stop _ ih => exact keeps_stop.bind fun given _ => ih given
  | produce uri _ ih => exact (keeps_producer uri).bind fun found _ => ih found

/-- A change that leaves alone what the calls keep keeps an engine in order. -/
theorem Keeps.of_spares {f : Engine κ η → Engine κ η} (spares : ∀ engine, Spares engine (f engine)) :
    Keeps answer (fun _ => True) (Program.change f) :=
  .change fun engine settled => settled.spared (spares engine)

/-- Whatever is read keeps an engine in order. -/
theorem reads_keeping : Reads (keeping answer) fun _ : Engine κ η => True :=
  fun _ holds => .read fun engine => holds engine trivial

/-- Noting keeps an engine in order. -/
theorem keeps_note (event : Event) : Keeps answer (fun _ => True) (note event : Work κ η Unit) :=
  .of_spares fun _ => ⟨rfl, rfl, rfl, rfl, rfl, rfl, rfl, .inl rfl⟩

/-- All pieces of work keep an engine in order, if tasks and the embedding program do. -/
theorem pieces_keeping (client : embedding.IsClient) (tasks : TasksKeep answer) :
    Pieces (keeping answer) embedding where
  read := reads_keeping
  pass _ := .of_spares fun _ => ⟨rfl, rfl, rfl, rfl, rfl, rfl, rfl, .inl rfl⟩
  remember _ _ := .of_spares fun _ => ⟨rfl, rfl, rfl, rfl, rfl, rfl, rfl, .inl rfl⟩
  log _ _ _ := keeps_note _
  decorates := decorates_of_noted (fun _ _ => trivial) reads_keeping keeps_note
    fun code point info x _ => self_of_all (fun o => o.exchange.carriesOnly_of_all fun _ => trivial)
      ((client.hook code point info x).keeps tasks)
  producer := self_producerFor_of_any reads_keeping
    (fun text => .of_arrives fun engine settled =>
      (arrives_resolve embedding text engine).mono fun _ _ ⟨grew, _⟩ => ⟨settled.grew grew, trivial⟩)
    (fun _ _ => .atomically fun _ settled => settled.spared ⟨rfl, rfl, rfl, rfl, rfl, rfl, rfl, .inl rfl⟩)
    (fun _ _ _ => .of_spares fun _ => ⟨rfl, rfl, rfl, rfl, rfl, rfl, rfl, .inl rfl⟩)
  ask := keeps_ask tasks
  blocked _ _ _ _ _ never := nomatch never
  code := client.mono fun _ client => client.keeps tasks

/-- Tasks keep an engine in order, at every depth. -/
theorem tasksKeep (client : embedding.IsClient) (fuel : Nat) :
    TasksKeep (Program.answerWithin (carryOut embedding) fuel) := by
  -- A task is carried out with the fuel that is left, and what it hands over is answered with less.
  induction fuel with
  | zero => exact fun _ _ _ _ _ never => nomatch never
  | succ fuel below =>
    intro task engine settled o after ran
    exact ((pieces_keeping client below).self_behaviour fuel task.1 task.2 engine settled o after ran).1

end Engine

end MessageRouting
