import MessageRouting.Proofs.Engine.Basis
import MessageRouting.Proofs.Engine.Calm
import MessageRouting.Proofs.Program.Yielding

/-!
# No step begins on a cancelled exchange

From the moment at which a scope is cancelled, no step begins to work on an exchange in it or below it. Only a
decorated step notes that it begins; it does so after it found its exchange not cancelled, and what stands between
does not cancel. All else in an engine is calm, or a pattern of such parts.
-/

namespace MessageRouting.Engine

variable {κ η : Type} {embedding : Embedding κ η} {fuel : Nat}

/-- The states that a task passes. -/
abbrev passedByTask (embedding : Embedding κ η) (fuel : Nat) (task : Processor κ × Exchange) (engine : Engine κ η) :
    List (Engine κ η) :=
  Program.passedByTask (carryOut embedding) fuel task engine

/-- Each state that a task passes is later than those before it. -/
abbrev TasksInOrder (embedding : Embedding κ η) (fuel : Nat) : Prop :=
  ∀ task engine, Program.Ordered Later (engine :: passedByTask embedding fuel task engine)
    ((Program.answerWithin (carryOut embedding) fuel task engine).map Prod.snd)

/-- Each state that a program passes is later than those before it. -/
abbrev InOrder (embedding : Embedding κ η) (fuel : Nat) {α : Type} (work : Work κ η α) : Prop :=
  work.Steady Later (Program.answerWithin (carryOut embedding) fuel) (passedByTask embedding fuel)

/-- An end passes no states. -/
theorem InOrder.pure {α : Type} (result : α) : InOrder embedding fuel (Pure.pure result : Work κ η α) :=
  fun engine => .single overTime_later engine

/-- Programs that follow each other pass states in order, if each of them does. -/
theorem InOrder.bind {α β : Type} {work : Work κ η α} {next : α → Work κ η β} (first : InOrder embedding fuel work)
    (later : ∀ result, InOrder embedding fuel (next result)) : InOrder embedding fuel (work >>= next) :=
  fun engine => .bind_of_run overTime_later (first engine) fun result after _ => later result after

/-- Passing states in order goes on with what follows. -/
theorem goesOn_inOrder : Program.GoesOn (Program.answerWithin (carryOut embedding) fuel)
    fun work _ => InOrder embedding fuel work where
  pure := .pure
  bind first comes later engine := .bind_of_run overTime_later (first engine) fun result after ran =>
    later result (comes engine result after ran) after

/-- Passing states in order, and coming to results of a kind, as a relation that goes along with patterns; it leaves the
second program out. -/
def ordering (embedding : Embedding κ η) (fuel : Nat) : Pattern.Simulation (Working κ η) :=
  (goesOn_inOrder : Program.GoesOn (Program.answerWithin (carryOut embedding) fuel) _).simulation

/-- What is calm passes states in order. -/
theorem inOrder_of_calm (tasks : TasksInOrder embedding fuel) {α : Type} {work : Work κ η α}
    (calm : work.Sections Calm) : InOrder embedding fuel work :=
  (calm.mono fun _ _ calm => calm.later).along overTime_later tasks

/-! ## Decorated steps -/

/-- A hook before a step leaves an exchange that is not cancelled uncancelled. -/
theorem runHook_spares (calm : embedding.Calm) (info : StepInfo) (hook : Option κ) {x : Exchange}
    {engine after : Engine κ η} {before : Outcome}
    (ran : run embedding fuel (Pattern.runHook surroundings .pre info (hookAt embedding .pre info hook) x) engine =
      some (before, after))
    (alive : x.scope.isCancelled engine.cancelled = false) :
    before.exchange.scope.isCancelled after.cancelled = false := by
  cases hook with
  | none =>
    cases ran
    exact alive
  | some code =>
    let hooked := { engine with journal := .hooked .pre info :: engine.journal }
    exact calm.spares code info x fuel hooked before after ran alive

/-- Running a hook is calm. -/
theorem calm_runHook (calm : embedding.Calm) (point : HookPoint) (info : StepInfo) (hook : Option κ) (x : Exchange) :
    (Pattern.runHook surroundings point info (hookAt embedding point info hook) x).Sections Calm := by
  cases hook with
  | none => trivial
  | some code => exact (calm_note (.hooked point info) (by simp)).bind fun _ => calm.hook code point info x

/-- Noting that a step begins is in order when the exchange is not cancelled. -/
theorem later_started (info : StepInfo) {x : Exchange} {engine : Engine κ η}
    (alive : x.scope.isCancelled engine.cancelled = false) :
    Later engine { engine with journal := .started info x :: engine.journal } where
  cancelled _ member := member
  journal := by
    refine ⟨[.started info x], rfl, fun other y member => ?_⟩
    cases List.mem_singleton.mp member
    exact alive

/-- A step that runs between its hooks passes states in order when its exchange is not cancelled. -/
theorem along_runHooked (calm : embedding.Calm) (tasks : TasksInOrder embedding fuel) (info : StepInfo)
    (hooks : Hooks κ) (record : Option Nat) {inner : Exchange → Work κ η Outcome}
    (part : ∀ x, InOrder embedding fuel (inner x)) {x : Exchange} {engine : Engine κ η}
    (alive : x.scope.isCancelled engine.cancelled = false) :
    (Pattern.runHooked surroundings info (hookAt embedding .pre info hooks.pre)
      (hookAt embedding .post info hooks.post) record inner x).Along Later
      (Program.answerWithin (carryOut embedding) fuel) (passedByTask embedding fuel) engine := by
  have hooked := inOrder_of_calm tasks (calm_runHook calm .pre info hooks.pre x) engine
  refine hooked.bind_of_run overTime_later fun before after ran => ?_
  have alive := runHook_spares calm info hooks.pre ran alive
  split
  · exact .single overTime_later after
  · refine (Program.Along.change overTime_later (later_started info alive)).bind_of_run overTime_later
      fun _ started _ => ?_
    refine InOrder.bind (part before.exchange) (fun done => ?_) started
    refine .bind (inOrder_of_calm tasks (calm_note (.ended info done.exchange) (by simp))) fun _ => ?_
    refine .bind (inOrder_of_calm tasks (calm_runHook calm .post info hooks.post _)) fun after => ?_
    split <;> exact .pure _

/-- A decorated step passes states in order. -/
theorem inOrder_decorated (calm : embedding.Calm) (tasks : TasksInOrder embedding fuel) (info : StepInfo)
    (hooks : Hooks κ) (tracked : Bool) {inner : Exchange → Work κ η Outcome}
    (part : ∀ x, InOrder embedding fuel (inner x)) (x : Exchange) :
    InOrder embedding fuel (Pattern.decorated surroundings info (hookAt embedding .pre info hooks.pre)
      (hookAt embedding .post info hooks.post) tracked inner x) := by
  intro engine
  rw [Pattern.decorated_eq]
  have checked := inOrder_of_calm tasks (calm_check (Pattern.entered info tracked x).1) engine
  refine checked.bind_of_run overTime_later fun verdict after ran => ?_
  cases ran
  split
  · have refused : InOrder embedding fuel (note (.refused info (Pattern.entered info tracked x).1)) :=
      inOrder_of_calm tasks (calm_note _ (by simp))
    exact (refused engine).bind_of_run overTime_later fun _ after _ => .single overTime_later after
  · rename_i found
    exact along_runHooked calm tasks info hooks _ part ((Scope.check_eq_ok_iff _ _ _).mp found).2

/-! ## Trees -/

/-- What is calm is related to itself. -/
theorem ordered_of_calm (tasks : TasksInOrder embedding fuel) {α : Type} {work : Work κ η α}
    (calm : work.Sections Calm) : (ordering embedding fuel).Self (fun _ => True) work :=
  ⟨inOrder_of_calm tasks calm, fun _ _ _ _ => trivial⟩

/-- All pieces of work pass states in order. -/
theorem pieces_inOrder (calm : embedding.Calm) (tasks : TasksInOrder embedding fuel) :
    Pieces (ordering embedding fuel) embedding where
  read _ holds := ⟨inOrder_of_calm tasks (calm_read _), fun engine _ _ ran => by cases ran; exact holds engine trivial⟩
  pass _ := ordered_of_calm tasks (.change fun _ => .of_same rfl rfl)
  remember _ _ := ordered_of_calm tasks (.change fun _ => .of_same rfl rfl)
  log _ _ _ := ordered_of_calm tasks (calm_note _ (by simp))
  decorates info hooks tracked _ _ part x carried :=
    ⟨inOrder_decorated calm tasks info hooks tracked (fun y => (part y (y.carriesOnly_of_all fun _ => trivial)).1) x,
      fun _ o _ _ => o.exchange.carriesOnly_of_all fun _ => trivial⟩
  producer := self_producerFor_of_any
    (fun _ holds =>
      ⟨inOrder_of_calm tasks (calm_read _), fun engine _ _ ran => by cases ran; exact holds engine trivial⟩)
    (fun text => ordered_of_calm tasks (calm_resolve embedding text))
    (fun _ _ => ordered_of_calm tasks (.atomically fun _ => .of_same rfl rfl))
    (fun _ _ _ => ordered_of_calm tasks (.change fun _ => .of_same rfl rfl))
  ask task := ordered_of_calm tasks (.ask task)
  blocked result := ⟨inOrder_of_calm tasks (.blocked result), fun _ _ _ never => nomatch never⟩
  code := {
    evaluate := fun code x => ordered_of_calm tasks (calm.evaluate code x)
    function := fun code x => ordered_of_calm tasks (calm.function code x)
    process := fun code x => ordered_of_calm tasks (calm.process code x)
    hook := fun code point info x => ordered_of_calm tasks (calm.hook code point info x)
    aggregate := fun code before branch => ordered_of_calm tasks (calm.aggregate code before branch)
    convert := fun code value params => ordered_of_calm tasks (calm.convert code value params)
    marshal := fun code value => ordered_of_calm tasks (calm.marshal code value)
    unmarshal := fun code octets target => ordered_of_calm tasks (calm.unmarshal code octets target) }

/-- Asking a condition passes states in order. -/
theorem inOrder_holds (calm : embedding.Calm) (tasks : TasksInOrder embedding fuel) (condition : Evaluator κ)
    (x : Exchange) : InOrder embedding fuel (holds embedding condition x) :=
  (self_holds (fun _ _ => trivial) (pieces_inOrder calm tasks).basis (condition.carriesOnly_of_all fun _ => trivial) x
    (x.carriesOnly_of_all fun _ => trivial)).1

/-- What a processor does passes states in order. -/
theorem inOrder_behaviour (calm : embedding.Calm) (tasks : TasksInOrder embedding fuel) (patience : Nat)
    (processor : Processor κ) (x : Exchange) : InOrder embedding fuel (behaviour embedding patience processor x) :=
  ((pieces_inOrder calm tasks).self_behaviour patience processor x).1

/-- All tasks pass states in order. -/
theorem tasksInOrder (calm : embedding.Calm) (fuel : Nat) : TasksInOrder embedding fuel :=
  Program.ordered_passedByTask overTime_later
    (fun patience below task => inOrder_behaviour calm below patience task.1 task.2) fuel

end MessageRouting.Engine
