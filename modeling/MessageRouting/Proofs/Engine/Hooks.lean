import MessageRouting.Proofs.Engine.History

/-!
# Hooks around steps

A decorated step that runs notes its first hook before anything inside it begins, and its second one after all of that
has ended, whether it returned, failed or panicked; a step that is refused notes neither. What happens inside is again
made of whole runs: of the parts of a pattern, of the routes that an exchange is handed to, and of what code of the
embedding program hands over. So the marks of hooks are well bracketed, at any depth.
-/

namespace MessageRouting

open Pattern

variable {κ η : Type}

/-! ## Marks of hooks -/

/-- Where a hook stands that ran, and around which step. -/
def Event.hook? : Event → Option (HookPoint × StepInfo)
  | .hooked point info => some (point, info)
  | _ => none

/-- The marks of hooks are well bracketed: that before a step is followed by that after the same step, and those in
between are well bracketed, too. -/
inductive Bracketed : List (HookPoint × StepInfo) → Prop
  /-- No hook ran. -/
  | nothing : Bracketed []
  /-- Hooks ran around a step, and others inside it and behind it. -/
  | step (info : StepInfo) {inside later : List (HookPoint × StepInfo)} (within : Bracketed inside)
    (behind : Bracketed later) : Bracketed ((.pre, info) :: (inside ++ (.post, info) :: later))

/-- Marks that are well bracketed may follow each other. -/
theorem Bracketed.append {first second : List (HookPoint × StepInfo)} (before : Bracketed first)
    (after : Bracketed second) : Bracketed (first ++ second) := by
  induction before with
  | nothing => exact after
  | step info within _ _ behind =>
    rw [List.cons_append, List.append_assoc, List.cons_append]
    exact .step info within behind

/-- There is a hook on either side of a step, or on none. -/
def Hooks.Paired (hooks : Hooks κ) : Prop := hooks.pre.isSome = hooks.post.isSome

/-- The hooks around the processor, if it is decorated. -/
def Processor.hooks? : Processor κ → Option (Hooks κ)
  | .decorated _ hooks _ _ => some hooks
  | _ => none

/-- Around every step in the processor there is a hook on either side, or on none. -/
inductive Processor.HooksPaired : Processor κ → Prop
  | intro {processor : Processor κ} (own : ∀ hooks ∈ processor.hooks?, hooks.Paired)
    (parts : ∀ part ∈ processor.parts, part.HooksPaired) : HooksPaired processor

/-- The parts of a processor with paired hooks have paired hooks. -/
theorem Processor.HooksPaired.parts {processor : Processor κ} (paired : processor.HooksPaired) :
    ∀ part ∈ processor.parts, part.HooksPaired := by
  cases paired with
  | intro _ parts => exact parts

/-! ## Runs -/

section Runs

variable (reached calls : Processor κ × Exchange → Prop)

mutual

/-- The events are those of a run of the processor on the exchange. -/
inductive Ran : Processor κ → Exchange → List Event → Prop
  /-- A decorated step is refused: its exchange is cancelled or too late. -/
  | refused (info : StepInfo) (hooks : Hooks κ) (tracked : Bool) (inner : Processor κ) (x : Exchange)
    {now : Instant} {cancelled : List Identity} {fault : Fault}
    (verdict : (entered info tracked x).1.scope.check now cancelled = .error fault) :
    Ran (.decorated info hooks tracked inner) x [.refused info (entered info tracked x).1]
  /-- A decorated step runs between its hooks. -/
  | hooked (info : StepInfo) (hooks : Hooks κ) (tracked : Bool) (inner : Processor κ) (x y z : Exchange)
    {now : Instant} {cancelled : List Identity} {before inside after : List Event}
    (verdict : (entered info tracked x).1.scope.check now cancelled = .ok ())
    (first : Hooked .pre info hooks.pre before) (ran : Ran inner y inside)
    (last : Hooked .post info hooks.post after) :
    Ran (.decorated info hooks tracked inner) x (before ++ .started info y :: (inside ++ .ended info z :: after))
  /-- Another processor runs what is inside it. -/
  | within {processor : Processor κ} (x : Exchange) {events : List Event} (plain : processor.IsPlain)
    (inside : Inside processor events) : Ran processor x events

/-- The events are those of things that happen inside a processor that is not decorated. -/
inductive Inside : Processor κ → List Event → Prop
  /-- Nothing happens. -/
  | nothing (whole : Processor κ) : Inside whole []
  /-- A message is logged. -/
  | logged {whole : Processor κ} {later : List Event} (level : Level) (route text : String)
    (rest : Inside whole later) : Inside whole (.logged level route text :: later)
  /-- A part runs. -/
  | part {whole part : Processor κ} {x : Exchange} {first later : List Event} (member : part ∈ whole.parts)
    (ran : Ran part x first) (rest : Inside whole later) : Inside whole (first ++ later)
  /-- An exchange is handed over, by the processor itself or by code of the embedding program. -/
  | handed {whole : Processor κ} {task : Processor κ × Exchange} {first later : List Event}
    (left : whole.HandsOver ∨ calls task) (arrived : reached task) (ran : Ran task.1 task.2 first)
    (rest : Inside whole later) : Inside whole (first ++ later)

/-- The events are those of a hook, if there is one; its code is like a processor of the embedding program. -/
inductive Hooked : HookPoint → StepInfo → Option κ → List Event → Prop
  /-- There is no hook. -/
  | none (point : HookPoint) (info : StepInfo) : Hooked point info none []
  /-- The hook runs. -/
  | some (point : HookPoint) (info : StepInfo) {code : κ} {inside : List Event}
    (ran : Inside (.custom code) inside) : Hooked point info (some code) (.hooked point info :: inside)

end

variable {reached calls}

/-- What happens inside a processor may be followed by more of it. -/
theorem Inside.append {whole : Processor κ} {second : List Event} (after : Inside reached calls whole second) :
    ∀ {first : List Event}, Inside reached calls whole first → Inside reached calls whole (first ++ second)
  | _, .nothing _ => after
  | _, .logged level route text rest => .logged level route text (append after rest)
  | _, .part member ran rest => by
    rw [List.append_assoc]
    exact .part member ran (append after rest)
  | _, .handed left arrived ran rest => by
    rw [List.append_assoc]
    exact .handed left arrived ran (append after rest)

/-- A hook leaves its mark and, behind it, marks that are well bracketed. -/
def MarksOf (point : HookPoint) (info : StepInfo) (hook : Option κ) (marks : List (HookPoint × StepInfo)) : Prop :=
  ∃ inside, Bracketed inside ∧ marks = (hook.map fun _ => (point, info)).toList ++ inside

/-- Between the hooks of a step the marks are well bracketed with those of the hooks. -/
theorem Bracketed.between {info : StepInfo} {hooks : Hooks κ} (paired : hooks.Paired)
    {before inside after : List (HookPoint × StepInfo)} (first : MarksOf .pre info hooks.pre before)
    (ran : Bracketed inside) (last : MarksOf .post info hooks.post after) :
    Bracketed (before ++ (inside ++ after)) := by
  obtain ⟨pre, post⟩ := hooks
  obtain ⟨earlier, early, rfl⟩ := first
  obtain ⟨later, late, rfl⟩ := last
  match pre, post, paired with
  | none, none, _ => exact early.append (ran.append late)
  | some _, some _, _ =>
    have marks := Bracketed.step info (early.append ran) late
    rwa [List.append_assoc] at marks

mutual

/-- In a run of a processor with paired hooks the marks of hooks are well bracketed. -/
theorem Ran.bracketed (paired : ∀ task, reached task → task.1.HooksPaired) :
    ∀ {processor : Processor κ} {x : Exchange} {events : List Event}, Ran reached calls processor x events →
      processor.HooksPaired → Bracketed (events.filterMap Event.hook?)
  | _, _, _, .refused .., _ => .nothing
  | _, _, _, .hooked info hooks tracked inner x y z verdict first ran last, .intro own parts => by
    have within := Ran.bracketed paired ran (parts inner List.mem_cons_self)
    have marks := Bracketed.between (own hooks rfl) (Hooked.marks paired first) within (Hooked.marks paired last)
    simpa only [List.filterMap_append, List.filterMap_cons, Event.hook?] using marks
  | _, _, _, .within x plain inside, own => Inside.bracketed paired inside own.parts

/-- What happens inside a processor whose parts have paired hooks leaves well bracketed marks. -/
theorem Inside.bracketed (paired : ∀ task, reached task → task.1.HooksPaired) :
    ∀ {whole : Processor κ} {events : List Event}, Inside reached calls whole events →
      (∀ part ∈ whole.parts, part.HooksPaired) → Bracketed (events.filterMap Event.hook?)
  | _, _, .nothing _, _ => .nothing
  | _, _, .logged level route text rest, parts =>
    have marks := Inside.bracketed paired rest parts
    marks
  | _, _, .part member ran rest, parts => by
    rw [List.filterMap_append]
    exact (Ran.bracketed paired ran (parts _ member)).append (Inside.bracketed paired rest parts)
  | _, _, .handed left arrived ran rest, parts => by
    rw [List.filterMap_append]
    exact (Ran.bracketed paired ran (paired _ arrived)).append (Inside.bracketed paired rest parts)

/-- A hook leaves its mark and those of what its code hands over. -/
theorem Hooked.marks (paired : ∀ task, reached task → task.1.HooksPaired) :
    ∀ {point : HookPoint} {info : StepInfo} {hook : Option κ} {events : List Event},
      Hooked reached calls point info hook events → MarksOf point info hook (events.filterMap Event.hook?)
  | _, _, _, _, .none point info => ⟨[], .nothing, rfl⟩
  | _, _, _, _, .some point info ran =>
    ⟨_, Inside.bracketed paired ran (List.forall_mem_nil _), rfl⟩

end

end Runs

/-! ## Code that notes nothing -/

/-- The events are those of tasks of a kind that were handed over, one behind the other. -/
inductive OnlyHanded (answers : Processor κ × Exchange → List Event → Outcome → Prop)
    (calls : Processor κ × Exchange → Prop) : List Event → Prop
  /-- Nothing was handed over. -/
  | nothing : OnlyHanded answers calls []
  /-- A task was handed over. -/
  | handed {task : Processor κ × Exchange} {o : Outcome} {first later : List Event} (called : calls task)
    (answered : answers task first o) (rest : OnlyHanded answers calls later) :
    OnlyHanded answers calls (first ++ later)

/-- Nothing is noted in the code of an embedding program, except in the tasks that it hands over, which are of a
kind. -/
def Embedding.Unnoted (calls : Processor κ × Exchange → Prop) (embedding : Embedding κ η) : Prop :=
  embedding.AllCode fun work => ∀ answers, work.Ensures Engine.noted answers fun events _ =>
    OnlyHanded answers calls events

namespace Engine

variable {embedding : Embedding κ η} {answers : Processor κ × Exchange → List Event → Outcome → Prop}
  {reached calls : Processor κ × Exchange → Prop}

/-- What happens inside a processor, as an account; it sees nothing of the exchange. -/
def insideAccount (reached calls : Processor κ × Exchange → Prop) (whole : Processor κ) : Account Unit where
  view _ := ()
  blind _ := rfl
  leads _ _ events := Inside reached calls whole events
  still _ := .nothing whole
  trans before after := Inside.append after before

/-- What happens to copies happens inside all the same. -/
theorem setsAside_insideAccount (whole : Processor κ) : (insideAccount reached calls whole).SetsAside where
  aside before := before
  beside before after := Inside.append after before

/-- Each task that is answered is reached, and its events are those of a run. -/
def TasksRan (reached calls : Processor κ × Exchange → Prop)
    (answers : Processor κ × Exchange → List Event → Outcome → Prop) : Prop :=
  ∀ task events o, answers task events o → reached task ∧ Ran reached calls task.1 task.2 events

/-- What code hands over happens inside the processor that runs the code. -/
theorem inside_of_onlyHanded (tasks : TasksRan reached calls answers) (whole : Processor κ) {events : List Event}
    (only : OnlyHanded answers calls events) : Inside reached calls whole events := by
  induction only with
  | nothing => exact .nothing whole
  | handed called answered rest inside =>
    obtain ⟨arrived, ran⟩ := tasks _ _ _ answered
    exact .handed (.inr called) arrived ran inside

section Runs

variable (unnoted : embedding.Unnoted calls) (tasks : TasksRan reached calls answers)

include unnoted tasks

/-- The pieces of work happen inside the processor that they are part of. -/
theorem keepsPieces_inside (whole : Processor κ) (free : Place → Prop) :
    KeepsPieces (insideAccount reached calls whole) answers free embedding where
  put _ _ _ := .nothing whole
  take _ _ := .nothing whole
  log level route text _ := .logged level route text (.nothing whole)
  evaluate code x := (unnoted.evaluate code x answers).mono fun _ _ only _ => inside_of_onlyHanded tasks whole only
  convert code value params := (unnoted.convert code value params answers).mono fun _ _ only _ =>
    inside_of_onlyHanded tasks whole only
  marshal code value := (unnoted.marshal code value answers).mono fun _ _ only _ =>
    inside_of_onlyHanded tasks whole only
  unmarshal code octets target := (unnoted.unmarshal code octets target answers).mono fun _ _ only _ =>
    inside_of_onlyHanded tasks whole only
  function code x := (unnoted.function code x answers).mono fun _ _ only => inside_of_onlyHanded tasks whole only
  process code x := (unnoted.process code x answers).mono fun _ _ only => inside_of_onlyHanded tasks whole only

/-- Joining branches happens inside the multicast. -/
theorem joins_inside (whole : Processor κ) (code : κ) :
    (insideAccount reached calls whole).Joins noted answers (embedding.aggregate code) :=
  fun before branch => (unnoted.aggregate code before branch answers).mono fun _ _ only =>
    ⟨fun _ => inside_of_onlyHanded tasks whole only, fun _ _ _ _ covered => covered.none⟩

/-- A hook that does not panic notes that it runs, and what its code hands over. -/
theorem ensures_runHook_hooked (returning : ∀ code point info x, (embedding.hook code point info x).Ensures noted
      answers fun _ o => o.panic = none) (point : HookPoint) (info : StepInfo) (hook : Option κ) (x : Exchange) :
    (runHook surroundings point info (hookAt embedding point info hook) x).Ensures noted answers fun events o =>
      o.panic = none ∧ Hooked reached calls point info hook events := by
  refine ensures_runHook_of (fun same => ?_) fun code same => ?_
  · rw [same]
    exact ⟨rfl, .none point info⟩
  · rw [same]
    intro events o ran
    have only := unnoted.hook code point info x answers events o ran
    exact ⟨returning code point info x events o ran, .some point info (inside_of_onlyHanded tasks _ only)⟩

/-- A decorated step is refused or runs between its hooks. -/
theorem ran_decorated (returning : ∀ code point info x, (embedding.hook code point info x).Ensures noted
      answers fun _ o => o.panic = none) (info : StepInfo) (hooks : Hooks κ) (tracked : Bool) {processor : Processor κ}
    {inner : Exchange → Work κ η Outcome}
    (part : ∀ y, (inner y).Ensures noted answers fun events _ => Ran reached calls processor y events) (x : Exchange) :
    (Pattern.decorated surroundings info (hookAt embedding .pre info hooks.pre)
      (hookAt embedding .post info hooks.post) tracked inner x).Ensures noted answers fun events _ =>
        Ran reached calls (.decorated info hooks tracked processor) x events := by
  refine ensures_decorated_of (ensures_runHook_hooked unnoted tasks returning .pre info hooks.pre) part
    (ensures_runHook_hooked unnoted tasks returning .post info hooks.post) rfl ?_ ?_ ?_
  · exact fun now cancelled fault verdict => .refused info hooks tracked processor x verdict
  · intro early first hooked panicked
    rw [hooked.1] at panicked
    contradiction
  · exact fun now cancelled early first inside done late last verdict hooked ran posted =>
      .hooked info hooks tracked processor x first.exchange done.exchange verdict hooked.2 ran posted.2

omit unnoted tasks in
/-- What runs of a part happens inside the whole. -/
theorem behaves_inside {whole part : Processor κ} (member : part ∈ whole.parts)
    {behaviour : Exchange → Work κ η Outcome}
    (done : ∀ x, (behaviour x).Ensures noted answers fun events _ => Ran reached calls part x events) :
    (insideAccount reached calls whole).Behaves noted answers behaviour :=
  fun x => (done x).mono fun events _ ran => by
    have alone := Inside.part member ran (.nothing _)
    rwa [List.append_nil] at alone

/-- What happens in a run of each processor, put together from what happens inside. -/
theorem accounting_inside (returning : ∀ code point info x, (embedding.hook code point info x).Ensures noted
      answers fun _ o => o.panic = none) :
    Accounting answers embedding (insideAccount reached calls) (fun _ => True) fun processor behaviour =>
      ∀ x, (behaviour x).Ensures noted answers fun events _ => Ran reached calls processor x events where
  inside _ _ _ _ := trivial
  pieces _ _ := keepsPieces_inside unnoted tasks _ _
  tasks handing task events o answered := by
    obtain ⟨arrived, ran⟩ := tasks task events o answered
    have alone := Inside.handed (.inl handing) arrived ran (.nothing _)
    rwa [List.append_nil] at alone
  part _ member done := behaves_inside member done
  whole _ plain behaves x := (behaves x).mono fun _ _ inside => .within x plain inside
  decorates info hooks tracked _ _ _ part := ran_decorated unnoted tasks returning info hooks tracked (part trivial)
  multicast {parallel stopOnError aggregator outputs branches} _ each x := by
    have parts : ∀ branch ∈ branches,
        (insideAccount reached calls (.multicast parallel stopOnError aggregator outputs)).Behaves noted answers
          branch := by
      intro branch member
      obtain ⟨part, listed, done⟩ := each branch member
      exact behaves_inside listed done
    refine (Account.multicast (setsAside_insideAccount _) _ (fun aggregate found => ?_) parts x).mono
      fun _ _ inside => .within x (.multicast parallel stopOnError aggregator outputs) inside
    obtain ⟨code, -, rfl⟩ := Option.map_eq_some_iff.mp found
    exact joins_inside unnoted tasks _ code
  countLoop {count body _} _ done x :=
    (Account.countLoop (fun _ _ => rfl) (answers_evaluate (keepsPieces_inside unnoted tasks _ fun _ => True) count)
      (behaves_inside List.mem_cons_self done) x).mono fun _ _ inside =>
        .within x (.countLoop count body) inside
  whileLoop {condition policy body _} patience _ done x :=
    (Account.whileLoop (fun _ _ => rfl) policy (fun _ => .blocked _)
      (answers_holds (keepsPieces_inside unnoted tasks _ fun _ => True) condition)
      (behaves_inside List.mem_cons_self done) patience x).mono fun _ _ inside =>
        .within x (.whileLoop condition policy body) inside

end Runs

/-- The traces of tasks of a kind. -/
abbrev TracesOf (embedding : Embedding κ η) (reached : Processor κ × Exchange → Prop) :
    Nat → Processor κ × Exchange → List Event → Outcome → Prop :=
  Program.TracesWithin (carryOut embedding) noted reached

end Engine

/-- Hooks do not panic in runs in which tasks of a kind are handed over. -/
def Embedding.HooksReturnAmong (reached : Processor κ × Exchange → Prop) (embedding : Embedding κ η) : Prop :=
  ∀ (fuel : Nat) (code : κ) (point : HookPoint) (info : StepInfo) (x : Exchange),
    (embedding.hook code point info x).Ensures Engine.noted (Engine.TracesOf embedding reached fuel)
      fun _ o => o.panic = none

namespace Engine

variable {embedding : Embedding κ η} {reached calls : Processor κ × Exchange → Prop}

/-- The events of tasks are those of runs. -/
theorem tasksRan_of_traces (unnoted : embedding.Unnoted calls) (returning : embedding.HooksReturnAmong reached)
    (fuel : Nat) : TasksRan reached calls (TracesOf embedding reached fuel) := by
  induction fuel with
  | zero =>
    intro task events o never
    cases never
  | succ fuel inside =>
    rintro task events o ⟨arrived, traced⟩
    have accounting := accounting_inside unnoted inside (returning fuel)
    exact ⟨arrived, good_behaviour accounting fuel task.1 trivial task.2 events o traced⟩

end Engine

/-! ## Compiled routes -/

/-- Decorated with the hooks of the context, a processor has paired hooks. -/
def CompileContext.HooksPairedInside (context : CompileContext κ) (_ : Identity) (_ : Step κ)
    (inner : Processor κ) : Prop :=
  ∀ info tracked, (Processor.decorated info context.hooks tracked inner).HooksPaired

/-- A compiled route has paired hooks, if those of the context are and registered functions have such. -/
theorem Definition.hooksPaired_of_compile {definition : Definition κ} {context : CompileContext κ}
    {identity : Identity} {route : Route κ} (compiled : definition.compile context identity = .ok route)
    (paired : context.hooks.Paired)
    (functions : ∀ name processor, context.functions.get? name = some processor → processor.HooksPaired) :
    route.processor.HooksPaired := by
  have around {inner : Processor κ} (within : inner.HooksPaired) (info : StepInfo) (tracked : Bool) :
      (Processor.decorated info context.hooks tracked inner).HooksPaired := by
    refine .intro (fun hooks own => ?_) (List.forall_mem_singleton.mpr within)
    cases own
    exact paired
  have spreads : CompileContext.Spreads context definition.name context.HooksPairedInside Processor.HooksPaired := by
    refine ⟨fun inside => inside _ _, fun {parts} each => ?_⟩
    have block : (Processor.pipeline false parts).HooksPaired := .intro (fun _ own => by cases own) each
    exact around block _ _
  refine Definition.holds_of_compile compiled (fun {place step inner} shape info tracked => ?_) spreads
  rcases spreads.shape shape with ⟨name, found⟩ | parts
  · exact around (functions name inner found) info tracked
  cases shape with
  | function found => exact around (functions _ inner found) info tracked
  | _ => exact around (.intro (fun _ own => by cases own) parts) info tracked

/-- Whatever a compiled route does, be it that it returns, or that a panic comes out, it is a run of its processor: each
step inside, of this route or of one that was reached, is refused and notes neither of its hooks, or notes its first
hook before and its second hook after what happens inside. So, where there is a hook on either side or on none, the
marks of hooks are well bracketed. -/
theorem Definition.bracketed_of_traces {definition : Definition κ} {context : CompileContext κ}
    {identity : Identity} {route : Route κ} (compiled : definition.compile context identity = .ok route)
    (paired : context.hooks.Paired)
    (functions : ∀ name processor, context.functions.get? name = some processor → processor.HooksPaired)
    {reached calls : Processor κ × Exchange → Prop} (routes : ∀ task, reached task → task.1.HooksPaired)
    {embedding : Embedding κ η} (unnoted : embedding.Unnoted calls) (returning : embedding.HooksReturnAmong reached)
    (patience fuel : Nat) {x : Exchange} {events : List Event} {o : Outcome}
    (ran : (Engine.behaviour embedding patience route.processor x).Traces Engine.noted
      (Engine.TracesOf embedding reached fuel) events o) :
    Ran reached calls route.processor x events ∧ Bracketed (events.filterMap Event.hook?) := by
  have tasks := Engine.tasksRan_of_traces unnoted returning fuel
  have accounting := Engine.accounting_inside unnoted tasks (returning fuel)
  have whole := Engine.good_behaviour accounting patience route.processor trivial x events o ran
  exact ⟨whole, whole.bracketed routes (Definition.hooksPaired_of_compile compiled paired functions)⟩

/-! ## A panic, a cancellation and a step that is refused -/

namespace Engine

/-- Some functions panic, and others cancel the scope of their exchange. -/
def cancelling : Embedding Nat Unit :=
  { panicking with
    function := fun code x =>
      if code = 2 then do
        cancel x.scope
        return (x, .returned ())
      else panicking.function code x }

/-- Nothing is noted in the code that cancels. -/
theorem unnoted_cancelling (calls : Processor Nat × Exchange → Prop) : cancelling.Unnoted calls where
  evaluate _ _ _ := .pure .nothing
  function code x answers := by
    unfold cancelling
    dsimp only
    split
    · have silent : (cancel x.scope : Work Nat Unit Unit).Ensures noted answers fun events _ => events = [] :=
        .change fun engine => noted_of_same rfl
      refine silent.bind fun events _ same => .pure ?_
      subst same
      exact .nothing
    · exact .pure .nothing
  process _ _ _ := .pure .nothing
  hook _ _ _ _ _ := .pure .nothing
  aggregate _ _ _ _ := .pure .nothing
  convert _ _ _ _ := .pure .nothing
  marshal _ _ _ := .pure .nothing
  unmarshal _ _ _ _ := .pure .nothing

/-- A context with hooks on both sides of each step. -/
def hookedContext : CompileContext Nat :=
  ⟨⟨"function", [("panic", .function 1), ("cancel", .function 2), ("rest", .function 0)]⟩, ⟨"data format", []⟩, [],
    ⟨some 0, some 0⟩, false⟩

/-- The functions of the context have no steps. -/
theorem hooksPaired_hookedContext (name : String) (processor : Processor Nat)
    (found : hookedContext.functions.get? name = some processor) : processor.HooksPaired := by
  have plain (code : Nat) : (Processor.function code).HooksPaired :=
    .intro (fun _ own => by cases own) (List.forall_mem_nil _)
  simp only [hookedContext, Registry.get?, Table.find?] at found
  split at found
  · cases found
    exact plain 1
  split at found
  · cases found
    exact plain 2
  split at found
  · cases found
    exact plain 0
  · cases found

/-- A panic that a try contains, a function that cancels, and a step behind it. -/
def panicThenCancel : Definition Nat :=
  ⟨"r", "direct:in", [.tryCatch [.function "panic"] [] none, .function "cancel", .function "rest"]⟩

/-- What the definition is compiled to. -/
def routeToCancel : Route Nat :=
  let step (name : String) : Processor Nat → Processor Nat := hookedContext.decorate "r" name
  ⟨"r", "direct:in", step "pipeline" (.pipeline false
    [step "doTry" (.tryCatch [step "process[panic]" (.function 1)] [] []), step "process[cancel]" (.function 2),
      step "process[rest]" (.function 0)])⟩

/-- What the compiled route does with an exchange. -/
def workToCancel : Work Nat Unit Outcome := behaviour cancelling 9 routeToCancel.processor recordedExchange

/-- What happens meanwhile. -/
def eventsToCancel : List Event :=
  Program.notedAlong noted recordingEngine (workToCancel.passed (fun _ _ => none) (fun _ _ => []) recordingEngine)

/-- Of a route with hooks on both sides of each step. -/
abbrev arrivesHooked (task : Processor Nat × Exchange) : Prop := task.1.HooksPaired

/-- Around the function that panics, the try that contains the panic, and the function that cancels, both hooks run;
around the step behind it none does, and that after the pipeline comes last. -/
theorem bracketed_of_traces_cancelling :
    panicThenCancel.compile hookedContext (.root 0) = .ok routeToCancel ∧ hookedContext.hooks.Paired ∧
    cancelling.Unnoted (fun _ => False) ∧ cancelling.HooksReturnAmong arrivesHooked ∧
    (∃ o : Outcome, workToCancel.Traces noted (TracesOf cancelling arrivesHooked 0) eventsToCancel o) ∧
    Ran arrivesHooked (fun _ => False) routeToCancel.processor recordedExchange eventsToCancel ∧
    Bracketed (eventsToCancel.filterMap Event.hook?) ∧
    eventsToCancel.filterMap Event.hook? =
      [(.pre, ⟨"r", "pipeline"⟩), (.pre, ⟨"r", "doTry"⟩), (.pre, ⟨"r", "process[panic]"⟩),
        (.post, ⟨"r", "process[panic]"⟩), (.post, ⟨"r", "doTry"⟩), (.pre, ⟨"r", "process[cancel]"⟩),
        (.post, ⟨"r", "process[cancel]"⟩), (.post, ⟨"r", "pipeline"⟩)] := by
  have compiled : panicThenCancel.compile hookedContext (.root 0) = .ok routeToCancel := rfl
  have unnoted : cancelling.Unnoted fun _ => False := unnoted_cancelling _
  have returning : cancelling.HooksReturnAmong arrivesHooked := fun _ _ _ _ _ => .pure rfl
  obtain ⟨o, after, ran⟩ : ∃ o after, workToCancel.runWith (fun _ _ => none) recordingEngine = some (o, after) :=
    ⟨_, _, rfl⟩
  obtain ⟨traced, -⟩ :=
    Program.traces_of_runWith (Program.keepsTo_none noted (TracesOf cancelling arrivesHooked 0)) workToCancel ran
  obtain ⟨whole, marks⟩ := Definition.bracketed_of_traces compiled rfl hooksPaired_hookedContext
    (fun _ paired => paired) unnoted returning 9 0 traced
  exact ⟨compiled, rfl, unnoted, returning, ⟨o, traced⟩, whole, marks, by decide⟩

end Engine

end MessageRouting
