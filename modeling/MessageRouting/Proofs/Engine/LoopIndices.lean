import MessageRouting.Proofs.Engine.IndexedRuns

/-!
# The index that a step in a loop finds

A step finds the index of the innermost loop around it in the property, but only up to the first loop inside that one:
from there on to the end of the iteration it finds the index that was noted last. This is so as long as nothing but
loops changes the property.
-/

namespace MessageRouting

open Pattern Engine

variable {κ η : Type}

namespace Indexed

/-! ## Pieces -/

/-- A value at another place does not show. -/
theorem view_putAt {place : Place} (other : place ≠ .property indexProperty) (x : Exchange) (value : Value) :
    indexView.view (putAt x value place) = indexView.view x := by
  cases place with
  | property name =>
    have different : indexProperty ≠ name := fun same => other (same ▸ rfl)
    exact (Table.find?_insert ..).trans (if_neg different)
  | body | header name => rfl

/-- That another place is empty does not show. -/
theorem view_takeFrom {place : Place} (other : place ≠ .property indexProperty) (x : Exchange) :
    indexView.view (takeFrom x place) = indexView.view x := by
  cases place with
  | property name =>
    have different : indexProperty ≠ name := fun same => other (same ▸ rfl)
    exact Table.find?_erase_of_ne different _
  | body | header name => rfl

/-- That a record begins does not show. -/
theorem property?_entered (info : StepInfo) (tracked : Bool) (x : Exchange) :
    (entered info tracked x).1.property? indexProperty = x.property? indexProperty := by
  obtain ⟨headers, same⟩ := entered_eq info tracked x
  rw [same]
  rfl

/-- That a record ends does not show. -/
theorem property?_finishRecord (record : Option Nat) (x : Exchange) :
    (finishRecord record x).property? indexProperty = x.property? indexProperty := by
  obtain ⟨headers, same⟩ := finishRecord_eq record x
  rw [same]
  rfl

section Pieces

variable {embedding : Embedding κ η} {reached : Processor κ → Prop}
  {answers : Processor κ × Exchange → List Event → Outcome → Prop}

variable (reached answers) in
/-- Each task that is answered is reached, and its events are those of a run. -/
def TasksRan : Prop :=
  ∀ task events o, answers task events o → reached task.1 ∧
    RanBetween reached task.1 (task.2.property? indexProperty) (o.exchange.property? indexProperty) events

variable (tasks : TasksRan reached answers) (leaves : embedding.LeavesIndices)

include tasks

/-- What code only hands over is not worked on. -/
theorem asideBetween_of_onlyHanded {calls : Processor κ × Exchange → Prop} {events : List Event}
    (only : OnlyHanded answers calls events) : AsideBetween reached events := by
  induction only with
  | nothing => exact asideBetween_silent rfl
  | handed _ answered _ rest =>
    obtain ⟨arrived, ran⟩ := tasks _ _ _ answered
    exact (ran.aside arrived).append rest

/-- Code that leaves the property alone hands exchanges over, the one that it works on among them. -/
theorem handedBetween_of_leavesIndex {first second : Option Value} {events : List Event}
    (left : LeavesIndex answers first second events) : HandedBetween reached first second events := by
  induction left with
  | nothing seen => exact handedBetween_nothing seen
  | aside answered _ rest =>
    obtain ⟨arrived, ran⟩ := tasks _ _ _ answered
    exact (ran.aside arrived).handed rest
  | along answered _ rest =>
    obtain ⟨arrived, ran⟩ := tasks _ _ _ answered
    exact ran.along arrived rest

include leaves

/-- The pieces of work happen inside the processor that they are part of, if it leaves the property alone. -/
theorem keepsPieces (whole : Processor κ) {free : Place → Prop} (spared : ¬free (.property indexProperty)) :
    KeepsPieces (indexAccount reached whole) answers free embedding where
  put holds x value :=
    view_putAt (fun same => spared (same ▸ holds)) x value ▸ (indexAccount reached whole).still (indexView.view x)
  take holds x :=
    view_takeFrom (fun same => spared (same ▸ holds)) x ▸ (indexAccount reached whole).still (indexView.view x)
  log _ _ _ := (asideBetween_silent rfl).inside whole
  evaluate code x := (leaves.unnoted.evaluate code x answers).mono fun _ _ only =>
    (asideBetween_of_onlyHanded tasks only).inside whole
  convert code value params := (leaves.unnoted.convert code value params answers).mono fun _ _ only =>
    (asideBetween_of_onlyHanded tasks only).inside whole
  marshal code value := (leaves.unnoted.marshal code value answers).mono fun _ _ only =>
    (asideBetween_of_onlyHanded tasks only).inside whole
  unmarshal code octets target := (leaves.unnoted.unmarshal code octets target answers).mono fun _ _ only =>
    (asideBetween_of_onlyHanded tasks only).inside whole
  function code x := (leaves.function answers code x).mono fun _ _ left =>
    (handedBetween_of_leavesIndex tasks left).inside whole
  process code x := (leaves.process answers code x).mono fun _ _ left =>
    (handedBetween_of_leavesIndex tasks left).inside whole

/-- While a value is found, exchanges are only handed over that are not worked on. -/
theorem asideBetween_evaluate (evaluator : Evaluator κ) (x : Exchange) :
    (evaluate embedding evaluator x).Ensures noted answers fun events _ => AsideBetween reached events := by
  cases evaluator with
  | constant value | formula formula => exact .pure (asideBetween_silent rfl)
  | code code =>
    refine (leaves.unnoted.evaluate code x answers).bind fun events _ only => .pure ?_
    rw [List.append_nil]
    exact asideBetween_of_onlyHanded tasks only

/-- While a condition is asked, exchanges are only handed over that are not worked on. -/
theorem asideBetween_holds (evaluator : Evaluator κ) (x : Exchange) :
    (holds embedding evaluator x).Ensures noted answers fun events _ => AsideBetween reached events := by
  refine (asideBetween_evaluate tasks leaves evaluator x).bind fun events _ aside => .pure ?_
  rwa [List.append_nil]

/-- While branches are joined, exchanges are only handed over that are not worked on, and what is made of branches shows
what one of them shows. -/
theorem joins_between (outputs : List (Processor κ)) (code : κ) :
    Gathers.Joins indexView (BranchesBetween reached outputs) (AsideBetween reached) noted answers
      (embedding.aggregate code) := by
  intro before branch events joined ran
  have only := leaves.unnoted.aggregate code before branch answers events joined ran
  refine ⟨asideBetween_of_onlyHanded tasks only, fun y same seen earlier covered => ?_⟩
  obtain ⟨one, member, shown⟩ := leaves.aggregate answers code before branch events joined ran y same
  have led : BranchesBetween reached outputs seen (one.property? indexProperty) earlier := covered.each one member
  rwa [← shown] at led

/-- A hook only hands exchanges over. -/
theorem handedBetween_runHook (point : HookPoint) (info : StepInfo) (hook : Option κ) (x : Exchange) :
    (runHook surroundings point info (hookAt embedding point info hook) x).Ensures noted answers fun events o =>
      HandedBetween reached (x.property? indexProperty) (o.exchange.property? indexProperty) events := by
  refine ensures_runHook_of (fun _ => handedBetween_nothing _) fun code _ => ?_
  exact (leaves.hook answers code point info x).mono fun _ _ left =>
    (handedBetween_of_leavesIndex tasks left).behind rfl

end Pieces

/-! ## Processors -/

section Processors

variable {embedding : Embedding κ η} {reached : Processor κ → Prop}
  {answers : Processor κ × Exchange → List Event → Outcome → Prop}

variable (reached answers) in
/-- What happens in a behaviour are runs of the processor. -/
def RunsAs (processor : Processor κ) (behaviour : Exchange → Work κ η Outcome) : Prop :=
  ∀ x, (behaviour x).Ensures noted answers fun events o =>
    RanBetween reached processor (x.property? indexProperty) (o.exchange.property? indexProperty) events

/-- What happens inside a processor is a run of it. -/
theorem runsAs_of_behaves {processor : Processor κ} (plain : processor.IsPlain)
    {behaviour : Exchange → Work κ η Outcome}
    (behaves : (indexAccount reached processor).Behaves noted answers behaviour) :
    RunsAs reached answers processor behaviour := by
  refine fun x => (behaves x).mono fun events o led own before fits => ?_
  obtain ⟨starts, after, inside, told, final⟩ := led own before fits
  exact ⟨starts, after, .within plain inside, told, final⟩

/-- Runs of a part that runs in turn happen inside the whole. -/
theorem RunsAs.inside {whole part : Processor κ} {behaviour : Exchange → Work κ η Outcome}
    (runs : RunsAs reached answers part behaviour) (inTurn : whole.RunsInTurn) (member : part ∈ whole.parts) :
    (indexAccount reached whole).Behaves noted answers behaviour := by
  refine fun x => (runs x).mono fun events o ran own before fits => ?_
  obtain ⟨starts, after, ran, told, final⟩ := ran own before fits
  have alone := Inside.part inTurn member ran (.nothing whole own after)
  rw [List.append_nil] at alone
  exact ⟨starts, after, alone, told, final⟩

/-- The iterations of a loop happen inside it. -/
theorem RoundsBetween.inside {loop : Processor κ} {first second : Option Value} {events : List Event}
    (rounds : RoundsBetween reached loop 0 first second events) :
    (indexAccount reached loop).leads first second events := by
  intro own before fits
  obtain ⟨starts, after, rounds, told, final⟩ := rounds own before fits
  have alone := Inside.looped rounds (.nothing loop own after)
  rw [List.append_nil] at alone
  exact ⟨starts, after, alone, told, final⟩

/-- The branches of a multicast happen inside it. -/
theorem BranchesBetween.inside {parallel stopOnError : Bool} {aggregator : Option κ} {outputs : List (Processor κ)}
    {first second : Option Value} {events : List Event}
    (branches : BranchesBetween reached outputs first second events) :
    (indexAccount reached (.multicast parallel stopOnError aggregator outputs)).leads first second events := by
  intro own before fits
  obtain ⟨starts, joining, ends, after, branches, joined, taken, told, final⟩ := branches own before fits
  have alone := Inside.gathered parallel stopOnError aggregator branches joined taken (.nothing _ own after)
  rw [List.append_nil] at alone
  exact ⟨starts ++ joining, after, alone, told, final⟩

/-- In an iteration the body finds its index, and what it leaves there is found afterwards. -/
theorem RunsAs.iterate {body : Processor κ} {behaviour : Exchange → Work κ η Outcome}
    (runs : RunsAs reached answers body behaviour) (index : Nat) (x : Exchange) :
    (Pattern.iterate behaviour index x).Ensures noted answers fun events y =>
      RoundBetween reached body index (indexView.view y) events := by
  have found : (atIndex index x).copy.property? indexProperty = some (.ofNat index) := property?_atIndex index x
  have body : (invoke behaviour (atIndex index x).copy).Ensures noted answers fun events y =>
      RanBetween reached body (some (.ofNat index)) (y.property? indexProperty) events := by
    refine (runs (atIndex index x).copy).bind fun events o ran => .pure ?_
    have contained : o.contained.property? indexProperty = o.exchange.property? indexProperty :=
      indexView.blind o.looksLike_contained
    rwa [List.append_nil, contained, ← found]
  refine body.bind fun events branch ran => .pure ?_
  obtain ⟨starts, inner, ran, told, fits⟩ := ran (some index) none (.begin index)
  rw [List.append_nil]
  exact ⟨[], starts, inner, .nothing, ran, told, fits.eq_some⟩

/-- A step that does not begin leaves what its first hook hands over. -/
theorem HandedBetween.unstarted {first second : Option Value} {events : List Event}
    (hooked : HandedBetween reached first second events) (info : StepInfo) (hooks : Hooks κ) (tracked : Bool)
    (processor : Processor κ) : RanBetween reached (.decorated info hooks tracked processor) first second events := by
  intro own before fits
  obtain ⟨starts, after, handed, told, final⟩ := hooked own before fits
  exact ⟨starts, after, .unstarted info hooks tracked processor handed, told, final⟩

/-- A step begins with an exchange that shows the index that is known behind its first hook. -/
theorem RanBetween.decorated {processor : Processor κ} {first last : Option Value} {early inside late : List Event}
    {x y : Exchange} (ran : RanBetween reached processor (x.property? indexProperty) (y.property? indexProperty) inside)
    (info : StepInfo) (hooks : Hooks κ) (tracked : Bool)
    (hooked : HandedBetween reached first (x.property? indexProperty) early)
    (posted : HandedBetween reached (y.property? indexProperty) last late) :
    RanBetween reached (.decorated info hooks tracked processor) first last
      (early ++ .started info x :: (inside ++ .ended info y :: late)) := by
  intro own before fits
  obtain ⟨earlier, middle, handed, told, found⟩ := hooked own before fits
  obtain ⟨starts, behind, ran, during, left⟩ := ran own middle found
  obtain ⟨later, after, passed, also, final⟩ := posted own behind left
  refine ⟨_, after, .started info hooks tracked x handed ran passed, ?_, final⟩
  exact told.append (.start ⟨own, middle, info, x⟩ found (during.append (also.of_same rfl)))

variable (tasks : TasksRan reached answers) (leaves : embedding.LeavesIndices)

include tasks leaves

/-- A decorated step is refused, or runs between its hooks with an exchange that shows the index that is known. -/
theorem RunsAs.decorated (info : StepInfo) (hooks : Hooks κ) (tracked : Bool) {processor : Processor κ}
    {inner : Exchange → Work κ η Outcome} (part : RunsAs reached answers processor inner) :
    RunsAs reached answers (.decorated info hooks tracked processor) (Pattern.decorated surroundings info
      (hookAt embedding .pre info hooks.pre) (hookAt embedding .post info hooks.post) tracked inner) := by
  intro x
  rw [← property?_entered info tracked x]
  rcases entering : entered info tracked x with ⟨begun, record⟩
  refine ensures_decorated_of (handedBetween_runHook tasks leaves .pre info hooks.pre) part
    (handedBetween_runHook tasks leaves .post info hooks.post) entering ?_ ?_ ?_
  · intro now cancelled fault _
    rw [Outcome.returned, property?_finishRecord]
    exact ((handedBetween_nothing _).behind rfl).unstarted info hooks tracked processor
  · exact fun early first hooked _ => hooked.unstarted info hooks tracked processor
  · intro now cancelled early first inside done late last _ hooked ran posted
    have whole := ran.decorated info hooks tracked hooked posted
    split
    · exact whole
    · rwa [property?_finishRecord]

/-- Iterations that are counted are runs of the loop. -/
theorem RunsAs.countLoop (count : Evaluator κ) {processor : Processor κ} {body : Exchange → Work κ η Outcome}
    (runs : RunsAs reached answers processor body) :
    RunsAs reached answers (.countLoop count processor) (Pattern.countLoop (evaluate embedding count) body) := by
  refine runsAs_of_behaves (.countLoop count processor) fun x => ?_
  refine Account.Rests.follow ((asideBetween_evaluate tasks leaves count x).mono fun _ _ aside => aside.inside _)
    fun ending => ?_
  split
  · have done (index : Nat) (seen : Option Value) :
        RoundsBetween reached (.countLoop count processor) index seen seen [] :=
      fun own before fits => ⟨[], before, .done count processor index before, .nothing rfl, fits⟩
    exact ((repeats_between (.count count processor)).countFrom runs.iterate done _ 0 x).mono
      fun _ _ rounds => rounds.inside
  · exact Account.returned (.of_same rfl rfl)
  · exact .pure ((indexAccount reached _).still _)

/-- Iterations under a condition are runs of the loop. -/
theorem RunsAs.whileLoop (condition : Evaluator κ) (policy : ConditionPolicy) {processor : Processor κ}
    {body : Exchange → Work κ η Outcome} (patience : Nat) (runs : RunsAs reached answers processor body) :
    RunsAs reached answers (.whileLoop condition policy processor) (Pattern.whileLoop
      (fun x => Program.blocked (.returned x)) patience (holds embedding condition) policy body) := by
  refine runsAs_of_behaves (.whileLoop condition policy processor) fun x => ?_
  have ends (index : Nat) (y : Exchange) (events : List Event) (asking : AsideBetween reached events) :
      RoundsBetween reached (.whileLoop condition policy processor) index (indexView.view y)
        (indexView.view (atIndex index y)) events := by
    obtain ⟨starts, asking, told⟩ := asking
    have noted : indexView.view (atIndex index y) = some (.ofNat index) := property?_atIndex index y
    rw [noted]
    exact fun own before _ =>
      ⟨starts, some index, .noted condition policy processor index before asking, told, .of_noted own index⟩
  exact ((repeats_between (.while condition policy processor)).whileFrom runs.iterate policy (fun _ _ => .blocked _)
    (asideBetween_holds tasks leaves condition) ends patience 0 x).mono fun _ _ rounds => rounds.inside

/-- What happens in processors that leave the property alone are runs of them. -/
theorem accounting_between :
    Accounting answers embedding (indexAccount reached) (·.Leaves (.property indexProperty))
      (RunsAs reached answers) where
  inside
    | .intro _ parts, _ => parts
  pieces
    | .intro own _, _ => keepsPieces tasks leaves _ own
  tasks _ task events o answered :=
    have ⟨arrived, ran⟩ := tasks task events o answered
    (ran.handed arrived).inside _
  part inTurn member runs := runs.inside inTurn member
  whole _ plain behaves := runsAs_of_behaves plain behaves
  decorates info hooks tracked _ _ fine part := by
    obtain ⟨_, parts⟩ := fine
    exact (part (parts _ List.mem_cons_self)).decorated tasks leaves info hooks tracked
  multicast {parallel stopOnError aggregator outputs branches} _ each := by
    have joins : ∀ aggregate ∈ aggregator.map embedding.aggregate, Gathers.Joins indexView
        (BranchesBetween reached outputs) (AsideBetween reached) noted answers aggregate := by
      intro aggregate found
      obtain ⟨code, -, rfl⟩ := Option.map_eq_some_iff.mp found
      exact joins_between tasks leaves outputs code
    refine runsAs_of_behaves (.multicast parallel stopOnError aggregator outputs) fun x => ?_
    refine ((gathers_between outputs).multicast _ joins (fun branch member y => ?_) x).mono
      fun _ _ made => made.inside
    obtain ⟨part, listed, runs⟩ := each branch member
    exact (runs y).mono fun events o ran => ⟨part, listed, ran⟩
  countLoop _ runs := runs.countLoop tasks leaves _
  whileLoop patience _ runs := runs.whileLoop tasks leaves _ _ patience

end Processors

/-! ## Runs of routes -/

section Routes

variable {embedding : Embedding κ η} {reached : Processor κ → Prop} (leaves : embedding.LeavesIndices)
  (routes : ∀ processor, reached processor → processor.Leaves (.property indexProperty))

include leaves routes

/-- The events of tasks are those of runs. -/
theorem tasksRan_of_traces (fuel : Nat) :
    TasksRan reached (TracesOf embedding (fun task => reached task.1) fuel) := by
  induction fuel with
  | zero =>
    intro task events o never
    cases never
  | succ fuel tasks =>
    rintro task events o ⟨arrived, traced⟩
    have accounting := accounting_between tasks leaves
    exact ⟨arrived, good_behaviour accounting fuel task.1 (routes task.1 arrived) task.2 events o traced⟩

/-- Where nothing but loops changes the property for indices, the events of a processor are those of a run in which each
step begins with an exchange that shows the index that is known: that which another loop noted last in the same
iteration of the innermost loop around the step, and before any did, the index of that iteration. -/
theorem starts_of_traces (patience fuel : Nat) {processor : Processor κ}
    (untouched : processor.Leaves (.property indexProperty)) {x : Exchange} {events : List Event} {o : Outcome}
    (ran : (behaviour embedding patience processor x).Traces noted
      (TracesOf embedding (fun task => reached task.1) fuel) events o) :
    ∃ starts after, Ran reached processor none none starts after ∧
      starts.map (fun start => (start.info, start.entered)) = events.filterMap Event.start? ∧
      ∀ start ∈ starts, start.Shows := by
  have accounting := accounting_between (tasksRan_of_traces leaves routes fuel) leaves
  have runs := good_behaviour accounting patience processor untouched x events o ran
  obtain ⟨starts, after, ran, told, -⟩ := runs none none (.outside _)
  exact ⟨starts, after, ran, told.same, told.shown⟩

end Routes

/-! ## A step behind a loop in a loop -/

/-- The code that does nothing leaves the property alone. -/
theorem leavesIndices_idle : idle.LeavesIndices where
  unnoted :=
    { evaluate := fun _ _ _ => .pure .nothing
      function := fun _ _ _ => .pure .nothing
      process := fun _ _ _ => .pure .nothing
      hook := fun _ _ _ _ _ => .pure .nothing
      aggregate := fun _ _ _ _ => .pure .nothing
      convert := fun _ _ _ _ => .pure .nothing
      marshal := fun _ _ _ => .pure .nothing
      unmarshal := fun _ _ _ _ => .pure .nothing }
  function _ _ _ := .pure (.nothing _)
  process _ _ _ := .pure (.nothing _)
  hook _ _ _ _ _ := .pure (.nothing _)
  aggregate _ _ before branch := .pure fun y same => by
    cases same
    exact ⟨branch, List.mem_append_right _ List.mem_cons_self, rfl⟩

/-- A loop of two iterations in a loop of one, and a step behind it. -/
def loopInLoop : Definition Nat :=
  ⟨"r", "direct:in", [.loop (.count (.constant (.int 1)))
    [.loop (.count (.constant (.int 2))) [.removeHeader "inner"] .propagate, .removeHeader "outer"] .propagate]⟩

/-- A context without functions, data formats and hooks. -/
def plainContext : CompileContext Nat := ⟨⟨"function", []⟩, ⟨"data format", []⟩, [], {}, false⟩

/-- What a step that removes a header is compiled to. -/
def removing (name : String) : Processor Nat :=
  plainContext.decorate "r" s!"removeHeader[{name}]" (.leaf (.removeHeader name))

/-- What a loop is compiled to. -/
def looping (times : Int64) (body : Processor Nat) : Processor Nat :=
  plainContext.decorate "r" "loop" (.countLoop (.constant (.int times)) body)

/-- What the steps of the outer loop are compiled to. -/
def loopAndStep : Processor Nat := .pipeline false [looping 2 (removing "inner"), removing "outer"]

/-- What the definition is compiled to. -/
def routeToOuter : Route Nat :=
  ⟨"r", "direct:in", looping 1 (plainContext.decorate "r" "pipeline" loopAndStep)⟩

/-- What the compiled route does with an exchange. -/
def workToOuter : Work Nat Unit Outcome := behaviour idle 9 routeToOuter.processor recordedExchange

/-- What happens meanwhile. -/
def eventsToOuter : List Event :=
  Program.notedAlong noted recordingEngine (workToOuter.passed (fun _ _ => none) (fun _ _ => []) recordingEngine)

/-- A processor that itself changes nothing leaves a place alone as its parts do. -/
theorem leaves_of_parts {place : Place} {processor : Processor Nat} (own : processor.place? = none)
    (parts : ∀ part ∈ processor.parts, part.Leaves place) : processor.Leaves place :=
  .intro (by rw [own]; exact Option.not_mem_none place) parts

/-- A decorated step leaves a place alone as it does without. -/
theorem leaves_decorate {place : Place} {inner : Processor Nat} (within : inner.Leaves place) (step : String) :
    (plainContext.decorate "r" step inner).Leaves place :=
  leaves_of_parts rfl (List.forall_mem_singleton.mpr within)

/-- A loop leaves a place alone as its body does. -/
theorem leaves_looping {place : Place} {body : Processor Nat} (within : body.Leaves place) (times : Int64) :
    (looping times body).Leaves place := by
  have loop : (Processor.countLoop (.constant (.int times)) body).Leaves place :=
    leaves_of_parts rfl (List.forall_mem_singleton.mpr within)
  exact leaves_decorate loop "loop"

/-- A step that removes a header leaves properties alone. -/
theorem leaves_removing (name property : String) : (removing name).Leaves (.property property) :=
  leaves_decorate (.intro (fun own => by cases own) (List.forall_mem_nil _)) _

/-- In the route nothing but loops changes the property. -/
theorem leaves_routeToOuter : routeToOuter.processor.Leaves (.property indexProperty) := by
  have inside := leaves_looping (leaves_removing "inner" indexProperty) 2
  have behind := leaves_removing "outer" indexProperty
  have steps : loopAndStep.Leaves (.property indexProperty) :=
    leaves_of_parts rfl (List.forall_mem_cons.mpr ⟨inside, List.forall_mem_singleton.mpr behind⟩)
  exact leaves_looping (leaves_decorate steps "pipeline") 1

/-- The work of the route has the trace that is noted. -/
theorem traces_workToOuter : ∃ o, workToOuter.Traces noted (TracesOf idle (fun _ => False) 0) eventsToOuter o := by
  obtain ⟨o, after, ran⟩ : ∃ o after, workToOuter.runWith (fun _ _ => none) recordingEngine = some (o, after) :=
    ⟨_, _, rfl⟩
  exact ⟨o, (Program.traces_of_runWith (Program.keepsTo_none noted _) workToOuter ran).1⟩

/-- In the route of two loops each step begins with an exchange that shows the index that is known. -/
theorem starts_of_traces_loopInLoop :
    loopInLoop.compile plainContext (.root 0) = .ok routeToOuter ∧ idle.LeavesIndices ∧
    routeToOuter.processor.Leaves (.property indexProperty) ∧
    (∃ o, workToOuter.Traces noted (TracesOf idle (fun _ => False) 0) eventsToOuter o) ∧
    ∃ starts after, Ran (fun _ => False) routeToOuter.processor none none starts after ∧
      starts.map (fun start => (start.info, start.entered)) = eventsToOuter.filterMap Event.start? ∧
      ∀ start ∈ starts, start.Shows := by
  obtain ⟨o, traced⟩ := traces_workToOuter
  exact ⟨rfl, leavesIndices_idle, leaves_routeToOuter, ⟨o, traced⟩,
    starts_of_traces leavesIndices_idle (fun _ never => never.elim) 9 0 leaves_routeToOuter traced⟩

section Derivation

variable {reached : Processor Nat → Prop}

/-- A step without hooks begins, and then runs. -/
theorem ran_decorate {processor : Processor Nat} {own before after : Option Nat} {starts : List Start} (step : String)
    (x : Exchange) (ran : Ran reached processor own before starts after) :
    Ran reached (plainContext.decorate "r" step processor) own before (⟨own, before, ⟨"r", step⟩, x⟩ :: starts)
      after := by
  have between := Ran.started ⟨"r", step⟩ {} false x (.nothing own before) ran (.nothing own after)
  rwa [List.append_nil] at between

/-- A loop begins, and then its iterations run. -/
theorem ran_looping {body : Processor Nat} {before after : Option Nat} {starts : List Start} (own : Option Nat)
    (times : Int64) (x : Exchange)
    (rounds : Rounds reached (.countLoop (.constant (.int times)) body) 0 before starts after) :
    Ran reached (looping times body) own before (⟨own, before, ⟨"r", "loop"⟩, x⟩ :: starts) after := by
  have inside := Inside.looped rounds (.nothing _ own after)
  rw [List.append_nil] at inside
  exact ran_decorate "loop" x (.within (.countLoop _ _) inside)

/-- A step that removes a header runs. -/
theorem ran_removing (name : String) (x : Exchange) (own before : Option Nat) :
    Ran reached (removing name) own before [⟨own, before, ⟨"r", s!"removeHeader[{name}]"⟩, x⟩] before :=
  ran_decorate _ x (.within nofun (.nothing _ own before))

/-- With whatever exchanges the steps of the route begin, this is a run of it. -/
theorem ran_routeToOuter (a b c d e f : Exchange) :
    Ran reached routeToOuter.processor none none
      [⟨none, none, ⟨"r", "loop"⟩, a⟩, ⟨some 0, none, ⟨"r", "pipeline"⟩, b⟩, ⟨some 0, none, ⟨"r", "loop"⟩, c⟩,
        ⟨some 0, none, ⟨"r", "removeHeader[inner]"⟩, d⟩, ⟨some 1, none, ⟨"r", "removeHeader[inner]"⟩, e⟩,
        ⟨some 0, some 1, ⟨"r", "removeHeader[outer]"⟩, f⟩] (some 1) := by
  have rounds : Rounds reached (.countLoop (.constant (.int 2)) (removing "inner")) 0 none
      [⟨some 0, none, ⟨"r", "removeHeader[inner]"⟩, d⟩, ⟨some 1, none, ⟨"r", "removeHeader[inner]"⟩, e⟩] (some 1) :=
    .next (.count _ _) .nothing (ran_removing "inner" d (some 0) none)
      (.last (.count _ _) .nothing (ran_removing "inner" e (some 1) none))
  have inner := ran_looping (some 0) 2 c rounds
  have outer : Ran reached (removing "outer") (some 0) (some 1) _ (some 1) := ran_removing "outer" f (some 0) (some 1)
  have behind := Inside.part (.pipeline ..) (List.mem_cons_of_mem _ List.mem_cons_self) outer
    (.nothing loopAndStep (some 0) (some 1))
  have steps := Inside.part (.pipeline ..) List.mem_cons_self inner behind
  have plain : loopAndStep.IsPlain := nofun
  exact ran_looping none 1 a (.last (.count _ _) .nothing (ran_decorate "pipeline" b (.within plain steps)))

end Derivation

/-- The step behind the inner loop is in the first iteration of the outer loop, and is shown the index of the second one
of the inner loop, though nothing but the two loops changes the property. -/
theorem outer_index_lost :
    loopInLoop.compile plainContext (.root 0) = .ok routeToOuter ∧ idle.LeavesIndices ∧
    routeToOuter.processor.Leaves (.property indexProperty) ∧
    (∃ o, workToOuter.Traces noted (TracesOf idle (fun _ => False) 0) eventsToOuter o) ∧
    ∃ starts, Ran (fun _ => False) routeToOuter.processor none none starts (some 1) ∧
      starts.map (fun start => (start.info, start.entered)) = eventsToOuter.filterMap Event.start? ∧
      ∃ start ∈ starts, start.info = ⟨"r", "removeHeader[outer]"⟩ ∧ start.own = some 0 ∧
        start.entered.property? indexProperty = some (.ofNat 1) ∧ ¬start.ShowsOwn := by
  obtain ⟨a, b, c, d, e, f, same, shown⟩ : ∃ a b c d e f,
      [(⟨"r", "loop"⟩, a), (⟨"r", "pipeline"⟩, b), (⟨"r", "loop"⟩, c), (⟨"r", "removeHeader[inner]"⟩, d),
        (⟨"r", "removeHeader[inner]"⟩, e), (⟨"r", "removeHeader[outer]"⟩, f)] =
          eventsToOuter.filterMap Event.start? ∧ f.property? indexProperty = some (.ofNat 1) :=
    ⟨_, _, _, _, _, _, rfl, rfl⟩
  refine ⟨rfl, leavesIndices_idle, leaves_routeToOuter, traces_workToOuter, _, ran_routeToOuter a b c d e f, same, ?_⟩
  refine ⟨⟨some 0, some 1, ⟨"r", "removeHeader[outer]"⟩, f⟩, by simp, rfl, rfl, shown, fun shows => ?_⟩
  have own : f.property? indexProperty = some (.ofNat 0) := shows 0 rfl
  rw [shown] at own
  cases own

end Indexed

end MessageRouting
