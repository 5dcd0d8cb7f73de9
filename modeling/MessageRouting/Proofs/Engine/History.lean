import MessageRouting.Proofs.Engine.Basis
import MessageRouting.Proofs.Exchange.Records

/-!
# The history of an exchange

A tracked step begins a record before anything else and finishes it last, by its place. In between the exchange may be
copied, joined and handed to other routes, hooks run, and its steps fail or panic; but as long as nobody else touches
the history, the records that were there stay where they are, so the place is still that of the record. What a step did
to a history is thus one record and, behind it, what the steps inside did.
-/

namespace MessageRouting

open Pattern

variable {κ η : Type}

/-! ## Records begin and end -/

/-- A record that begins comes behind the others, and its place is how many there are. -/
theorem Exchange.recorded?_beginRecord (info : StepInfo) {x : Exchange} {before : History}
    (recorded : x.recorded? = some before) :
    (beginRecord info x).1.recorded? = some (before.begin info.route info.step) ∧
      (beginRecord info x).2 = before.length := by
  refine ⟨recorded?_mapHistory recorded _, ?_⟩
  exact congrArg List.length (history?_getD recorded)

/-- A record that ends is finished where it began, if others came behind it only. -/
theorem Exchange.recorded?_finishRecord (info : StepInfo) {x : Exchange} {before new : History}
    (recorded : x.recorded? = some (before.begin info.route info.step ++ new)) :
    (finishRecord (some before.length) x).recorded? = some (before ++ ⟨info.route, info.step, true⟩ :: new) := by
  rw [← History.finish_begin before new]
  exact recorded?_mapHistory recorded _

/-- The records grow by that of a step, which is finished, and behind it by others that are; all of them stand in the
order in which their steps were entered. -/
def History.GrowsFrom (info : StepInfo) (first second : Option History) (events : List Event) : Prop :=
  ∀ before, first = some before → ∃ new, second = some (before ++ ⟨info.route, info.step, true⟩ :: new) ∧
    (∀ record ∈ new, record.finished = true) ∧
    Follows before.length (⟨info.route, info.step, true⟩ :: new) events

/-- Records that grow from a step grow. -/
theorem History.GrowsFrom.grows {info : StepInfo} {first second : Option History} {events : List Event}
    (grown : GrowsFrom info first second events) : Grows first second events := by
  intro before recorded
  obtain ⟨new, final, finished, follows⟩ := grown before recorded
  exact ⟨_ :: new, final, List.forall_mem_cons.mpr ⟨rfl, finished⟩, follows⟩

/-! ## Code that leaves histories alone -/

/-- From some records to others nothing happened, except that the exchange was handed over, and that an answer was taken
over with its records. -/
inductive LeavesHistory (answers : Processor κ × Exchange → List Event → Outcome → Prop) :
    Option History → Option History → List Event → Prop
  /-- The records are the same, whatever happened elsewhere. -/
  | same (records : Option History) (events : List Event) : LeavesHistory answers records records events
  /-- The records are handed over, and those of the answer are taken. -/
  | handed {task : Processor κ × Exchange} {o : Outcome} {inside later : List Event} {last : Option History}
    (events : List Event) (answered : answers task inside o)
    (rest : LeavesHistory answers o.exchange.recorded? last later) :
    LeavesHistory answers task.2.recorded? last (events ++ (inside ++ later))

/-- Records that are left alone grow by what tasks add to them. -/
theorem LeavesHistory.grows {answers : Processor κ × Exchange → List Event → Outcome → Prop}
    (tasks : ∀ task events o, answers task events o →
      historyAccount.leads task.2.headers o.exchange.headers events)
    {first second : Option History} {events : List Event} (leaves : LeavesHistory answers first second events)
    (spares : SparesHistory events) : History.Grows first second events := by
  induction leaves with
  | same records events => exact .same records events
  | @handed task o inside later last earlier answered rest ih =>
    have inner : History.Grows task.2.recorded? o.exchange.recorded? inside :=
      tasks task inside o answered spares.later.first
    exact (inner.trans (ih spares.later.later)).after earlier

/-- The code of an embedding program leaves histories alone, whatever tasks answer: functions and processors do not
touch them, except that they may hand their exchange over, and joined branches have the history of one of them. -/
structure Embedding.LeavesHistories (embedding : Embedding κ η) : Prop where
  /-- Functions. -/
  function : ∀ (answers : Processor κ × Exchange → List Event → Outcome → Prop) (code : κ) (x : Exchange),
    (embedding.function code x).Ensures Engine.noted answers fun events ended =>
      LeavesHistory answers x.recorded? ended.1.recorded? events
  /-- Processors. -/
  process : ∀ (answers : Processor κ × Exchange → List Event → Outcome → Prop) (code : κ) (x : Exchange),
    (embedding.process code x).Ensures Engine.noted answers fun events o =>
      LeavesHistory answers x.recorded? o.exchange.recorded? events
  /-- Joining branches. -/
  aggregate : ∀ (answers : Processor κ × Exchange → List Event → Outcome → Prop) (code : κ)
    (before : Option Exchange) (branch : Exchange),
    (embedding.aggregate code before branch).Ensures Engine.noted answers fun _ joined =>
      ∀ y, joined = .ok y → ∃ one ∈ before.toList ++ [branch], y.recorded? = one.recorded?

/-- Hooks do not panic. -/
def Embedding.HooksReturn (embedding : Embedding κ η) : Prop :=
  ∀ (answers : Processor κ × Exchange → List Event → Outcome → Prop) (code : κ) (point : HookPoint) (info : StepInfo)
    (x : Exchange), (embedding.hook code point info x).Ensures Engine.noted answers fun _ o => o.panic = none

/-- Hooks leave histories as they found them. -/
def Embedding.HooksLeaveHistories (embedding : Embedding κ η) : Prop :=
  ∀ (answers : Processor κ × Exchange → List Event → Outcome → Prop) (code : κ) (point : HookPoint) (info : StepInfo)
    (x : Exchange), (embedding.hook code point info x).Ensures Engine.noted answers fun _ o =>
      o.exchange.recorded? = x.recorded?

namespace Engine

variable {embedding : Embedding κ η} {answers : Processor κ × Exchange → List Event → Outcome → Prop}

/-! ## Decorated steps -/

/-- Once among the events a step is entered, with the records that the exchange has; the records grow from there, and
that of the step is finished in the end. -/
def Enters (info : StepInfo) (record : Option Nat) (x : Exchange) (events : List Event) (o : Outcome) : Prop :=
  ∃ (event : Event) (y z : Exchange) (earlier later : List Event),
    (event = .started info y ∨ event = .refused info y) ∧ y.recorded? = x.recorded? ∧
      History.Grows y.recorded? z.recorded? later ∧ events = earlier ++ event :: later ∧
      o.exchange = finishRecord record z

section Decorated

variable (returning : embedding.HooksReturn) (untouched : embedding.HooksLeaveHistories)

include returning untouched

/-- A hook neither panics nor touches the history. -/
theorem ensures_runHook (point : HookPoint) (info : StepInfo) (hook : Option κ) (x : Exchange) :
    (runHook surroundings point info (hookAt embedding point info hook) x).Ensures noted answers fun _ o =>
      o.panic = none ∧ o.exchange.recorded? = x.recorded? := by
  refine ensures_runHook_of (fun _ => ⟨rfl, rfl⟩) fun code _ events o ran => ?_
  exact ⟨returning answers code point info x events o ran, untouched answers code point info x events o ran⟩

/-- A decorated step is entered with the records that are there when its own has begun. -/
theorem ensures_decorated (info : StepInfo) (hooks : Hooks κ) (tracked : Bool) {inner : Exchange → Work κ η Outcome}
    (part : ¬info.Changes historyHeader → historyAccount.Behaves noted answers inner) (x : Exchange) :
    (decorated surroundings info (hookAt embedding .pre info hooks.pre) (hookAt embedding .post info hooks.post) tracked
      inner x).Ensures noted answers fun events o => SparesHistory events →
        Enters info (entered info tracked x).2 (entered info tracked x).1 events o := by
  -- A step that changes the history by its name has begun then, so nothing is said of what it does.
  have inside (y : Exchange) : (inner y).Ensures noted answers fun events o =>
      ¬info.Changes historyHeader → historyAccount.leads y.headers o.exchange.headers events :=
    fun events o ran strict => part strict y events o ran
  rcases entering : entered info tracked x with ⟨begun, record⟩
  refine ensures_decorated_of (ensures_runHook returning untouched .pre info hooks.pre) inside
    (ensures_runHook returning untouched .post info hooks.post) entering ?_ ?_ ?_
  · intro now cancelled fault _ _
    exact ⟨.refused info begun, begun, begun.fail fault, [], [], .inr rfl, rfl, .same _ _, rfl, rfl⟩
  · intro early first hooked panicked
    rw [hooked.1] at panicked
    contradiction
  · intro now cancelled early first inside done late last _ hooked led posted spares
    rw [posted.1]
    have strict : ¬info.Changes historyHeader := spares info first.exchange (by simp)
    have afterwards : SparesHistory ([.started info first.exchange] ++ (inside ++ .ended info done.exchange :: late)) :=
      spares.later
    refine ⟨.started info first.exchange, first.exchange, last.exchange, early, _, .inl rfl, hooked.2, ?_, rfl, rfl⟩
    rw [posted.2]
    exact (led strict afterwards.later.first).before _

/-- A tracked step adds its record and, behind it, those of the steps inside. -/
theorem ensures_tracked (info : StepInfo) (hooks : Hooks κ) {inner : Exchange → Work κ η Outcome}
    (part : ¬info.Changes historyHeader → historyAccount.Behaves noted answers inner) (x : Exchange) :
    (decorated surroundings info (hookAt embedding .pre info hooks.pre) (hookAt embedding .post info hooks.post) true
      inner x).Ensures noted answers fun events o =>
        SparesHistory events → History.GrowsFrom info x.recorded? o.exchange.recorded? events := by
  refine (ensures_decorated returning untouched info hooks true part x).mono fun events o enters spares => ?_
  intro before recorded
  obtain ⟨event, y, z, earlier, later, entering, kept, grown, rfl, left⟩ := enters spares
  obtain ⟨begun, place⟩ := Exchange.recorded?_beginRecord info recorded
  have unfinished : y.recorded? = some (before.begin info.route info.step) := kept.trans begun
  obtain ⟨new, final, finished, follows⟩ := grown _ unfinished
  refine ⟨new, ?_, finished, .after earlier (.enter ⟨info, y, before, entering, rfl, rfl, rfl, unfinished⟩ ?_)⟩
  · rw [left]
    change (finishRecord (some (beginRecord info x).2) z).recorded? = _
    rw [place]
    exact Exchange.recorded?_finishRecord info final
  · rwa [History.length_begin] at follows

/-- Decorated steps let histories grow. -/
theorem behaves_decorated (info : StepInfo) (hooks : Hooks κ) (tracked : Bool) {inner : Exchange → Work κ η Outcome}
    (part : ¬info.Changes historyHeader → historyAccount.Behaves noted answers inner) :
    historyAccount.Behaves noted answers (decorated surroundings info (hookAt embedding .pre info hooks.pre)
      (hookAt embedding .post info hooks.post) tracked inner) := by
  intro x
  cases tracked with
  | true =>
    exact (ensures_tracked returning untouched info hooks part x).mono fun events o grown spares =>
      (grown spares).grows
  | false =>
    refine (ensures_decorated returning untouched info hooks false part x).mono fun events o enters spares => ?_
    obtain ⟨event, y, z, earlier, later, entering, kept, grown, rfl, left⟩ := enters spares
    have all := (grown.after [event]).after earlier
    rw [kept] at all
    rw [left]
    exact all

end Decorated

/-! ## Runs -/

/-- The traces of tasks in which nothing changes the history but steps whose names say so; compiled routes are such. -/
abbrev TracesOfSparing (embedding : Embedding κ η) : Nat → Processor κ × Exchange → List Event → Outcome → Prop :=
  Program.TracesWithin (carryOut embedding) noted fun task => task.1.SparesHeader historyHeader

section Runs

variable (leaves : embedding.LeavesHistories) (returning : embedding.HooksReturn)
  (untouched : embedding.HooksLeaveHistories)

include leaves returning untouched

/-- The pieces of work let histories grow, if tasks do. -/
theorem keepsAccount_history
    (tasks : ∀ task events o, answers task events o →
      historyAccount.leads task.2.headers o.exchange.headers events) :
    KeepsAccount historyAccount answers (· ≠ historyHeader) (StepInfo.Changes historyHeader) embedding where
  put {place} free x value _ := by
    cases place with
    | header name =>
      change History.Grows _ (History.inHeaders? (x.headers.insert name value)) []
      rw [History.inHeaders?_insert free]
      exact .same _ _
    | body | property name => exact .same _ _
  take {place} free x _ := by
    cases place with
    | header name =>
      change History.Grows _ (History.inHeaders? (x.headers.erase name)) []
      rw [History.inHeaders?_erase free]
      exact .same _ _
    | body | property name => exact .same _ _
  log _ _ _ _ _ := .same _ _
  setsAside := setsAside_historyAccount
  unindexed _ _ := rfl
  ask := tasks
  evaluate _ _ _ _ _ _ _ := .same _ _
  convert _ _ _ _ _ _ _ _ := .same _ _
  marshal _ _ _ _ _ _ _ := .same _ _
  unmarshal _ _ _ _ _ _ _ _ := .same _ _
  function code x := (leaves.function answers code x).mono fun _ _ left spares => left.grows tasks spares
  process code x := (leaves.process answers code x).mono fun _ _ left spares => left.grows tasks spares
  aggregate code before branch := by
    refine (leaves.aggregate answers code before branch).mono fun later joined chosen => ?_
    refine ⟨fun _ _ => .same _ _, fun y same headers events covered spares => ?_⟩
    obtain ⟨one, member, found⟩ := chosen y same
    have grown : History.Grows (History.inHeaders? headers) one.recorded? events := covered.each one member spares
    rwa [← found] at grown
  decorates info hooks tracked _ part := behaves_decorated returning untouched info hooks tracked part

/-- Tasks let histories grow. -/
theorem leads_of_traces : ∀ fuel task events o,
    TracesOfSparing embedding fuel task events o →
      historyAccount.leads task.2.headers o.exchange.headers events :=
  Program.ensures_tracesWithin fun fuel _ tasks task ofKind =>
    behaves_behaviour (keepsAccount_history leaves returning untouched tasks) fuel task.1 ofKind task.2

end Runs

end Engine

/-- The step that an event says has begun. -/
def Event.begun? : Event → Option StepInfo
  | .started info _ => some info
  | _ => none

namespace Engine

/-- Some functions do nothing, and the others panic. -/
def panicking : Embedding Nat Unit where
  evaluate _ _ := return .returned .null
  function code x := return (x, if code = 0 then .returned () else .panicked .other)
  process _ x := return .returned x
  hook _ _ _ x := return .returned x
  aggregate _ _ branch := return .ok branch
  convert _ value _ := return .returned value
  formatName _ := ""
  marshal _ _ := return .returned ""
  unmarshal _ _ _ := return .returned .null
  component _ _ state := (.error .cancelled, state)

/-- The code that panics leaves histories alone. -/
theorem leavesHistories_panicking : panicking.LeavesHistories where
  function _ _ x := .pure (.same x.recorded? [])
  process _ _ x := .pure (.same x.recorded? [])
  aggregate _ _ before branch := .pure fun y same => by
    cases same
    exact ⟨branch, List.mem_append_right _ List.mem_cons_self, rfl⟩

/-- A context with a function of each kind, in which histories are kept. -/
def panickingContext : CompileContext Nat :=
  ⟨⟨"function", [("panic", .function 1), ("rest", .function 0)]⟩, ⟨"data format", []⟩, [], {}, true⟩

/-- The functions of the context have no steps. -/
theorem sparesHeader_panickingContext (name : String) (processor : Processor Nat)
    (found : panickingContext.functions.get? name = some processor) : processor.SparesHeader historyHeader := by
  simp only [panickingContext, Registry.get?, Table.find?] at found
  split at found
  · cases found
    exact CompileContext.spares_of_parts rfl (List.forall_mem_nil _)
  · split at found
    · cases found
      exact CompileContext.spares_of_parts rfl (List.forall_mem_nil _)
    · cases found

/-- A loop over a function that does nothing, and one that panics. -/
def panicBehindLoop : Definition Nat :=
  ⟨"r", "direct:in", [.loop (.count (.constant (.int 2))) [.function "rest"] .propagate, .function "panic"]⟩

/-- What the definition is compiled to. -/
def routeToPanic : Route Nat :=
  let step (name : String) : Processor Nat → Processor Nat := panickingContext.decorate "r" name
  ⟨"r", "direct:in", step "pipeline" (.pipeline false
    [step "loop" (.countLoop (.constant (.int 2)) (step "process[rest]" (.function 0))),
      step "process[panic]" (.function 1)])⟩

/-- An exchange that has been to another route. -/
def recordedExchange : Exchange :=
  .create (.root 1) (Scope.root (.root 0)) [(historyHeader, .object (.history [⟨"s", "log", true⟩]))] .null

/-- An engine for the exchange. -/
def recordingEngine : Engine Nat Unit := .standard {} 0 ()

/-- What the compiled route does with the exchange. -/
def workToPanic : Work Nat Unit Outcome := behaviour panicking 9 routeToPanic.processor recordedExchange

/-- What happens up to the panic, when no task is handed over. -/
def eventsToPanic : List Event :=
  Program.notedAlong noted recordingEngine (workToPanic.passed (fun _ _ => none) (fun _ _ => []) recordingEngine)

/-- What is put behind a text does not change how it starts. -/
theorem initial_append {text : String} {letter : Char} (initial : text.toList.head? = some letter) (later : String) :
    (text ++ later).toList.head? = some letter := by
  rw [String.toList_append, List.head?_append, initial]
  rfl

/-- A name that says that a header is changed starts with one of three letters. -/
theorem initial_of_changes {header : String} {info : StepInfo} (changes : info.Changes header) :
    info.step.toList.head? ∈ [some 's', some 'r', some 'c'] := by
  have sets : (toString "setHeader[").toList.head? = some 's' := rfl
  have removes : (toString "removeHeader[").toList.head? = some 'r' := rfl
  have converts : (toString "convertHeaderTo[").toList.head? = some 'c' := rfl
  rcases changes with same | same | ⟨target, kind, -, same⟩ <;> rw [same]
  · rw [initial_append (initial_append sets _) _]
    decide
  · rw [initial_append (initial_append removes _) _]
    decide
  · rw [initial_append (initial_append (initial_append (initial_append converts _) _) _) _]
    decide

/-- Steps whose names start with other letters do not change the history. -/
theorem sparesHistory_of_begun {events : List Event} {steps : List StepInfo}
    (same : events.filterMap Event.begun? = steps)
    (plain : ∀ info ∈ steps, info.step.toList.head? ∉ [some 's', some 'r', some 'c']) : SparesHistory events := by
  intro info x member changes
  have begins : info ∈ events.filterMap Event.begun? :=
    List.mem_filterMap.mpr ⟨Event.started info x, member, rfl⟩
  rw [same] at begins
  exact plain info begins (initial_of_changes changes)

/-- Hooks put a text where the history is. -/
def overwriting : Embedding Nat Unit :=
  { panicking with hook := fun _ _ _ x => return .returned (x.setHeader historyHeader (.string "lost")) }

/-- A context with such a hook before each step. -/
def overwritingContext : CompileContext Nat := { panickingContext with hooks := { pre := some 0 } }

/-- A route of one step. -/
def routeToRest : Route Nat := ⟨"r", "direct:in", overwritingContext.decorate "r" "process[rest]" (.function 0)⟩

/-- What the route does, with the hook, with an exchange that has a history. -/
def workToRest : Work Nat Unit Outcome := behaviour overwriting 9 routeToRest.processor recordedExchange

/-- What happens meanwhile. -/
def eventsToRest : List Event :=
  Program.notedAlong noted recordingEngine (workToRest.passed (fun _ _ => none) (fun _ _ => []) recordingEngine)

end Engine

end MessageRouting
