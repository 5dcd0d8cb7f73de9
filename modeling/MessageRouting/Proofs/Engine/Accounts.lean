import MessageRouting.Engine.Run
import MessageRouting.Proofs.Pattern.Account
import MessageRouting.Proofs.Route.Guarded

/-!
# Processors that keep to an account

What a processor does is put together from few pieces, and only some of them change headers and properties: steps that
set, remove or convert one, code of the embedding program, and tasks. If each of these keeps to an account of what may
happen to an exchange, and decorating does, whatever a processor does keeps to it.
-/

namespace MessageRouting

/-- The header that a step without steps inside gives a value or takes away. -/
def Leaf.header? {κ : Type} : Leaf κ → Option String
  | .setHeader name _ => some name
  | .removeHeader name => some name
  | .convert (.header name) _ _ => some name
  | _ => none

/-- The place that a step without steps inside changes. -/
def Leaf.place? {κ : Type} : Leaf κ → Option Place
  | .setBody _ | .marshal _ | .unmarshal _ _ => some .body
  | .setHeader name _ | .removeHeader name => some (.header name)
  | .setProperty name _ | .removeProperty name => some (.property name)
  | .convert place _ _ => some place
  | .setError _ | .delay _ | .log _ _ _ => none

/-- The place that a processor itself changes. -/
def Processor.place? {κ : Type} : Processor κ → Option Place
  | .leaf step => step.place?
  | _ => none

/-- A place that may be changed where some headers may. -/
def Place.IsFree (free : String → Prop) : Place → Prop
  | .header name => free name
  | .body | .property _ => True

/-- The header that a processor itself gives a value or takes away. -/
def Processor.header? {κ : Type} : Processor κ → Option String
  | .leaf step => step.header?
  | _ => none

/-- What a step changes is free, if the header is that it changes. -/
theorem Leaf.isFree_place? {κ : Type} {free : String → Prop} {leaf : Leaf κ} (own : ∀ name ∈ leaf.header?, free name) :
    ∀ place ∈ leaf.place?, place.IsFree free := by
  intro place changed
  cases leaf with
  | setHeader name value | removeHeader name =>
    cases changed
    exact own name rfl
  | convert converted target params =>
    cases changed
    cases place with
    | header name => exact own name rfl
    | body | property name => trivial
  | setBody | setProperty | removeProperty | marshal | unmarshal =>
    cases changed
    trivial
  | setError | delay | log => cases changed

/-- The processor itself hands exchanges over. -/
inductive Processor.HandsOver {κ : Type} : Processor κ → Prop
  /-- To an endpoint. -/
  | to (keptAs : Identity) (uri : String) : HandsOver (.to keptAs uri)
  /-- To a direct consumer. -/
  | direct (uri name : String) (table : Nat) : HandsOver (.direct uri name table)

/-- The parts of the processor run one behind the other on the exchange itself. -/
inductive Processor.RunsInTurn {κ : Type} : Processor κ → Prop
  /-- The steps of a pipeline. -/
  | pipeline (stopOnError : Bool) (steps : List (Processor κ)) : RunsInTurn (.pipeline stopOnError steps)
  /-- The branch that is taken. -/
  | choice (clauses : List (Evaluator κ × Processor κ)) (otherwise : Option (Processor κ)) :
    RunsInTurn (.choice clauses otherwise)
  /-- The parts of a try. -/
  | tryCatch (steps : List (Processor κ)) (handlers : List (Matcher × Processor κ)) (last : List (Processor κ)) :
    RunsInTurn (.tryCatch steps handlers last)

/-- The processor is not decorated. -/
abbrev Processor.IsPlain {κ : Type} (processor : Processor κ) : Prop :=
  ∀ info hooks tracked inner, processor ≠ .decorated info hooks tracked inner

/-- A multicast is not decorated. -/
theorem Processor.IsPlain.multicast {κ : Type} (parallel stopOnError : Bool) (aggregator : Option κ)
    (outputs : List (Processor κ)) : (Processor.multicast parallel stopOnError aggregator outputs).IsPlain := nofun

/-- A loop by count is not decorated. -/
theorem Processor.IsPlain.countLoop {κ : Type} (count : Evaluator κ) (body : Processor κ) :
    (Processor.countLoop count body).IsPlain := nofun

/-- A loop under a condition is not decorated. -/
theorem Processor.IsPlain.whileLoop {κ : Type} (condition : Evaluator κ) (policy : Pattern.ConditionPolicy)
    (body : Processor κ) : (Processor.whileLoop condition policy body).IsPlain := nofun

/-- Steps of the processor change no header but free ones, unless they are inside a step that is excused. -/
inductive Processor.Spares {κ : Type} (free : String → Prop) (excused : StepInfo → Prop) : Processor κ → Prop
  /-- The step is excused. -/
  | excused {info : StepInfo} (hooks : Hooks κ) (tracked : Bool) (inner : Processor κ) (holds : excused info) :
    Spares free excused (.decorated info hooks tracked inner)
  /-- The processor itself changes no header but a free one, and neither do its parts. -/
  | within {processor : Processor κ} (own : ∀ name ∈ processor.header?, free name)
    (parts : ∀ part ∈ processor.parts, Spares free excused part) : Spares free excused processor

/-- The parts of a processor that is not decorated spare headers. -/
theorem Processor.Spares.part {κ : Type} {free : String → Prop} {excused : StepInfo → Prop}
    {processor part : Processor κ} (spares : processor.Spares free excused) (member : part ∈ processor.parts)
    (plain : processor.IsPlain) :
    part.Spares free excused := by
  cases spares with
  | excused hooks tracked inner holds => exact absurd rfl (plain _ hooks tracked inner)
  | within own parts => exact parts part member

/-- What is decorated spares headers, unless the step is excused. -/
theorem Processor.Spares.inner {κ : Type} {free : String → Prop} {excused : StepInfo → Prop} {info : StepInfo}
    {hooks : Hooks κ} {tracked : Bool} {inner : Processor κ}
    (spares : (Processor.decorated info hooks tracked inner).Spares free excused) (strict : ¬excused info) :
    inner.Spares free excused := by
  cases spares with
  | excused _ _ _ holds => exact absurd holds strict
  | within own parts => exact parts inner List.mem_cons_self

namespace Engine

open Pattern Time

variable {κ η : Type}

/-- What is noted between two states: the events by which the journal grew, the earliest first. -/
def noted (engine later : Engine κ η) : List Event :=
  (later.journal.take (later.journal.length - engine.journal.length)).reverse

/-- Where the journal stays nothing is noted. -/
theorem noted_of_same {engine later : Engine κ η} (same : later.journal = engine.journal) :
    noted engine later = [] := by
  rw [noted, same, Nat.sub_self]
  rfl

/-- An event that is noted is. -/
theorem noted_cons (engine : Engine κ η) (event : Event) :
    noted engine { engine with journal := event :: engine.journal } = [event] := by
  have grown : (event :: engine.journal).length - engine.journal.length = 1 := by
    rw [List.length_cons]
    omega
  change ((event :: engine.journal).take ((event :: engine.journal).length - engine.journal.length)).reverse = [event]
  rw [grown]
  rfl

variable {answers : Processor κ × Exchange → List Event → Outcome → Prop}

/-- Noting an event ensures what holds of it. -/
theorem ensures_note {good : List Event → Unit → Prop} {event : Event} (holds : good [event] ()) :
    (note event : Work κ η Unit).Ensures noted answers good :=
  .change fun engine => by rwa [noted_cons]

/-- Noting an event notes that event and no other. -/
theorem ensures_note_eq (event : Event) :
    (note event : Work κ η Unit).Ensures noted answers fun events _ => events = [event] :=
  ensures_note rfl

/-! ## Decorated steps -/

section Decorated

variable {embedding : Embedding κ η} {good : List Event → Outcome → Prop}

/-- What a hook ensures, from what its code ensures behind the mark of the hook. -/
theorem ensures_runHook_of {point : HookPoint} {info : StepInfo} {hook : Option κ} {x : Exchange}
    (without : hook = none → good [] (.returned x))
    (code : ∀ code, hook = some code → (embedding.hook code point info x).Ensures noted answers fun events o =>
      good (.hooked point info :: events) o) :
    (runHook surroundings point info (hookAt embedding point info hook) x).Ensures noted answers good := by
  cases hook with
  | none => exact .pure (without rfl)
  | some found =>
    refine (ensures_note_eq (.hooked point info)).bind fun mark _ same => ?_
    subst same
    exact code found rfl

/-- What a decorated step ensures, from what its hooks and the step inside ensure. -/
theorem ensures_decorated_of {info : StepInfo} {hooks : Hooks κ} {tracked : Bool} {inner : Exchange → Work κ η Outcome}
    {before within after : Exchange → List Event → Outcome → Prop}
    (pre : ∀ y, (runHook surroundings .pre info (hookAt embedding .pre info hooks.pre) y).Ensures noted answers
      (before y))
    (part : ∀ y, (inner y).Ensures noted answers (within y))
    (post : ∀ y, (runHook surroundings .post info (hookAt embedding .post info hooks.post) y).Ensures noted answers
      (after y))
    {x begun : Exchange} {record : Option Nat} (entering : entered info tracked x = (begun, record))
    (refused : ∀ now cancelled fault, begun.scope.check now cancelled = .error fault →
      good [.refused info begun] (.returned (finishRecord record (begun.fail fault))))
    (unstarted : ∀ early first, before begun early first → first.panic.isSome → good early first)
    (started : ∀ now cancelled early first inside done late last, begun.scope.check now cancelled = .ok () →
      before begun early first → within first.exchange inside done → after done.exchange late last →
      good (early ++ .started info first.exchange :: (inside ++ .ended info done.exchange :: late))
        (if last.panic.isSome then last else ⟨finishRecord record last.exchange, done.panic⟩)) :
    (Pattern.decorated surroundings info (hookAt embedding .pre info hooks.pre)
      (hookAt embedding .post info hooks.post) tracked inner x).Ensures noted answers good := by
  rw [decorated_eq, entering]
  have checks : (check begun : Work κ η (Except Fault Unit)).Ensures noted answers fun events verdict =>
      events = [] ∧ ∃ now cancelled, begun.scope.check now cancelled = verdict :=
    .read (fun _ => noted_of_same rfl) fun engine => ⟨rfl, engine.now, engine.cancelled, rfl⟩
  refine checks.bind fun checking verdict looked => ?_
  obtain ⟨rfl, now, cancelled, verdict⟩ := looked
  split
  · refine (ensures_note_eq (.refused info begun)).bind fun refusing _ same => .pure ?_
    subst same
    exact refused now cancelled _ verdict
  · refine (pre begun).bind fun early first hooked => ?_
    split
    · rename_i panicked
      refine .pure ?_
      rw [List.nil_append, List.append_nil]
      exact unstarted early first hooked panicked
    refine (ensures_note_eq (.started info first.exchange)).bind fun starting _ same => ?_
    subst same
    refine (part first.exchange).bind fun inside done ran => ?_
    refine (ensures_note_eq (.ended info done.exchange)).bind fun ending _ same => ?_
    subst same
    refine (post done.exchange).bind fun late last posted => ?_
    have whole := started now cancelled early first inside done late last verdict hooked ran posted
    split at whole <;> rename_i panicked
    · rw [if_pos panicked]
      refine .pure ?_
      simpa using whole
    · rw [if_neg panicked]
      refine .pure ?_
      simpa using whole

end Decorated

/-! ## Pieces -/

/-- The exchange without what is at a place; a body stays. -/
def takeFrom (x : Exchange) : Place → Exchange
  | .body => x
  | .header name => x.removeHeader name
  | .property name => x.removeProperty name

/-- The pieces without steps inside and without tasks that keep to an account, where some places are free. -/
structure KeepsPieces {V : Type} (account : Account V) (answers : Processor κ × Exchange → List Event → Outcome → Prop)
    (free : Place → Prop) (embedding : Embedding κ η) : Prop where
  /-- At a free place a value may be put. -/
  put : ∀ {place}, free place → ∀ x value, account.leads (account.view x) (account.view (putAt x value place)) []
  /-- From a free place a value may be taken away. -/
  take : ∀ {place}, free place → ∀ x, account.leads (account.view x) (account.view (takeFrom x place)) []
  /-- Logging leads nowhere else. -/
  log : ∀ level route text, account.Still [.logged level route text]
  /-- Finding values leads nowhere else. -/
  evaluate : ∀ code x, account.Rests noted answers (embedding.evaluate code x)
  /-- Converting values leads nowhere else. -/
  convert : ∀ code value params, account.Rests noted answers (embedding.convert code value params)
  /-- Writing in a data format leads nowhere else. -/
  marshal : ∀ code value, account.Rests noted answers (embedding.marshal code value)
  /-- Reading from a data format leads nowhere else. -/
  unmarshal : ∀ code octets target, account.Rests noted answers (embedding.unmarshal code octets target)
  /-- Functions keep to the account. -/
  function : ∀ code x, (embedding.function code x).Ensures noted answers fun events ended =>
    account.leads (account.view x) (account.view ended.1) events
  /-- Processors keep to the account. -/
  process : ∀ code, account.Behaves noted answers (embedding.process code)

/-- The pieces that keep to an account, where some headers are free and some steps excused. -/
structure KeepsAccount {V : Type} (account : Account V) (answers : Processor κ × Exchange → List Event → Outcome → Prop)
    (free : String → Prop) (excused : StepInfo → Prop) (embedding : Embedding κ η) : Prop extends
    KeepsPieces account answers (Place.IsFree free) embedding where
  /-- What happens to copies may be left aside. -/
  setsAside : account.SetsAside
  /-- The indices of loops are not seen. -/
  unindexed : account.Unindexed
  /-- Joining branches keeps to the account. -/
  aggregate : ∀ code, account.Joins noted answers (embedding.aggregate code)
  /-- Tasks keep to the account. -/
  ask : ∀ task events o, answers task events o → account.leads (account.view task.2) (account.view o.exchange) events
  /-- A step that is decorated keeps to the account, if it does without, or is excused. -/
  decorates : ∀ (info : StepInfo) (hooks : Hooks κ) (tracked : Bool) {inner : Exchange → Work κ η Outcome},
    (¬excused info → account.Behaves noted answers inner) →
    account.Behaves noted answers (Pattern.decorated surroundings info (hookAt embedding .pre info hooks.pre)
      (hookAt embedding .post info hooks.post) tracked inner)

variable {V : Type} {account : Account V} {free : Place → Prop} {embedding : Embedding κ η}

/-- The pieces keep to the account where less is free. -/
theorem KeepsPieces.mono (keeps : KeepsPieces account answers free embedding) {own : Place → Prop}
    (allowed : ∀ place, own place → free place) : KeepsPieces account answers own embedding where
  put holds := keeps.put (allowed _ holds)
  take holds := keeps.take (allowed _ holds)
  log := keeps.log
  evaluate := keeps.evaluate
  convert := keeps.convert
  marshal := keeps.marshal
  unmarshal := keeps.unmarshal
  function := keeps.function
  process := keeps.process

/-! ## Sections of the framework -/

/-- Reading leads nowhere else. -/
theorem rests_read {α : Type} (f : Engine κ η → α) :
    account.Rests noted answers (Program.read f : Work κ η α) :=
  .read (fun _ => noted_of_same rfl) fun _ => account.still

/-- A change that leaves the journal leads nowhere else. -/
theorem rests_change {f : Engine κ η → Engine κ η} (same : ∀ engine, (f engine).journal = engine.journal) :
    account.Rests noted answers (Program.change f : Work κ η Unit) :=
  .change fun engine => by
    rw [noted_of_same (same engine)]
    exact account.still

/-- A section that leaves the journal leads nowhere else. -/
theorem rests_atomically {α : Type} {f : Engine κ η → α × Engine κ η}
    (same : ∀ engine, (f engine).2.journal = engine.journal) :
    account.Rests noted answers (Program.atomically f : Work κ η α) :=
  .atomically fun engine => by
    rw [noted_of_same (same engine)]
    exact account.still

/-- Making an endpoint leaves the journal. -/
theorem journal_makeKept (text : String) (component : Component κ) (uri : Uri) (engine : Engine κ η) :
    (makeKept embedding text component uri engine).2.journal = engine.journal := by
  unfold makeKept
  split
  · rfl
  · have made : (makeEndpoint embedding component uri engine).2.journal = engine.journal := rfl
    split
    · rename_i found
      rwa [found] at made
    · rename_i found
      rw [found] at made
      exact made

/-- Looking for an endpoint leads nowhere else. -/
theorem rests_resolve (text : String) : account.Rests noted answers (resolve embedding text) := by
  refine (rests_read _).bind fun known => ?_
  split
  · exact .pure _
  · split
    · exact .pure _
    · refine (rests_read _).bind fun component => ?_
      split
      · exact .pure _
      · exact rests_atomically (journal_makeKept _ _ _)

/-- Making a producer leads nowhere else. -/
theorem rests_makeProducer (endpoint : Endpoint κ) :
    account.Rests noted answers (makeProducer embedding endpoint) := by
  unfold makeProducer
  split
  · exact .pure _
  · exact .pure _
  · exact (rests_atomically fun _ => rfl).bind fun _ => .pure _

/-- Finding the producer of a step leads nowhere else. -/
theorem rests_producerFor (keptAs : Identity) (uri : String) :
    account.Rests noted answers (producerFor embedding keptAs uri) := by
  refine (rests_read _).bind fun kept => ?_
  split
  · exact .pure _
  · refine (rests_resolve uri).bind fun resolved => ?_
    split
    · exact .pure _
    · refine (rests_makeProducer _).bind fun made => ?_
      split
      · exact .pure _
      · refine Account.Rests.bind (rests_change ?_) fun _ => .pure _
        exact fun _ => rfl

/-- Looking for a path leads nowhere else. -/
theorem rests_pathBetween (edge : Convert.Edge) :
    account.Rests noted answers (pathBetween edge : Work κ η (Option (List Kind))) := by
  refine (rests_read _).bind fun known => ?_
  split
  · exact .pure _
  · refine (rests_read _).bind fun path => Account.Rests.bind (rests_change ?_) fun _ => .pure _
    exact fun _ => rfl

section Pieces

variable (keeps : KeepsPieces account answers free embedding)

include keeps

/-! ## Values -/

/-- Finding a value leads nowhere else. -/
theorem answers_evaluate (evaluator : Evaluator κ) : account.Answers noted answers (evaluate embedding evaluator) := by
  intro x
  cases evaluator with
  | constant value => exact .pure _
  | formula formula => exact .pure _
  | code code => exact (keeps.evaluate code x).bind fun _ => .pure _

/-- Asking a condition leads nowhere else. -/
theorem answers_holds (evaluator : Evaluator κ) : account.Answers noted answers (holds embedding evaluator) :=
  fun x => (answers_evaluate keeps evaluator x).bind fun _ => .pure _

/-- Converting along edges leads nowhere else. -/
theorem rests_convertAlong (params : Table String) (edges : List Convert.Edge) (value : Value) :
    account.Rests noted answers (convertAlong embedding params edges value) := by
  induction edges generalizing value with
  | nil => exact .pure _
  | cons edge rest later =>
    refine (rests_read _).bind fun found => ?_
    split
    · exact .pure _
    · rename_i converter
      have applied : account.Rests noted answers (applyConverter embedding converter value params) := by
        cases converter with
        | builtin conversion => exact .pure _
        | custom code => exact keeps.convert code value params
      refine applied.bind fun ending => ?_
      split
      · exact later _
      · exact .pure _
      · exact .pure _

/-- Converting leads nowhere else. -/
theorem rests_convert (value : Value) (target : Kind) (params : Table String) :
    account.Rests noted answers (convert embedding value target params) := by
  unfold Engine.convert
  split
  · exact .pure _
  · refine (rests_pathBetween _).bind fun path => ?_
    split
    · exact .pure _
    · exact rests_convertAlong keeps params _ value

/-- Marshalling leads nowhere else. -/
theorem rests_marshal (format : Format κ) (value : Value) :
    account.Rests noted answers (marshal embedding format value) := by
  cases format with
  | json layout => exact .pure _
  | custom code => exact keeps.marshal code value

/-- Unmarshalling leads nowhere else. -/
theorem rests_unmarshal (format : Format κ) (octets : ByteArray) (target : Option Kind) :
    account.Rests noted answers (unmarshal embedding format octets target) := by
  cases format with
  | json layout => exact .pure _
  | custom code => exact keeps.unmarshal code octets target

/-! ## Steps without steps inside -/

omit keeps in
/-- Waiting leads nowhere else. -/
theorem behaves_waitUntil (due : Instant) (slices : Nat) :
    account.Behaves noted answers (waitUntil due slices : Exchange → Work κ η Outcome) := by
  induction slices with
  | zero => exact fun x => Account.returned (.of_same rfl rfl)
  | succ slices later =>
    intro x
    refine (rests_read _).follow fun verdict => ?_
    split
    · exact Account.returned (.of_same rfl rfl)
    · refine (rests_read _).follow fun now => ?_
      split
      · exact Account.returned (.of_same rfl rfl)
      · refine Account.Rests.follow (rests_change ?_) fun _ => later x
        exact fun _ => rfl

omit keeps in
/-- Delaying leads nowhere else. -/
theorem behaves_delay (x : Exchange) (duration : Duration) :
    (delay x duration : Work κ η Outcome).Ensures noted answers fun events o =>
      account.leads (account.view x) (account.view o.exchange) events := by
  refine (rests_read _).follow fun now => ?_
  split
  · exact Account.returned (.of_same rfl rfl)
  · exact behaves_waitUntil _ _ x

omit keeps in
/-- What a step does with a value that may be missing leads where the value leads. -/
theorem leads_withValue {x : Exchange} {use : Value → Exchange}
    (used : ∀ value, account.leads (account.view x) (account.view (use value)) []) (ending : Ending Fault Value) :
    account.leads (account.view x) (account.view (withValue x ending use).exchange) [] := by
  have failed (fault : Fault) : account.view (x.fail fault) = account.view x := account.blind (.of_same rfl rfl)
  cases ending with
  | returned value => exact used value
  | failed fault =>
    rw [withValue, Outcome.returned, failed]
    exact account.still (account.view x)
  | panicked panic => exact account.still (account.view x)

/-- A step without steps inside keeps to the account, if what it changes is free. -/
theorem behaves_runLeaf {leaf : Leaf κ} (own : ∀ place ∈ leaf.place?, free place) :
    account.Behaves noted answers (runLeaf embedding leaf) := by
  intro x
  cases leaf with
  | setBody value | setHeader name value | setProperty name value =>
    refine (answers_evaluate keeps value x).follow fun ending => .pure ?_
    exact leads_withValue (keeps.put (own _ rfl) x) ending
  | removeHeader name | removeProperty name => exact .pure (keeps.take (own _ rfl) x)
  | setError value =>
    refine (answers_evaluate keeps value x).follow fun ending => .pure ?_
    refine leads_withValue (fun value => ?_) ending
    have unseen : account.view (setErrorTo x value) = account.view x := by
      unfold setErrorTo
      split <;> exact account.blind (.of_same rfl rfl)
    rw [unseen]
    exact account.still (account.view x)
  | delay duration =>
    refine (answers_evaluate keeps duration x).follow fun ending => ?_
    split
    · exact behaves_delay x _
    · exact Account.returned (.of_same rfl rfl)
    · exact .pure (account.still (account.view x))
  | log route template level =>
    unfold runLeaf
    dsimp only
    split
    · exact Account.returned (.of_same rfl rfl)
    · rename_i message _
      have noting : account.Rests noted answers (note (.logged level route message) : Work κ η Unit) :=
        ensures_note (keeps.log level route message)
      exact noting.follow fun _ => Account.returned (.of_same rfl rfl)
  | marshal format =>
    refine (rests_marshal keeps format x.body).follow fun ending => .pure ?_
    exact leads_withValue (keeps.put (own .body rfl) x) _
  | unmarshal format target =>
    unfold runLeaf
    dsimp only
    split
    · exact Account.returned (.of_same rfl rfl)
    · refine (rests_unmarshal keeps format _ target).follow fun ending => .pure ?_
      exact leads_withValue (keeps.put (own .body rfl) x) ending
  | convert place target params =>
    unfold runLeaf
    dsimp only
    split
    · exact Account.returned (.of_same rfl rfl)
    · refine (rests_convert keeps _ target params).follow fun ending => .pure ?_
      exact leads_withValue (keeps.put (own place rfl) x) ending

/-- Running a function keeps to the account. -/
theorem behaves_runFunction (code : κ) : account.Behaves noted answers (runFunction embedding code) := by
  refine fun x => (keeps.function code x).bind fun events ended led => ?_
  obtain ⟨y, ending⟩ := ended
  cases ending with
  | failed cause =>
    rw [← account.blind (x := y.failWith cause) (y := y) (.of_same rfl rfl)] at led
    exact Account.stop led
  | _ => exact Account.stop led

end Pieces

/-! ## Handing over -/

section Tasks

variable (tasks : ∀ task events o, answers task events o →
  account.leads (account.view task.2) (account.view o.exchange) events)

include tasks

/-- A task keeps to the account. -/
theorem behaves_ask (processor : Processor κ) (x : Exchange) :
    (Program.ask (processor, x) : Work κ η Outcome).Ensures noted answers fun events o =>
      account.leads (account.view x) (account.view o.exchange) events :=
  .ask fun events o answered => tasks (processor, x) events o answered

/-- Handing an exchange to an endpoint keeps to the account. -/
theorem behaves_handTo (keptAs : Identity) (uri : String) :
    account.Behaves noted answers (handTo embedding keptAs uri) := by
  intro x
  refine (rests_producerFor keptAs uri).follow fun found => ?_
  split
  · exact behaves_ask tasks _ x
  · exact Account.returned (.of_same rfl rfl)

/-- Handing an exchange to a direct consumer keeps to the account. -/
theorem behaves_handOver (uri name : String) (table : Nat) :
    account.Behaves noted answers (handOver uri name table : Exchange → Work κ η Outcome) := by
  intro x
  refine (rests_read _).follow fun found => ?_
  split
  · exact behaves_ask tasks _ x
  · exact Account.returned (.of_same rfl rfl)

end Tasks

/-! ## Trees -/

/-- An account for each processor. What is good of the behaviour of a processor and what keeps to its account go
together, unless it is decorated, a multicast or a loop: good parts keep to the account of the whole, and the whole is
good if it does. -/
structure Accounting {V : Type} (answers : Processor κ × Exchange → List Event → Outcome → Prop)
    (embedding : Embedding κ η) (account : Processor κ → Account V) (fine : Processor κ → Prop)
    (good : Processor κ → (Exchange → Work κ η Outcome) → Prop) : Prop where
  /-- Parts of what is fine are fine. -/
  inside : ∀ {processor}, fine processor → processor.IsPlain → ∀ part ∈ processor.parts, fine part
  /-- The pieces without steps inside keep to the account. -/
  pieces : ∀ {processor}, fine processor → processor.IsPlain →
    KeepsPieces (account processor) answers (· ∈ processor.place?) embedding
  /-- Tasks keep to the account of what hands exchanges over. -/
  tasks : ∀ {processor}, processor.HandsOver → ∀ task events o, answers task events o →
    (account processor).leads ((account processor).view task.2) ((account processor).view o.exchange) events
  /-- Good parts keep to the account of the whole. -/
  part : ∀ {processor part behaviour}, processor.RunsInTurn → part ∈ processor.parts → good part behaviour →
    (account processor).Behaves noted answers behaviour
  /-- What keeps to its account is good. -/
  whole : ∀ {processor behaviour}, fine processor → processor.IsPlain →
    (account processor).Behaves noted answers behaviour → good processor behaviour
  /-- A decorated step is good, if it is without, or needs not be. -/
  decorates : ∀ (info : StepInfo) (hooks : Hooks κ) (tracked : Bool) {processor : Processor κ}
    {inner : Exchange → Work κ η Outcome}, fine (.decorated info hooks tracked processor) →
    (fine processor → good processor inner) →
    good (.decorated info hooks tracked processor) (Pattern.decorated surroundings info
      (hookAt embedding .pre info hooks.pre) (hookAt embedding .post info hooks.post) tracked inner)
  /-- A multicast is good, if its outputs are. -/
  multicast : ∀ {parallel stopOnError aggregator} {outputs : List (Processor κ)}
    {branches : List (Exchange → Work κ η Outcome)}, fine (.multicast parallel stopOnError aggregator outputs) →
    (∀ branch ∈ branches, ∃ part ∈ outputs, good part branch) →
    good (.multicast parallel stopOnError aggregator outputs) (Pattern.multicast
      (modeOf parallel stopOnError outputs.length) (aggregator.map embedding.aggregate) branches)
  /-- A counting loop is good, if its body is. -/
  countLoop : ∀ {count} {processor : Processor κ} {body : Exchange → Work κ η Outcome},
    fine (.countLoop count processor) → good processor body →
    good (.countLoop count processor) (Pattern.countLoop (evaluate embedding count) body)
  /-- A loop under a condition is good, if its body is. -/
  whileLoop : ∀ {condition policy} {processor : Processor κ} {body : Exchange → Work κ η Outcome} (patience : Nat),
    fine (.whileLoop condition policy processor) → good processor body →
    good (.whileLoop condition policy processor) (Pattern.whileLoop (fun x => Program.blocked (.returned x)) patience
      (holds embedding condition) policy body)

section Trees

variable {account : Processor κ → Account V} {fine : Processor κ → Prop}
  {good : Processor κ → (Exchange → Work κ η Outcome) → Prop}

/-- Behaviours that are good for some of the parts keep to the account of the whole. -/
theorem Accounting.parts (accounting : Accounting answers embedding account fine good) {processor : Processor κ}
    (inTurn : processor.RunsInTurn) {those : List (Processor κ)} (within : ∀ part ∈ those, part ∈ processor.parts)
    {steps : List (Exchange → Work κ η Outcome)} (each : ∀ step ∈ steps, ∃ part ∈ those, good part step) :
    ∀ step ∈ steps, (account processor).Behaves noted answers step := by
  intro step member
  obtain ⟨part, found, done⟩ := each step member
  exact accounting.part inTurn (within part found) done

/-- Good clauses keep to the account of the whole. -/
theorem Accounting.clauses (accounting : Accounting answers embedding account fine good) {processor : Processor κ}
    (accepted : fine processor) (plain : processor.IsPlain) (inTurn : processor.RunsInTurn) {those : List (Processor κ)}
    (within : ∀ part ∈ those, part ∈ processor.parts)
    {steps : List ((Exchange → Work κ η (Ending Fault Bool)) × (Exchange → Work κ η Outcome))}
    (each : ∀ step ∈ steps, (∃ condition, step.1 = holds embedding condition) ∧ ∃ part ∈ those, good part step.2) :
    ∀ step ∈ steps, (account processor).Answers noted answers step.1 ∧
      (account processor).Behaves noted answers step.2 := by
  intro step member
  obtain ⟨⟨condition, asks⟩, part, found, done⟩ := each step member
  refine ⟨?_, accounting.part inTurn (within part found) done⟩
  rw [asks]
  exact answers_holds (accounting.pieces accepted plain) condition

/-- Good handlers keep to the account of the whole. -/
theorem Accounting.handlers (accounting : Accounting answers embedding account fine good) {processor : Processor κ}
    (inTurn : processor.RunsInTurn) {those : List (Processor κ)} (within : ∀ part ∈ those, part ∈ processor.parts)
    {steps : List (Handler (Program (Engine κ η) (Processor κ × Exchange) Outcome))}
    (each : ∀ step ∈ steps, ∃ part ∈ those, good part step.behaviour) :
    ∀ step ∈ steps, (account processor).Behaves noted answers step.behaviour := by
  intro step member
  obtain ⟨part, found, done⟩ := each step member
  exact accounting.part inTurn (within part found) done

mutual

/-- What a fine processor does is good. -/
theorem good_behaviour (accounting : Accounting answers embedding account fine good) (patience : Nat) :
    ∀ processor : Processor κ, fine processor → good processor (behaviour embedding patience processor)
  | .leaf leaf, holds =>
    accounting.whole holds nofun (behaves_runLeaf (accounting.pieces holds nofun) fun _ own => own)
  | .to keptAs uri, holds =>
    accounting.whole holds nofun (behaves_handTo (accounting.tasks (.to keptAs uri)) keptAs uri)
  | .direct uri name table, holds =>
    accounting.whole holds nofun (behaves_handOver (accounting.tasks (.direct uri name table)) uri name table)
  | .function code, holds =>
    accounting.whole holds nofun (behaves_runFunction (accounting.pieces holds nofun) code)
  | .custom code, holds => accounting.whole holds nofun ((accounting.pieces holds nofun).process code)
  | .decorated info hooks tracked inner, holds =>
    accounting.decorates info hooks tracked holds (good_behaviour accounting patience inner)
  | .pipeline stopOnError steps, holds =>
    have inside := accounting.inside holds nofun
    accounting.whole holds nofun (Account.pipeline stopOnError
      (accounting.parts (.pipeline stopOnError steps) (fun _ member => member)
        (good_behaviours accounting patience steps inside)))
  | .choice clauses none, holds =>
    have inside := accounting.inside holds nofun
    accounting.whole holds nofun (Account.choice (fun _ missing => by cases missing)
      (accounting.clauses holds nofun (.choice clauses none) (fun _ member => List.mem_append_left _ member)
        (good_clauses accounting patience clauses fun part member => inside part (List.mem_append_left _ member))))
  | .choice clauses (some otherwise), holds =>
    have inside := accounting.inside holds nofun
    have member : otherwise ∈ (Processor.choice clauses (some otherwise)).parts :=
      List.mem_append_right _ List.mem_cons_self
    have last := accounting.part (.choice clauses (some otherwise)) member
      (good_behaviour accounting patience otherwise (inside otherwise member))
    accounting.whole holds nofun (Account.choice (fun _ same => by cases same; exact last)
      (accounting.clauses holds nofun (.choice clauses (some otherwise)) (fun _ member => List.mem_append_left _ member)
        (good_clauses accounting patience clauses fun part member => inside part (List.mem_append_left _ member))))
  | .tryCatch steps handlers last, holds =>
    have inside := accounting.inside holds nofun
    have tried {part} (member : part ∈ steps) : part ∈ (Processor.tryCatch steps handlers last).parts :=
      List.mem_append_left _ (List.mem_append_left _ member)
    have caught {part} (member : part ∈ handlers.map Prod.snd) :
        part ∈ (Processor.tryCatch steps handlers last).parts :=
      List.mem_append_left _ (List.mem_append_right _ member)
    have ending {part} (member : part ∈ last) : part ∈ (Processor.tryCatch steps handlers last).parts :=
      List.mem_append_right _ member
    have inTurn := Processor.RunsInTurn.tryCatch steps handlers last
    accounting.whole holds nofun (Account.tryCatch
      (accounting.parts inTurn (fun _ => tried) (good_behaviours accounting patience steps fun part member =>
        inside part (tried member)))
      (accounting.handlers inTurn (fun _ => caught) (good_handlers accounting patience handlers fun part member =>
        inside part (caught member)))
      (accounting.parts inTurn (fun _ => ending) (good_behaviours accounting patience last fun part member =>
        inside part (ending member))))
  | .multicast parallel stopOnError aggregator outputs, holds =>
    accounting.multicast holds (good_behaviours accounting patience outputs
      (accounting.inside holds (.multicast parallel stopOnError aggregator outputs)))
  | .countLoop count body, holds =>
    have inside := accounting.inside holds (.countLoop count body) body List.mem_cons_self
    accounting.countLoop holds (good_behaviour accounting patience body inside)
  | .whileLoop condition policy body, holds =>
    have inside := accounting.inside holds (.whileLoop condition policy body) body List.mem_cons_self
    accounting.whileLoop patience holds (good_behaviour accounting patience body inside)

/-- What each of some fine processors does is good. -/
theorem good_behaviours (accounting : Accounting answers embedding account fine good) (patience : Nat) :
    ∀ processors : List (Processor κ), (∀ part ∈ processors, fine part) →
      ∀ step ∈ behaviours embedding patience processors, ∃ part ∈ processors, good part step
  | [], _ => fun _ member => nomatch member
  | processor :: rest, holds => List.forall_mem_cons.mpr
    ⟨⟨processor, List.mem_cons_self, good_behaviour accounting patience processor (holds processor List.mem_cons_self)⟩,
      fun step member =>
        let ⟨part, found, done⟩ := good_behaviours accounting patience rest
          (fun part member => holds part (List.mem_cons_of_mem _ member)) step member
        ⟨part, List.mem_cons_of_mem _ found, done⟩⟩

/-- What the clauses of a choice do over fine processors is good. -/
theorem good_clauses (accounting : Accounting answers embedding account fine good) (patience : Nat) :
    ∀ clauses : List (Evaluator κ × Processor κ), (∀ part ∈ clauses.map Prod.snd, fine part) →
      ∀ clause ∈ clauseBehaviours embedding patience clauses, (∃ condition, clause.1 = holds embedding condition) ∧
        ∃ part ∈ clauses.map Prod.snd, good part clause.2
  | [], _ => fun _ member => nomatch member
  | (condition, processor) :: rest, holds => List.forall_mem_cons.mpr
    ⟨⟨⟨condition, rfl⟩, processor, List.mem_cons_self,
        good_behaviour accounting patience processor (holds processor List.mem_cons_self)⟩,
      fun clause member =>
        let ⟨asks, part, found, done⟩ := good_clauses accounting patience rest
          (fun part member => holds part (List.mem_cons_of_mem _ member)) clause member
        ⟨asks, part, List.mem_cons_of_mem _ found, done⟩⟩

/-- What the handlers of errors do over fine processors is good. -/
theorem good_handlers (accounting : Accounting answers embedding account fine good) (patience : Nat) :
    ∀ handlers : List (Matcher × Processor κ), (∀ part ∈ handlers.map Prod.snd, fine part) →
      ∀ handler ∈ handlerBehaviours embedding patience handlers,
        ∃ part ∈ handlers.map Prod.snd, good part handler.behaviour
  | [], _ => fun _ member => nomatch member
  | (_, processor) :: rest, holds => List.forall_mem_cons.mpr
    ⟨⟨processor, List.mem_cons_self, good_behaviour accounting patience processor (holds processor List.mem_cons_self)⟩,
      fun handler member =>
        let ⟨part, found, done⟩ := good_handlers accounting patience rest
          (fun part member => holds part (List.mem_cons_of_mem _ member)) handler member
        ⟨part, List.mem_cons_of_mem _ found, done⟩⟩

end

end Trees

variable {names : String → Prop} {excused : StepInfo → Prop}

/-- One account for all processors. -/
theorem KeepsAccount.accounting (keeps : KeepsAccount account answers names excused embedding) :
    Accounting answers embedding (fun _ => account) (Processor.Spares names excused)
      fun _ behaviour => account.Behaves noted answers behaviour where
  inside spares plain _ member := spares.part member plain
  pieces {processor} spares plain := keeps.toKeepsPieces.mono fun place changed => by
    cases spares with
    | excused hooks tracked inner _ => exact absurd rfl (plain _ hooks tracked inner)
    | within silent _ =>
      cases processor with
      | leaf step => exact step.isFree_place? silent place changed
      | _ => cases changed
  tasks _ := keeps.ask
  part _ _ done := done
  whole _ _ done := done
  decorates info hooks tracked _ _ spares part := keeps.decorates info hooks tracked fun strict =>
    part (spares.inner strict)
  multicast _ each := Account.multicast keeps.setsAside _
    (fun _ found => by
      obtain ⟨code, -, rfl⟩ := Option.map_eq_some_iff.mp found
      exact keeps.aggregate code)
    fun branch member => let ⟨_, _, done⟩ := each branch member; done
  countLoop _ done := Account.countLoop keeps.unindexed (answers_evaluate keeps.toKeepsPieces _) done
  whileLoop patience _ done := Account.whileLoop keeps.unindexed _ (fun _ => .blocked _)
    (answers_holds keeps.toKeepsPieces _) done patience

/-- What a processor does keeps to the account, if it spares the headers that are not free. -/
theorem behaves_behaviour (keeps : KeepsAccount account answers names excused embedding) (patience : Nat)
    (processor : Processor κ) (spares : processor.Spares names excused) :
    account.Behaves noted answers (behaviour embedding patience processor) :=
  good_behaviour keeps.accounting patience processor spares

end Engine

end MessageRouting
