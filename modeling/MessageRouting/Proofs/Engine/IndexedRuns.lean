import MessageRouting.Proofs.Engine.Hooks

/-!
# Runs of loops in loops

All loops note their index in the same property, and an exchange takes over what an iteration leaves of it. A run is
taken apart along the tree of processors. On the way down it is known in which iteration of the innermost loop the run
is, and on the way through it is known which index other loops noted last since that iteration began. The runs
themselves say nothing of exchanges; whether the exchanges of their steps show the index that is known is told apart
from them.
-/

namespace MessageRouting

open Pattern

variable {κ η : Type}

/-! ## Steps that began -/

/-- What is seen of the property for indices fits what is known of them: the index in the innermost loop, and that which
another loop noted last since the iteration began. -/
structure IndexFits (own inner : Option Nat) (seen : Option Value) : Prop where
  /-- After another loop noted its index, that one is seen. -/
  noted : ∀ index, inner = some index → seen = some (.ofNat index)
  /-- Before that the index of the iteration is seen. -/
  kept : ∀ index, inner = none → own = some index → seen = some (.ofNat index)

/-- Outside all loops nothing is known. -/
theorem IndexFits.outside (seen : Option Value) : IndexFits none none seen := ⟨nofun, nofun⟩

/-- The index that was noted fits. -/
theorem IndexFits.of_noted (own : Option Nat) (index : Nat) : IndexFits own (some index) (some (.ofNat index)) :=
  ⟨fun _ same => by cases same; rfl, nofun⟩

/-- At the beginning of an iteration its index fits. -/
theorem IndexFits.begin (index : Nat) : IndexFits (some index) none (some (.ofNat index)) :=
  ⟨nofun, fun _ _ same => by cases same; rfl⟩

/-- At the end of an iteration the index is that which was noted last, or else that of the iteration. -/
theorem IndexFits.eq_some {index : Nat} {inner : Option Nat} {seen : Option Value}
    (fits : IndexFits (some index) inner seen) : seen = some (.ofNat (inner.getD index)) := by
  cases inner with
  | none => exact fits.kept index rfl rfl
  | some noted => exact fits.noted noted rfl

/-- A step that began. -/
structure Start where
  /-- The index in the innermost loop around the step. -/
  own : Option Nat
  /-- The index that another loop noted last since the iteration of that loop began. -/
  inner : Option Nat
  /-- The step. -/
  info : StepInfo
  /-- The exchange with which it began. -/
  entered : Exchange

/-- The exchange shows the index that is known. -/
def Start.Shows (start : Start) : Prop := IndexFits start.own start.inner (start.entered.property? indexProperty)

/-- The exchange shows the index in the innermost loop around the step. -/
def Start.ShowsOwn (start : Start) : Prop :=
  ∀ index, start.own = some index → start.entered.property? indexProperty = some (.ofNat index)

/-- The step that an event says has begun, and its exchange. -/
def Event.start? : Event → Option (StepInfo × Exchange)
  | .started info x => some (info, x)
  | _ => none

/-- The steps are those that some events say have begun, and their exchanges show the indices that are known. -/
structure Told (starts : List Start) (events : List Event) : Prop where
  /-- The steps are the same, in the same order. -/
  same : starts.map (fun start => (start.info, start.entered)) = events.filterMap Event.start?
  /-- The exchanges show the indices. -/
  shown : ∀ start ∈ starts, start.Shows

/-- No steps are told by events with which none begins. -/
theorem Told.nothing {events : List Event} (silent : events.filterMap Event.start? = []) : Told [] events :=
  ⟨silent.symm, List.forall_mem_nil _⟩

/-- Steps that begin later are told by later events. -/
theorem Told.append {first second : List Start} {events later : List Event} (before : Told first events)
    (after : Told second later) : Told (first ++ second) (events ++ later) where
  same := by rw [List.map_append, List.filterMap_append, before.same, after.same]
  shown := List.forall_mem_append.mpr ⟨before.shown, after.shown⟩

/-- A step that begins with an exchange that shows the index is told by the event. -/
theorem Told.start {later : List Start} {events : List Event} (start : Start) (shows : start.Shows)
    (after : Told later events) : Told (start :: later) (.started start.info start.entered :: events) where
  same := congrArg ((start.info, start.entered) :: ·) after.same
  shown := List.forall_mem_cons.mpr ⟨shows, after.shown⟩

/-- Events with the same steps tell the same. -/
theorem Told.of_same {starts : List Start} {events others : List Event} (told : Told starts events)
    (same : others.filterMap Event.start? = events.filterMap Event.start?) : Told starts others where
  same := told.same.trans same.symm
  shown := told.shown

/-! ## Runs -/

/-- A loop and its body. -/
inductive Processor.LoopsOver : Processor κ → Processor κ → Prop
  /-- A loop by count. -/
  | count (count : Evaluator κ) (body : Processor κ) : LoopsOver (.countLoop count body) body
  /-- A loop under a condition. -/
  | while (condition : Evaluator κ) (policy : ConditionPolicy) (body : Processor κ) :
    LoopsOver (.whileLoop condition policy body) body

namespace Indexed

section Runs

variable (reached : Processor κ → Prop)

mutual

/-- In a run of a processor, in an iteration of the innermost loop around it, steps begin, and the index that other
loops noted last becomes another one. -/
inductive Ran : Processor κ → Option Nat → Option Nat → List Start → Option Nat → Prop
  /-- A decorated step is refused, or the hook before it panics. -/
  | unstarted (info : StepInfo) (hooks : Hooks κ) (tracked : Bool) (processor : Processor κ)
    {own before after : Option Nat} {starts : List Start} (hook : Handed own before starts after) :
    Ran (.decorated info hooks tracked processor) own before starts after
  /-- A decorated step runs between its hooks. -/
  | started (info : StepInfo) (hooks : Hooks κ) (tracked : Bool) (x : Exchange) {processor : Processor κ}
    {own before middle behind after : Option Nat} {earlier inside later : List Start}
    (first : Handed own before earlier middle) (ran : Ran processor own middle inside behind)
    (last : Handed own behind later after) :
    Ran (.decorated info hooks tracked processor) own before
      (earlier ++ ⟨own, middle, info, x⟩ :: (inside ++ later)) after
  /-- Another processor runs what is inside it. -/
  | within {processor : Processor κ} {own before after : Option Nat} {starts : List Start}
    (plain : processor.IsPlain) (inside : Inside processor own before starts after) :
    Ran processor own before starts after

/-- This is what happens inside a processor that is not decorated. -/
inductive Inside : Processor κ → Option Nat → Option Nat → List Start → Option Nat → Prop
  /-- Nothing happens. -/
  | nothing (whole : Processor κ) (own before : Option Nat) : Inside whole own before [] before
  /-- Exchanges are handed over. -/
  | handed {whole : Processor κ} {own before middle after : Option Nat} {first later : List Start}
    (handed : Handed own before first middle) (rest : Inside whole own middle later after) :
    Inside whole own before (first ++ later) after
  /-- A part runs on the exchange. -/
  | part {whole part : Processor κ} {own before middle after : Option Nat} {first later : List Start}
    (inTurn : whole.RunsInTurn) (member : part ∈ whole.parts) (ran : Ran part own before first middle)
    (rest : Inside whole own middle later after) : Inside whole own before (first ++ later) after
  /-- The iterations of a loop run. -/
  | looped {whole : Processor κ} {own before middle after : Option Nat} {first later : List Start}
    (rounds : Rounds whole 0 before first middle) (rest : Inside whole own middle later after) :
    Inside whole own before (first ++ later) after
  /-- The branches of a multicast run, and one of them is taken, or none. -/
  | gathered (parallel stopOnError : Bool) (aggregator : Option κ) {outputs : List (Processor κ)}
    {own before middle after : Option Nat} {ends : List (Option Nat)} {first joining later : List Start}
    (branches : Branches outputs own before first ends) (joined : Aside joining)
    (taken : middle = before ∨ middle ∈ ends)
    (rest : Inside (.multicast parallel stopOnError aggregator outputs) own middle later after) :
    Inside (.multicast parallel stopOnError aggregator outputs) own before (first ++ joining ++ later) after

/-- Exchanges are handed over, the one that is worked on among them. -/
inductive Handed : Option Nat → Option Nat → List Start → Option Nat → Prop
  /-- No exchange is. -/
  | nothing (own before : Option Nat) : Handed own before [] before
  /-- Others are. -/
  | aside {own before after : Option Nat} {first later : List Start} (others : Aside first)
    (rest : Handed own before later after) : Handed own before (first ++ later) after
  /-- The one that is worked on is. -/
  | along {processor : Processor κ} {own before middle after : Option Nat} {first later : List Start}
    (arrived : reached processor) (ran : Ran processor own before first middle) (rest : Handed own middle later after) :
    Handed own before (first ++ later) after

/-- Exchanges are handed over that are not worked on. -/
inductive Aside : List Start → Prop
  /-- No exchange is. -/
  | nothing : Aside []
  /-- An exchange is handed over outside all loops. -/
  | task {processor : Processor κ} {after : Option Nat} {first later : List Start} (arrived : reached processor)
    (ran : Ran processor none none first after) (rest : Aside later) : Aside (first ++ later)

/-- From an index on, the iterations of a loop run. -/
inductive Rounds : Processor κ → Nat → Option Nat → List Start → Option Nat → Prop
  /-- A loop by count has no more of them. -/
  | done (count : Evaluator κ) (body : Processor κ) (index : Nat) (before : Option Nat) :
    Rounds (.countLoop count body) index before [] before
  /-- A loop under a condition notes the index, asks and ends. -/
  | noted (condition : Evaluator κ) (policy : ConditionPolicy) (body : Processor κ) (index : Nat)
    (before : Option Nat) {asked : List Start} (asking : Aside asked) :
    Rounds (.whileLoop condition policy body) index before asked (some index)
  /-- An iteration is the last one. -/
  | last {loop body : Processor κ} {index : Nat} {before inner : Option Nat} {asked first : List Start}
    (loops : loop.LoopsOver body) (asking : Aside asked) (ran : Ran body (some index) none first inner) :
    Rounds loop index before (asked ++ first) (some (inner.getD index))
  /-- An iteration is followed by others. -/
  | next {loop body : Processor κ} {index : Nat} {before inner after : Option Nat} {asked first later : List Start}
    (loops : loop.LoopsOver body) (asking : Aside asked) (ran : Ran body (some index) none first inner)
    (rest : Rounds loop (index + 1) (some (inner.getD index)) later after) :
    Rounds loop index before (asked ++ first ++ later) after

/-- Some of the outputs of a multicast run on forks of the exchange, and in each of them the index that was noted last
becomes another one. -/
inductive Branches : List (Processor κ) → Option Nat → Option Nat → List Start → List (Option Nat) → Prop
  /-- No output runs. -/
  | nothing (outputs : List (Processor κ)) (own before : Option Nat) : Branches outputs own before [] []
  /-- An output runs. -/
  | branch {outputs : List (Processor κ)} {output : Processor κ} {own before last : Option Nat}
    {ends : List (Option Nat)} {first later : List Start} (member : output ∈ outputs)
    (ran : Ran output own before first last) (rest : Branches outputs own before later ends) :
    Branches outputs own before (first ++ later) (last :: ends)

end

variable {reached}

/-- What happens inside may be followed by more of it. -/
theorem Inside.append {whole : Processor κ} {own middle after : Option Nat} {second : List Start}
    (more : Inside reached whole own middle second after) : ∀ {before : Option Nat} {first : List Start},
      Inside reached whole own before first middle → Inside reached whole own before (first ++ second) after
  | _, _, .nothing .. => more
  | _, _, .handed first rest => by
    rw [List.append_assoc]
    exact .handed first (append more rest)
  | _, _, .part inTurn member ran rest => by
    rw [List.append_assoc]
    exact .part inTurn member ran (append more rest)
  | _, _, .looped rounds rest => by
    rw [List.append_assoc]
    exact .looped rounds (append more rest)
  | _, _, .gathered parallel stopOnError aggregator branches joined taken rest => by
    rw [List.append_assoc]
    exact .gathered parallel stopOnError aggregator branches joined taken (append more rest)

/-- All that happens is that exchanges are handed over. -/
theorem Inside.handed_alone {whole : Processor κ} {own before after : Option Nat} {starts : List Start}
    (handed : Handed reached own before starts after) : Inside reached whole own before starts after := by
  have alone := Inside.handed handed (.nothing whole own after)
  rwa [List.append_nil] at alone

/-- More exchanges may be handed over that are not worked on. -/
theorem Aside.append {second : List Start} (more : Aside reached second) :
    ∀ {first : List Start}, Aside reached first → Aside reached (first ++ second)
  | _, .nothing => more
  | _, .task arrived ran rest => by
    rw [List.append_assoc]
    exact .task arrived ran (append more rest)

end Runs

end Indexed

/-! ## Code that leaves indices alone -/

/-- From what is seen of the property for indices to what is seen later nothing happened, except that exchanges were
handed over, and that what an answer shows was taken over. -/
inductive LeavesIndex (answers : Processor κ × Exchange → List Event → Outcome → Prop) :
    Option Value → Option Value → List Event → Prop
  /-- Nothing happens. -/
  | nothing (seen : Option Value) : LeavesIndex answers seen seen []
  /-- An exchange is handed over. -/
  | aside {task : Processor κ × Exchange} {o : Outcome} {seen last : Option Value} {first later : List Event}
    (answered : answers task first o) (rest : LeavesIndex answers seen last later) :
    LeavesIndex answers seen last (first ++ later)
  /-- What is seen is handed over, and what the answer shows is taken. -/
  | along {task : Processor κ × Exchange} {o : Outcome} {last : Option Value} {first later : List Event}
    (answered : answers task first o) (rest : LeavesIndex answers (o.exchange.property? indexProperty) last later) :
    LeavesIndex answers (task.2.property? indexProperty) last (first ++ later)

/-- The code of an embedding program leaves the property for indices alone, whatever tasks answer: functions, processors
and hooks do not touch it, except that they may hand their exchange over, and joined branches show what one of them
shows. Nothing is noted in the code but what happens in the tasks that it hands over. -/
structure Embedding.LeavesIndices (embedding : Embedding κ η) : Prop where
  /-- Nothing else is noted. -/
  unnoted : embedding.Unnoted fun _ => True
  /-- Functions. -/
  function : ∀ (answers : Processor κ × Exchange → List Event → Outcome → Prop) (code : κ) (x : Exchange),
    (embedding.function code x).Ensures Engine.noted answers fun events ended =>
      LeavesIndex answers (x.property? indexProperty) (ended.1.property? indexProperty) events
  /-- Processors. -/
  process : ∀ (answers : Processor κ × Exchange → List Event → Outcome → Prop) (code : κ) (x : Exchange),
    (embedding.process code x).Ensures Engine.noted answers fun events o =>
      LeavesIndex answers (x.property? indexProperty) (o.exchange.property? indexProperty) events
  /-- Hooks. -/
  hook : ∀ (answers : Processor κ × Exchange → List Event → Outcome → Prop) (code : κ) (point : HookPoint)
    (info : StepInfo) (x : Exchange), (embedding.hook code point info x).Ensures Engine.noted answers fun events o =>
      LeavesIndex answers (x.property? indexProperty) (o.exchange.property? indexProperty) events
  /-- Joining branches. -/
  aggregate : ∀ (answers : Processor κ × Exchange → List Event → Outcome → Prop) (code : κ)
    (before : Option Exchange) (branch : Exchange),
    (embedding.aggregate code before branch).Ensures Engine.noted answers fun _ joined =>
      ∀ y, joined = .ok y → ∃ one ∈ before.toList ++ [branch],
        y.property? indexProperty = one.property? indexProperty

/-- No step in the processor gives anything to a place or takes it away. -/
inductive Processor.Leaves (place : Place) : Processor κ → Prop
  | intro {processor : Processor κ} (own : place ∉ processor.place?)
    (parts : ∀ part ∈ processor.parts, part.Leaves place) : Leaves place processor

namespace Indexed

open Engine

/-- What is seen of the property for indices. -/
def indexView : View (Option Value) where
  view x := x.property? indexProperty
  blind alike := alike.properties indexProperty (by decide)

section Between

variable (reached : Processor κ → Prop)

/-- The events are those of a run of the processor in which exchanges show the indices that are known, and so it is
afterwards if it was so before. -/
def RanBetween (processor : Processor κ) (first second : Option Value) (events : List Event) : Prop :=
  ∀ own before, IndexFits own before first → ∃ starts after, Ran reached processor own before starts after ∧
    Told starts events ∧ IndexFits own after second

/-- The events are those of exchanges that are handed over, the one that is worked on among them. -/
def HandedBetween (first second : Option Value) (events : List Event) : Prop :=
  ∀ own before, IndexFits own before first → ∃ starts after, Handed reached own before starts after ∧
    Told starts events ∧ IndexFits own after second

/-- The events are those of exchanges that are handed over and not worked on. -/
def AsideBetween (events : List Event) : Prop := ∃ starts, Aside reached starts ∧ Told starts events

/-- The events are those of an iteration, behind a question, and the index is seen then that was noted last in it. -/
def RoundBetween (body : Processor κ) (index : Nat) (second : Option Value) (events : List Event) : Prop :=
  ∃ asked starts inner, Aside reached asked ∧ Ran reached body (some index) none starts inner ∧
    Told (asked ++ starts) events ∧ second = some (.ofNat (inner.getD index))

/-- The events are those of the iterations of a loop from an index on. -/
def RoundsBetween (loop : Processor κ) (index : Nat) (first second : Option Value) (events : List Event) : Prop :=
  ∀ own before, IndexFits own before first → ∃ starts after, Rounds reached loop index before starts after ∧
    Told starts events ∧ IndexFits own after second

/-- The events are those of branches of a multicast, some of which are joined, and of them one or none is taken. -/
def BranchesBetween (outputs : List (Processor κ)) (first second : Option Value) (events : List Event) : Prop :=
  ∀ own before, IndexFits own before first → ∃ starts joining ends after,
    Branches reached outputs own before starts ends ∧ Aside reached joining ∧ (after = before ∨ after ∈ ends) ∧
    Told (starts ++ joining) events ∧ IndexFits own after second

/-- What happens inside a processor, as an account. -/
def indexAccount (whole : Processor κ) : Account (Option Value) where
  toView := indexView
  leads first second events := ∀ own before, IndexFits own before first → ∃ starts after,
    Inside reached whole own before starts after ∧ Told starts events ∧ IndexFits own after second
  still _ own before fits := ⟨[], before, .nothing whole own before, .nothing rfl, fits⟩
  trans led more own before fits := by
    obtain ⟨starts, middle, inside, told, between⟩ := led own before fits
    obtain ⟨others, after, behind, also, final⟩ := more own middle between
    exact ⟨starts ++ others, after, behind.append inside, told.append also, final⟩

variable {reached}

/-! ## What is handed over -/

/-- Where no step begins nothing is handed over. -/
theorem asideBetween_silent {events : List Event} (silent : events.filterMap Event.start? = []) :
    AsideBetween reached events :=
  ⟨[], .nothing, .nothing silent⟩

/-- More may be handed over that is not worked on. -/
theorem AsideBetween.append {events later : List Event} (first : AsideBetween reached events)
    (second : AsideBetween reached later) : AsideBetween reached (events ++ later) := by
  obtain ⟨starts, aside, told⟩ := first
  obtain ⟨others, also, more⟩ := second
  exact ⟨starts ++ others, .append also aside, told.append more⟩

/-- Nothing is handed over, and what is seen stays. -/
theorem handedBetween_nothing (seen : Option Value) : HandedBetween reached seen seen [] :=
  fun own before fits => ⟨[], before, .nothing own before, .nothing rfl, fits⟩

/-- A task may be among what is handed over and not worked on. -/
theorem RanBetween.aside {processor : Processor κ} {first second : Option Value} {events : List Event}
    (ran : RanBetween reached processor first second events) (arrived : reached processor) :
    AsideBetween reached events := by
  obtain ⟨starts, after, ran, told, -⟩ := ran none none (.outside first)
  have alone := Aside.task arrived ran .nothing
  rw [List.append_nil] at alone
  exact ⟨starts, alone, told⟩

/-- A task may be among what is handed over and worked on. -/
theorem RanBetween.along {processor : Processor κ} {first second third : Option Value} {events later : List Event}
    (ran : RanBetween reached processor first second events) (arrived : reached processor)
    (rest : HandedBetween reached second third later) : HandedBetween reached first third (events ++ later) := by
  intro own before fits
  obtain ⟨starts, middle, ran, told, between⟩ := ran own before fits
  obtain ⟨others, after, handed, also, final⟩ := rest own middle between
  exact ⟨starts ++ others, after, .along arrived ran handed, told.append also, final⟩

/-- What is handed over and not worked on changes nothing of what is seen. -/
theorem AsideBetween.handed {events : List Event} (others : AsideBetween reached events) {first second : Option Value}
    {later : List Event} (rest : HandedBetween reached first second later) :
    HandedBetween reached first second (events ++ later) := by
  intro own before fits
  obtain ⟨starts, aside, told⟩ := others
  obtain ⟨more, after, handed, also, final⟩ := rest own before fits
  exact ⟨starts ++ more, after, .aside aside handed, told.append also, final⟩

/-- Nothing is handed over with an event with which no step begins. -/
theorem HandedBetween.behind {event : Event} (silent : event.start? = none) {first second : Option Value}
    {later : List Event} (rest : HandedBetween reached first second later) :
    HandedBetween reached first second (event :: later) := by
  have aside : AsideBetween reached [event] := asideBetween_silent (by rw [List.filterMap_cons, silent]; rfl)
  exact aside.handed rest

/-- A task may be all that is handed over. -/
theorem RanBetween.handed {processor : Processor κ} {first second : Option Value} {events : List Event}
    (ran : RanBetween reached processor first second events) (arrived : reached processor) :
    HandedBetween reached first second events := by
  have alone := ran.along arrived (handedBetween_nothing second)
  rwa [List.append_nil] at alone

/-- What is handed over happens inside the processor that hands it over. -/
theorem HandedBetween.inside {first second : Option Value} {events : List Event}
    (between : HandedBetween reached first second events) (whole : Processor κ) :
    (indexAccount reached whole).leads first second events := by
  intro own before fits
  obtain ⟨starts, after, handed, told, final⟩ := between own before fits
  exact ⟨starts, after, .handed_alone handed, told, final⟩

/-- What is handed over and not worked on happens inside the processor that hands it over. -/
theorem AsideBetween.inside {events : List Event} (others : AsideBetween reached events) (whole : Processor κ) :
    (indexAccount reached whole).Still events := by
  intro seen
  have alone := (others.handed (handedBetween_nothing seen)).inside whole
  rwa [List.append_nil] at alone

/-! ## Iterations and branches -/

/-- What is known of iterations, put together from what is known of each of them. -/
theorem repeats_between {loop body : Processor κ} (loops : loop.LoopsOver body) :
    Repeats (AsideBetween reached) (fun index _ => RoundBetween reached body index) (RoundsBetween reached loop) where
  asked := by
    rintro index - second events later ⟨others, aside, also⟩ ⟨asked, starts, inner, asking, ran, told, seen⟩
    refine ⟨others ++ asked, starts, inner, .append asking aside, ran, ?_, seen⟩
    rw [List.append_assoc]
    exact also.append told
  last := by
    rintro index first second events ⟨asked, starts, inner, asking, ran, told, rfl⟩ own before -
    exact ⟨asked ++ starts, some (inner.getD index), .last loops asking ran, told, .of_noted own _⟩
  next := by
    rintro index first second third events later ⟨asked, starts, inner, asking, ran, told, rfl⟩ others own before -
    obtain ⟨more, after, rounds, also, final⟩ := others own (some (inner.getD index)) (.of_noted own _)
    exact ⟨asked ++ starts ++ more, after, .next loops asking ran rounds, told.append also, final⟩

/-- What is known of branches, put together from what is known of each of them. -/
theorem gathers_between (outputs : List (Processor κ)) :
    Gathers (fun first second events => ∃ output ∈ outputs, RanBetween reached output first second events)
      (BranchesBetween reached outputs) (AsideBetween reached) where
  nothing _ own before fits :=
    ⟨[], [], [], before, .nothing outputs own before, .nothing, .inl rfl, .nothing rfl, fits⟩
  aside := by
    rintro first second third events later ⟨output, member, ran⟩ others own before fits
    obtain ⟨starts, last, ran, told, -⟩ := ran own before fits
    obtain ⟨more, joining, ends, after, branches, joined, taken, also, final⟩ := others own before fits
    refine ⟨starts ++ more, joining, last :: ends, after, .branch member ran branches, joined,
      taken.imp id (List.mem_cons_of_mem last), ?_, final⟩
    rw [List.append_assoc]
    exact told.append also
  taken := by
    rintro first second events later ⟨output, member, ran⟩ others own before fits
    obtain ⟨starts, last, ran, told, final⟩ := ran own before fits
    obtain ⟨more, joining, ends, after, branches, joined, taken, also, -⟩ := others own before fits
    refine ⟨starts ++ more, joining, last :: ends, last, .branch member ran branches, joined,
      .inr List.mem_cons_self, ?_, final⟩
    rw [List.append_assoc]
    exact told.append also
  join := by
    rintro first second events later others ⟨starts, aside, told⟩ own before fits
    obtain ⟨more, joining, ends, after, branches, joined, taken, also, final⟩ := others own before fits
    refine ⟨more, joining ++ starts, ends, after, branches, .append aside joined, taken, ?_, final⟩
    rw [← List.append_assoc]
    exact also.append told

end Between

end Indexed

end MessageRouting
