import MessageRouting.Engine.Timers
import MessageRouting.Proofs.Program.Playing

/-!
# Turns of timers

While time passes, the timers of an engine take turns: the wait of one of them ends, and it fires an exchange or comes
to its end. What the timers did is told turn by turn. A timer is left alone in the turns of all others, and while they
are started and stopped; it can only be taken away.
-/

namespace MessageRouting.Engine

open Time

variable {κ η : Type}

/-! ## Turns -/

/-- Why a timer came to its end. -/
inductive TimerEnding where
  /-- It was told to stop. -/
  | stopped
  /-- The scope it works in was cancelled. -/
  | cancelled
  /-- It had fired as often as it is to. -/
  | completed
  deriving Repr, DecidableEq

/-- What a timer did. -/
inductive TimerEvent where
  /-- It fired an exchange. -/
  | fired (x : Exchange)
  /-- It came to its end. -/
  | ended (ending : TimerEnding)

/-- Fires an exchange of a timer, and tells which. -/
def tellFire (timer : RunningTimer κ) (number : Nat) : Work κ η Exchange := do
  let fresh ← newExchange timer.context.scope timer.context.exchangeTimeout
  let now ← Program.read fun engine => clockTime engine.now
  let x := timer.settings.prepare number now fresh
  let _ ← dispatch timer.context.processor x
  Program.change (rest timer number)
  return x

/-- A turn of a timer: the exchange that it fired, if it did, and why it came to its end, if it did. -/
structure Turn where
  /-- The exchange. -/
  fired : Option Exchange
  /-- The reason for the end. -/
  ending : Option TimerEnding

/-- What a timer did in a turn, in this order. -/
def Turn.events (turn : Turn) : List TimerEvent :=
  (turn.fired.map TimerEvent.fired).toList ++ (turn.ending.map TimerEvent.ended).toList

/-- The turn of a timer whose wait has ended. -/
def takeTurn : RunningTimer κ × TimerMove → Work κ η Turn
  | (_, .finish) => return ⟨none, some .cancelled⟩
  | (timer, .fire number) => do
    let x ← tellFire timer number
    return ⟨some x, if timer.settings.isDone number then some .completed else none⟩

/-- Lets time pass, and tells what the timers did meanwhile. -/
def tellTime (limit : Instant) (enough : Engine κ η → Bool) : Nat → Work κ η (List (Identity × TimerEvent))
  | 0 => return []
  | firings + 1 => do
    if ← Program.read enough then return []
    else
      match ← Program.atomically (wake limit) with
      | none => return []
      | some woken => do
        let turn ← takeTurn woken
        return turn.events.map (woken.1.identity, ·) ++ (← tellTime limit enough firings)

/-- Time passes by turns of the timers. -/
theorem passTime_eq (limit : Instant) (enough : Engine κ η → Bool) (firings : Nat) :
    (passTime limit enough firings : Work κ η Unit) = tellTime limit enough firings >>= fun _ => return () := by
  induction firings with
  | zero => rfl
  | succ firings later =>
    simp only [passTime, tellTime, bind_assoc]
    congr 1
    funext done
    cases done with
    | true => rfl
    | false =>
      simp only [Bool.false_eq_true, if_false, bind_assoc]
      congr 1
      funext woken
      cases woken with
      | none => rfl
      | some woken =>
        obtain ⟨timer, move⟩ := woken
        cases move with
        | finish => simp only [takeTurn, later, bind_assoc, pure_bind]
        | fire number => simp only [takeTurn, fire, tellFire, later, bind_assoc, pure_bind]

/-! ## Timers left alone -/

/-- The timers of an identity that run. -/
def timersOf (identity : Identity) (engine : Engine κ η) : List (RunningTimer κ) :=
  engine.timers.filter (·.identity = identity)

/-- A timer is left alone, but for being taken away. -/
def LeavesTimer (identity : Identity) (engine after : Engine κ η) : Prop :=
  timersOf identity after = timersOf identity engine ∨ timersOf identity after = []

/-- Leaving a timer alone can be chained. -/
theorem overTime_leavesTimer (identity : Identity) :
    OverTime (LeavesTimer identity : Engine κ η → Engine κ η → Prop) where
  refl _ := .inl rfl
  trans first second := by
    rcases second with same | gone
    · rcases first with before | gone
      · exact .inl (same.trans before)
      · exact .inr (same.trans gone)
    · exact .inr gone

/-- A timer that is gone stays away. -/
theorem LeavesTimer.gone {identity : Identity} {engine after : Engine κ η} (leaves : LeavesTimer identity engine after)
    (gone : timersOf identity engine = []) : timersOf identity after = [] :=
  leaves.elim (·.trans gone) id

/-- A timer is one of its identity if it runs. -/
theorem mem_timersOf {timer : RunningTimer κ} {engine : Engine κ η} (runs : timer ∈ engine.timers) :
    timer ∈ timersOf timer.identity engine :=
  List.mem_filter.2 ⟨runs, decide_eq_true rfl⟩

/-- When a timer is taken away, it is gone, and others stay. -/
theorem timersOf_takeTimer (identity other : Identity) (engine : Engine κ η) :
    timersOf identity (takeTimer other engine) = if other = identity then [] else timersOf identity engine := by
  unfold timersOf takeTimer
  rw [List.filter_filter]
  split
  case isTrue same =>
    refine List.filter_eq_nil_iff.2 fun timer _ => ?_
    simp [same]
  case isFalse apart =>
    refine List.filter_congr fun timer _ => ?_
    by_cases own : timer.identity = identity
    · simp [own, Ne.symm apart]
    · simp [own]

/-- When a timer is changed, others stay. -/
theorem timersOf_changeTimer (identity other : Identity) {f : RunningTimer κ → RunningTimer κ}
    (same : ∀ timer, (f timer).identity = timer.identity) (engine : Engine κ η) :
    timersOf identity (changeTimer other f engine) =
      if other = identity then (timersOf identity engine).map f else timersOf identity engine := by
  have kept : ((fun timer => decide (timer.identity = identity)) ∘ fun timer : RunningTimer κ =>
      if timer.identity = other then f timer else timer) = fun timer => decide (timer.identity = identity) := by
    funext timer
    simp only [Function.comp_apply]
    split
    · rw [same]
    · rfl
  unfold timersOf changeTimer
  rw [List.filter_map, kept]
  split
  case isTrue own =>
    refine List.map_congr_left fun timer listed => if_pos ?_
    exact (of_decide_eq_true (List.mem_filter.1 listed).2).trans own.symm
  case isFalse apart =>
    refine (List.map_congr_left fun timer listed => if_neg fun own => ?_).trans (List.map_id' _)
    exact apart (own.symm.trans (of_decide_eq_true (List.mem_filter.1 listed).2))

/-- A timer that is taken away is left alone but for that. -/
theorem leavesTimer_takeTimer (identity other : Identity) (engine : Engine κ η) :
    LeavesTimer identity engine (takeTimer other engine) := by
  unfold LeavesTimer
  rw [timersOf_takeTimer]
  split
  · exact .inr rfl
  · exact .inl rfl

/-- A timer is left alone when another one is changed. -/
theorem leavesTimer_changeTimer {identity other : Identity} (apart : other ≠ identity)
    {f : RunningTimer κ → RunningTimer κ} (same : ∀ timer, (f timer).identity = timer.identity)
    (engine : Engine κ η) : LeavesTimer identity engine (changeTimer other f engine) := by
  unfold LeavesTimer
  rw [timersOf_changeTimer identity other same, if_neg apart]
  exact .inl rfl

/-! ## The end of a wait -/

/-- The timer that is due first runs. -/
theorem firstDue?_mem {limit : Instant} {timers : List (RunningTimer κ)} {timer : RunningTimer κ} {due : Instant}
    (found : firstDue? limit timers = some (timer, due)) : timer ∈ timers := by
  have chosen : ∀ entry : RunningTimer κ × Instant, firstDue? limit timers = some entry → entry.1 ∈ timers := by
    unfold firstDue?
    refine List.foldlRecOn (motive := fun best => ∀ entry : RunningTimer κ × Instant, best = some entry →
      entry.1 ∈ timers) timers _ nofun ?_
    intro best among timer listed
    have own (due : Instant) : ∀ entry : RunningTimer κ × Instant, some (timer, due) = some entry →
        entry.1 ∈ timers := by
      rintro entry ⟨⟩
      exact listed
    split
    · exact among
    · split
      · exact among
      · split
        · exact own _
        · exact among
  exact chosen _ found

/-- What the end of a wait can be. -/
inductive Wakes (engine : Engine κ η) : Option (RunningTimer κ × TimerMove) → Engine κ η → Prop
  /-- No timer is due. -/
  | none (now : Instant) : Wakes engine none { engine with now }
  /-- A timer whose scope was cancelled comes to its end. -/
  | finish {timer : RunningTimer κ} (now : Instant) (runs : timer ∈ engine.timers)
    (cancelled : timer.context.scope.isCancelled engine.cancelled = true) :
    Wakes engine (some (timer, .finish)) (takeTimer timer.identity { engine with now })
  /-- A timer is to fire its next exchange, and does not wait meanwhile. -/
  | fire {timer : RunningTimer κ} (now : Instant) (runs : timer ∈ engine.timers)
    (going : timer.context.scope.isCancelled engine.cancelled = false) :
    Wakes engine (some (timer, .fire (timer.fired + 1)))
      (changeTimer timer.identity (fun t => { t with fired := timer.fired + 1, due := Option.none })
        { engine with now })

/-- A wait can only end so. -/
theorem wakes_of_wake {limit : Instant} {engine after : Engine κ η} {woken : Option (RunningTimer κ × TimerMove)}
    (ended : wake limit engine = (woken, after)) : Wakes engine woken after := by
  unfold wake at ended
  split at ended
  case h_1 =>
    obtain ⟨rfl, rfl⟩ := Prod.mk.inj ended
    exact .none _
  case h_2 timer due found =>
    have runs := firstDue?_mem found
    cases cancelled : timer.context.scope.isCancelled engine.cancelled with
    | true =>
      simp only [cancelled, TimerMove.afterWait, Bool.or_true, if_true] at ended
      obtain ⟨rfl, rfl⟩ := Prod.mk.inj ended
      exact .finish _ runs cancelled
    | false =>
      simp only [cancelled, TimerMove.afterWait, Bool.or_false, Bool.false_eq_true, if_false] at ended
      obtain ⟨rfl, rfl⟩ := Prod.mk.inj ended
      exact .fire _ runs cancelled

/-- A timer of another identity is left alone in its turn. -/
theorem leavesTimer_of_wake {identity : Identity} {limit : Instant} {engine after : Engine κ η}
    {woken : Option (RunningTimer κ × TimerMove)} (ended : wake limit engine = (woken, after))
    (others : ∀ timer move, woken = some (timer, move) → timer.identity ≠ identity) :
    LeavesTimer identity engine after := by
  cases wakes_of_wake ended with
  | none => exact .inl rfl
  | finish => exact leavesTimer_takeTimer _ _ _
  | fire =>
    refine leavesTimer_changeTimer (others _ _ rfl) ?_ _
    exact fun _ => rfl

/-- The timer that wakes runs. -/
theorem mem_of_wake {limit : Instant} {engine after : Engine κ η} {woken : RunningTimer κ × TimerMove}
    (ended : wake limit engine = (some woken, after)) : woken.1 ∈ engine.timers := by
  cases wakes_of_wake ended with
  | finish _ runs => exact runs
  | fire _ runs => exact runs

/-! ## Beside a timer -/

section Beside

variable {identity : Identity}

/-- Making an exchange leaves a timer alone. -/
theorem sections_newExchange (scope : Scope) (timeout : Option Duration) :
    (newExchange scope timeout : Work κ η Exchange).Sections (LeavesTimer identity) := by
  refine .bind (.atomically fun engine => .inl ?_) fun _ => trivial
  unfold scopeFor
  split <;> rfl

/-- Handing an exchange over leaves a timer alone. -/
theorem sections_dispatch (processor : Processor κ) (x : Exchange) :
    (dispatch processor x : Work κ η Exchange).Sections (LeavesTimer identity) :=
  .bind (.ask _) fun _ => trivial

/-- The turn of another timer leaves a timer alone. -/
theorem sections_takeTurn {woken : RunningTimer κ × TimerMove} (apart : woken.1.identity ≠ identity) :
    (takeTurn woken : Work κ η Turn).Sections (LeavesTimer identity) := by
  have rests (timer : RunningTimer κ) (number : Nat) (other : timer.identity ≠ identity) (engine : Engine κ η) :
      LeavesTimer identity engine (rest timer number engine) := by
    unfold rest
    split
    · exact leavesTimer_takeTimer _ _ _
    · refine leavesTimer_changeTimer other ?_ _
      exact fun _ => rfl
  obtain ⟨timer, move⟩ := woken
  cases move with
  | finish => trivial
  | fire number =>
    refine .bind ((sections_newExchange _ _).bind fun fresh => ?_) fun _ => trivial
    refine (Program.Sections.read (overTime_leavesTimer identity) _).bind fun now => ?_
    refine (sections_dispatch _ _).bind fun _ => ?_
    exact (Program.Sections.change (rests timer number apart)).bind fun _ => trivial

/-- Setting another timer going leaves a timer alone. -/
theorem leavesTimer_setGoing {other : Identity} (apart : other ≠ identity) (settings : TimerSettings)
    (context : ConsumerContext κ) (engine : Engine κ η) :
    LeavesTimer identity engine (setGoing other settings context engine) := by
  refine .inl ?_
  simp [timersOf, setGoing, apart]

/-- Starting a consumer leaves a timer alone that is not its own. -/
theorem sections_startConsumer (embedding : Embedding κ η) {consumer : Consumer κ}
    (apart : ∀ settings context active stopped, consumer ≠ .timer identity settings context active stopped) :
    (startConsumer embedding consumer).Sections (LeavesTimer identity) := by
  cases consumer with
  | direct name table processor active =>
    refine .bind (.atomically fun engine => .inl ?_) fun entered => ?_
    · unfold enter
      split <;> rfl
    · cases entered <;> trivial
  | timer other settings context active stopped =>
    have different : other ≠ identity := by
      rintro rfl
      exact apart settings context active stopped rfl
    cases active with
    | true => trivial
    | false =>
      cases stopped with
      | true => trivial
      | false => exact .bind (.change (leavesTimer_setGoing different settings context)) fun _ => trivial
  | custom code => exact .bind (.atomically fun _ => .inl rfl) fun _ => trivial

/-- Stopping a consumer leaves a timer alone, but for taking it away. -/
theorem sections_stopConsumer (embedding : Embedding κ η) (consumer : Consumer κ) :
    (stopConsumer embedding consumer).Sections (LeavesTimer identity) := by
  cases consumer with
  | direct name table processor active =>
    cases active with
    | true => exact .bind (.change fun _ => .inl rfl) fun _ => trivial
    | false => trivial
  | timer other => exact .bind (.change (leavesTimer_takeTimer identity other)) fun _ => trivial
  | custom code =>
    refine .bind (.atomically fun _ => .inl rfl) fun answer => ?_
    cases answer <;> trivial

end Beside

end MessageRouting.Engine
