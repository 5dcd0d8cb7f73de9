import MessageRouting.Proofs.Lifecycle.TimerTurns

/-!
# The loop of a timer

The turns of one timer make its loop: it waits until it is the one that wakes or is gone, fires its next exchange, and
goes on unless that was the last one. Others may change everything between the sections of the loop, and of the timer
itself they may take it away, which is how it is stopped. Whatever they do and whatever comes of the exchanges, these
are numbered from one, and none follows the end. While time passes, each timer does what its loop can do.
-/

namespace MessageRouting.Engine

open Time

variable {κ η : Type}

/-! ## The loop -/

/-- The end of a wait of a timer: it is gone, or it is the one that wakes. Until then it goes on. -/
def wakeOwn (identity : Identity) (limit : Instant) (engine : Engine κ η) :
    Option (Option (RunningTimer κ × TimerMove) × Engine κ η) :=
  if (timersOf identity engine).isEmpty then some (none, engine)
  else
    match wake limit engine with
    | (some woken, after) => if woken.1.identity = identity then some (some woken, after) else none
    | (none, _) => none

/-- The loop of a timer, for so many waits as there are instants that time may pass to. -/
def timerLoop (identity : Identity) : List Instant → Work κ η (List TimerEvent)
  | [] => return []
  | limit :: limits => do
    match ← Program.tryAtomically (wakeOwn identity limit) none with
    | none => return [.ended .stopped]
    | some woken => do
      let turn ← takeTurn woken
      if turn.ending.isSome then return turn.events
      else return turn.events ++ (← timerLoop identity limits)

/-- The wait of a timer ends when it is gone, or when it is the one that wakes. -/
theorem wakeOwn_ends {identity : Identity} {limit : Instant} {engine after : Engine κ η}
    {woken : Option (RunningTimer κ × TimerMove)} (took : wakeOwn identity limit engine = some (woken, after)) :
    (woken = none ∧ timersOf identity engine = [] ∧ after = engine) ∨
    ∃ found, woken = some found ∧ found.1.identity = identity ∧ wake limit engine = (some found, after) := by
  unfold wakeOwn at took
  split at took
  case isTrue gone =>
    obtain ⟨rfl, rfl⟩ := Prod.mk.inj (Option.some.inj took)
    exact .inl ⟨rfl, List.isEmpty_iff.1 gone, rfl⟩
  case isFalse =>
    split at took
    case h_1 found left answer =>
      split at took
      case isTrue own =>
        obtain ⟨rfl, rfl⟩ := Prod.mk.inj (Option.some.inj took)
        exact .inr ⟨found, rfl, own, answer⟩
      case isFalse => contradiction
    case h_2 => contradiction

/-- The loop of another timer leaves a timer alone. -/
theorem sections_timerLoop {identity other : Identity} (apart : other ≠ identity) (limits : List Instant) :
    (timerLoop other limits : Work κ η (List TimerEvent)).Sections (LeavesTimer identity) := by
  induction limits with
  | nil => trivial
  | cons limit limits later =>
    -- Whose turn it is depends on where the wait has ended, so the first section is taken with what follows it.
    refine ⟨fun engine after took => ?_, fun engine => ?_⟩
    · obtain ⟨⟨woken, left⟩, ended, rfl⟩ := Option.map_eq_some_iff.1 took
      rcases wakeOwn_ends ended with ⟨_, _, rfl⟩ | ⟨found, _, own, answer⟩
      · exact (overTime_leavesTimer identity).refl left
      · refine leavesTimer_of_wake answer fun timer move same => ?_
        obtain rfl := Option.some.inj same
        exact fun mine => apart (own.symm.trans mine)
    · simp only [Program.bind]
      split
      case h_1 => trivial
      case h_2 woken woke =>
        have own : woken.1.identity = other := by
          cases ended : wakeOwn other limit engine with
          | none =>
            rw [ended] at woke
            contradiction
          | some answer =>
            obtain ⟨found, left⟩ := answer
            rw [ended] at woke
            obtain rfl : found = some woken := woke
            rcases wakeOwn_ends ended with ⟨absent, _⟩ | ⟨_, same, own, _⟩
            · contradiction
            · rw [Option.some.inj same]
              exact own
        refine (sections_takeTurn (own ▸ apart)).bind fun turn => ?_
        split
        · trivial
        · exact later.bind fun _ => trivial

/-! ## Own turns -/

/-- An exchange is one that a timer fires under a number. -/
def FiresAs (settings : TimerSettings) (number : Nat) (x : Exchange) : Prop :=
  ∃ now fresh, x = settings.prepare number now fresh

/-- An exchange of a timer carries its number. -/
theorem FiresAs.counter {settings : TimerSettings} {number : Nat} {x : Exchange} (fires : FiresAs settings number x) :
    x.property? timerCounterProperty = some (.ofNat number) := by
  obtain ⟨now, fresh, rfl⟩ := fires
  have apart : timerCounterProperty ≠ timerFiredProperty := by decide
  exact (Table.find?_insert ..).trans ((if_neg apart).trans (Table.find?_insert_self ..))

/-- A timer that has fired so often waits or fires, or it is gone. -/
def HasFired (identity : Identity) (settings : TimerSettings) (context : ConsumerContext κ) (number : Nat)
    (engine : Engine κ η) : Prop :=
  timersOf identity engine = [] ∨ ∃ due, timersOf identity engine = [⟨identity, settings, context, number, due⟩]

section Own

variable {identity : Identity} {settings : TimerSettings} {context : ConsumerContext κ} {number : Nat}
  {engine after : Engine κ η}

/-- A timer that is left alone has fired as often as before. -/
theorem HasFired.leaves (has : HasFired identity settings context number engine)
    (leaves : LeavesTimer identity engine after) : HasFired identity settings context number after := by
  rcases leaves with same | gone
  · rwa [HasFired, same]
  · exact .inl gone

/-- How the wait of a timer ends: the timer is gone, its scope was cancelled, or it fires its next exchange. -/
theorem wakeOwn_cases {limit : Instant} {woken : Option (RunningTimer κ × TimerMove)}
    (has : HasFired identity settings context number engine)
    (took : wakeOwn identity limit engine = some (woken, after)) :
    (woken = none ∧ timersOf identity engine = [] ∧ timersOf identity after = []) ∨
    (∃ timer, woken = some (timer, .finish) ∧ context.scope.isCancelled engine.cancelled = true ∧
      timersOf identity after = []) ∨
    (∃ due, woken = some (⟨identity, settings, context, number, due⟩, .fire (number + 1)) ∧
      context.scope.isCancelled engine.cancelled = false ∧
      HasFired identity settings context (number + 1) after) := by
  rcases wakeOwn_ends took with ⟨rfl, gone, rfl⟩ | ⟨found, rfl, own, answer⟩
  · exact .inl ⟨rfl, gone, gone⟩
  · refine .inr ?_
    obtain ⟨timer, move⟩ := found
    have listed := mem_timersOf (mem_of_wake answer)
    rw [show timer.identity = identity from own] at listed
    rcases has with gone | ⟨due, single⟩
    · rw [gone] at listed
      contradiction
    · rw [single, List.mem_singleton] at listed
      obtain rfl : timer = ⟨identity, settings, context, number, due⟩ := listed
      cases wakes_of_wake answer with
      | finish now runs cancelled =>
        refine .inl ⟨_, rfl, cancelled, ?_⟩
        rw [timersOf_takeTimer, if_pos rfl]
      | fire now runs going =>
        refine .inr ⟨due, rfl, going, .inr ⟨none, (timersOf_changeTimer _ _ ?_ _).trans ?_⟩⟩
        · exact fun _ => rfl
        · rw [if_pos rfl]
          exact congrArg (List.map _) single

/-- After a timer has fired, it is gone if it has done so as often as it is to, and has fired once more else. -/
theorem plays_tellFire {timer : RunningTimer κ} {x : Exchange} (own : timer.identity = identity)
    (has : HasFired identity settings context number engine)
    (played : (tellFire timer number).Plays (LeavesTimer identity) engine x after) :
    FiresAs timer.settings number x ∧
      if timer.settings.isDone number then timersOf identity after = []
      else HasFired identity settings context number after := by
  have time := overTime_leavesTimer (κ := κ) (η := η) identity
  obtain ⟨fresh, made, making, played⟩ := (Program.plays_bind time).1 played
  obtain ⟨now, seen, reading, played⟩ := (Program.plays_bind time).1 played
  obtain ⟨answer, handed, handing, played⟩ := (Program.plays_bind time).1 played
  obtain ⟨_, rested, resting, rfl, ended⟩ := (Program.plays_bind time).1 played
  obtain ⟨met, between, left⟩ := Program.plays_change.1 resting
  have before : HasFired identity settings context number met :=
    (((has.leaves ((sections_newExchange _ _).plays time making)).leaves
      ((Program.Sections.read time _).plays time reading)).leaves
        ((sections_dispatch _ _).plays time handing)).leaves between
  refine ⟨⟨now, fresh, rfl⟩, ?_⟩
  have further := time.trans left ended
  unfold rest at further
  split
  case isTrue done =>
    rw [if_pos done] at further
    refine further.gone ?_
    rw [timersOf_takeTimer, if_pos own]
  case isFalse going =>
    rw [if_neg going] at further
    refine HasFired.leaves ?_ further
    have changed := timersOf_changeTimer identity timer.identity
      (f := fun t => { t with due := met.now.after? timer.settings.period }) (fun _ => rfl) met
    rw [if_pos own] at changed
    rw [HasFired, changed]
    rcases before with gone | ⟨due, single⟩
    · exact .inl (congrArg (List.map _) gone)
    · exact .inr ⟨_, congrArg (List.map _) single⟩

/-- How a turn of a timer can go that has fired so often: its scope was cancelled, or it fires its next exchange, which
is the last one or not. -/
inductive TurnGoes (identity : Identity) (settings : TimerSettings) (context : ConsumerContext κ) (before : Nat)
    (after : Engine κ η) : Turn → Prop
  /-- The scope was cancelled, and the timer is gone. -/
  | cancelled (gone : timersOf identity after = []) :
    TurnGoes identity settings context before after ⟨none, some .cancelled⟩
  /-- It fires its last exchange, and is gone. -/
  | completed {x : Exchange} (fires : FiresAs settings (before + 1) x)
    (done : settings.isDone (before + 1) = true) (gone : timersOf identity after = []) :
    TurnGoes identity settings context before after ⟨some x, some .completed⟩
  /-- It fires an exchange, and goes on. -/
  | again {x : Exchange} (fires : FiresAs settings (before + 1) x)
    (going : settings.isDone (before + 1) = false) (has : HasFired identity settings context (before + 1) after) :
    TurnGoes identity settings context before after ⟨some x, none⟩

/-- Every turn of a timer goes in one of those ways. -/
theorem turnGoes_of_plays {limit : Instant} {woken : RunningTimer κ × TimerMove} {left begun : Engine κ η} {turn : Turn}
    (has : HasFired identity settings context number engine)
    (took : wakeOwn identity limit engine = some (some woken, left)) (leaves : LeavesTimer identity left begun)
    (played : (takeTurn woken).Plays (LeavesTimer identity) begun turn after) :
    TurnGoes identity settings context number after turn := by
  have time := overTime_leavesTimer (κ := κ) (η := η) identity
  rcases wakeOwn_cases has took with ⟨none, _⟩ | ⟨timer, same, _, gone⟩ | ⟨due, same, _, fired⟩
  · contradiction
  · obtain rfl := Option.some.inj same
    obtain ⟨rfl, further⟩ := played
    exact .cancelled ((time.trans leaves further).gone gone)
  · obtain rfl := Option.some.inj same
    obtain ⟨x, rested, firing, rfl, further⟩ := (Program.plays_bind time).1 played
    have own : (⟨identity, settings, context, number, due⟩ : RunningTimer κ).identity = identity := rfl
    obtain ⟨fires, follows⟩ := plays_tellFire own (fired.leaves leaves) firing
    cases done : settings.isDone (number + 1) with
    | true =>
      simp only [done, if_true] at follows ⊢
      exact .completed fires done (further.gone follows)
    | false =>
      simp only [done, Bool.false_eq_true, if_false] at follows ⊢
      exact .again fires done (follows.leaves further)

end Own

/-! ## The account of a loop -/

/-- First some exchanges were fired, and then came an end, or none yet. -/
def firedThenEnded (exchanges : List Exchange) (ending : Option TimerEnding) : List TimerEvent :=
  exchanges.map .fired ++ (ending.map TimerEvent.ended).toList

/-- What a loop does, within so many waits, that goes on after a timer has fired so often. -/
structure LoopGoes (settings : TimerSettings) (before waits : Nat) (exchanges : List Exchange)
    (ending : Option TimerEnding) : Prop where
  /-- The exchanges are numbered in their order. -/
  numbered : ∀ n x, exchanges[n]? = some x → FiresAs settings (before + n + 1) x
  /-- Each of them was fired before the timer had fired as often as it is to. -/
  going : ∀ n < exchanges.length, settings.isDone (before + n) = false
  /-- The timer completes its work when it has fired as often as it is to. -/
  completed : ending = some .completed ↔ settings.isDone (before + exchanges.length) = true
  /-- A loop that has come to no end has fired an exchange after each wait. -/
  unended : ending = none → exchanges.length = waits

section Account

variable {identity : Identity} {settings : TimerSettings} {context : ConsumerContext κ} {before waits : Nat}
  {engine after : Engine κ η}

/-- A loop may have no waits left, be stopped, or find its scope cancelled. -/
theorem LoopGoes.nothing {ending : Option TimerEnding} (going : settings.isDone before = false)
    (early : ending ≠ some .completed) (unended : ending = none → 0 = waits) :
    LoopGoes settings before waits [] ending where
  numbered _ _ found := nomatch found
  going n inside := absurd inside (Nat.not_lt_zero n)
  completed := ⟨fun done => absurd done early, fun done => nomatch going.symm.trans done⟩
  unended := unended

/-- A loop may complete its work. -/
theorem LoopGoes.last {x : Exchange} (going : settings.isDone before = false)
    (fires : FiresAs settings (before + 1) x) (done : settings.isDone (before + 1) = true) :
    LoopGoes settings before waits [x] (some .completed) where
  numbered n other found := by
    cases n with
    | zero =>
      obtain rfl := Option.some.inj found
      exact fires
    | succ n => contradiction
  going n inside := by
    rw [List.length_singleton, Nat.lt_one_iff] at inside
    exact inside ▸ going
  completed := ⟨fun _ => done, fun _ => rfl⟩
  unended := nofun

/-- A loop may fire an exchange and go on. -/
theorem LoopGoes.again {x : Exchange} {exchanges : List Exchange} {ending : Option TimerEnding}
    (going : settings.isDone before = false) (fires : FiresAs settings (before + 1) x)
    (later : LoopGoes settings (before + 1) waits exchanges ending) :
    LoopGoes settings before (waits + 1) (x :: exchanges) ending where
  numbered n other found := by
    cases n with
    | zero =>
      obtain rfl := Option.some.inj found
      exact fires
    | succ n =>
      rw [show before + (n + 1) + 1 = before + 1 + n + 1 by omega]
      exact later.numbered n other found
  going n inside := by
    cases n with
    | zero => exact going
    | succ n =>
      rw [show before + (n + 1) = before + 1 + n by omega]
      exact later.going n (Nat.lt_of_succ_lt_succ inside)
  completed := by
    rw [List.length_cons, show before + (exchanges.length + 1) = before + 1 + exchanges.length by omega]
    exact later.completed
  unended none := congrArg (· + 1) (later.unended none)

/-- However the loop of a timer plays among others that leave the timer alone, it fires exchanges that are numbered from
where it began, and then comes to its end or runs out of waits; at its end the timer is gone. -/
theorem loopGoes_of_plays {limits : List Instant} {events : List TimerEvent}
    (has : HasFired identity settings context before engine) (going : settings.isDone before = false)
    (played : (timerLoop identity limits).Plays (LeavesTimer identity) engine events after) :
    ∃ exchanges ending, events = firedThenEnded exchanges ending ∧
      LoopGoes settings before limits.length exchanges ending ∧ (ending ≠ none → timersOf identity after = []) := by
  have time := overTime_leavesTimer (κ := κ) (η := η) identity
  induction limits generalizing before engine after events with
  | nil =>
    obtain ⟨rfl, _⟩ := played
    exact ⟨[], none, rfl, .nothing going nofun fun _ => rfl, fun ended => absurd rfl ended⟩
  | cons limit limits later =>
    obtain ⟨woken, rested, waited, played⟩ := (Program.plays_bind time).1 played
    obtain ⟨met, left, between, took, leaves⟩ := Program.plays_tryAtomically.1 waited
    cases woken with
    | none =>
      rcases wakeOwn_cases (has.leaves between) took with ⟨_, _, gone⟩ | ⟨_, some, _⟩ | ⟨_, some, _⟩
      · obtain ⟨rfl, further⟩ := played
        exact ⟨[], some .stopped, rfl, .nothing going nofun nofun, fun _ => (time.trans leaves further).gone gone⟩
      · contradiction
      · contradiction
    | some woken =>
      obtain ⟨turn, ended, turned, played⟩ := (Program.plays_bind time).1 played
      cases turnGoes_of_plays (has.leaves between) took leaves turned with
      | cancelled gone =>
        obtain ⟨rfl, further⟩ := played
        exact ⟨[], some .cancelled, rfl, .nothing going nofun nofun, fun _ => further.gone gone⟩
      | @completed x fires done gone =>
        obtain ⟨rfl, further⟩ := played
        exact ⟨[x], some .completed, rfl, .last going fires done, fun _ => further.gone gone⟩
      | @again x fires done fired =>
        obtain ⟨events, last, playedOn, rfl, further⟩ := (Program.plays_bind time).1 played
        obtain ⟨exchanges, ending, rfl, goes, gone⟩ := later fired done playedOn
        exact ⟨x :: exchanges, ending, rfl, goes.again going fires, fun ended => further.gone (gone ended)⟩

end Account

/-! ## Time passes by loops -/

/-- What is told of one timer. -/
def eventsOf (identity : Identity) (tale : List (Identity × TimerEvent)) : List TimerEvent :=
  (tale.filter (·.1 = identity)).map Prod.snd

/-- What is told of a timer in the turn of one, and in what follows. -/
theorem eventsOf_turn (identity other : Identity) (events : List TimerEvent) (tale : List (Identity × TimerEvent)) :
    eventsOf identity (events.map (other, ·) ++ tale) =
      (if other = identity then events else []) ++ eventsOf identity tale := by
  unfold eventsOf
  rw [List.filter_append, List.map_append, List.filter_map, List.map_map]
  congr 1
  split
  case isTrue same =>
    have all : events.filter ((fun entry : Identity × TimerEvent => decide (entry.1 = identity)) ∘ (other, ·)) =
        events := List.filter_eq_self.2 fun _ _ => decide_eq_true same
    rw [all]
    exact List.map_id' events
  case isFalse apart =>
    have none : events.filter ((fun entry : Identity × TimerEvent => decide (entry.1 = identity)) ∘ (other, ·)) =
        [] := List.filter_eq_nil_iff.2 fun _ _ own => apart (of_decide_eq_true own)
    rw [none]
    rfl

section Time

variable {identity : Identity} {settings : TimerSettings} {context : ConsumerContext κ} {before : Nat}
  {engine after : Engine κ η} {limit : Instant} {enough : Engine κ η → Bool} {firings : Nat}
  {tale : List (Identity × TimerEvent)}

/-- A turn in which time passes: nothing is due, or a timer takes its turn and time passes on. -/
theorem tellTime_cases
    (played : (tellTime limit enough (firings + 1)).Plays (LeavesTimer identity) engine tale after) :
    (tale = [] ∧ LeavesTimer identity engine after) ∨
    ∃ met left woken begun turn rested later, LeavesTimer identity engine met ∧
      wake limit met = (some woken, left) ∧ LeavesTimer identity left begun ∧
      (takeTurn woken).Plays (LeavesTimer identity) begun turn rested ∧
      (tellTime limit enough firings).Plays (LeavesTimer identity) rested later after ∧
      tale = turn.events.map (woken.1.identity, ·) ++ later := by
  have time := overTime_leavesTimer (κ := κ) (η := η) identity
  obtain ⟨done, seen, reading, played⟩ := (Program.plays_bind time).1 played
  have still := (Program.Sections.read time _).plays time reading
  cases done with
  | true => exact .inl ⟨played.1, time.trans still played.2⟩
  | false =>
    obtain ⟨woken, begun, waking, played⟩ := (Program.plays_bind time).1 played
    obtain ⟨met, between, same, leaves⟩ := Program.plays_atomically.1 waking
    obtain ⟨left, answer⟩ : ∃ left, wake limit met = (woken, left) := ⟨_, Prod.ext same.symm rfl⟩
    rw [answer] at leaves
    cases woken with
    | none =>
      have further : LeavesTimer identity met left := leavesTimer_of_wake answer nofun
      exact .inl ⟨played.1, time.trans still (time.trans between (time.trans further (time.trans leaves played.2)))⟩
    | some woken =>
      obtain ⟨turn, rested, turned, played⟩ := (Program.plays_bind time).1 played
      obtain ⟨later, last, playedOn, rfl, further⟩ := (Program.plays_bind time).1 played
      exact .inr ⟨met, left, woken, begun, turn, rested, later, time.trans still between, answer, leaves, turned,
        playedOn.after time further, rfl⟩

/-- While another timer takes its turn, a timer is left alone. -/
theorem leavesTimer_of_turn {woken : RunningTimer κ × TimerMove} {turn : Turn} {left begun : Engine κ η}
    (apart : woken.1.identity ≠ identity) (answer : wake limit engine = (some woken, left))
    (leaves : LeavesTimer identity left begun)
    (turned : (takeTurn woken).Plays (LeavesTimer identity) begun turn after) : LeavesTimer identity engine after := by
  have time := overTime_leavesTimer (κ := κ) (η := η) identity
  have woke : LeavesTimer identity engine left := leavesTimer_of_wake answer fun timer move same => by
    obtain rfl := Option.some.inj same
    exact apart
  exact time.trans woke (time.trans leaves ((sections_takeTurn apart).plays time turned))

/-- Nothing is told of a timer that is gone, and it stays away. -/
theorem eventsOf_gone (gone : timersOf identity engine = [])
    (played : (tellTime limit enough firings).Plays (LeavesTimer identity) engine tale after) :
    eventsOf identity tale = [] ∧ timersOf identity after = [] := by
  induction firings generalizing engine tale with
  | zero =>
    obtain ⟨rfl, further⟩ := played
    exact ⟨rfl, further.gone gone⟩
  | succ firings later =>
    rcases tellTime_cases played with ⟨rfl, further⟩ |
      ⟨met, left, woken, begun, turn, rested, tale, between, answer, leaves, turned, playedOn, rfl⟩
    · exact ⟨rfl, further.gone gone⟩
    · have absent := between.gone gone
      have apart : woken.1.identity ≠ identity := by
        intro own
        have listed := mem_timersOf (mem_of_wake answer)
        rw [own, absent] at listed
        contradiction
      obtain ⟨silent, away⟩ := later ((leavesTimer_of_turn apart answer leaves turned).gone absent) playedOn
      refine ⟨?_, away⟩
      rw [eventsOf_turn, if_neg apart, silent]
      rfl

/-- A timer that wakes ends the wait of its own loop. -/
theorem wakeOwn_of_wake {woken : RunningTimer κ × TimerMove} (answer : wake limit engine = (some woken, after)) :
    wakeOwn woken.1.identity limit engine = some (some woken, after) := by
  have runs : ¬(timersOf woken.1.identity engine).isEmpty := by
    rw [List.isEmpty_iff]
    exact List.ne_nil_of_mem (mem_timersOf (mem_of_wake answer))
  rw [wakeOwn, if_neg runs, answer]
  exact if_pos rfl

/-- A turn of a timer is one of its loop, which then comes to an end or goes on. -/
theorem plays_timerLoop_turn {woken : RunningTimer κ × TimerMove} {turn : Turn} {met left begun rested : Engine κ η}
    {limits : List Instant} {events : List TimerEvent} (between : LeavesTimer identity engine met)
    (took : wakeOwn identity limit met = some (some woken, left)) (leaves : LeavesTimer identity left begun)
    (turned : (takeTurn woken).Plays (LeavesTimer identity) begun turn rested)
    (goesOn : if turn.ending.isSome then events = [] ∧ LeavesTimer identity rested after
      else (timerLoop identity limits).Plays (LeavesTimer identity) rested events after) :
    (timerLoop identity (limit :: limits)).Plays (LeavesTimer identity) engine (turn.events ++ events) after := by
  have time := overTime_leavesTimer (κ := κ) (η := η) identity
  have waited : (Program.tryAtomically (wakeOwn identity limit) none : Work κ η _).Plays (LeavesTimer identity) engine
      (some woken) begun := Program.plays_tryAtomically.2 ⟨met, left, between, took, leaves⟩
  refine (Program.plays_bind time).2 ⟨some woken, begun, waited, (Program.plays_bind time).2 ⟨turn, rested, turned, ?_⟩⟩
  split at goesOn
  case isTrue ended =>
    obtain ⟨rfl, further⟩ := goesOn
    rw [if_pos ended, List.append_nil]
    exact ⟨rfl, further⟩
  case isFalse going =>
    rw [if_neg going]
    exact (Program.plays_bind time).2 ⟨events, after, goesOn, rfl, time.refl after⟩

/-- While time passes, each timer does what its loop can do with so many waits. -/
theorem plays_timerLoop (has : HasFired identity settings context before engine)
    (played : (tellTime limit enough firings).Plays (LeavesTimer identity) engine tale after) :
    ∃ waits, (timerLoop identity (List.replicate waits limit)).Plays (LeavesTimer identity) engine
      (eventsOf identity tale) after := by
  have time := overTime_leavesTimer (κ := κ) (η := η) identity
  induction firings generalizing before engine tale with
  | zero =>
    obtain ⟨rfl, further⟩ := played
    exact ⟨0, rfl, further⟩
  | succ firings later =>
    rcases tellTime_cases played with ⟨rfl, further⟩ |
      ⟨met, left, woken, begun, turn, rested, tale, between, answer, leaves, turned, playedOn, rfl⟩
    · exact ⟨0, rfl, further⟩
    · rw [eventsOf_turn]
      by_cases own : woken.1.identity = identity
      · -- The turn is one of the timer's loop, which goes on if the timer does.
        subst own
        rw [if_pos rfl]
        have took := wakeOwn_of_wake answer
        cases turnGoes_of_plays (has.leaves between) took leaves turned with
        | cancelled gone =>
          obtain ⟨silent, away⟩ := eventsOf_gone gone playedOn
          exact ⟨1, plays_timerLoop_turn between took leaves turned ⟨silent, .inr away⟩⟩
        | completed fires done gone =>
          obtain ⟨silent, away⟩ := eventsOf_gone gone playedOn
          exact ⟨1, plays_timerLoop_turn between took leaves turned ⟨silent, .inr away⟩⟩
        | again fires done fired =>
          obtain ⟨waits, plays⟩ := later fired playedOn
          exact ⟨waits + 1, plays_timerLoop_turn between took leaves turned plays⟩
      · have stays := time.trans between (leavesTimer_of_turn own answer leaves turned)
        obtain ⟨waits, plays⟩ := later (has.leaves stays) playedOn
        rw [if_neg own]
        exact ⟨waits, plays.before time stays⟩

end Time

/-! ## What is promised -/

/-- A timer keeps count: what is promised of the exchanges that it fires within so many waits, and of its end. -/
structure KeepsCount (identity : Identity) (settings : TimerSettings) (waits : Nat) (exchanges : List Exchange)
    (ending : Option TimerEnding) (engine : Engine κ η) : Prop where
  /-- The counters of the exchanges go up from one, without gap or repetition. -/
  counters : ∀ n x, exchanges[n]? = some x → n + 1 < Nat.pow 2 63 →
    ∃ i : Int64, x.property? timerCounterProperty = some (.int i) ∧ i.toInt = n + 1
  /-- A timer that is to fire so often never fires more often. -/
  atMost : 0 < settings.times → exchanges.length ≤ settings.times
  /-- At its end it has fired as often exactly if neither a stop nor a cancellation came before. -/
  exactly : 0 < settings.times → ending ≠ none →
    (exchanges.length = settings.times ↔ ending ≠ some .stopped ∧ ending ≠ some .cancelled)
  /-- When it has fired as often, it comes to its end. -/
  ends : 0 < settings.times → exchanges.length = settings.times → ending = some .completed
  /-- A timer without such a number ends only by a stop or a cancellation. -/
  endless : settings.times = 0 → ending ≠ some .completed
  /-- While it has come to no end, it has fired an exchange after each wait. -/
  unended : ending = none → exchanges.length = waits
  /-- After its end the timer is gone. -/
  gone : ending ≠ none → timersOf identity engine = []

/-- A timer has fired as often as it is to if there is such a number and it has come to it. -/
theorem isDone_iff {settings : TimerSettings} {fired : Nat} :
    settings.isDone fired = true ↔ 0 < settings.times ∧ settings.times ≤ fired := by
  simp [TimerSettings.isDone]

/-- A timer whose loop began with no exchange fired keeps count. -/
theorem LoopGoes.keepsCount {identity : Identity} {settings : TimerSettings} {waits : Nat} {exchanges : List Exchange}
    {ending : Option TimerEnding} {engine : Engine κ η} (goes : LoopGoes settings 0 waits exchanges ending)
    (gone : ending ≠ none → timersOf identity engine = []) :
    KeepsCount identity settings waits exchanges ending engine := by
  have atMost : 0 < settings.times → exchanges.length ≤ settings.times := by
    refine fun bounded => Nat.le_of_not_lt fun more => ?_
    have going := goes.going settings.times more
    rw [Nat.zero_add, isDone_iff.2 ⟨bounded, Nat.le_refl _⟩] at going
    contradiction
  have completed : ending = some .completed ↔ 0 < settings.times ∧ exchanges.length = settings.times := by
    rw [goes.completed, isDone_iff]
    constructor
    · rintro ⟨bounded, enough⟩
      have most := atMost bounded
      omega
    · rintro ⟨bounded, same⟩
      omega
  refine ⟨fun n x found fits => ?_, atMost, fun bounded ended => ?_, fun bounded all => completed.2 ⟨bounded, all⟩,
    fun unbounded done => ?_, goes.unended, gone⟩
  · have fires := goes.numbered n x found
    rw [Nat.zero_add] at fires
    exact ⟨_, fires.counter, Int64.toInt_ofNat_of_lt fits⟩
  · constructor
    · intro all
      rw [completed.2 ⟨bounded, all⟩]
      exact ⟨nofun, nofun⟩
    · rintro ⟨unstopped, uncancelled⟩
      cases ending with
      | none => exact absurd rfl ended
      | some reason =>
        cases reason with
        | stopped => exact absurd rfl unstopped
        | cancelled => exact absurd rfl uncancelled
        | completed => exact (completed.1 rfl).2
  · have bounded := (completed.1 done).1
    omega

section Promise

variable {identity : Identity} {settings : TimerSettings} {context : ConsumerContext κ} {engine : Engine κ η}

/-- A timer that was set going has fired no exchange. -/
theorem hasFired_setGoing (fresh : timersOf identity engine = []) :
    HasFired identity settings context 0 (setGoing identity settings context engine) := by
  refine .inr ⟨engine.now.after? settings.delay, ?_⟩
  unfold timersOf at fresh
  simp [timersOf, setGoing, fresh]

/-- No timer has fired as often as it is to before its first exchange. -/
theorem isDone_zero (settings : TimerSettings) : settings.isDone 0 = false := by
  rw [Bool.eq_false_iff, Ne, isDone_iff]
  omega

/-- A timer that was set going keeps count, however its loop, or the passing of time, comes to an end among others that
leave the timer alone but for taking it away, and whatever comes of the exchanges. -/
theorem timer_keeps_count (fresh : timersOf identity engine = []) :
    (∀ limits events after, (timerLoop identity limits).EndsAmong (LeavesTimer identity)
        (setGoing identity settings context engine) events after →
      ∃ exchanges ending, events = firedThenEnded exchanges ending ∧
        KeepsCount identity settings limits.length exchanges ending after) ∧
    ∀ limit enough firings tale after, (tellTime limit enough firings).EndsAmong (LeavesTimer identity)
        (setGoing identity settings context engine) tale after →
      ∃ waits exchanges ending, eventsOf identity tale = firedThenEnded exchanges ending ∧
        KeepsCount identity settings waits exchanges ending after := by
  have time := overTime_leavesTimer (κ := κ) (η := η) identity
  have loop {limits : List Instant} {events : List TimerEvent} {after : Engine κ η}
      (played : (timerLoop identity limits).Plays (LeavesTimer identity) (setGoing identity settings context engine)
        events after) : ∃ exchanges ending, events = firedThenEnded exchanges ending ∧
          KeepsCount identity settings limits.length exchanges ending after := by
    obtain ⟨exchanges, ending, rfl, goes, gone⟩ :=
      loopGoes_of_plays (hasFired_setGoing fresh) (isDone_zero settings) played
    exact ⟨exchanges, ending, rfl, goes.keepsCount gone⟩
  refine ⟨fun limits events after ends => loop (ends.plays time), fun limit enough firings tale after ends => ?_⟩
  obtain ⟨waits, played⟩ := plays_timerLoop (hasFired_setGoing fresh) (ends.plays time)
  obtain ⟨exchanges, ending, same, keeps⟩ := loop played
  rw [List.length_replicate] at keeps
  exact ⟨waits, exchanges, ending, same, keeps⟩

end Promise

/-- A timer that is to fire twice. -/
def heartbeat : TimerSettings := ⟨"heartbeat", .ofMillis 10, .ofMillis 10, 2⟩

/-- What its consumer works with. -/
def ticker : ConsumerContext Nat := ⟨"ticker", .custom 0, .root (.root 0), none⟩

/-- Work on every exchange ends in a panic. -/
def alwaysPanics (task : Processor Nat × Exchange) (engine : Engine Nat Unit) : Option (Outcome × Engine Nat Unit) :=
  some (.panicked task.2 (.text "failed"), engine)

/-- A timer fired twice, and then it had fired as often as it is to. -/
def firedTwice : List TimerEvent → Bool
  | [.fired _, .fired _, .ended .completed] => true
  | _ => false

/-- A timer that is to fire twice does so within three waits, and while time passes, though every exchange ends in a
panic. -/
theorem timer_keeps_count_panicking : timersOf [7] (standard {} 0 () : Engine Nat Unit) = [] ∧
    (∃ events after, firedTwice events = true ∧
      (timerLoop [7] (.replicate 3 nanosPerSecond)).EndsAmong (LeavesTimer [7])
        (setGoing [7] heartbeat ticker (standard {} 0 ())) events after ∧
      ∃ exchanges ending, events = firedThenEnded exchanges ending ∧
        KeepsCount [7] heartbeat 3 exchanges ending after) ∧
    ∃ tale after, firedTwice (eventsOf [7] tale) = true ∧
      (tellTime nanosPerSecond (fun _ => false) 5).EndsAmong (LeavesTimer [7])
        (setGoing [7] heartbeat ticker (standard {} 0 ())) tale after ∧
      ∃ waits exchanges ending, eventsOf [7] tale = firedThenEnded exchanges ending ∧
        KeepsCount [7] heartbeat waits exchanges ending after := by
  have fresh : timersOf [7] (standard {} 0 () : Engine Nat Unit) = [] := rfl
  obtain ⟨loop, time⟩ := @timer_keeps_count Nat Unit [7] heartbeat ticker (standard {} 0 ()) fresh
  have within : ∀ task engine outcome after, alwaysPanics task engine = some (outcome, after) →
      LeavesTimer [7] engine after := by
    intro task engine outcome after worked
    obtain ⟨_, rfl⟩ := Prod.mk.inj (Option.some.inj worked)
    exact .inl rfl
  have looped : ((timerLoop [7] (.replicate 3 nanosPerSecond)).runWith alwaysPanics
      (setGoing [7] heartbeat ticker (standard {} 0 ()))).map (fun ran => firedTwice ran.1) = some true := by
    decide +kernel
  have passed : ((tellTime nanosPerSecond (fun _ => false) 5).runWith alwaysPanics
      (setGoing [7] heartbeat ticker (standard {} 0 ()))).map (fun ran => firedTwice (eventsOf [7] ran.1)) =
        some true := by
    decide +kernel
  obtain ⟨⟨events, after⟩, ran, twice⟩ := Option.map_eq_some_iff.1 looped
  obtain ⟨⟨tale, later⟩, also, again⟩ := Option.map_eq_some_iff.1 passed
  have ended := Program.endsAmong_of_runWith within ran
  have endedAlso := Program.endsAmong_of_runWith within also
  exact ⟨fresh, ⟨events, after, twice, ended, loop _ _ _ ended⟩, tale, later, again, endedAlso,
    time _ _ _ _ _ endedAlso⟩

end MessageRouting.Engine
