import MessageRouting.Engine.Sending

/-!
# Letting time pass

The clock goes from one due timer to the next. Of timers that are due at one instant the one that was started first
fires first.
-/

namespace MessageRouting.Engine

open Time

variable {κ η : Type}

/-- The timer that is due first, if it is due by an instant. -/
def firstDue? (limit : Instant) (timers : List (RunningTimer κ)) : Option (RunningTimer κ × Instant) :=
  timers.foldl
    (fun best timer =>
      match timer.due with
      | none => best
      | some due =>
        if limit < due then best
        else if best.all fun (_, earliest) => due < earliest then some (timer, due)
        else best)
    none

/-- Changes the running timer of an identity. -/
def changeTimer (identity : Identity) (f : RunningTimer κ → RunningTimer κ) (engine : Engine κ η) :
    Engine κ η :=
  { engine with
    timers := engine.timers.map fun timer => if timer.identity = identity then f timer else timer }

/-- Ends the wait of the timer that is due first, and says what it does next. -/
def wake (limit : Instant) (engine : Engine κ η) :
    Option (RunningTimer κ × TimerMove) × Engine κ η :=
  match firstDue? limit engine.timers with
  | none => (none, { engine with now := max engine.now limit })
  | some (timer, due) =>
    let cancelled := timer.context.scope.isCancelled engine.cancelled
    let advanced := { engine with now := max engine.now due }
    match TimerMove.afterWait false cancelled timer.fired with
    | .finish => (some (timer, .finish), takeTimer timer.identity advanced)
    | .fire number =>
      (some (timer, .fire number),
        changeTimer timer.identity (fun t => { t with fired := number, due := none }) advanced)

/-- Begins the next wait of a timer, or ends it. -/
def rest (timer : RunningTimer κ) (number : Nat) (engine : Engine κ η) : Engine κ η :=
  if timer.settings.isDone number then takeTimer timer.identity engine
  else
    let due := engine.now.after? timer.settings.period
    changeTimer timer.identity (fun t => { t with due }) engine

/-- The point in time that an instant stands for. -/
def clockTime (now : Instant) : Timestamp :=
  (Timestamp.ofParts? (now / nanosPerSecond) (now % nanosPerSecond)).getD .epoch

/-- Fires an exchange of a timer. -/
def fire (timer : RunningTimer κ) (number : Nat) : Work κ η Unit := do
  let fresh ← newExchange timer.context.scope timer.context.exchangeTimeout
  let now ← Program.read fun engine => clockTime engine.now
  let _ ← dispatch timer.context.processor (timer.settings.prepare number now fresh)
  Program.change (rest timer number)

/-- Lets time pass up to an instant, unless it was enough before; so many timers fire at most. -/
def passTime (limit : Instant) (enough : Engine κ η → Bool) : Nat → Work κ η Unit
  | 0 => return ()
  | firings + 1 => do
    if ← Program.read enough then return ()
    else
      match ← Program.atomically (wake limit) with
      | none => return ()
      | some (_, .finish) => passTime limit enough firings
      | some (timer, .fire number) =>
        fire timer number
        passTime limit enough firings

end MessageRouting.Engine
