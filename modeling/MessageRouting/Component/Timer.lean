import MessageRouting.Exchange
import MessageRouting.Uri

/-!
# Timers

A timer fires an empty exchange again and again: after a delay at first, then after each period, until it has
fired as often as it is to or it is told to stop.
-/

namespace MessageRouting

open Time

/-- The property that holds the name of a timer. -/
def timerNameProperty : String := "CAMEL_TIMER_NAME"

/-- The property that counts the exchanges of a timer. -/
def timerCounterProperty : String := "CAMEL_TIMER_COUNTER"

/-- The property that holds when an exchange was fired. -/
def timerFiredProperty : String := "CAMEL_TIMER_FIRED_TIME"

/-- What the URI of a timer says. -/
structure TimerSettings where
  /-- The name. -/
  name : String
  /-- The time from one exchange to the next. -/
  period : Duration
  /-- The time before the first exchange. -/
  delay : Duration
  /-- How often the timer fires; zero is without end. -/
  times : Nat
  deriving Repr, DecidableEq

/-- Reads the settings of a timer. -/
def TimerSettings.read (defaultPeriod : Duration) (uri : Uri) : Except Fault TimerSettings := do
  let period ← uri.natParam "period" (min defaultPeriod.millis 18446744073709551615)
  if period == 0 then .error (.invalidUri uri.raw "timer period must be positive")
  else
    let delay ← uri.natParam "delay" 0
    let times ← uri.natParam "repeatCount" 0
    .ok ⟨uri.name, Duration.ofMillis period, Duration.ofMillis delay, times⟩

/-- What a timer does next. -/
inductive TimerMove where
  /-- It ends. -/
  | finish
  /-- It fires the exchange of the given number. -/
  | fire (number : Nat)
  deriving Repr, DecidableEq

/-- What a timer does after a wait that was ended by a stop or not, when it has fired so often and the scope
it works in is cancelled or not. -/
def TimerMove.afterWait (stopped cancelled : Bool) (fired : Nat) : TimerMove :=
  if stopped || cancelled then .finish else .fire (fired + 1)

/-- The timer has fired as often as it is to. -/
def TimerSettings.isDone (settings : TimerSettings) (fired : Nat) : Bool :=
  0 < settings.times && settings.times ≤ fired

/-- An exchange of a timer. -/
def TimerSettings.prepare (settings : TimerSettings) (number : Nat) (now : Timestamp) (x : Exchange) :
    Exchange :=
  ((x.setProperty timerNameProperty (.string settings.name)).setProperty timerCounterProperty
    (.ofNat number)).setProperty timerFiredProperty (.time now)

end MessageRouting
