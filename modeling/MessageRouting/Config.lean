import MessageRouting.Failure
import MessageRouting.Number.IntegerText
import MessageRouting.Text.LetterCase
import MessageRouting.Time.Duration

/-!
# Configuration

The settings of a runtime, with their defaults, and how they are read from named texts.
-/

namespace MessageRouting

open Time

/-- The settings of a runtime. -/
structure Config where
  /-- The name of the runtime. -/
  name : String := "switchyard"
  /-- Exchanges keep a history of the steps they came to. -/
  history : Bool := false
  /-- How long an exchange may take. -/
  exchangeTimeout : Option Duration := none
  /-- The period of timers that give none. -/
  timerPeriod : Duration := Duration.ofMillis 1000
  deriving Repr, DecidableEq

namespace Config

/-- The variable with the name. -/
def nameKey : String := "SWITCHYARD_NAME"

/-- The variable that switches histories on. -/
def historyKey : String := "SWITCHYARD_TRACK_HISTORY"

/-- The variable with the milliseconds an exchange may take. -/
def exchangeTimeoutKey : String := "SWITCHYARD_EXCHANGE_TIMEOUT_MS"

/-- The variable with the milliseconds of the default period. -/
def timerPeriodKey : String := "SWITCHYARD_TIMER_PERIOD_MS"

/-- Reads a switch. -/
def readSwitch (key text : String) : Except Fault Bool :=
  let word := Text.toAsciiLower (Text.trim text)
  if ["1", "true", "yes", "on"].contains word then .ok true
  else if ["0", "false", "no", "off"].contains word then .ok false
  else .error (.configuration key s!"'{word}' is not a boolean")

/-- Reads milliseconds. -/
def readMillis (key text : String) : Except Fault Duration :=
  match Number.readUInt64 (Text.trim text) with
  | .ok n => .ok (Duration.ofMillis n)
  | .error fault => .error (.configuration key s!"'{text}': {fault.message}")

/-- Reads the settings from variables; what is missing keeps its default. An exchange timeout of zero is
none, and a period of zero is refused. -/
def read (setting? : String → Option String) : Except Fault Config := do
  let defaults : Config := {}
  let history ← (setting? historyKey).elim (.ok defaults.history) (readSwitch historyKey)
  let timeout ← (setting? exchangeTimeoutKey).mapM (readMillis exchangeTimeoutKey)
  let period ← (setting? timerPeriodKey).mapM (readMillis timerPeriodKey)
  if period.any (·.nanos == 0) then .error (.configuration timerPeriodKey "must be positive")
  else
    .ok
      { name := (setting? nameKey).getD defaults.name
        history
        exchangeTimeout := timeout.filter (·.nanos != 0)
        timerPeriod := period.getD defaults.timerPeriod }

end Config

end MessageRouting
