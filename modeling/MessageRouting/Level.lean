import MessageRouting.Failure
import MessageRouting.Text.LetterCase

/-!
# Levels of log messages

Five levels, from the least to the most important.
-/

namespace MessageRouting

/-- How important a log message is. -/
inductive Level where
  | trace
  | debug
  | info
  | warn
  | error
  deriving Repr, DecidableEq

namespace Level

/-- Every level, in order. -/
def all : List Level := [trace, debug, info, warn, error]

/-- The name of a level. -/
def name : Level → String
  | trace => "Trace"
  | debug => "Debug"
  | info => "Info"
  | warn => "Warn"
  | error => "Error"

/-- The level that a text names, in letters of either case. -/
def parse (text : String) : Except Fault Level :=
  let lowered := Text.toAsciiLower text
  if lowered == "warning" then .ok warn
  else
    match all.find? (Text.toAsciiLower ·.name == lowered) with
    | some level => .ok level
    | none => .error (.conversion lowered "log level" "expected trace, debug, info, warn or error")

end Level

end MessageRouting
