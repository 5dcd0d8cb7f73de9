import MessageRouting.Exchange
import MessageRouting.Level

/-!
# The journal

What happened to exchanges, as far as one may ask for it later: which steps were entered, refused and left,
which hooks ran, and what was logged.
-/

namespace MessageRouting

/-- A step of a route. -/
structure StepInfo where
  /-- The name of the route. -/
  route : String
  /-- The name of the step. -/
  step : String
  deriving Repr, DecidableEq

/-- Where a hook stands. -/
inductive HookPoint where
  /-- Before the step. -/
  | pre
  /-- After the step. -/
  | post
  deriving Repr, DecidableEq

/-- Something that happened. -/
inductive Event where
  /-- A step did not run, because its exchange was cancelled or too late. -/
  | refused (step : StepInfo) (x : Exchange)
  /-- A step began to work on an exchange. -/
  | started (step : StepInfo) (x : Exchange)
  /-- A step ended its work on an exchange. -/
  | ended (step : StepInfo) (x : Exchange)
  /-- A hook ran. -/
  | hooked (point : HookPoint) (step : StepInfo)
  /-- A message was logged. -/
  | logged (level : Level) (route message : String)

end MessageRouting
