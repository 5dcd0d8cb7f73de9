import MessageRouting.Pattern.Outcome

/-!
# Pipelines

The steps of a pipeline run in order on one exchange. A panic ends it; an error ends it if it is to stop on
errors.
-/

namespace MessageRouting.Pattern

variable {m : Type → Type} [Monad m]

/-- Runs steps in order. -/
def pipeline (stopOnError : Bool) : List (Behaviour m) → Behaviour m
  | [], x => return .returned x
  | step :: rest, x => do
    let o ← step x
    if o.panic.isSome || (stopOnError && o.exchange.isError) then return o
    else pipeline stopOnError rest o.exchange

end MessageRouting.Pattern
