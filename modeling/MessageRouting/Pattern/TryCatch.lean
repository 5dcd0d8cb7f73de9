import MessageRouting.Pattern.Outcome

/-!
# Trying

Steps are tried in order until one leaves an error. The first handler that accepts the error is run once and
clears it, unless it leaves another one. The steps that come last in any case each start without an error; the
first error among theirs joins the pending one.
-/

namespace MessageRouting.Pattern

variable {m : Type → Type} [Monad m]

/-- The property that holds the error a handler handles. -/
def caughtProperty : String := "CAMEL_EXCEPTION_CAUGHT"

/-- A handler of errors. -/
structure Handler (m : Type → Type) where
  /-- The handler takes an error. -/
  accepts : Raised → Bool
  /-- What it does. -/
  behaviour : Behaviour m

/-- Runs steps up to the first that leaves an error. -/
def runUntilError : List (Behaviour m) → Exchange → m Exchange
  | [], x => return x
  | step :: rest, x => do
    let x ← invoke step x
    if x.isError then return x else runUntilError rest x

/-- Runs the first handler that accepts the pending error. -/
def handle (handlers : List (Handler m)) (x : Exchange) : m Exchange :=
  match x.error with
  | none => return x
  | some caught =>
    match handlers.find? (·.accepts caught) with
    | none => return x
    | some handler => do
      let x ← invoke handler.behaviour (x.setProperty caughtProperty (.error caught))
      return if x.error.any (·.same caught) then x.clearError else x

/-- Runs steps that each start without an error; gives the first error among theirs. -/
def runLast (first : Option Raised) : List (Behaviour m) → Exchange → m (Exchange × Option Raised)
  | [], x => return (x, first)
  | step :: rest, x => do
    let x ← invoke step x
    runLast (first.or x.error) rest x.clearError

/-- The exchange with the pending error and the first error of the last steps. -/
def settle (x : Exchange) : Option Raised → Option Raised → Exchange
  | some earlier, some later => x.fail (.finallyFailed earlier later)
  | none, some later => x.setError later
  | pending, none => { x with error := pending }

/-- Runs the last steps with the pending error set aside. -/
def finish (last : List (Behaviour m)) (x : Exchange) : m Exchange :=
  if last.isEmpty then return x
  else do
    let (y, later) ← runLast none last x.clearError
    return settle y x.error later

/-- Tries steps, handles their error and runs the last steps. -/
def tryCatch (steps : List (Behaviour m)) (handlers : List (Handler m)) (last : List (Behaviour m)) :
    Behaviour m := fun x => do
  let x ← runUntilError steps x
  let x ← handle handlers x
  let x ← finish last x
  return .returned x

end MessageRouting.Pattern
