import MessageRouting.Journal
import MessageRouting.Pattern.Outcome

/-!
# Decorated steps

Before a step runs, its exchange is checked; a step that may not run sets the reason as the error and does
nothing else. Around a step that runs stand the hooks. The history, if it is kept, gets a record that is finished
in any case in which the hooks return.
-/

namespace MessageRouting.Pattern

variable {m : Type → Type} [Monad m]

/-- What surrounds a step. -/
structure Surroundings (m : Type → Type) where
  /-- Why nothing may run on an exchange any more. -/
  check : Exchange → m (Except Fault Unit)
  /-- Notes what happened. -/
  note : Event → m Unit

/-- Runs a hook, if there is one. -/
def runHook (around : Surroundings m) (point : HookPoint) (info : StepInfo)
    (hook : Option (Behaviour m)) (x : Exchange) : m Outcome :=
  match hook with
  | none => return .returned x
  | some behaviour => do
    around.note (.hooked point info)
    behaviour x

/-- Begins a record of the history and gives its place. -/
def beginRecord (info : StepInfo) (x : Exchange) : Exchange × Nat :=
  (x.mapHistory (·.begin info.route info.step), (x.history?.getD []).length)

/-- Finishes the record of the history at a place. -/
def finishRecord (record : Option Nat) (x : Exchange) : Exchange :=
  match record with
  | some place => x.mapHistory (·.finish place)
  | none => x

/-- Runs a step between its hooks. -/
def runHooked (around : Surroundings m) (info : StepInfo) (pre post : Option (Behaviour m))
    (record : Option Nat) (inner : Behaviour m) : Behaviour m := fun x => do
  let before ← runHook around .pre info pre x
  if before.panic.isSome then return before
  else
    around.note (.started info before.exchange)
    let done ← inner before.exchange
    around.note (.ended info done.exchange)
    let after ← runHook around .post info post done.exchange
    if after.panic.isSome then return after
    else return ⟨finishRecord record after.exchange, done.panic⟩

/-- Runs a step with all that surrounds it. -/
def decorated (around : Surroundings m) (info : StepInfo) (pre post : Option (Behaviour m))
    (tracked : Bool) (inner : Behaviour m) : Behaviour m := fun x => do
  let (x, record) :=
    if tracked then
      let (begun, place) := beginRecord info x
      (begun, some place)
    else (x, none)
  match ← around.check x with
  | .error fault =>
    around.note (.refused info x)
    return .returned (finishRecord record (x.fail fault))
  | .ok () => runHooked around info pre post record inner x

end MessageRouting.Pattern
