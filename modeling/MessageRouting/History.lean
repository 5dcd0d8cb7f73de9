/-!
# Message history

One record for each step an exchange came to, in that order. A record is finished when its step has ended.
-/

namespace MessageRouting

/-- The header that holds the history of an exchange. -/
def historyHeader : String := "CAMEL_MESSAGE_HISTORY"

/-- A step an exchange came to. -/
structure HistoryRecord where
  /-- The route of the step. -/
  route : String
  /-- The name of the step. -/
  step : String
  /-- The step has ended. -/
  finished : Bool
  deriving Repr, DecidableEq

/-- The records of the steps an exchange came to. -/
abbrev History : Type := List HistoryRecord

namespace History

/-- Adds a record for a step that begins; its place is the old length. -/
def begin (h : History) (route step : String) : History := h ++ [⟨route, step, false⟩]

/-- Finishes the record at a place. -/
def finish (h : History) (place : Nat) : History :=
  h.modify place fun record => { record with finished := true }

/-- A record that begins is the last one. -/
@[simp] theorem length_begin (h : History) (route step : String) :
    (h.begin route step).length = h.length + 1 := by simp [begin]

/-- No record comes or goes when one is finished. -/
@[simp] theorem length_finish (h : History) (place : Nat) : (h.finish place).length = h.length := by
  simp [finish]

end History

end MessageRouting
