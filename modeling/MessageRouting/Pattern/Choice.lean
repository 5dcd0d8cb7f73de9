import MessageRouting.Pattern.Outcome

/-!
# Choices

The first clause whose condition holds is taken, or else the branch for all other cases. A condition that
fails ends the choice with its error.
-/

namespace MessageRouting.Pattern

variable {m : Type → Type} [Monad m]

/-- Takes the first clause whose condition holds. -/
def choice (otherwise : Option (Behaviour m)) : List (Query m Bool × Behaviour m) → Behaviour m
  | [], x =>
    match otherwise with
    | some behaviour => behaviour x
    | none => return .returned x
  | (condition, behaviour) :: rest, x => do
    match ← condition x with
    | .returned true => behaviour x
    | .returned false => choice otherwise rest x
    | .failed fault => return .returned (x.fail fault)
    | .panicked panic => return .panicked x panic

end MessageRouting.Pattern
