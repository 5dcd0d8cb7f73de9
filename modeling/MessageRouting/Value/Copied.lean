import MessageRouting.Value.Basic

/-!
# Copies of values

Lists and maps are copied with all that is inside them. An object copies itself, in its own way; failures and shared
payloads keep their identity, and what is plain data is the same again.
-/

namespace MessageRouting.Value

mutual

/-- A copy of a value, when it is known how objects copy themselves. -/
def copied (copyPayload : Payload → Payload) : Value → Value
  | list items => list (copiedItems copyPayload items)
  | map entries => map (copiedEntries copyPayload entries)
  | object payload => object (copyPayload payload)
  | value => value

/-- Copies of values. -/
def copiedItems (copyPayload : Payload → Payload) : List Value → List Value
  | [] => []
  | item :: rest => item.copied copyPayload :: copiedItems copyPayload rest

/-- Copies of the values of entries, under the same names. -/
def copiedEntries (copyPayload : Payload → Payload) : List (String × Value) → List (String × Value)
  | [] => []
  | (name, item) :: rest => (name, item.copied copyPayload) :: copiedEntries copyPayload rest

end

mutual

/-- Where objects copy themselves faithfully a copy is the same value, which is why copies of exchanges share theirs. -/
theorem copied_id : ∀ value : Value, value.copied id = value
  | list items => congrArg list (copiedItems_id items)
  | map entries => congrArg map (copiedEntries_id entries)
  | null | bool _ | int _ | float _ | string _ | bytes _ | time _ | duration _ | error _ | object _ | shared _ => rfl

/-- So are copies of values. -/
theorem copiedItems_id : ∀ items : List Value, copiedItems id items = items
  | [] => rfl
  | item :: rest => by rw [copiedItems, copied_id item, copiedItems_id rest]

/-- And so are copies of entries. -/
theorem copiedEntries_id : ∀ entries : List (String × Value), copiedEntries id entries = entries
  | [] => rfl
  | (name, item) :: rest => by rw [copiedEntries, copied_id item, copiedEntries_id rest]

end

end MessageRouting.Value
