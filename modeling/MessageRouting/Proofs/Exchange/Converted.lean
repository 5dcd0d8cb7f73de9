import MessageRouting.Convert.Converters
import MessageRouting.Format
import MessageRouting.Proofs.Exchange.Carried

/-!
# The errors that converted values carry

A built-in conversion and a JSON document make plain data, which holds no errors. What they refuse is a plain fault.
-/

namespace MessageRouting

variable {allowed : Raised → Prop}

/-- A value that means nothing as a condition is refused by a plain fault. -/
theorem Value.isPlain_of_truth {value : Value} {fault : Fault} (refused : value.truth = .error fault) :
    fault.IsPlain := by
  unfold Value.truth at refused
  split at refused
  · cases refused
  · cases refused
  · cases refused
  · cases refused
  · split at refused
    · cases refused
    · split at refused <;> cases refused
      trivial
  · cases refused
    trivial

/-! ## Conversions -/

namespace Convert

/-- A conversion gives values with no errors but those of what it is given. -/
def Conversion.GivesOnly (allowed : Raised → Prop) (conversion : Conversion) : Prop :=
  ∀ (value : Value) (params : Table String) (given : Value), value.CarriesOnly allowed →
    conversion value params = .returned given → given.CarriesOnly allowed

/-- The built-in conversions make values without errors. -/
theorem givesOnly_builtins : ∀ entry ∈ builtins, entry.2.GivesOnly allowed := by
  simp only [builtins, List.forall_mem_cons, List.not_mem_nil, false_imp_iff, implies_true, and_true]
  refine ⟨?_, ?_, ?_, ?_, ?_, ?_, ?_, ?_, ?_, ?_, ?_, ?_, ?_, ?_, ?_, ?_, ?_, ?_, ?_, ?_⟩ <;>
    intro value params given _ converted <;>
    simp only [toText, toTruth, timeToText, textToInt, textToFloat, textToTime, textToBytes, bytesToText, intToFloat,
      floatToInt, boolToInt, timeToInt, intToTime, durationToInt, intToDuration, explained, unexpected] at converted <;>
    (repeat' split at converted) <;> cases converted <;> trivial

end Convert

/-- A converter of the framework gives values with no errors but those of what it is given. -/
def Converter.GivesOnly {κ : Type} (allowed : Raised → Prop) : Converter κ → Prop
  | .builtin conversion => conversion.GivesOnly allowed
  | .custom _ => True

/-! ## Documents -/

namespace Json

mutual

/-- The value of a document holds no errors. -/
theorem carriesOnly_toValue : ∀ json : Json, json.toValue.CarriesOnly allowed
  | null | bool _ | float _ | string _ => trivial
  | integer n => by
    simp only [toValue]
    split <;> trivial
  | array items => carriesOnly_toValues items
  | object members => carriesOnly_toEntries members

/-- The values of documents hold no errors. -/
theorem carriesOnly_toValues : ∀ items : List Json, Value.ItemsCarryOnly allowed (toValues items)
  | [] => trivial
  | item :: rest => ⟨carriesOnly_toValue item, carriesOnly_toValues rest⟩

/-- The values of named documents hold no errors. -/
theorem carriesOnly_toEntries : ∀ members : List (String × Json), Value.EntriesCarryOnly allowed (toEntries members)
  | [] => trivial
  | (_, item) :: rest => ⟨carriesOnly_toValue item, carriesOnly_toEntries rest⟩

end

/-- What is read from octets holds no errors. -/
theorem carriesOnly_unmarshal {octets : ByteArray} {target : Option Kind} {value : Value}
    (read : unmarshal octets target = .ok value) : value.CarriesOnly allowed := by
  unfold unmarshal at read
  split at read
  · cases read
  · unfold adapt at read
    split at read
    · cases read
      exact carriesOnly_toValue _
    · cases read
      trivial
    · split at read <;> cases read
      exact carriesOnly_toValue _

/-- What cannot be read is refused by a plain fault. -/
theorem isPlain_of_unmarshal {octets : ByteArray} {target : Option Kind} {fault : MessageRouting.Fault}
    (refused : unmarshal octets target = .error fault) : fault.IsPlain := by
  unfold unmarshal at refused
  split at refused
  · cases refused
    trivial
  · unfold adapt at refused
    split at refused
    · cases refused
    · cases refused
    · split at refused <;> cases refused
      trivial

mutual

/-- A value without a document is refused by a plain fault. -/
theorem isPlain_of_ofValue {fault : MessageRouting.Fault} :
    ∀ value : Value, ofValue value = .error fault → fault.IsPlain
  | .null, refused | .bool _, refused | .int _, refused | .string _, refused | .time _, refused
  | .duration _, refused | .error _, refused => nomatch refused
  | .float x, refused => by
    simp only [ofValue] at refused
    split at refused <;> cases refused
    trivial
  | .bytes octets, refused => by
    simp only [ofValue] at refused
    split at refused <;> cases refused
  | .list items, refused => by
    simp only [ofValue] at refused
    exact isPlain_of_ofValues items (eq_error_of_map refused)
  | .map entries, refused => by
    simp only [ofValue] at refused
    exact isPlain_of_ofEntries entries (eq_error_of_map refused)
  | .object _, refused => by
    cases refused
    trivial
  | .shared _, refused => by
    cases refused
    trivial

/-- Values without documents are refused by a plain fault. -/
theorem isPlain_of_ofValues {fault : MessageRouting.Fault} :
    ∀ items : List Value, ofValues items = .error fault → fault.IsPlain
  | [], refused => nomatch refused
  | item :: rest, refused => by
    simp only [ofValues] at refused
    split at refused
    · rename_i failed
      cases refused
      exact isPlain_of_ofValue item failed
    · exact isPlain_of_ofValues rest (eq_error_of_map refused)

/-- Named values without documents are refused by a plain fault. -/
theorem isPlain_of_ofEntries {fault : MessageRouting.Fault} :
    ∀ entries : List (String × Value), ofEntries entries = .error fault → fault.IsPlain
  | [], refused => nomatch refused
  | (_, item) :: rest, refused => by
    simp only [ofEntries] at refused
    split at refused
    · rename_i failed
      cases refused
      exact isPlain_of_ofValue item failed
    · exact isPlain_of_ofEntries rest (eq_error_of_map refused)

end

/-- What cannot be written is refused by a plain fault. -/
theorem isPlain_of_marshal {layout : Layout} {value : Value} {fault : MessageRouting.Fault}
    (refused : marshal layout value = .error fault) : fault.IsPlain :=
  isPlain_of_ofValue value (eq_error_of_map refused)

end Json

end MessageRouting
