import MessageRouting.Pattern.Outcome

/-!
# The errors that exchanges carry

An exchange carries the error that is pending and those inside its body, its headers and its properties. What is done
with an exchange takes these along, sets one of them, or raises a fault. Of all faults only a few say that a reference
of a route does not resolve; a failure that is passed on is whatever it was before.
-/

namespace MessageRouting

/-- The fault is that a reference of a route does not resolve. -/
def Fault.IsUnresolved : Fault → Prop
  | .unknownFunction _ _ => True
  | .unknownFormat _ _ => True
  | .unknownType _ _ => True
  | .expressionCompile _ _ _ => True
  | _ => False

/-- The failure was raised because a reference of a route does not resolve. -/
def Raised.IsUnresolved (e : Raised) : Prop := ∃ fault, e.cause = .fault fault ∧ fault.IsUnresolved

/-- All failures are allowed but some that say that a reference does not resolve. -/
def Admits (allowed : Raised → Prop) : Prop := ∀ e : Raised, ¬ e.IsUnresolved → allowed e

/-- However the fault is raised, the failure is allowed. -/
def Fault.RaisesOnly (allowed : Raised → Prop) (fault : Fault) : Prop := ∀ identity, allowed (fault.raise identity)

/-- The fault neither says that a reference does not resolve nor passes a failure on. -/
def Fault.IsPlain : Fault → Prop
  | .unknownFunction _ _ => False
  | .unknownFormat _ _ => False
  | .unknownType _ _ => False
  | .expressionCompile _ _ _ => False
  | .passed _ => False
  | _ => True

variable {allowed : Raised → Prop}

/-- What is raised by a plain fault is allowed. -/
theorem Fault.IsPlain.raisesOnly (admits : Admits allowed) {fault : Fault} (plain : fault.IsPlain) :
    fault.RaisesOnly allowed := by
  refine fun identity => admits _ ?_
  rintro ⟨other, same, unresolved⟩
  cases fault <;> first
    | exact plain
    | (cases same; exact unresolved)

/-- What was mapped failed as it did before. -/
theorem eq_error_of_map {ε α β : Type} {before : Except ε α} {f : α → β} {fault : ε}
    (mapped : before.map f = .error fault) : before = .error fault := by
  cases before with
  | error other =>
    cases mapped
    rfl
  | ok value => cases mapped

/-! ## Values -/

namespace Value

mutual

/-- All errors inside a value are allowed. -/
def CarriesOnly (allowed : Raised → Prop) : Value → Prop
  | .error e => allowed e
  | .list items => ItemsCarryOnly allowed items
  | .map entries => EntriesCarryOnly allowed entries
  | _ => True

/-- All errors inside some values are allowed. -/
def ItemsCarryOnly (allowed : Raised → Prop) : List Value → Prop
  | [] => True
  | item :: rest => item.CarriesOnly allowed ∧ ItemsCarryOnly allowed rest

/-- All errors inside some named values are allowed. -/
def EntriesCarryOnly (allowed : Raised → Prop) : List (String × Value) → Prop
  | [] => True
  | (_, item) :: rest => item.CarriesOnly allowed ∧ EntriesCarryOnly allowed rest

end

/-- In a list the errors of all items are allowed. -/
@[simp] theorem itemsCarryOnly_iff {items : List Value} :
    ItemsCarryOnly allowed items ↔ ∀ item ∈ items, item.CarriesOnly allowed := by
  induction items with
  | nil => simp [ItemsCarryOnly]
  | cons item rest later => simp [ItemsCarryOnly, later]

/-- In a map the errors of all entries are allowed. -/
@[simp] theorem entriesCarryOnly_iff {entries : List (String × Value)} :
    EntriesCarryOnly allowed entries ↔ ∀ entry ∈ entries, entry.2.CarriesOnly allowed := by
  induction entries with
  | nil => simp [EntriesCarryOnly]
  | cons entry rest later => simp [EntriesCarryOnly, later]

mutual

/-- If all errors are allowed, those inside a value are. -/
theorem carriesOnly_of_all (all : ∀ e, allowed e) : ∀ value : Value, value.CarriesOnly allowed
  | .error e => all e
  | .list items => itemsCarryOnly_of_all all items
  | .map entries => entriesCarryOnly_of_all all entries
  | .null | .bool _ | .int _ | .float _ | .string _ | .bytes _ | .time _ | .duration _ | .object _
  | .shared _ => trivial

/-- If all errors are allowed, those inside some values are. -/
theorem itemsCarryOnly_of_all (all : ∀ e, allowed e) : ∀ items : List Value, ItemsCarryOnly allowed items
  | [] => trivial
  | item :: rest => ⟨carriesOnly_of_all all item, itemsCarryOnly_of_all all rest⟩

/-- If all errors are allowed, those inside some named values are. -/
theorem entriesCarryOnly_of_all (all : ∀ e, allowed e) :
    ∀ entries : List (String × Value), EntriesCarryOnly allowed entries
  | [] => trivial
  | (_, item) :: rest => ⟨carriesOnly_of_all all item, entriesCarryOnly_of_all all rest⟩

end

end Value

/-- All errors inside the values of a table are allowed. -/
def Table.CarriesOnly (allowed : Raised → Prop) (table : Table Value) : Prop :=
  ∀ entry ∈ table, entry.2.CarriesOnly allowed

namespace Table

variable {name : String} {value : Value} {table : Table Value}

/-- A new entry brings its errors. -/
theorem CarriesOnly.insert (before : CarriesOnly allowed table) (new : value.CarriesOnly allowed) :
    CarriesOnly allowed (insert name value table) := by
  induction table with
  | nil => exact List.forall_mem_singleton.mpr new
  | cons entry rest later =>
    obtain ⟨first, others⟩ := List.forall_mem_cons.mp before
    simp only [Table.insert]
    split
    · exact List.forall_mem_cons.mpr ⟨new, others⟩
    · split
      · exact List.forall_mem_cons.mpr ⟨new, before⟩
      · exact List.forall_mem_cons.mpr ⟨first, later others⟩

/-- An entry that is taken away takes its errors along. -/
theorem CarriesOnly.erase (before : CarriesOnly allowed table) (name : String) :
    CarriesOnly allowed (erase name table) := by
  induction table with
  | nil => exact before
  | cons entry rest later =>
    obtain ⟨first, others⟩ := List.forall_mem_cons.mp before
    simp only [Table.erase]
    split
    · exact others
    · exact List.forall_mem_cons.mpr ⟨first, later others⟩

/-- What is found in a table brings no errors but those of the table. -/
theorem CarriesOnly.find? (all : CarriesOnly allowed table) (found : find? name table = some value) :
    value.CarriesOnly allowed := by
  induction table with
  | nil => cases found
  | cons entry rest later =>
    obtain ⟨first, others⟩ := List.forall_mem_cons.mp all
    simp only [Table.find?] at found
    split at found
    · cases found
      exact first
    · exact later others found

/-- What is found in a table, or null, brings no errors but those of the table. -/
theorem CarriesOnly.getD_find? (all : CarriesOnly allowed table) (name : String) :
    ((Table.find? name table).getD .null).CarriesOnly allowed := by
  cases found : Table.find? name table with
  | none => trivial
  | some value => exact all.find? found

end Table

/-- What a piece of work that may fail and panic ended with is good, or raises only what is allowed. -/
def Ending.Keeps {α : Type} (allowed : Raised → Prop) (good : α → Prop) : Ending Fault α → Prop
  | .returned value => good value
  | .failed fault => fault.RaisesOnly allowed
  | .panicked _ => True

/-- What comes to something good goes on to something good. -/
theorem Ending.Keeps.bind {α β : Type} {good : α → Prop} {fine : β → Prop} {ending : Ending Fault α}
    {next : α → Ending Fault β} (first : ending.Keeps allowed good)
    (later : ∀ value, good value → (next value).Keeps allowed fine) : (ending.bind next).Keeps allowed fine := by
  cases ending with
  | returned value => exact later value first
  | failed fault => exact first
  | panicked panic => trivial

/-- What comes to something good or has a plain fault. -/
theorem Ending.keeps_ofExcept (admits : Admits allowed) {α : Type} {good : α → Prop} {verdict : Except Fault α}
    (ok : ∀ value, verdict = .ok value → good value) (plain : ∀ fault, verdict = .error fault → fault.IsPlain) :
    (Ending.ofExcept verdict).Keeps allowed good := by
  cases verdict with
  | ok value => exact ok value rfl
  | error fault => exact (plain fault rfl).raisesOnly admits

/-! ## Exchanges -/

/-- All errors that an exchange carries are allowed. -/
structure Exchange.CarriesOnly (allowed : Raised → Prop) (x : Exchange) : Prop where
  /-- The pending error. -/
  error : ∀ e ∈ x.error, allowed e
  /-- Those in the body. -/
  body : x.body.CarriesOnly allowed
  /-- Those in the headers. -/
  headers : x.headers.CarriesOnly allowed
  /-- Those in the properties. -/
  properties : x.properties.CarriesOnly allowed

/-- If all errors are allowed, those that an exchange carries are. -/
theorem Exchange.carriesOnly_of_all (all : ∀ e, allowed e) (x : Exchange) : x.CarriesOnly allowed :=
  ⟨fun e _ => all e, Value.carriesOnly_of_all all _, fun _ _ => Value.carriesOnly_of_all all _,
    fun _ _ => Value.carriesOnly_of_all all _⟩

namespace Exchange.CarriesOnly

variable {x y : Exchange} (before : x.CarriesOnly allowed)

include before

/-- An error that is set is carried. -/
theorem setError {e : Raised} (new : allowed e) : (x.setError e).CarriesOnly allowed :=
  ⟨fun other same => by cases same; exact new, before.body, before.headers, before.properties⟩

/-- An error that is forgotten is not pending. -/
theorem clearError : x.clearError.CarriesOnly allowed :=
  ⟨fun _ missing => (nomatch missing), before.body, before.headers, before.properties⟩

/-- What is made from an exchange leaves what it carries. -/
theorem afterMaking : x.afterMaking.CarriesOnly allowed :=
  ⟨before.error, before.body, before.headers, before.properties⟩

/-- A fault that is raised is carried. -/
theorem fail {fault : Fault} (raises : fault.RaisesOnly allowed) : (x.fail fault).CarriesOnly allowed :=
  before.afterMaking.setError (raises _)

/-- A cause that is raised is carried. -/
theorem failWith {cause : Cause} (raises : ∀ identity, allowed (cause.raise identity)) :
    (x.failWith cause).CarriesOnly allowed :=
  before.afterMaking.setError (raises _)

/-- A new body brings its errors. -/
theorem setBody {value : Value} (new : value.CarriesOnly allowed) : (x.setBody value).CarriesOnly allowed :=
  ⟨before.error, new, before.headers, before.properties⟩

/-- New headers bring their errors. -/
theorem setHeaders {headers : Table Value} (new : headers.CarriesOnly allowed) :
    (x.setHeaders headers).CarriesOnly allowed :=
  ⟨before.error, before.body, new, before.properties⟩

/-- A new header brings its errors. -/
theorem setHeader {name : String} {value : Value} (new : value.CarriesOnly allowed) :
    (x.setHeader name value).CarriesOnly allowed :=
  before.setHeaders (before.headers.insert new)

/-- A header that is taken away brings nothing. -/
theorem removeHeader (name : String) : (x.removeHeader name).CarriesOnly allowed :=
  before.setHeaders (before.headers.erase name)

/-- A new property brings its errors. -/
theorem setProperty {name : String} {value : Value} (new : value.CarriesOnly allowed) :
    (x.setProperty name value).CarriesOnly allowed :=
  ⟨before.error, before.body, before.headers, before.properties.insert new⟩

/-- A property that is taken away brings nothing. -/
theorem removeProperty (name : String) : (x.removeProperty name).CarriesOnly allowed :=
  ⟨before.error, before.body, before.headers, before.properties.erase name⟩

/-- A history brings nothing. -/
theorem mapHistory (f : History → History) : (x.mapHistory f).CarriesOnly allowed := before.setHeader trivial

/-- A copy carries the same. -/
theorem copyIn (scope : Identity → Scope) : (x.copyIn scope).CarriesOnly allowed :=
  ⟨before.error, before.body, before.headers, before.properties⟩

omit before in
/-- What is taken over from another exchange brings its errors. -/
theorem absorb (other : y.CarriesOnly allowed) : (x.absorb y).CarriesOnly allowed :=
  ⟨other.error, other.body, other.headers, other.properties⟩

/-- The value of a root brings what the exchange carries. -/
theorem lookup (root : Root) : (x.lookup root).CarriesOnly allowed := by
  cases root with
  | id => trivial
  | exchangeId => trivial
  | body => exact before.body
  | header => exact Value.entriesCarryOnly_iff.mpr before.headers
  | property => exact Value.entriesCarryOnly_iff.mpr before.properties
  | error =>
    unfold Exchange.lookup
    cases pending : x.error with
    | none => trivial
    | some e => exact before.error e pending

end Exchange.CarriesOnly

/-- A panic that is contained is carried. -/
theorem Outcome.carriesOnly_contained (admits : Admits allowed) {o : Outcome}
    (before : o.exchange.CarriesOnly allowed) : o.contained.CarriesOnly allowed := by
  unfold Outcome.contained
  split
  · exact before
  · exact before.fail (Fault.IsPlain.raisesOnly admits trivial)

end MessageRouting
