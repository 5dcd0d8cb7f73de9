import MessageRouting.Journal
import MessageRouting.Proofs.Pattern.Account
import MessageRouting.Proofs.Route.Headers

/-!
# Records of steps

The history of an exchange is a list of records in a reserved header. A step that is entered adds a record, and what it
finishes later is found by its place in the list; so the places have to stay. An account of histories says what may
happen to them: the records that are there stay, and those that come are finished and stand in the order in which
their steps were entered.
-/

namespace MessageRouting

/-! ## The records in headers -/

/-- The records in headers. Without the reserved header there are none, and anything else in it is no history. -/
def History.inHeaders? (headers : Table Value) : Option History :=
  match headers.find? historyHeader with
  | none => some []
  | some (.object (.history records)) => some records
  | some _ => none

/-- The records of an exchange. -/
def Exchange.recorded? (x : Exchange) : Option History := History.inHeaders? x.headers

/-- The history of an exchange with records is those records. -/
theorem Exchange.history?_getD {x : Exchange} {records : History} (recorded : x.recorded? = some records) :
    x.history?.getD [] = records := by
  unfold Exchange.recorded? History.inHeaders? at recorded
  unfold Exchange.history? Exchange.header?
  split at recorded
  · rename_i absent
    cases recorded
    rw [absent]
    rfl
  · rename_i found
    cases recorded
    rw [found]
    rfl
  · cases recorded

/-- What is made of the history are the records then. -/
theorem Exchange.recorded?_mapHistory {x : Exchange} {records : History} (recorded : x.recorded? = some records)
    (f : History → History) : (x.mapHistory f).recorded? = some (f records) := by
  have found : (x.mapHistory f).headers.find? historyHeader = some (.object (.history (f records))) := by
    rw [← Exchange.history?_getD recorded]
    exact Table.find?_insert_self historyHeader _ x.headers
  unfold Exchange.recorded? History.inHeaders?
  rw [found]

/-- Another header has nothing to do with the records. -/
theorem History.inHeaders?_insert {name : String} (other : name ≠ historyHeader) (headers : Table Value)
    (value : Value) : inHeaders? (headers.insert name value) = inHeaders? headers := by
  unfold inHeaders?
  rw [Table.find?_insert, if_neg other.symm]

/-- Another header has nothing to do with the records. -/
theorem History.inHeaders?_erase {name : String} (other : name ≠ historyHeader) (headers : Table Value) :
    inHeaders? (headers.erase name) = inHeaders? headers := by
  unfold inHeaders?
  rw [Table.find?_erase_of_ne other.symm]

/-- The record that was open is finished at its place, and no other one changes. -/
theorem History.finish_begin (before new : History) (route step : String) :
    ((before.begin route step) ++ new).finish before.length = before ++ ⟨route, step, true⟩ :: new := by
  unfold History.begin History.finish
  rw [List.append_assoc]
  induction before with
  | nil => rfl
  | cons record rest ih => exact congrArg (record :: ·) ih

/-! ## Steps in the order of their records -/

/-- The event is that the step of a record is entered: it begins or is refused, and its exchange has the record, still
open, at the place as the last one. -/
def Event.Enters (place : Nat) (record : HistoryRecord) (event : Event) : Prop :=
  ∃ (info : StepInfo) (x : Exchange) (before : History), (event = .started info x ∨ event = .refused info x) ∧
    record.route = info.route ∧ record.step = info.step ∧ before.length = place ∧
    x.recorded? = some (before.begin info.route info.step)

/-- Records from a place on stand in the order in which their steps are entered among some events. -/
inductive History.Follows : Nat → History → List Event → Prop
  /-- There are no records left. -/
  | nil (place : Nat) : Follows place [] []
  /-- An event that is none of those. -/
  | skip {place : Nat} {records : History} {events : List Event} (event : Event)
    (later : Follows place records events) : Follows place records (event :: events)
  /-- The step of the first record is entered. -/
  | enter {place : Nat} {record : HistoryRecord} {records : History} {event : Event} {events : List Event}
    (enters : event.Enters place record) (later : Follows (place + 1) records events) :
    Follows place (record :: records) (event :: events)

namespace History.Follows

/-- No records are in order, whatever happens. -/
theorem none (place : Nat) : ∀ events : List Event, Follows place [] events
  | [] => .nil place
  | event :: rest => .skip event (none place rest)

/-- Records behind others are in order if their steps are entered later. -/
theorem append {place : Nat} {records others : History} {events later : List Event}
    (first : Follows place records events) (second : Follows (place + records.length) others later) :
    Follows place (records ++ others) (events ++ later) := by
  induction first with
  | nil place => exact second
  | skip event _ ih => exact .skip event (ih second)
  | @enter place record records event events enters _ ih =>
    refine .enter enters (ih ?_)
    rwa [List.length_cons, ← Nat.add_assoc, Nat.add_right_comm] at second

/-- What happens before leaves records in order. -/
theorem after {place : Nat} {records : History} {later : List Event} (events : List Event)
    (follows : Follows place records later) : Follows place records (events ++ later) := by
  have both := (none place events).append follows
  exact both

/-- What happens afterwards leaves records in order. -/
theorem before {place : Nat} {records : History} {events : List Event} (later : List Event)
    (follows : Follows place records events) : Follows place records (events ++ later) := by
  have both := follows.append (none _ later)
  rwa [List.append_nil] at both

end History.Follows

/-! ## The account of histories -/

/-- No step that begins changes the history of its own accord, by its name. -/
def SparesHistory (events : List Event) : Prop :=
  ∀ info x, .started info x ∈ events → ¬info.Changes historyHeader

/-- No step among the first events changes the history. -/
theorem SparesHistory.first {events later : List Event} (spares : SparesHistory (events ++ later)) :
    SparesHistory events :=
  fun info x member => spares info x (List.mem_append_left later member)

/-- No step among the later events changes the history. -/
theorem SparesHistory.later {events later : List Event} (spares : SparesHistory (events ++ later)) :
    SparesHistory later :=
  fun info x member => spares info x (List.mem_append_right events member)

/-- Records that are there stay, and those that come are finished and stand in the order in which their steps were
entered. -/
def History.Grows (first second : Option History) (events : List Event) : Prop :=
  ∀ before, first = some before → ∃ new, second = some (before ++ new) ∧
    (∀ record ∈ new, record.finished = true) ∧ Follows before.length new events

namespace History.Grows

/-- Records that stay do, whatever happens. -/
theorem same (records : Option History) (events : List Event) : Grows records records events :=
  fun before recorded => ⟨[], by rwa [List.append_nil], nofun, .none _ events⟩

/-- Records that came stay when others come. -/
theorem trans {first second third : Option History} {events later : List Event} (grown : Grows first second events)
    (more : Grows second third later) : Grows first third (events ++ later) := by
  intro before recorded
  obtain ⟨new, between, finished, follows⟩ := grown before recorded
  obtain ⟨others, final, ended, following⟩ := more _ between
  refine ⟨new ++ others, by rw [final, List.append_assoc], List.forall_mem_append.mpr ⟨finished, ended⟩, ?_⟩
  rw [List.length_append] at following
  exact follows.append following

/-- What happens elsewhere later changes nothing. -/
theorem before {first second : Option History} {events : List Event} (grown : Grows first second events)
    (later : List Event) : Grows first second (events ++ later) := by
  intro before recorded
  obtain ⟨new, between, finished, follows⟩ := grown before recorded
  exact ⟨new, between, finished, follows.before later⟩

/-- What happened elsewhere before changes nothing. -/
theorem after {first second : Option History} {later : List Event} (events : List Event)
    (grown : Grows first second later) : Grows first second (events ++ later) :=
  (same first events).trans grown

end History.Grows

/-- Histories grow by finished records, unless a step changes them of its own accord. -/
def historyAccount : Pattern.Account (Table Value) where
  view := Exchange.headers
  blind alike := alike.headers
  leads first second events :=
    SparesHistory events → History.Grows (History.inHeaders? first) (History.inHeaders? second) events
  still _ _ := .same _ _
  trans grown more spares := (grown spares.first).trans (more spares.later)

/-- What happens to the histories of copies may be left aside. -/
theorem setsAside_historyAccount : historyAccount.SetsAside where
  aside _ _ := .same _ _
  beside {_ _ _ _ later} grown _ spares := (grown spares.first).before later

end MessageRouting
