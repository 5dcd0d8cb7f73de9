import MessageRouting.Proofs.Time.Calendar
import MessageRouting.Time.Pattern

/-!
# Patterns by which nothing can be written

A pattern is unusable for writing because of what stands in it and not because of the point in time: each month and each
weekday has a name, so of all items only an unknown directive and the offset that is only read have no text.
-/

namespace MessageRouting.Time

/-- A directive of the pattern is unknown, or it stands for an offset that is only read. -/
def Unusable (pattern : String) : Prop := ∃ item ∈ itemsOf pattern, item = .unknown ∨ item = .looseOffset

/-- A weekday is one of seven. -/
theorem Date.weekday_lt (date : Date) : date.weekday < 7 := by
  unfold Date.weekday
  omega

/-- Just what is unknown or only read cannot be written. -/
theorem Item.write_eq_none_iff (t : Timestamp) (item : Item) :
    item.write t = none ↔ item = .unknown ∨ item = .looseOffset := by
  have months : t.date.month - 1 < monthNames.length := by
    have bounded : t.date.month ≤ 12 := (Date.ofNumber_le _).1
    change t.date.month - 1 < 12
    omega
  have weekdays : t.date.weekday < weekdayNames.length := t.date.weekday_lt
  cases item with
  | monthName whole => simp [Item.write, List.getElem?_eq_getElem months]
  | weekdayName whole => simp [Item.write, List.getElem?_eq_getElem weekdays]
  | fraction places => cases places <;> simp [Item.write]
  | offset colons => rcases colons with _ | _ | _ | more <;> simp [Item.write]
  | _ => simp [Item.write]

/-- Items of which one cannot be written are not written. -/
theorem mapM_write_eq_none_iff (t : Timestamp) (items : List Item) :
    items.mapM (Item.write t) = none ↔ ∃ item ∈ items, item.write t = none := by
  induction items with
  | nil => simp
  | cons item rest ih =>
    simp only [List.mapM_cons, List.mem_cons, exists_eq_or_imp, ← ih]
    cases item.write t <;> cases rest.mapM (Item.write t) <;> simp

/-- A point in time cannot be written by a pattern just if the pattern is unusable. -/
theorem Timestamp.write?_eq_none_iff (t : Timestamp) (pattern : String) :
    t.write? pattern = none ↔ Unusable pattern := by
  unfold Timestamp.write? Unusable
  rw [Option.map_eq_none_iff, mapM_write_eq_none_iff]
  exact exists_congr fun item => and_congr_right fun _ => item.write_eq_none_iff t

end MessageRouting.Time
