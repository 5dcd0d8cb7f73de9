import MessageRouting.Text.Search

/-!
# Where texts are found in others

A text starts with another one, ends with it or contains it just if it is put together with it at its start, at its end
or somewhere inside. So a text contains whatever it starts or ends with.
-/

namespace MessageRouting.Text

/-- A list stands in another one all in one piece just if that can be split around it. -/
theorem hasPiece_eq_true_iff (text piece : List Char) : hasPiece text piece = true ↔ piece <:+: text := by
  induction text with
  | nil => rw [hasPiece, List.isEmpty_iff, List.infix_nil]
  | cons c rest ih => rw [hasPiece, Bool.or_eq_true, List.isPrefixOf_iff_prefix, ih, List.infix_cons_iff]

/-- A text contains another one just if its characters can be split around those of the other one. -/
theorem contains_eq_true_iff (text piece : String) : contains text piece = true ↔ piece.toList <:+: text.toList :=
  hasPiece_eq_true_iff text.toList piece.toList

/-- A text starts with another one just if the characters of the other one come first. -/
theorem startsWith_eq_true_iff (text start : String) : startsWith text start = true ↔ start.toList <+: text.toList :=
  List.isPrefixOf_iff_prefix

/-- A text ends with another one just if the characters of the other one come last. -/
theorem endsWith_eq_true_iff (text ending : String) : endsWith text ending = true ↔ ending.toList <:+ text.toList :=
  List.isPrefixOf_iff_prefix.trans List.reverse_prefix

/-- A text contains what it starts with. -/
theorem contains_of_startsWith {text start : String} (starts : startsWith text start = true) :
    contains text start = true :=
  (contains_eq_true_iff text start).mpr ((startsWith_eq_true_iff text start).mp starts).isInfix

/-- A text contains what it ends with. -/
theorem contains_of_endsWith {text ending : String} (ends : endsWith text ending = true) :
    contains text ending = true :=
  (contains_eq_true_iff text ending).mpr ((endsWith_eq_true_iff text ending).mp ends).isInfix

end MessageRouting.Text
