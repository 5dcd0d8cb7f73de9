import MessageRouting.Failure.Matcher
import MessageRouting.Proofs.Text.LetterCase
import MessageRouting.Proofs.Text.Search

/-!
# Failures whose message contains a text

A matcher for a text lowercases the text once and each full message as a whole. Where the text alone decides the form of
each of its sigmas, as it does if it has none, the matcher accepts every failure whose full message contains the text.
For any other text there is a failure that it misses: next to a letter, a sigma has another form than in the text.
-/

namespace MessageRouting

namespace Matcher

/-- The matcher for a text looks for the text in lowercase. -/
theorem accepts_containing_iff (text : String) (e : Raised) : (containing text).accepts e = true ↔
    Text.lowerAfter [] text.toList <:+: Text.lowerAfter [] e.fullMessage.toList := by
  simp only [containing, accepts, Text.contains_eq_true_iff, Text.toLower, String.toList_ofList]

/-- A text whose sigmas are settled is found in every full message that contains it. -/
theorem accepts_of_settled {text : String} (settled : Text.SigmasSettled text.toList) {e : Raised}
    (contained : Text.contains e.fullMessage text = true) : (containing text).accepts e = true :=
  (accepts_containing_iff text e).mpr
    (Text.lowerAfter_infix_of_settled settled ((Text.contains_eq_true_iff ..).mp contained))

/-- A text without a capital sigma is found in every full message that contains it. -/
theorem accepts_of_no_sigma {text : String} (none : 'Σ' ∉ text.toList) {e : Raised}
    (contained : Text.contains e.fullMessage text = true) : (containing text).accepts e = true := by
  refine accepts_of_settled (fun before rest split => absurd ?_ none) contained
  rw [split]
  exact List.mem_append_right before List.mem_cons_self

/-- The full message of a plain message is that message. -/
theorem fullMessage_plain (identity : Identity) (text : String) :
    (Raised.mk identity (.plain text)).fullMessage = text := rfl

/-- A text is found in every full message that contains it, just if it decides the form of each of its sigmas. -/
theorem containing_finds_iff (text : String) :
    (∀ e : Raised, Text.contains e.fullMessage text = true → (containing text).accepts e = true) ↔
      Text.SigmasSettled text.toList := by
  constructor
  · intro found
    by_contra unsettled
    obtain ⟨message, inside, lost⟩ := Text.exists_lost_of_not_settled unsettled
    have accepted := found (.mk [] (.plain (String.ofList message)))
    rw [accepts_containing_iff, Text.contains_eq_true_iff, fullMessage_plain, String.toList_ofList] at accepted
    exact lost (accepted inside)
  · exact fun settled _ contained => accepts_of_settled settled contained

/-- The text stands in the message, but the sigma at its end is not the last letter of its word there. -/
theorem odos_is_missed :
    Text.contains (Raised.mk [] (.plain "ΟΔΟΣΗΜΟ")).fullMessage "ΟΔΟΣ" = true ∧
      (containing "ΟΔΟΣ").accepts (.mk [] (.plain "ΟΔΟΣΗΜΟ")) = false := by
  decide +kernel

end Matcher

end MessageRouting
