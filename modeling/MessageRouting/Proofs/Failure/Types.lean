import MessageRouting.Proofs.Failure.Wrapping

/-!
# Types of errors inside failures

A failure in the chain of another one stands there as one link, and the links below it are those below its own top link.
So of the types of errors in its chain, a wrapping keeps those that stand below the top link; what the failure itself
was raised for is not seen any more, however it is wrapped. A finally block that fails thus takes a pending error of a
user type away from the catch clauses around it that look for the type.
-/

namespace MessageRouting

/-- An error of a type stands below the top link of the chain of a failure. -/
def Raised.isBelow (e : Raised) (type : ErrorType) : Bool := e.chain.tail.any (Link.isOf type)

/-- The links of a failure among those of another one show that a failure is there, and what stands below its top. -/
theorem Raised.any_link (e : Raised) (type : ErrorType) :
    (Link.raised e :: e.chain.tail).any (Link.isOf type) = true ↔ type = .raised ∨ e.isBelow type = true := by
  rw [List.any_cons, Bool.or_eq_true, Link.isOf, beq_iff_eq, Raised.isBelow]

/-- What the failure is that a finally block raises. -/
theorem Raised.is_finallyFailed_iff (e later : Raised) (identity : Identity) (type : ErrorType) :
    (Raised.mk identity (.fault (.finallyFailed e later))).is type = true ↔
      type = .fault ∨ type = .raised ∨ e.isBelow type = true := by
  rw [Raised.is, Raised.chain, Cause.chain, Fault.sources, List.any_cons, Bool.or_eq_true, e.any_link, Link.isOf,
    beq_iff_eq]

/-- What messages around a failure are. -/
theorem Raised.is_under_iff (e : Raised) (texts : List String) (identity : Identity) (type : ErrorType) :
    (Raised.mk identity (Cause.under texts (.raised e))).is type = true ↔ type = .raised ∨ e.isBelow type = true := by
  rw [Raised.is, Raised.chain, ← e.any_link]
  induction texts with
  | nil => rfl
  | cons text rest later =>
    have message : (Link.plain text).isOf type = false := rfl
    rw [Cause.under, List.foldr_cons, Cause.chain, List.any_cons, message, Bool.false_or]
    exact later

/-! ## User types however deep -/

/-- The top link of a cause that wraps a failure is no error of a user type. -/
theorem Raised.InsideCause.any_tail {e : Raised} {cause : Cause} (inside : e.InsideCause cause) (typeName : String) :
    cause.chain.tail.any (Link.isOf (.custom typeName)) = cause.chain.any (Link.isOf (.custom typeName)) := by
  cases inside with
  | raised _ | context _ _ | finallyFailed _ _ | handler _ => rw [Cause.chain]; rfl

mutual

/-- Below the top link of a wrapping stand the errors of a user type that stand below the top link of the failure. -/
theorem Raised.Inside.isBelow_eq {e : Raised} (typeName : String) : ∀ {wrapping : Raised}, e.Inside wrapping →
    wrapping.isBelow (.custom typeName) = e.isBelow (.custom typeName)
  | _, .itself => rfl
  | .mk _ _, .raised _ inside => by
    have below := inside.any_eq typeName
    rw [Raised.isBelow, Raised.chain, inside.any_tail typeName, below]

/-- In the chain of a cause that wraps a failure stand the errors of a user type that stand below the top link of the
failure. -/
theorem Raised.InsideCause.any_eq {e : Raised} (typeName : String) : ∀ {cause : Cause}, e.InsideCause cause →
    cause.chain.any (Link.isOf (.custom typeName)) = e.isBelow (.custom typeName)
  | .raised wrapping, .raised inside => by
    have below := inside.isBelow_eq typeName
    rw [Cause.chain, ← below]
    rfl
  | .context _ _, .context _ inside => by
    have below := inside.any_eq typeName
    rw [Cause.chain, ← below]
    rfl
  | .fault (.finallyFailed wrapping _), .finallyFailed inside _ => by
    have below := inside.isBelow_eq typeName
    rw [Cause.chain, Fault.sources, ← below]
    rfl
  | .fault (.handler _), .handler inside => by
    have below := inside.any_eq typeName
    rw [Cause.chain, Fault.sources, ← below]
    rfl

end

/-! ## What survives -/

/-- Which types of errors are seen through a wrapping: those that stand below the top link of the failure, that of
failures, and that of faults through a finally block. A user type is seen through any wrapping at all exactly if it
stands below the top link. -/
theorem is_wrapped_iff (e : Raised) (type : ErrorType) :
    (∀ (later : Raised) (identity : Identity), (Raised.mk identity (.fault (.finallyFailed e later))).is type = true ↔
      type = .fault ∨ type = .raised ∨ e.isBelow type = true) ∧
    (∀ (texts : List String) (identity : Identity),
      (Raised.mk identity (Cause.under texts (.raised e))).is type = true ↔
        type = .raised ∨ e.isBelow type = true) ∧
    ∀ (identity : Identity) (cause : Cause) (typeName : String), e.InsideCause cause →
      ((Raised.mk identity cause).is (.custom typeName) = true ↔ e.isBelow (.custom typeName) = true) := by
  refine ⟨fun later identity => e.is_finallyFailed_iff later identity type,
    fun texts identity => e.is_under_iff texts identity type, fun identity cause typeName inside => ?_⟩
  rw [Raised.is, Raised.chain, inside.any_eq typeName]

/-- A failure of a user type is of that type, but neither a finally block that fails while it is pending nor a failure
with messages around it is. -/
theorem type_not_kept_by_wrapping :
    ¬ ∀ (e : Raised) (type : ErrorType), e.is type = true →
      (∀ (later : Raised) (identity : Identity),
        (Raised.mk identity (.fault (.finallyFailed e later))).is type = true) ∧
      ∀ (texts : List String) (identity : Identity),
        (Raised.mk identity (Cause.under texts (.raised e))).is type = true := by
  intro kept
  have own : boom.is (.custom "TestError") = true := by decide
  have seen := (kept boom (.custom "TestError") own).1 (.mk [3] (.plain "cleanup")) [2]
  exact absurd seen (by decide)

end MessageRouting
