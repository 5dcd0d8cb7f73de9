import MessageRouting.Failure.Matcher

/-!
# Failures inside failures

A failure is wrapped in another one as the earlier failure of a finally block, as the source of a handler fault, or
under messages that were put around it, in any nesting. Every text of its chain is a text of the chain of the wrapping,
and whoever is looked for inside it is found inside the wrapping. Raising what merely passes a failure on gives that
failure back.

An identity stands for the one instance that it was given to: whoever has the identity of a failure is that failure.
Where this is so, what is found inside a failure that is itself found inside another one is found inside that one.
-/

namespace MessageRouting

/-! ## Wrappings -/

/-- Messages put around a cause, the outermost first. -/
def Cause.under (texts : List String) (cause : Cause) : Cause := texts.foldr .context cause

mutual

/-- The failure is inside another one: it is that one, or wrapped in it. -/
inductive Raised.Inside (e : Raised) : Raised → Prop
  /-- It is that failure. -/
  | itself : Raised.Inside e e
  /-- It is inside the cause for which that failure was raised. -/
  | raised (identity : Identity) {cause : Cause} (inside : Raised.InsideCause e cause) :
    Raised.Inside e (.mk identity cause)

/-- The failure is inside a cause. -/
inductive Raised.InsideCause (e : Raised) : Cause → Prop
  /-- It is inside a failure that is the cause. -/
  | raised {wrapping : Raised} (inside : Raised.Inside e wrapping) : Raised.InsideCause e (.raised wrapping)
  /-- A message is put around the cause. -/
  | context (text : String) {cause : Cause} (inside : Raised.InsideCause e cause) :
    Raised.InsideCause e (.context text cause)
  /-- A finally block failed while it was pending. -/
  | finallyFailed {wrapping : Raised} (inside : Raised.Inside e wrapping) (later : Raised) :
    Raised.InsideCause e (.fault (.finallyFailed wrapping later))
  /-- User code failed with the cause. -/
  | handler {cause : Cause} (inside : Raised.InsideCause e cause) : Raised.InsideCause e (.fault (.handler cause))

end

/-! ## Texts -/

/-- At the top of the chain of a cause stands the message of the cause. -/
theorem Cause.map_chain : ∀ cause : Cause,
    cause.chain.map Link.message = cause.message :: cause.chain.tail.map Link.message
  | .plain _ | .custom _ _ | .context _ _ | .raised _ | .fault _ => by
    simp only [Cause.chain, Cause.message, Link.message, List.map_cons, List.tail_cons, List.map_nil]

/-- At the top of the messages of a failure stands its own. -/
theorem Raised.messages_eq : ∀ e : Raised, e.messages = e.message :: e.chain.tail.map Link.message
  | .mk _ cause => cause.map_chain

/-- A failure among the links of a chain, followed by those below it, has the messages of the failure. -/
theorem Raised.map_link (e : Raised) : (Link.raised e :: e.chain.tail).map Link.message = e.messages := by
  rw [Raised.messages_eq, List.map_cons, Link.message]

mutual

/-- The messages of a failure are among those of what wraps it. -/
theorem Raised.Inside.messages_subset {e : Raised} : ∀ {wrapping : Raised}, e.Inside wrapping →
    e.messages ⊆ wrapping.messages
  | _, .itself => List.Subset.refl _
  | _, .raised _ inside => inside.messages_subset

/-- The messages of a failure are among those of a cause that wraps it. -/
theorem Raised.InsideCause.messages_subset {e : Raised} : ∀ {cause : Cause}, e.InsideCause cause →
    e.messages ⊆ cause.chain.map Link.message
  | .raised wrapping, .raised inside => by
    have below := inside.messages_subset
    rwa [Cause.chain, Raised.map_link]
  | .context _ _, .context _ inside => by
    have below := inside.messages_subset
    rw [Cause.chain, List.map_cons]
    exact List.subset_cons_of_subset _ below
  | .fault (.finallyFailed wrapping _), .finallyFailed inside _ => by
    have below := inside.messages_subset
    rw [Cause.chain, Fault.sources, List.map_cons, Raised.map_link]
    exact List.subset_cons_of_subset _ below
  | .fault (.handler _), .handler inside => by
    have below := inside.messages_subset
    rw [Cause.chain, Fault.sources, List.map_cons]
    exact List.subset_cons_of_subset _ below

end

/-! ## Instances -/

mutual

/-- Whoever is found inside a failure is found inside what wraps it. -/
theorem Raised.Inside.reaches {e : Raised} {target : Identity} (found : e.reaches target = true) :
    ∀ {wrapping : Raised}, e.Inside wrapping → wrapping.reaches target = true
  | _, .itself => found
  | .mk own _, .raised _ inside => by
    have below := inside.reaches found
    rw [Raised.reaches, below, Bool.or_true]

/-- Whoever is found inside a failure is found inside a cause that wraps it. -/
theorem Raised.InsideCause.reaches {e : Raised} {target : Identity} (found : e.reaches target = true) :
    ∀ {cause : Cause}, e.InsideCause cause → cause.reaches target = true
  | .raised _, .raised inside => by
    rw [Cause.reaches]
    exact inside.reaches found
  | .context _ _, .context _ inside => by
    rw [Cause.reaches]
    exact inside.reaches found
  | .fault (.finallyFailed _ _), .finallyFailed inside _ => by
    rw [Cause.reaches, Fault.reaches]
    exact inside.reaches found
  | .fault (.handler _), .handler inside => by
    rw [Cause.reaches, Fault.reaches]
    exact inside.reaches found

end

/-- A failure is found inside itself. -/
theorem Raised.wraps_self : ∀ e : Raised, e.wraps e = true
  | .mk own cause => by simp only [Raised.wraps, Raised.identity, Raised.reaches, beq_self_eq_true, Bool.true_or]

/-- What wraps a failure accepts every matcher by text or by instance that the failure does. -/
theorem Raised.Inside.accepts {e wrapping : Raised} (inside : e.Inside wrapping) :
    (∀ text, (Matcher.equals text).accepts e = true → (Matcher.equals text).accepts wrapping = true) ∧
      ∀ target, (Matcher.identity target).accepts e = true → (Matcher.identity target).accepts wrapping = true := by
  constructor
  · intro text accepted
    have member : text ∈ e.messages := List.contains_iff_mem.mp accepted
    exact List.contains_iff_mem.mpr (inside.messages_subset member)
  · intro target accepted
    exact inside.reaches accepted

/-! ## Who has which identity -/

mutual

/-- The failures that a failure carries, wherever they stand in it, and itself. -/
def Raised.carried : Raised → List Raised
  | .mk identity cause => .mk identity cause :: cause.carried

/-- The failures that a cause carries. -/
def Cause.carried : Cause → List Raised
  | .plain _ => []
  | .custom _ _ => []
  | .context _ inner => inner.carried
  | .raised inner => inner.carried
  | .fault inner => inner.carried

/-- The failures that a fault carries. -/
def Fault.carried : Fault → List Raised
  | .finallyFailed earlier later => earlier.carried ++ later.carried
  | .handler source => source.carried
  | .passed inner => inner.carried
  | _ => []

end

/-- An identity is given to one instance only: whoever of some failures has that of a given one is that one. -/
def Raised.AloneIn (inner : Raised) (failures : List Raised) : Prop :=
  ∀ one ∈ failures, one.identity = inner.identity → one = inner

mutual

/-- Whoever is found inside a failure is found inside another one in which the failure is found, if nobody else has its
identity there. -/
theorem Raised.reaches_trans {inner : Raised} {target : Identity} (found : inner.reaches target = true) :
    ∀ {e : Raised}, inner.AloneIn e.carried → e.reaches inner.identity = true → e.reaches target = true
  | .mk own cause, alone, reached => by
    rw [Raised.reaches, Bool.or_eq_true, beq_iff_eq] at reached
    rcases reached with same | below
    · rw [alone _ List.mem_cons_self same]
      exact found
    · have later := Cause.reaches_trans found (fun one member => alone one (List.mem_cons_of_mem _ member)) below
      rw [Raised.reaches, later, Bool.or_true]

/-- The same of a cause. -/
theorem Cause.reaches_trans {inner : Raised} {target : Identity} (found : inner.reaches target = true) :
    ∀ {cause : Cause}, inner.AloneIn cause.carried → cause.reaches inner.identity = true → cause.reaches target = true
  | .plain _, _, reached | .custom _ _, _, reached => by simp only [Cause.reaches, Bool.false_eq_true] at reached
  | .context _ _, alone, reached => by
    rw [Cause.reaches] at reached ⊢
    exact Cause.reaches_trans found alone reached
  | .raised _, alone, reached => by
    rw [Cause.reaches] at reached ⊢
    exact Raised.reaches_trans found alone reached
  | .fault _, alone, reached => by
    rw [Cause.reaches] at reached ⊢
    exact Fault.reaches_trans found alone reached

/-- The same of a fault. -/
theorem Fault.reaches_trans {inner : Raised} {target : Identity} (found : inner.reaches target = true) :
    ∀ {fault : Fault}, inner.AloneIn fault.carried → fault.reaches inner.identity = true → fault.reaches target = true
  | .finallyFailed _ _, alone, reached => by
    rw [Fault.reaches] at reached ⊢
    exact Raised.reaches_trans found (fun one member => alone one (List.mem_append_left _ member)) reached
  | .handler _, alone, reached => by
    rw [Fault.reaches] at reached ⊢
    exact Cause.reaches_trans found alone reached
  | .passed _, alone, reached => by
    rw [Fault.reaches] at reached ⊢
    exact Raised.reachesBelow_trans found alone reached
  | .unknownFunction _ _, _, reached | .unknownFormat _ _, _, reached | .unknownType _ _, _, reached
  | .unknownComponent _, _, reached | .duplicateRoute _, _, reached | .duplicateRegistration _ _, _, reached
  | .routeBuild _, _, reached | .expressionCompile _ _ _, _, reached | .expression _, _, reached
  | .conversion _ _ _, _, reached | .cancelled, _, reached | .deadlineExceeded, _, reached | .panicked _, _, reached
  | .invalidUri _ _, _, reached | .noConsumer _, _, reached | .unsupported _ _, _, reached | .format _ _, _, reached
  | .lifecycle _, _, reached | .configuration _ _, _, reached | .internal _, _, reached => by
    simp only [Fault.reaches, Bool.false_eq_true] at reached

/-- The same below the top link of a failure. -/
theorem Raised.reachesBelow_trans {inner : Raised} {target : Identity} (found : inner.reaches target = true) :
    ∀ {e : Raised}, inner.AloneIn e.carried → e.reachesBelow inner.identity = true → e.reachesBelow target = true
  | .mk _ _, alone, reached => by
    rw [Raised.reachesBelow] at reached ⊢
    exact Cause.reachesBelow_trans found (fun one member => alone one (List.mem_cons_of_mem _ member)) reached

/-- The same below the top link of a cause. -/
theorem Cause.reachesBelow_trans {inner : Raised} {target : Identity} (found : inner.reaches target = true) :
    ∀ {cause : Cause}, inner.AloneIn cause.carried → cause.reachesBelow inner.identity = true →
      cause.reachesBelow target = true
  | .plain _, _, reached | .custom _ _, _, reached => by simp only [Cause.reachesBelow, Bool.false_eq_true] at reached
  | .context _ _, alone, reached => by
    rw [Cause.reachesBelow] at reached ⊢
    exact Cause.reaches_trans found alone reached
  | .raised _, alone, reached => by
    rw [Cause.reachesBelow] at reached ⊢
    exact Raised.reachesBelow_trans found alone reached
  | .fault _, alone, reached => by
    rw [Cause.reachesBelow] at reached ⊢
    exact Fault.reaches_trans found alone reached

end

/-- Wrapping can be chained. -/
theorem Raised.wraps_trans {a b c : Raised} (alone : b.AloneIn a.carried) (first : a.wraps b = true)
    (second : b.wraps c = true) : a.wraps c = true :=
  Raised.reaches_trans second alone first

/-! ## Raising again -/

/-- Messages around a failure hide no more than the failure. -/
theorem Cause.raised?_under (texts : List String) (e : Raised) : (Cause.under texts (.raised e)).raised? = some e := by
  induction texts with
  | nil => rfl
  | cons text rest later => exact later

/-- Raising messages around a failure gives the failure back. -/
theorem Cause.raise_under (texts : List String) (e : Raised) (identity : Identity) :
    (Cause.under texts (.raised e)).raise identity = e := by
  rw [Cause.raise, Cause.raised?_under, Option.getD_some]

/-! ## Matching -/

/-- Being found inside a failure is reflexive and can be chained. A failure is found inside whatever wraps it, which
accepts every text and every instance that the failure does. Raising what passes a failure on, or messages around it,
gives the very instance back. -/
theorem matching_survives_wrapping :
    (∀ e : Raised, e.wraps e = true) ∧
      (∀ a b c : Raised, b.AloneIn a.carried → a.wraps b = true → b.wraps c = true → a.wraps c = true) ∧
      (∀ e wrapping : Raised, e.Inside wrapping → wrapping.wraps e = true ∧
        (∀ text, (Matcher.equals text).accepts e = true → (Matcher.equals text).accepts wrapping = true) ∧
        ∀ target, (Matcher.identity target).accepts e = true → (Matcher.identity target).accepts wrapping = true) ∧
      (∀ (e : Raised) (identity : Identity), (Fault.passed e).raise identity = e) ∧
      ∀ (e : Raised) (texts : List String) (identity : Identity),
        (Cause.under texts (.raised e)).raise identity = e := by
  refine ⟨Raised.wraps_self, fun a b c => Raised.wraps_trans, fun e wrapping inside => ?_,
    fun e identity => rfl, fun e texts identity => Cause.raise_under texts e identity⟩
  have found : wrapping.wraps e = true := inside.reaches e.wraps_self
  exact ⟨found, inside.accepts⟩

/-- A failure of a user type. -/
def boom : Raised := .mk [0] (.custom "TestError" "boom")

/-- A fault of user code that failed with it, under a message. -/
def boomHanded : Raised := .mk [1] (.fault (.handler (.context "while sending" (.raised boom))))

/-- A finally block that failed while that fault was pending. -/
def boomCleanedUp : Raised := .mk [2] (.fault (.finallyFailed boomHanded (.mk [3] (.plain "cleanup"))))

/-- A failure is found two wrappings above, by its instance and by its text, and comes back from under two messages. -/
theorem matching_survives_wrapping_cleanedUp :
    boomHanded.AloneIn boomCleanedUp.carried ∧ boom.Inside boomCleanedUp ∧
      boomCleanedUp.wraps boomHanded = true ∧ boomHanded.wraps boom = true ∧ boomCleanedUp.wraps boom = true ∧
      (Matcher.equals "boom").accepts boom = true ∧ (Matcher.equals "boom").accepts boomCleanedUp = true ∧
      (Matcher.identity boom).accepts boomCleanedUp = true ∧
      (Cause.under ["outer", "inner"] (.raised boom)).raise [9] = boom := by
  obtain ⟨self, chained, survives, -, raised⟩ := matching_survives_wrapping
  have alone : boomHanded.AloneIn boomCleanedUp.carried := by
    intro one member same
    have members : one ∈ [boomCleanedUp, boomHanded, boom, .mk [3] (.plain "cleanup")] := member
    simp only [List.mem_cons, List.not_mem_nil, or_false] at members
    rcases members with rfl | rfl | rfl | rfl
    · cases same
    · rfl
    · cases same
    · cases same
  have inside : boom.Inside boomHanded := .raised [1] (.handler (.context "while sending" (.raised .itself)))
  have deeper : boom.Inside boomCleanedUp := .raised [2] (.finallyFailed inside _)
  have first : boomCleanedUp.wraps boomHanded = true := by decide +kernel
  have second : boomHanded.wraps boom = true := (survives boom boomHanded inside).1
  have accepted : (Matcher.equals "boom").accepts boom = true := by decide +kernel
  exact ⟨alone, deeper, first, second, chained _ _ _ alone first second, accepted,
    (survives boom boomCleanedUp deeper).2.1 "boom" accepted,
    (survives boom boomCleanedUp deeper).2.2 boom (self boom), raised boom ["outer", "inner"] [9]⟩

end MessageRouting
