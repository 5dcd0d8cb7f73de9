import MessageRouting.Proofs.Engine.Accounts

/-!
# What single steps leave alone

A step without steps inside first finds out what it needs: it evaluates, converts, marshals, waits. Only then, and only
if that did not fail, it changes its exchange, in one place. So a step that fails leaves the body, the headers and the
properties as they were and sets the error, and a step that succeeds changes nothing but the place it names; the error
that was pending stays, unless it is the error that the step sets.
-/

namespace MessageRouting

open Time

/-! ## Exchanges that agree outside of a place -/

/-- Two exchanges are the same one, with the same data but for the error and what is at a place, if one is given. -/
structure Exchange.AgreesOutside (x : Exchange) (place : Option Place) (after : Exchange) : Prop where
  /-- The body is the same, unless the place is the body. -/
  body : place ≠ some .body → after.body = x.body
  /-- The headers are the same, unless the place is a header. -/
  headers : (∀ name, place ≠ some (.header name)) → after.headers = x.headers
  /-- Each other header is the same. -/
  header : ∀ name, place ≠ some (.header name) → after.header? name = x.header? name
  /-- The properties are the same, unless the place is a property. -/
  properties : (∀ name, place ≠ some (.property name)) → after.properties = x.properties
  /-- Each other property is the same. -/
  property : ∀ name, place ≠ some (.property name) → after.property? name = x.property? name
  /-- It is the same exchange in the same scope. -/
  itself : after.identity = x.identity ∧ after.scope = x.scope

namespace Exchange.AgreesOutside

/-- With another error the data stay. -/
theorem of_same {x after : Exchange} (message : after.message = x.message)
    (properties : after.properties = x.properties) (itself : after.identity = x.identity ∧ after.scope = x.scope)
    (place : Option Place) : x.AgreesOutside place after where
  body _ := congrArg Message.body message
  headers _ := congrArg Message.headers message
  header name _ := congrArg (fun m : Message => m.headers.find? name) message
  properties _ := properties
  property name _ := congrArg (fun table => table.find? name) properties
  itself := itself

theorem setBody (x : Exchange) (value : Value) : x.AgreesOutside (some .body) (x.setBody value) where
  body other := absurd rfl other
  headers _ := rfl
  header _ _ := rfl
  properties _ := rfl
  property _ _ := rfl
  itself := ⟨rfl, rfl⟩

/-- Headers that agree but for one name may take the place of others. -/
theorem setHeaders (x : Exchange) (name : String) (headers : Table Value)
    (same : ∀ other, other ≠ name → headers.find? other = x.headers.find? other) :
    x.AgreesOutside (some (.header name)) (x.setHeaders headers) where
  body _ := rfl
  headers other := absurd rfl (other name)
  header other differs := same other fun equal => differs (by rw [equal])
  properties _ := rfl
  property _ _ := rfl
  itself := ⟨rfl, rfl⟩

/-- Properties that agree but for one name may take the place of others. -/
theorem withProperties (x : Exchange) (name : String) (properties : Table Value)
    (same : ∀ other, other ≠ name → properties.find? other = x.properties.find? other) :
    x.AgreesOutside (some (.property name)) { x with properties } where
  body _ := rfl
  headers _ := rfl
  header _ _ := rfl
  properties other := absurd rfl (other name)
  property other differs := same other fun equal => differs (by rw [equal])
  itself := ⟨rfl, rfl⟩

/-- A value may be put at a place. -/
theorem putAt (x : Exchange) (value : Value) (place : Place) :
    x.AgreesOutside (some place) (Engine.putAt x value place) := by
  cases place with
  | body => exact setBody x value
  | header name => exact setHeaders x name _ fun other differs => by rw [Table.find?_insert, if_neg differs]
  | property name => exact withProperties x name _ fun other differs => by rw [Table.find?_insert, if_neg differs]

theorem removeHeader (x : Exchange) (name : String) : x.AgreesOutside (some (.header name)) (x.removeHeader name) :=
  setHeaders x name _ fun _ differs => Table.find?_erase_of_ne differs x.headers

theorem removeProperty (x : Exchange) (name : String) :
    x.AgreesOutside (some (.property name)) (x.removeProperty name) :=
  withProperties x name _ fun _ differs => Table.find?_erase_of_ne differs x.properties

end Exchange.AgreesOutside

/-- A step is there to set the error. -/
def Leaf.setsError {κ : Type} : Leaf κ → Bool
  | .setError _ => true
  | _ => false

namespace Engine

variable {κ η : Type}

/-! ## Finding out and changing -/

/-- Waits for an instant as long as the exchange may go on, and says why it may not; so many slices are left at most. -/
def mayWait (until_ : Instant) : Nat → Exchange → Work κ η (Ending Fault (Option Value))
  | 0, _ => return .returned none
  | slices + 1, x => do
    match ← check x with
    | .error fault => return .failed fault
    | .ok () =>
      if until_ ≤ (← Program.read (·.now)) then return .returned none
      else
        Program.change (passSlice until_)
        mayWait until_ slices x

/-- Waits as long as a delay says, unless there is no such instant. -/
def mayDelay (x : Exchange) (d : Duration) : Work κ η (Ending Fault (Option Value)) := do
  match (← Program.read (·.now)).after? d with
  | none => return .failed (.conversion "duration" "deadline" s!"delay of {d.text} is out of range")
  | some until_ => mayWait until_ (d.nanos / delaySlice + 2) x

/-- What a step finds out before it changes anything: a value that it was to find, or nothing where none is needed. -/
def find (embedding : Embedding κ η) (leaf : Leaf κ) (x : Exchange) : Work κ η (Ending Fault (Option Value)) :=
  match leaf with
  | .setBody value | .setHeader _ value | .setProperty _ value | .setError value =>
    return (← evaluate embedding value x).bind fun found => .returned (some found)
  | .removeHeader _ | .removeProperty _ => return .returned (some .null)
  | .delay duration => do
    match (← evaluate embedding duration x).bind fun value => .ofExcept (delayOf value) with
    | .returned d => mayDelay x d
    | .failed fault => return .failed fault
    | .panicked panic => return .panicked panic
  | .log route template level => do
    match template.render x with
    | .error fault => return .failed fault
    | .ok message =>
      note (.logged level route message)
      return .returned none
  | .marshal format => return (← marshal embedding format x.body).bind fun text => .returned (some (.string text))
  | .unmarshal format target =>
    match x.body.octets? with
    | none =>
      return .failed (.format (formatName embedding format) s!"cannot unmarshal a {x.body.kind.name} body")
    | some octets => return (← unmarshal embedding format octets target).bind fun found => .returned (some found)
  | .convert place target params =>
    match valueAt x place with
    | none => return .returned none
    | some value => return (← convert embedding value target params).bind fun found => .returned (some found)

/-- The one change that a step makes, with a value that it found. -/
def edit (leaf : Leaf κ) (x : Exchange) (value : Value) : Exchange :=
  match leaf with
  | .setBody _ | .marshal _ | .unmarshal _ _ => x.setBody value
  | .setHeader name _ => x.setHeader name value
  | .setProperty name _ => x.setProperty name value
  | .removeHeader name => x.removeHeader name
  | .removeProperty name => x.removeProperty name
  | .setError _ => setErrorTo x value
  | .delay _ | .log _ _ _ => x
  | .convert place _ _ => putAt x value place

/-- What becomes of an exchange after a step has found out what it needs. -/
def concluded (leaf : Leaf κ) (x : Exchange) : Ending Fault (Option Value) → Outcome
  | .returned none => .returned x
  | .returned (some value) => .returned (edit leaf x value)
  | .failed fault => .returned (x.fail fault)
  | .panicked panic => .panicked x panic

variable {embedding : Embedding κ η} {x : Exchange}

/-- What a step does with a value that may be missing is what becomes of the exchange once it was found. -/
theorem withValue_edit (leaf : Leaf κ) (x : Exchange) (ending : Ending Fault Value) :
    withValue x ending (edit leaf x) = concluded leaf x (ending.bind fun found => .returned (some found)) := by
  cases ending <;> rfl

/-- A step that needs a value and uses it first finds it and then changes the exchange. -/
theorem bind_withValue_edit (leaf : Leaf κ) (x : Exchange) (work : Work κ η (Ending Fault Value)) :
    (do return withValue x (← work) (edit leaf x) : Work κ η Outcome) =
      (do return (← work).bind fun found => .returned (some found)) >>= fun ending =>
        return concluded leaf x ending := by
  simp only [bind_assoc, pure_bind, withValue_edit]

/-- Waiting for an instant is finding out whether the exchange may wait. -/
theorem waitUntil_eq {leaf : Leaf κ} (until_ : Instant) (slices : Nat) :
    (waitUntil until_ slices x : Work κ η Outcome) = (do return concluded leaf x (← mayWait until_ slices x)) := by
  induction slices with
  | zero => rfl
  | succ slices ih =>
    simp only [waitUntil, mayWait, bind_assoc]
    refine congrArg _ (funext fun verdict => ?_)
    cases verdict with
    | error fault => rfl
    | ok _ =>
      simp only [bind_assoc]
      refine congrArg _ (funext fun now => ?_)
      split
      · rfl
      · rw [ih, bind_assoc]

/-- Delaying is finding out whether the exchange may be delayed. -/
theorem delay_eq {leaf : Leaf κ} (d : Duration) :
    (delay x d : Work κ η Outcome) = (do return concluded leaf x (← mayDelay x d)) := by
  simp only [delay, mayDelay, bind_assoc]
  refine congrArg _ (funext fun now => ?_)
  cases now.after? d with
  | none => rfl
  | some until_ => exact waitUntil_eq until_ _

/-- A step first finds out what it needs and then changes its exchange, if at all. -/
theorem runLeaf_eq (embedding : Embedding κ η) (leaf : Leaf κ) (x : Exchange) :
    runLeaf embedding leaf x = (do return concluded leaf x (← find embedding leaf x)) := by
  cases leaf with
  | setBody value => exact bind_withValue_edit (.setBody value) x (evaluate embedding value x)
  | setHeader name value => exact bind_withValue_edit (.setHeader name value) x (evaluate embedding value x)
  | setProperty name value => exact bind_withValue_edit (.setProperty name value) x (evaluate embedding value x)
  | setError value => exact bind_withValue_edit (.setError value) x (evaluate embedding value x)
  | removeHeader name | removeProperty name => rfl
  | delay duration =>
    simp only [runLeaf, find, bind_assoc]
    refine congrArg _ (funext fun ending => ?_)
    cases ending.bind fun value => Ending.ofExcept (delayOf value) with
    | returned d => exact delay_eq d
    | failed fault => rfl
    | panicked panic => rfl
  | log route template level =>
    simp only [runLeaf, find]
    cases template.render x <;> rfl
  | marshal format =>
    simp only [runLeaf, find, bind_assoc, pure_bind]
    refine congrArg _ (funext fun ending => ?_)
    cases ending <;> rfl
  | unmarshal format target =>
    simp only [runLeaf, find]
    cases x.body.octets? with
    | none => rfl
    | some octets => exact bind_withValue_edit (.unmarshal format target) x (unmarshal embedding format octets target)
  | convert place target params =>
    simp only [runLeaf, find]
    cases valueAt x place with
    | none => rfl
    | some value => exact bind_withValue_edit (.convert place target params) x (convert embedding value target params)

/-! ## What stays -/

/-- Setting the error leaves the data as they were. -/
theorem agreesOutside_setErrorTo (x : Exchange) (value : Value) (place : Option Place) :
    x.AgreesOutside place (setErrorTo x value) := by
  unfold setErrorTo
  split <;> exact .of_same (by rfl) (by rfl) ⟨by rfl, by rfl⟩ place

/-- A step changes nothing but its place. -/
theorem agreesOutside_edit (leaf : Leaf κ) (x : Exchange) (value : Value) :
    x.AgreesOutside leaf.place? (edit leaf x value) := by
  cases leaf with
  | setBody | marshal | unmarshal => exact .setBody x value
  | setHeader name => exact .putAt x value (.header name)
  | setProperty name => exact .putAt x value (.property name)
  | removeHeader name => exact .removeHeader x name
  | removeProperty name => exact .removeProperty x name
  | setError => exact agreesOutside_setErrorTo x value none
  | delay | log => exact .of_same rfl rfl ⟨rfl, rfl⟩ none
  | convert place => exact .putAt x value place

/-- A step that is not there to set the error leaves it. -/
theorem error_edit {leaf : Leaf κ} (other : leaf.setsError = false) (x : Exchange) (value : Value) :
    (edit leaf x value).error = x.error := by
  cases leaf with
  | setError => cases other
  | convert place => cases place <;> rfl
  | _ => rfl

/-- What a step leaves behind, by what it found out. -/
inductive Concludes (leaf : Leaf κ) (x : Exchange) : Ending Fault (Option Value) → Outcome → Prop
  /-- If something failed, all data are as before, and the failure is the pending error. -/
  | failed {fault : Fault} {after : Exchange} (data : x.AgreesOutside none after)
    (error : after.error = some (fault.raise x.nextIdentity)) : Concludes leaf x (.failed fault) (.returned after)
  /-- If nothing failed, nothing has changed but the place of the step, nor has the pending error, unless the step is
  there to set it. -/
  | succeeded {found : Option Value} {after : Exchange} (data : x.AgreesOutside leaf.place? after)
    (error : leaf.setsError = false → after.error = x.error) : Concludes leaf x (.returned found) (.returned after)
  /-- If something panicked, nothing has changed. -/
  | panicked (panic : Panic) : Concludes leaf x (.panicked panic) (.panicked x panic)

/-- What becomes of an exchange is as it should be, whatever the step found out. -/
theorem concludes_concluded (leaf : Leaf κ) (x : Exchange) (ending : Ending Fault (Option Value)) :
    Concludes leaf x ending (concluded leaf x ending) := by
  cases ending with
  | returned found =>
    cases found with
    | none => exact .succeeded (.of_same rfl rfl ⟨rfl, rfl⟩ leaf.place?) fun _ => rfl
    | some value => exact .succeeded (agreesOutside_edit leaf x value) fun other => error_edit other x value
  | failed fault => exact .failed (.of_same (by rfl) (by rfl) ⟨by rfl, by rfl⟩ none) rfl
  | panicked panic => exact .panicked panic

/-- A step is nothing but finding out what it needs and then, at most, one change: if something failed, it changes the
error and nothing else, and if nothing failed, it changes its own place and nothing else. -/
theorem runLeaf_fails_or_changes_place (embedding : Embedding κ η) (leaf : Leaf κ) (x : Exchange) :
    runLeaf embedding leaf x = (do return concluded leaf x (← find embedding leaf x)) ∧
      ∀ ending, Concludes leaf x ending (concluded leaf x ending) :=
  ⟨runLeaf_eq embedding leaf x, concludes_concluded leaf x⟩

end Engine

end MessageRouting
