import MessageRouting.Engine.Lifecycle
import MessageRouting.Engine.Sending
import MessageRouting.Proofs.Engine.Basis
import MessageRouting.Proofs.Failure.Types

/-!
# Failures of nested sendings

A function of a route may send to another route. If that one ends in error, the sending fails with a fault that passes
the failure on, and the function may fail with the fault in turn. Raised as it is, the fault would come to the very
failure that it passes on; but a function fails with a cause, and a cause that is a fault is raised as a new failure,
in the place of the top link of the one that is passed on. So a catch clause of the calling route sees what stands
below that link, and neither the instance nor the type for which the failure was raised.
-/

namespace MessageRouting

/-! ## What is found inside -/

mutual

/-- Whoever is found inside a failure is among those that it carries. -/
theorem Raised.exists_carried {target : Identity} : ∀ {e : Raised}, e.reaches target = true →
    ∃ one ∈ e.carried, one.identity = target
  | .mk own cause, reached => by
    rw [Raised.reaches, Bool.or_eq_true, beq_iff_eq] at reached
    rw [Raised.carried]
    rcases reached with same | below
    · exact ⟨_, List.mem_cons_self, same⟩
    · obtain ⟨one, member, same⟩ := Cause.exists_carried below
      exact ⟨one, List.mem_cons_of_mem _ member, same⟩

/-- The same of a cause. -/
theorem Cause.exists_carried {target : Identity} : ∀ {cause : Cause}, cause.reaches target = true →
    ∃ one ∈ cause.carried, one.identity = target
  | .plain _, reached | .custom _ _, reached => by simp only [Cause.reaches, Bool.false_eq_true] at reached
  | .context _ _, reached => by
    rw [Cause.reaches] at reached
    rw [Cause.carried]
    exact Cause.exists_carried reached
  | .raised _, reached => by
    rw [Cause.reaches] at reached
    rw [Cause.carried]
    exact Raised.exists_carried reached
  | .fault _, reached => by
    rw [Cause.reaches] at reached
    rw [Cause.carried]
    exact Fault.exists_carried reached

/-- The same of a fault. -/
theorem Fault.exists_carried {target : Identity} : ∀ {fault : Fault}, fault.reaches target = true →
    ∃ one ∈ fault.carried, one.identity = target
  | .finallyFailed _ _, reached => by
    rw [Fault.reaches] at reached
    rw [Fault.carried]
    obtain ⟨one, member, same⟩ := Raised.exists_carried reached
    exact ⟨one, List.mem_append_left _ member, same⟩
  | .handler _, reached => by
    rw [Fault.reaches] at reached
    rw [Fault.carried]
    exact Cause.exists_carried reached
  | .passed (.mk _ _), reached => by
    rw [Fault.reaches, Raised.reachesBelow] at reached
    rw [Fault.carried, Raised.carried]
    obtain ⟨one, member, same⟩ := Cause.exists_carried_below reached
    exact ⟨one, List.mem_cons_of_mem _ member, same⟩
  | .unknownFunction _ _, reached | .unknownFormat _ _, reached | .unknownType _ _, reached
  | .unknownComponent _, reached | .duplicateRoute _, reached | .duplicateRegistration _ _, reached
  | .routeBuild _, reached | .expressionCompile _ _ _, reached | .expression _, reached
  | .conversion _ _ _, reached | .cancelled, reached | .deadlineExceeded, reached | .panicked _, reached
  | .invalidUri _ _, reached | .noConsumer _, reached | .unsupported _ _, reached | .format _ _, reached
  | .lifecycle _, reached | .configuration _ _, reached | .internal _, reached => by
    simp only [Fault.reaches, Bool.false_eq_true] at reached

/-- Whoever is found inside a cause below its top link is among those that the cause carries. -/
theorem Cause.exists_carried_below {target : Identity} : ∀ {cause : Cause}, cause.reachesBelow target = true →
    ∃ one ∈ cause.carried, one.identity = target
  | .plain _, reached | .custom _ _, reached => by simp only [Cause.reachesBelow, Bool.false_eq_true] at reached
  | .context _ _, reached => by
    rw [Cause.reachesBelow] at reached
    rw [Cause.carried]
    exact Cause.exists_carried reached
  | .raised (.mk _ _), reached => by
    rw [Cause.reachesBelow, Raised.reachesBelow] at reached
    rw [Cause.carried, Raised.carried]
    obtain ⟨one, member, same⟩ := Cause.exists_carried_below reached
    exact ⟨one, List.mem_cons_of_mem _ member, same⟩
  | .fault _, reached => by
    rw [Cause.reachesBelow] at reached
    rw [Cause.carried]
    exact Fault.exists_carried reached

end

/-- A failure whose identity nobody bears for which it was raised is not found below its own top link. -/
theorem Raised.reachesBelow_self {e : Raised} (own : ∀ one ∈ e.cause.carried, one.identity ≠ e.identity) :
    e.reachesBelow e.identity = false := by
  obtain ⟨identity, cause⟩ := e
  rw [Raised.reachesBelow, Bool.eq_false_iff]
  intro reached
  obtain ⟨one, member, same⟩ := Cause.exists_carried_below reached
  exact own one member same

/-! ## What is passed on -/

/-- A fault is no failure that comes out of its cause as it is, not even one that passes a failure on. -/
theorem Cause.raise_fault (fault : Fault) (own : Identity) :
    (Cause.fault fault).raise own = .mk own (.fault fault) := rfl

/-- Inside a cause that passes a failure on is found what is found below the top link of the failure. -/
theorem Raised.reaches_passed (e : Raised) (own target : Identity) :
    ((Cause.fault (.passed e)).raise own).reaches target = true ↔ target = own ∨ e.reachesBelow target = true := by
  rw [Cause.raise_fault, Raised.reaches, Bool.or_eq_true, beq_iff_eq, eq_comm, Cause.reaches, Fault.reaches]

/-- A cause that passes a failure on is a fault, and is of the types that stand below the top link of the failure. -/
theorem Raised.is_passed_iff (e : Raised) (own : Identity) (type : ErrorType) :
    ((Cause.fault (.passed e)).raise own).is type = true ↔ type = .fault ∨ e.isBelow type = true := by
  rw [Cause.raise_fault, Raised.is, Raised.chain, Cause.chain, Fault.sources, List.any_cons, Bool.or_eq_true, Link.isOf,
    beq_iff_eq, Raised.isBelow]

/-- What a sending that ended in error fails with passes the error on. -/
theorem Engine.bodyOf_eq_error_iff {x : Exchange} {fault : Fault} :
    bodyOf x = .error fault ↔ ∃ e, x.error = some e ∧ fault = .passed e := by
  unfold bodyOf
  cases x.error with
  | none => simp only [reduceCtorEq, false_and, exists_false]
  | some e => simp only [Except.error.injEq, Option.some.injEq, exists_eq_left', eq_comm]

/-- Passing a failure on leaves its message as it is. -/
theorem Raised.message_passed : ∀ (e : Raised) (own : Identity),
    ((Cause.fault (.passed e)).raise own).message = e.message
  | .mk _ _, _ => rfl

/-- Passing a failure on leaves all its messages as they are. -/
theorem Raised.messages_passed (e : Raised) (own : Identity) :
    ((Cause.fault (.passed e)).raise own).messages = e.messages := by
  have below : ((Cause.fault (.passed e)).raise own).chain.tail = e.chain.tail := rfl
  rw [Raised.messages_eq, Raised.messages_eq, Raised.message_passed, below]

/-- Of what matches a failure, a cause that passes it on keeps what goes by messages. An instance matches it only if it
is the new one or stands below the top link of the failure, and a type only if it is that of faults or stands there. -/
structure PassedOn (e : Raised) (own : Identity) (raised : Raised) : Prop where
  /-- The messages are those of the failure. -/
  messages : raised.messages = e.messages
  /-- The instances that match. -/
  identity : ∀ target, (Matcher.identity target).accepts raised = true ↔
    target.identity = own ∨ e.reachesBelow target.identity = true
  /-- The types that match. -/
  type : ∀ type, (Matcher.is type).accepts raised = true ↔ type = .fault ∨ e.isBelow type = true
  /-- The failure itself is neither what was raised nor found inside it, if no other failure bears its identity. -/
  lost : (∀ one ∈ e.cause.carried, one.identity ≠ e.identity) → e.identity ≠ own →
    raised.same e = false ∧ raised.wraps e = false

/-- What is raised for a fault that passes a failure on. -/
theorem Raised.passedOn (e : Raised) (own : Identity) : PassedOn e own ((Cause.fault (.passed e)).raise own) where
  messages := e.messages_passed own
  identity target := e.reaches_passed own target.identity
  type := e.is_passed_iff own
  lost alone fresh := by
    refine ⟨beq_eq_false_iff_ne.mpr fresh.symm, ?_⟩
    rw [Raised.wraps, Bool.eq_false_iff, Ne, e.reaches_passed, Raised.reachesBelow_self alone]
    rintro (same | found)
    · exact fresh same
    · cases found

namespace Engine

variable {κ η : Type}

/-! ## A function that sends -/

/-- Gives an exchange headers and a body. -/
def withMessage (headers : List (String × Value)) (body : Value) (x : Exchange) : Work κ η Exchange :=
  return (headers.foldl (fun x (name, value) => x.setHeader name value) x).setBody body

/-- A function that sends headers and a body, fails with what the sending fails with, and else goes on with the body
that came back. -/
def passingOn (embedding : Embedding κ η) (uri : String) (headers : List (String × Value)) (body : Value)
    (next : Value → Exchange → Work κ η (Exchange × Ending Cause Unit)) (x : Exchange) :
    Work κ η (Exchange × Ending Cause Unit) := do
  match ← sendMessage embedding uri headers body with
  | .error fault => return (x, .failed (.fault fault))
  | .ok value => next value x

variable (embedding : Embedding κ η) {fuel : Nat} {uri : String} {headers : List (String × Value)} {body : Value}
  {engine after : Engine κ η} {x y : Exchange} {e : Raised}

/-- A sending whose exchange comes back with an error fails by passing the error on. -/
theorem run_sendMessage_of_error
    (sent : run embedding fuel (send embedding uri (withMessage headers body)) engine = some (.ok y, after))
    (ended : y.error = some e) :
    run embedding fuel (sendMessage embedding uri headers body) engine = some (.error (.passed e), after) := by
  have passed : bodyOf y = .error (.passed e) := bodyOf_eq_error_iff.mpr ⟨e, ended, rfl⟩
  rw [run, Program.runWithin] at sent ⊢
  unfold withMessage at sent
  simp only [sendMessage, Program.runWith_bind, sent, Option.bind_some, Program.runWith_pure, passed]

/-- What a function sets that passes the failure of a nested sending on. -/
theorem run_runFunction_passing {code : κ} {next : Value → Exchange → Work κ η (Exchange × Ending Cause Unit)}
    (passes : embedding.function code x = passingOn embedding uri headers body next x)
    (sent : run embedding fuel (send embedding uri (withMessage headers body)) engine = some (.ok y, after))
    (ended : y.error = some e) :
    run embedding fuel (runFunction embedding code x) engine =
      some (.returned (x.afterMaking.setError ((Cause.fault (.passed e)).raise x.nextIdentity)), after) := by
  have failed := run_sendMessage_of_error embedding sent ended
  rw [run, Program.runWithin] at failed ⊢
  simp only [runFunction, passes, passingOn, Program.runWith_bind, failed, Option.bind_some, Program.runWith_pure,
    Exchange.failWith]

/-- A function that passes the failure of a nested sending on sets an error that holds the failure with which the other
route ended, and that matches as `PassedOn` says: the failure itself is not found in it. -/
theorem run_function_passing_on {code : κ} {next : Value → Exchange → Work κ η (Exchange × Ending Cause Unit)}
    (passes : embedding.function code x = passingOn embedding uri headers body next x)
    (sent : run embedding fuel (send embedding uri (withMessage headers body)) engine = some (.ok y, after))
    (ended : y.error = some e) :
    ∃ raised, run embedding fuel (runFunction embedding code x) engine =
        some (.returned (x.afterMaking.setError raised), after) ∧
      raised.cause = .fault (.passed e) ∧ PassedOn e x.nextIdentity raised :=
  ⟨_, run_runFunction_passing embedding passes sent ended, rfl, e.passedOn x.nextIdentity⟩

/-- Code with a function that fails with an error of a user type, and one that passes on what a nested sending fails
with. -/
def relaying : Embedding Nat Unit := { idle with
  function := fun code x =>
    if code = 0 then return (x, .failed (.custom "TestError" "boom"))
    else passingOn idle "direct:inner" [] .null (fun value x => return (x.setBody value, .returned ())) x }

/-- Its functions are registered, and two routes: one fails, and one tries the function that sends to it. -/
def nesting : Work Nat Unit (Except Fault Unit) := do
  let _ ← registerFunction "fail" (.function 0)
  let _ ← registerFunction "call" (.function 1)
  let _ ← registerRoute relaying ⟨"inner", "direct:inner", [.function "fail"]⟩
  let _ ← registerRoute relaying ⟨"outer", "direct:outer",
    [.tryCatch [.function "call"] [(.is (.custom "TestError"), [.setBody (.constant (.string "caught"))])] none]⟩
  start relaying

/-- An exchange that comes to the function that sends. -/
def callingExchange : Exchange := .create [8] (.root [9]) [] .null

/-- What was sent came back with an error of the user type, not the next thing made from the exchange of the caller;
below its top link stands neither an error of the type nor the error itself. -/
def cameBackMatched : Except Fault Exchange → Option Raised
  | .ok y => y.error.filter fun e =>
    e.is (.custom "TestError") && !e.isBelow (.custom "TestError") && !e.reachesBelow e.identity &&
      e.identity != callingExchange.nextIdentity
  | .error _ => none

/-- The nested sending comes back so. -/
theorem exists_nested_sending : ∃ (engine after : Engine Nat Unit) (y : Exchange) (e : Raised),
    run relaying 9 (send relaying "direct:inner" (withMessage [] .null)) engine = some (.ok y, after) ∧
      y.error = some e ∧ e.is (.custom "TestError") = true ∧ e.isBelow (.custom "TestError") = false ∧
      e.reachesBelow e.identity = false ∧ e.identity ≠ callingExchange.nextIdentity := by
  have ran : ((run relaying 9 nesting (.standard {} 0 ())).bind fun ended =>
      (run relaying 9 (send relaying "direct:inner" (withMessage [] .null)) ended.2).map fun again =>
        (cameBackMatched again.1).isSome) = some true := by decide +kernel
  obtain ⟨⟨_, engine⟩, -, rest⟩ := Option.bind_eq_some_iff.mp ran
  obtain ⟨⟨given, after⟩, again, found⟩ := Option.map_eq_some_iff.mp rest
  obtain ⟨e, matched⟩ := Option.isSome_iff_exists.mp found
  cases given with
  | error fault => cases matched
  | ok y =>
    obtain ⟨ended, holds⟩ := Option.filter_eq_some_iff.mp matched
    simp only [Bool.and_eq_true, Bool.not_eq_true', bne_iff_ne] at holds
    obtain ⟨⟨⟨type, below⟩, inside⟩, other⟩ := holds
    exact ⟨engine, after, y, e, again, ended, type, below, inside, other⟩

/-- The second function sends to the failing route. -/
theorem function_call : relaying.function 1 callingExchange = passingOn relaying "direct:inner" [] .null
    (fun value x => return (x.setBody value, .returned ())) callingExchange := rfl

/-- The error that the function sets holds the failure, and is not matched by a clause for its type any more. -/
theorem run_function_passing_on_inner : ∃ (engine after : Engine Nat Unit) (y : Exchange) (e raised : Raised),
    relaying.function 1 callingExchange = passingOn relaying "direct:inner" [] .null
      (fun value x => return (x.setBody value, .returned ())) callingExchange ∧
    run relaying 9 (send relaying "direct:inner" (withMessage [] .null)) engine = some (.ok y, after) ∧
    y.error = some e ∧ e.is (.custom "TestError") = true ∧
    run relaying 9 (runFunction relaying 1 callingExchange) engine =
      some (.returned (callingExchange.afterMaking.setError raised), after) ∧
    raised.cause = .fault (.passed e) ∧ raised.is (.custom "TestError") = false := by
  obtain ⟨engine, after, y, e, sent, ended, type, below, -, -⟩ := exists_nested_sending
  obtain ⟨raised, ran, behind, passed⟩ := run_function_passing_on relaying function_call sent ended
  refine ⟨engine, after, y, e, raised, function_call, sent, ended, type, ran, behind, ?_⟩
  rw [Bool.eq_false_iff]
  intro accepted
  rcases (passed.type (.custom "TestError")).mp accepted with fault | found
  · cases fault
  · exact Bool.noConfusion (below.symm.trans found)

/-- What a function of this code sets by passing on the failure of a nested sending is always related to the failure. -/
def NestedAlways (Related : Raised → Raised → Prop) : Prop :=
  ∀ (fuel code : Nat) (uri : String) (headers : List (String × Value)) (body : Value)
    (next : Value → Exchange → Work Nat Unit (Exchange × Ending Cause Unit)) (x y z : Exchange) (e : Raised)
    (engine after later : Engine Nat Unit),
    relaying.function code x = passingOn relaying uri headers body next x →
    run relaying fuel (send relaying uri (withMessage headers body)) engine = some (.ok y, after) →
    y.error = some e →
    run relaying fuel (runFunction relaying code x) engine = some (.returned z, later) →
    ∃ raised, z.error = some raised ∧ Related e raised

/-- It need neither be the failure nor wrap it, and the matchers that go by the instance or by a type and match the
failure need not match it. So the clause of the calling route for the type of the failure does not handle it. -/
theorem nested_failure_lost :
    ¬ NestedAlways (fun e raised => raised.same e = true ∨ raised.wraps e = true) ∧
    ¬ NestedAlways (fun e raised => ∀ target, (Matcher.identity target).accepts e = true →
      (Matcher.identity target).accepts raised = true) ∧
    ¬ NestedAlways (fun e raised => ∀ type, (Matcher.is type).accepts e = true →
      (Matcher.is type).accepts raised = true) ∧
    ((run relaying 9 nesting (.standard {} 0 ())).bind fun ended =>
      (run relaying 9 (sendMessage relaying "direct:outer" [] .null) ended.2).map fun again => again.1.isOk) =
        some false := by
  obtain ⟨engine, after, y, e, sent, ended, type, below, inside, other⟩ := exists_nested_sending
  have ran := run_runFunction_passing relaying function_call sent ended
  have passed := e.passedOn callingExchange.nextIdentity
  have found : (Matcher.identity e).accepts ((Cause.fault (.passed e)).raise callingExchange.nextIdentity) = false := by
    rw [Bool.eq_false_iff, Ne, passed.identity, inside]
    rintro (same | none)
    · exact other same
    · cases none
  have typed : (Matcher.is (.custom "TestError")).accepts
      ((Cause.fault (.passed e)).raise callingExchange.nextIdentity) = false := by
    rw [Bool.eq_false_iff, Ne, passed.type, below]
    rintro (fault | none)
    · cases fault
    · cases none
  refine ⟨fun always => ?_, fun always => ?_, fun always => ?_, by decide +kernel⟩
  · obtain ⟨raised, set, same | wraps⟩ := always _ _ _ _ _ _ _ _ _ _ _ _ _ function_call sent ended ran
    · cases set
      exact other (beq_iff_eq.mp same).symm
    · cases set
      exact Bool.noConfusion (found.symm.trans wraps)
  · obtain ⟨raised, set, matched⟩ := always _ _ _ _ _ _ _ _ _ _ _ _ _ function_call sent ended ran
    cases set
    exact Bool.noConfusion (found.symm.trans (matched e e.wraps_self))
  · obtain ⟨raised, set, matched⟩ := always _ _ _ _ _ _ _ _ _ _ _ _ _ function_call sent ended ran
    cases set
    exact Bool.noConfusion (typed.symm.trans (matched (.custom "TestError") type))

end Engine

end MessageRouting
