import MessageRouting.Failure
import MessageRouting.Time.Duration

/-!
# Cancellation scopes

Scopes form trees. A scope is cancelled when it or a scope above it was cancelled, and it expires at the
earliest deadline given on its way to the root. A scope never changes: which scopes were cancelled is
kept apart.
-/

namespace MessageRouting

/-- A moment on the clock that deadlines are measured by, in nanoseconds. -/
abbrev Instant : Type := Nat

/-- The clock ends after 2^63 seconds. -/
def lastInstant : Instant := 9223372036854775808 * Time.nanosPerSecond - 1

/-- The moment a duration after another one, if the clock still shows it. -/
def Instant.after? (now : Instant) (d : Time.Duration) : Option Instant :=
  if now + d.nanos ≤ lastInstant then some (now + d.nanos) else none

/-- A cancellation scope. -/
structure Scope where
  /-- The identities of the scope and of those above it, up to the root. -/
  path : List Identity
  /-- The earliest deadline given on the path. -/
  deadline : Option Instant
  deriving Repr, DecidableEq, Inhabited

namespace Scope

/-- A scope without a scope above it. -/
def root (identity : Identity) : Scope := ⟨[identity], none⟩

/-- The earlier of two deadlines, where none is later than any. -/
def earlier : Option Instant → Option Instant → Option Instant
  | some a, some b => some (min a b)
  | some a, none => some a
  | none, b => b

/-- A scope below another one. -/
def child (s : Scope) (identity : Identity) : Scope := ⟨identity :: s.path, s.deadline⟩

/-- A scope below another one with a deadline of its own. -/
def withDeadline (s : Scope) (identity : Identity) (deadline : Instant) : Scope :=
  ⟨identity :: s.path, earlier s.deadline (some deadline)⟩

/-- A scope below another one that expires after a timeout; a timeout beyond the end of the clock gives
no deadline. -/
def withTimeout (s : Scope) (identity : Identity) (now : Instant) (timeout : Time.Duration) : Scope :=
  match now.after? timeout with
  | some deadline => s.withDeadline identity deadline
  | none => s.child identity

/-- The identity of a scope. -/
def identity (s : Scope) : Identity := s.path.headD []

/-- The scope, or one above it, is among the cancelled ones. -/
def isCancelled (cancelled : List Identity) (s : Scope) : Bool := s.path.any cancelled.contains

/-- The deadline is not later than now. -/
def isExpired (now : Instant) (s : Scope) : Bool := s.deadline.any (· ≤ now)

/-- Why nothing may run in the scope any more; the deadline comes first. -/
def check (now : Instant) (cancelled : List Identity) (s : Scope) : Except Fault Unit :=
  if s.isExpired now then .error .deadlineExceeded
  else if s.isCancelled cancelled then .error .cancelled
  else .ok ()

/-! ## Laws -/

/-- Whoever cancels a scope cancels all scopes below it. -/
@[simp] theorem isCancelled_child (cancelled : List Identity) (s : Scope) (identity : Identity) :
    (s.child identity).isCancelled cancelled = (cancelled.contains identity || s.isCancelled cancelled) :=
  rfl

/-- A cancelled scope stays cancelled. -/
theorem isCancelled_cons {cancelled : List Identity} {s : Scope} (reached : s.isCancelled cancelled = true)
    (identity : Identity) : s.isCancelled (identity :: cancelled) = true := by
  obtain ⟨above, member, found⟩ := List.any_eq_true.1 reached
  exact List.any_eq_true.2 ⟨above, member, by simp_all⟩

/-- An expired scope stays expired. -/
theorem isExpired_mono {s : Scope} {now later : Instant} (order : now ≤ later)
    (reached : s.isExpired now = true) : s.isExpired later = true := by
  cases deadline : s.deadline with
  | none => simp [isExpired, deadline] at reached
  | some moment =>
    simp only [isExpired, deadline, Option.any_some, decide_eq_true_eq] at reached ⊢
    exact Nat.le_trans reached order

/-- Work may go on in a scope that is neither expired nor cancelled. -/
theorem check_eq_ok_iff (now : Instant) (cancelled : List Identity) (s : Scope) :
    s.check now cancelled = .ok () ↔ s.isExpired now = false ∧ s.isCancelled cancelled = false := by
  unfold check
  cases s.isExpired now <;> cases s.isCancelled cancelled <;> simp

end Scope

end MessageRouting
