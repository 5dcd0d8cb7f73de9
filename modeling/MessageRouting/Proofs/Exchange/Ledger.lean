import MessageRouting.Exchange

/-!
# The ledger of scopes

Somebody makes scopes and exchanges, cancels some of them, and takes exchanges into others. A ledger notes what was
called and nothing else: below which scope each scope was made and with which deadline, in which scope each exchange
lives, and which scopes were cancelled. What the check of an exchange has to answer is read off the ledger, by going up
from its scope to the root.
-/

namespace MessageRouting

/-! ## What is called -/

/-- A call that has to do with scopes. Scopes are numbered in the order in which they were made, those of exchanges
among them, and so are exchanges; what names none of them does nothing. -/
inductive ScopeCall where
  /-- A scope is made without a scope above it. -/
  | root
  /-- A scope is made below another one. -/
  | child (above : Nat)
  /-- A scope is made below another one with a deadline of its own. -/
  | withDeadline (above : Nat) (deadline : Instant)
  /-- An exchange is made in a scope of its own below another one. -/
  | create (above : Nat) (headers : Table Value) (body : Value)
  /-- An exchange is copied. -/
  | copy (source : Nat)
  /-- An exchange is forked, as it is for each branch of a multicast. -/
  | fork (source : Nat)
  /-- A scope is cancelled. -/
  | cancelScope (scope : Nat)
  /-- An exchange is cancelled. -/
  | cancelExchange (exchange : Nat)
  /-- An exchange takes another one over. -/
  | absorb (into other : Nat)

/-! ## What the ledger says -/

/-- How a scope was made. -/
structure ScopeEntry where
  /-- The scope above it. -/
  above : Option Nat
  /-- The deadline that was given to it. -/
  deadline : Option Instant
  deriving Repr, DecidableEq

/-- What was called. -/
structure Ledger where
  /-- How each scope was made. -/
  scopes : List ScopeEntry
  /-- The scope of each exchange. -/
  homes : List Nat
  /-- The scopes that were cancelled, the latest first. -/
  cancelled : List Nat
  deriving Repr, DecidableEq

namespace Ledger

/-- A scope was made below another one, if there is that one. -/
def addBelow (l : Ledger) (above : Nat) (deadline : Option Instant) : Ledger :=
  if above < l.scopes.length then { l with scopes := l.scopes ++ [⟨some above, deadline⟩] } else l

/-- An exchange was made in a scope of its own below another one. -/
def addExchange (l : Ledger) (above : Nat) : Ledger :=
  if above < l.scopes.length then
    { l with scopes := l.scopes ++ [⟨some above, none⟩], homes := l.homes ++ [l.scopes.length] }
  else l

/-- The scope that a call cancels. -/
def target? (l : Ledger) : ScopeCall → Option Nat
  | .cancelScope scope => if scope < l.scopes.length then some scope else none
  | .cancelExchange exchange => l.homes[exchange]?
  | _ => none

/-- Notes a call. -/
def note (l : Ledger) (call : ScopeCall) : Ledger :=
  match call with
  | .root => { l with scopes := l.scopes ++ [⟨none, none⟩] }
  | .child above => l.addBelow above none
  | .withDeadline above deadline => l.addBelow above (some deadline)
  | .create above _ _ => l.addExchange above
  | .copy source => (l.homes[source]?).elim l fun home => { l with homes := l.homes ++ [home] }
  | .fork source => (l.homes[source]?).elim l l.addExchange
  | .cancelScope _ | .cancelExchange _ => (l.target? call).elim l fun scope => { l with cancelled := scope :: l.cancelled }
  | .absorb _ _ => l

/-- The ledger of some calls, of which the first scope was there before. -/
def ofCalls (calls : List ScopeCall) : Ledger := calls.foldl note ⟨[⟨none, none⟩], [], []⟩

/-- A scope is on the way from another one to the root. -/
inductive OnPath (l : Ledger) : Nat → Nat → Prop
  /-- The way begins with the scope itself. -/
  | self (scope : Nat) : OnPath l scope scope
  /-- It goes on with the scope above. -/
  | up {scope above top : Nat} {entry : ScopeEntry} (made : l.scopes[scope]? = some entry)
    (next : entry.above = some above) (rest : OnPath l above top) : OnPath l scope top

/-- The earliest deadline on the way is not later than a moment: some deadline on it is not. -/
def Expired (l : Ledger) (scope : Nat) (t : Instant) : Prop :=
  ∃ top entry deadline, l.OnPath scope top ∧ l.scopes[top]? = some entry ∧ entry.deadline = some deadline ∧ deadline ≤ t

/-- Some scope on the way was cancelled. -/
def Cancelled (l : Ledger) (scope : Nat) : Prop := ∃ top, l.OnPath scope top ∧ top ∈ l.cancelled

/-- What a check in a scope has to answer at a moment. -/
inductive Answers (l : Ledger) (scope : Nat) (t : Instant) : Except Fault Unit → Prop
  /-- A deadline has passed. -/
  | expired (late : l.Expired scope t) : Answers l scope t (.error .deadlineExceeded)
  /-- No deadline has passed, but there was a cancellation. -/
  | cancelled (early : ¬l.Expired scope t) (stopped : l.Cancelled scope) : Answers l scope t (.error .cancelled)
  /-- Neither is the case. -/
  | fine (early : ¬l.Expired scope t) (going : ¬l.Cancelled scope) : Answers l scope t (.ok ())

/-! ## Laws of the ledger -/

/-- What is in a ledger refers to scopes that were made before. -/
structure Orderly (l : Ledger) : Prop where
  /-- Scopes are made below earlier ones. -/
  below : ∀ {scope above : Nat} {entry : ScopeEntry}, l.scopes[scope]? = some entry → entry.above = some above →
    above < scope
  /-- Exchanges live in scopes. -/
  living : ∀ home ∈ l.homes, home < l.scopes.length
  /-- What was cancelled are scopes. -/
  stopped : ∀ scope ∈ l.cancelled, scope < l.scopes.length

/-- A ledger goes on in another one. -/
structure GoesOn (l more : Ledger) : Prop where
  /-- The scopes are still there. -/
  scopes : l.scopes <+: more.scopes
  /-- The exchanges still live where they did. -/
  homes : l.homes <+: more.homes
  /-- What was cancelled still is. -/
  cancelled : l.cancelled ⊆ more.cancelled

/-- What a call does to a ledger. -/
inductive Noted (l : Ledger) : Ledger → Prop
  /-- Nothing. -/
  | nothing : Noted l l
  /-- There is a scope more. -/
  | scope (entry : ScopeEntry) (below : ∀ above, entry.above = some above → above < l.scopes.length) :
    Noted l { l with scopes := l.scopes ++ [entry] }
  /-- There is an exchange more, in a scope of its own. -/
  | exchange (above : Nat) (below : above < l.scopes.length) :
    Noted l { l with scopes := l.scopes ++ [⟨some above, none⟩], homes := l.homes ++ [l.scopes.length] }
  /-- There is an exchange more, in a scope that is there. -/
  | shared (home : Nat) (made : home < l.scopes.length) : Noted l { l with homes := l.homes ++ [home] }
  /-- A scope was cancelled. -/
  | cancelled (scope : Nat) (made : scope < l.scopes.length) : Noted l { l with cancelled := scope :: l.cancelled }

variable {l more : Ledger}

/-- The scope that a call cancels is there. -/
theorem Orderly.target_lt (orderly : l.Orderly) {call : ScopeCall} {scope : Nat} (target : l.target? call = some scope) :
    scope < l.scopes.length := by
  cases call with
  | cancelScope named =>
    simp only [target?] at target
    split at target
    · cases target
      assumption
    · cases target
  | cancelExchange exchange => exact orderly.living scope (List.mem_of_getElem? target)
  | _ => cases target

/-- Each call does one of the things that calls do. -/
theorem Orderly.noted (orderly : l.Orderly) (call : ScopeCall) : l.Noted (l.note call) := by
  have below (above : Nat) (deadline : Option Instant) : l.Noted (l.addBelow above deadline) := by
    unfold addBelow
    split
    · refine .scope _ ?_
      rintro _ ⟨⟩
      assumption
    · exact .nothing
  have living (above : Nat) : l.Noted (l.addExchange above) := by
    unfold addExchange
    split
    · exact .exchange above ‹_›
    · exact .nothing
  have stopped : l.Noted ((l.target? call).elim l fun scope => { l with cancelled := scope :: l.cancelled }) := by
    cases target : l.target? call with
    | none => exact .nothing
    | some scope => exact .cancelled scope (orderly.target_lt target)
  cases call with
  | root => exact .scope _ nofun
  | child above => exact below above none
  | withDeadline above deadline => exact below above (some deadline)
  | create above => exact living above
  | copy source =>
    simp only [note]
    cases lives : l.homes[source]? with
    | none => exact .nothing
    | some home => exact .shared home (orderly.living home (List.mem_of_getElem? lives))
  | fork source =>
    simp only [note]
    cases l.homes[source]? with
    | none => exact .nothing
    | some home => exact living home
  | cancelScope | cancelExchange => exact stopped
  | absorb => exact .nothing

/-- A ledger goes on after what a call does. -/
theorem Noted.goesOn (noted : l.Noted more) : l.GoesOn more := by
  cases noted with
  | nothing | scope | exchange | shared => constructor <;> simp
  | cancelled scope => exact ⟨List.prefix_refl _, List.prefix_refl _, List.subset_cons_self _ _⟩

/-- A ledger stays orderly with a scope more below an earlier one or none. -/
theorem Orderly.add (orderly : l.Orderly) {entry : ScopeEntry}
    (fits : ∀ above, entry.above = some above → above < l.scopes.length) :
    Orderly { l with scopes := l.scopes ++ [entry] } := by
  have longer {n : Nat} (inside : n < l.scopes.length) : n < (l.scopes ++ [entry]).length := by
    rw [List.length_append]
    omega
  refine ⟨fun {scope above other} made next => ?_, fun home member => longer (orderly.living home member),
    fun scope member => longer (orderly.stopped scope member)⟩
  by_cases earlier : scope < l.scopes.length
  · rw [List.getElem?_append_left earlier] at made
    exact orderly.below made next
  · rw [List.getElem?_append_right (by omega), List.getElem?_singleton] at made
    split at made
    · cases made
      have := fits above next
      omega
    · cases made

/-- A ledger stays orderly with an exchange more in a scope that is there. -/
theorem Orderly.share (orderly : l.Orderly) {home : Nat} (made : home < l.scopes.length) :
    Orderly { l with homes := l.homes ++ [home] } := by
  refine ⟨orderly.below, fun other member => ?_, orderly.stopped⟩
  rcases List.mem_append.mp member with before | new
  · exact orderly.living other before
  · cases List.mem_singleton.mp new
    exact made

/-- A ledger stays orderly after what a call does. -/
theorem Noted.orderly (noted : l.Noted more) (orderly : l.Orderly) : more.Orderly := by
  cases noted with
  | nothing => exact orderly
  | scope entry below => exact orderly.add below
  | exchange above below =>
    have added : Orderly { l with scopes := l.scopes ++ [⟨some above, none⟩] } :=
      orderly.add (by rintro _ ⟨⟩; exact below)
    exact added.share (by simp)
  | shared home made => exact orderly.share made
  | cancelled own made => exact ⟨orderly.below, orderly.living, List.forall_mem_cons.mpr ⟨made, orderly.stopped⟩⟩

/-- A ledger goes on in itself. -/
theorem GoesOn.refl (l : Ledger) : l.GoesOn l := ⟨List.prefix_refl _, List.prefix_refl _, List.Subset.refl _⟩

/-- A ledger goes on over any time. -/
theorem GoesOn.trans {last : Ledger} (first : l.GoesOn more) (second : more.GoesOn last) : l.GoesOn last :=
  ⟨first.scopes.trans second.scopes, first.homes.trans second.homes, List.Subset.trans first.cancelled second.cancelled⟩

/-- Noting one more call. -/
theorem ofCalls_concat (calls : List ScopeCall) (call : ScopeCall) :
    ofCalls (calls ++ [call]) = (ofCalls calls).note call := by
  simp [ofCalls]

/-- The ledger of calls is orderly. -/
theorem orderly_ofCalls (calls : List ScopeCall) : (ofCalls calls).Orderly := by
  suffices grown : ∀ l : Ledger, l.Orderly → (calls.foldl note l).Orderly from
    grown _ ⟨by rintro (_ | _) above entry ⟨⟩ ⟨⟩, nofun, nofun⟩
  induction calls with
  | nil => exact fun _ orderly => orderly
  | cons call rest later => exact fun l orderly => later _ ((orderly.noted call).orderly orderly)

/-- The ledger of calls goes on in that of more calls. -/
theorem goesOn_ofCalls (calls later : List ScopeCall) : (ofCalls calls).GoesOn (ofCalls (calls ++ later)) := by
  induction later generalizing calls with
  | nil =>
    rw [List.append_nil]
    exact .refl _
  | cons call rest later =>
    have further := later (calls ++ [call])
    rw [List.append_assoc] at further
    rw [ofCalls_concat] at further
    exact ((orderly_ofCalls calls).noted call).goesOn.trans further

/-- What is known of a scope stays known. -/
theorem GoesOn.made (goesOn : l.GoesOn more) {scope : Nat} {entry : ScopeEntry}
    (made : l.scopes[scope]? = some entry) : more.scopes[scope]? = some entry := by
  obtain ⟨later, same⟩ := goesOn.scopes
  rw [← same, List.getElem?_append_left (List.getElem?_eq_some_iff.mp made).1, made]

/-- An exchange stays where it lives. -/
theorem GoesOn.home (goesOn : l.GoesOn more) {exchange home : Nat} (lives : l.homes[exchange]? = some home) :
    more.homes[exchange]? = some home := by
  obtain ⟨later, same⟩ := goesOn.homes
  rw [← same, List.getElem?_append_left (List.getElem?_eq_some_iff.mp lives).1, lives]

/-- The way to the root goes to earlier scopes. -/
theorem Orderly.le_of_onPath (orderly : l.Orderly) {scope top : Nat} (path : l.OnPath scope top) : top ≤ scope := by
  induction path with
  | self => exact Nat.le_refl _
  | up made next _ later => exact Nat.le_trans later (Nat.le_of_lt (orderly.below made next))

/-- The way from a scope to the root stays. -/
theorem GoesOn.onPath (goesOn : l.GoesOn more) {scope top : Nat} (path : l.OnPath scope top) :
    more.OnPath scope top := by
  induction path with
  | self => exact .self _
  | up made next _ later => exact .up (goesOn.made made) next later

/-- A deadline that has passed has passed ever after. -/
theorem GoesOn.expired (goesOn : l.GoesOn more) {scope : Nat} {t later : Instant} (order : t ≤ later)
    (late : l.Expired scope t) : more.Expired scope later := by
  obtain ⟨top, entry, deadline, path, made, given, passed⟩ := late
  exact ⟨top, entry, deadline, goesOn.onPath path, goesOn.made made, given, Nat.le_trans passed order⟩

/-- What was cancelled is cancelled ever after. -/
theorem GoesOn.stillCancelled (goesOn : l.GoesOn more) {scope : Nat} (stopped : l.Cancelled scope) :
    more.Cancelled scope := by
  obtain ⟨top, path, member⟩ := stopped
  exact ⟨top, goesOn.onPath path, goesOn.cancelled member⟩

/-- There is one answer. -/
theorem Answers.unique {scope : Nat} {t : Instant} {first second : Except Fault Unit}
    (one : l.Answers scope t first) (other : l.Answers scope t second) : first = second := by
  cases one <;> cases other <;> first | rfl | contradiction

/-- There is an answer. -/
theorem exists_answers (l : Ledger) (scope : Nat) (t : Instant) : ∃ answer, l.Answers scope t answer := by
  by_cases late : l.Expired scope t
  · exact ⟨_, .expired late⟩
  · by_cases stopped : l.Cancelled scope
    · exact ⟨_, .cancelled late stopped⟩
    · exact ⟨_, .fine late stopped⟩

/-- A check fails just if a deadline has passed or there was a cancellation. -/
theorem Answers.fails_iff {scope : Nat} {t : Instant} {answer : Except Fault Unit} (answers : l.Answers scope t answer) :
    (∃ fault, answer = .error fault) ↔ l.Expired scope t ∨ l.Cancelled scope := by
  cases answers with
  | expired late => exact ⟨fun _ => .inl late, fun _ => ⟨_, rfl⟩⟩
  | cancelled _ stopped => exact ⟨fun _ => .inr stopped, fun _ => ⟨_, rfl⟩⟩
  | fine early going => simp [early, going]

end Ledger

end MessageRouting
