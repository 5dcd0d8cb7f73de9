import MessageRouting.Engine.State
import MessageRouting.Proofs.Exchange.Ledger
import MessageRouting.Proofs.Program.Arriving
import Mathlib.Data.List.Forall2
import Mathlib.Data.List.Nodup

/-!
# Scopes that are made, shared and cancelled

Calls on scopes and exchanges are carried out as the engine carries them out: deadlines are folded in when a scope is
made, and cancellations are looked up on its path when it is checked. The answers of all checks are those that the
ledger of the calls gives.
-/

namespace MessageRouting

/-- The scopes and exchanges that somebody has. -/
structure Holdings where
  /-- The scopes in the order in which they were made. -/
  scopes : List Scope
  /-- The exchanges in the order in which they were made. -/
  exchanges : List Exchange

namespace Engine

variable {κ η : Type}

/-- Carries a call out. -/
def carryOutCall (held : Holdings) : ScopeCall → Work κ η Holdings
  | .root => return { held with scopes := held.scopes ++ [.root (← newIdentity)] }
  | .child above =>
    match held.scopes[above]? with
    | none => return held
    | some scope => return { held with scopes := held.scopes ++ [scope.child (← newIdentity)] }
  | .withDeadline above deadline =>
    match held.scopes[above]? with
    | none => return held
    | some scope => return { held with scopes := held.scopes ++ [scope.withDeadline (← newIdentity) deadline] }
  | .create above headers body =>
    match held.scopes[above]? with
    | none => return held
    | some scope => do
      let x : Exchange := .create (← newIdentity) scope headers body
      return ⟨held.scopes ++ [x.scope], held.exchanges ++ [x]⟩
  | .copy source =>
    match held.exchanges[source]? with
    | none => return held
    | some x => return { held with exchanges := held.exchanges.set source x.afterMaking ++ [x.copy] }
  | .fork source =>
    match held.exchanges[source]? with
    | none => return held
    | some x => return ⟨held.scopes ++ [x.fork.scope], held.exchanges.set source x.afterMaking ++ [x.fork]⟩
  | .cancelScope scope =>
    match held.scopes[scope]? with
    | none => return held
    | some scope => do
      cancel scope
      return held
  | .cancelExchange exchange =>
    match held.exchanges[exchange]? with
    | none => return held
    | some x => do
      cancel x.scope
      return held
  | .absorb into other =>
    match held.exchanges[into]?, held.exchanges[other]? with
    | some x, some y => return { held with exchanges := held.exchanges.set into (x.absorb y) }
    | _, _ => return held

/-- Carries calls out in order. -/
def carryOutCalls : List ScopeCall → Holdings → Work κ η Holdings
  | [], held => return held
  | call :: rest, held => do carryOutCalls rest (← carryOutCall held call)

end Engine

/-! ## Scopes and their entries -/

/-- A scope is as its entry says, given the scopes made so far. -/
inductive ScopeEntry.Describes (scopes : List Scope) : ScopeEntry → Scope → Prop
  /-- There is no scope above it. -/
  | root (identity : Identity) : Describes scopes ⟨none, none⟩ (.root identity)
  /-- There is a scope above it. -/
  | below {above : Nat} {upper : Scope} (there : scopes[above]? = some upper) (identity : Identity)
    (deadline : Option Instant) :
    Describes scopes ⟨some above, deadline⟩ ⟨identity :: upper.path, Scope.earlier upper.deadline deadline⟩

/-- Scopes are as the ledger says, each with an identity of its own that is taken. -/
structure Ledger.Tallies (l : Ledger) (scopes : List Scope) (cancelled : List Identity) (taken : Identity → Prop) :
    Prop where
  /-- The ledger is orderly. -/
  orderly : l.Orderly
  /-- Each scope is as its entry says. -/
  described : List.Forall₂ (ScopeEntry.Describes scopes) l.scopes scopes
  /-- The identities of scopes are different. -/
  distinct : (scopes.map Scope.identity).Nodup
  /-- They are taken. -/
  named : ∀ scope ∈ scopes, taken scope.identity
  /-- What was cancelled is taken, too. -/
  known : ∀ identity ∈ cancelled, taken identity
  /-- The scopes that were cancelled are those of the ledger. -/
  cancelled : ∀ {n : Nat} {scope : Scope}, scopes[n]? = some scope → (scope.identity ∈ cancelled ↔ n ∈ l.cancelled)

namespace Ledger

variable {l : Ledger}

/-- The way to the root begins with the scope and goes on above it. -/
theorem onPath_iff {scope : Nat} {entry : ScopeEntry} (made : l.scopes[scope]? = some entry) (top : Nat) :
    l.OnPath scope top ↔ top = scope ∨ ∃ above, entry.above = some above ∧ l.OnPath above top := by
  constructor
  · intro path
    cases path with
    | self => exact .inl rfl
    | up found next rest =>
      cases made.symm.trans found
      exact .inr ⟨_, next, rest⟩
  · rintro (rfl | ⟨above, next, rest⟩)
    · exact .self _
    · exact .up made next rest

/-- A deadline has passed if that of the scope has, or one above. -/
theorem expired_iff {scope : Nat} {entry : ScopeEntry} (made : l.scopes[scope]? = some entry) (t : Instant) :
    l.Expired scope t ↔ entry.deadline.any (· ≤ t) = true ∨ ∃ above, entry.above = some above ∧ l.Expired above t := by
  simp only [Option.any_eq_true, decide_eq_true_eq]
  constructor
  · rintro ⟨top, found, deadline, path, there, given, passed⟩
    rcases (onPath_iff made top).mp path with rfl | ⟨above, next, rest⟩
    · cases made.symm.trans there
      exact .inl ⟨deadline, given, passed⟩
    · exact .inr ⟨above, next, top, found, deadline, rest, there, given, passed⟩
  · rintro (⟨deadline, given, passed⟩ | ⟨above, next, top, found, deadline, rest, there, given, passed⟩)
    · exact ⟨scope, entry, deadline, .self _, made, given, passed⟩
    · exact ⟨top, found, deadline, .up made next rest, there, given, passed⟩

/-- There was a cancellation if the scope was cancelled, or one above. -/
theorem cancelled_iff {scope : Nat} {entry : ScopeEntry} (made : l.scopes[scope]? = some entry) :
    l.Cancelled scope ↔ scope ∈ l.cancelled ∨ ∃ above, entry.above = some above ∧ l.Cancelled above := by
  constructor
  · rintro ⟨top, path, member⟩
    rcases (onPath_iff made top).mp path with rfl | ⟨above, next, rest⟩
    · exact .inl member
    · exact .inr ⟨above, next, top, rest, member⟩
  · rintro (member | ⟨above, next, top, rest, member⟩)
    · exact ⟨scope, .self _, member⟩
    · exact ⟨top, .up made next rest, member⟩

/-- A deadline is not later than none. -/
theorem earlier_none (deadline : Option Instant) : Scope.earlier deadline none = deadline := by
  cases deadline <;> rfl

/-- The earlier of two deadlines has passed if one of them has. -/
theorem any_earlier (first second : Option Instant) (t : Instant) :
    (Scope.earlier first second).any (· ≤ t) = (first.any (· ≤ t) || second.any (· ≤ t)) := by
  cases first with
  | none => rfl
  | some first =>
    cases second with
    | none => exact (Bool.or_false _).symm
    | some second =>
      have least (a b c : Nat) : min a b ≤ c ↔ a ≤ c ∨ b ≤ c := by omega
      simp only [Scope.earlier, Option.any_some, ← Bool.decide_or, decide_eq_decide]
      exact least first second t

namespace Tallies

variable {scopes : List Scope} {cancelled : List Identity} {taken stillTaken : Identity → Prop}

/-- Each scope has its entry. -/
theorem exists_entry (tallies : l.Tallies scopes cancelled taken) {n : Nat} {scope : Scope}
    (there : scopes[n]? = some scope) : ∃ entry, l.scopes[n]? = some entry ∧ entry.Describes scopes scope := by
  obtain ⟨inside, rfl⟩ := List.getElem?_eq_some_iff.mp there
  have same := tallies.described.length_eq
  exact ⟨_, List.getElem?_eq_getElem (same ▸ inside), tallies.described.get (same ▸ inside) inside⟩

/-- Deadlines and cancellations of scopes are those that the ledger gives. -/
theorem agree (tallies : l.Tallies scopes cancelled taken) (t : Instant) (n : Nat) :
    ∀ scope, scopes[n]? = some scope →
      (scope.isExpired t = true ↔ l.Expired n t) ∧ (scope.isCancelled cancelled = true ↔ l.Cancelled n) := by
  -- Scopes are made below earlier ones.
  induction n using Nat.strongRecOn with
  | ind n earlier =>
    intro scope there
    obtain ⟨entry, made, describes⟩ := tallies.exists_entry there
    have own := tallies.cancelled there
    rw [expired_iff made, cancelled_iff made, ← own]
    cases describes with
    | root identity => simp [Scope.isExpired, Scope.isCancelled, Scope.root, Scope.identity]
    | below upper identity deadline =>
      obtain ⟨expired, stopped⟩ := earlier _ (tallies.orderly.below made rfl) _ upper
      simp only [Scope.isExpired, any_earlier, Bool.or_eq_true, Scope.isCancelled, List.any_cons,
        Option.some.injEq, exists_eq_left', ← expired, ← stopped, Scope.identity, List.headD_cons, List.contains_iff_mem]
      exact ⟨or_comm, trivial⟩

/-- The check of a scope answers as the ledger says. -/
theorem answers (tallies : l.Tallies scopes cancelled taken) {n : Nat} {scope : Scope} (there : scopes[n]? = some scope)
    (t : Instant) : l.Answers n t (scope.check t cancelled) := by
  obtain ⟨expired, stopped⟩ := tallies.agree t n scope there
  unfold Scope.check
  split
  · exact .expired (expired.mp ‹_›)
  · have early : ¬l.Expired n t := fun late => ‹¬_› (expired.mpr late)
    split
    · exact .cancelled early (stopped.mp ‹_›)
    · exact .fine early fun reached => ‹¬scope.isCancelled cancelled = true› (stopped.mpr reached)

/-- Tallies hold when more is taken. -/
theorem mono (tallies : l.Tallies scopes cancelled taken) (more : ∀ identity, taken identity → stillTaken identity) :
    l.Tallies scopes cancelled stillTaken :=
  { tallies with
    named := fun scope member => more _ (tallies.named scope member)
    known := fun identity member => more _ (tallies.known identity member) }

/-- Tallies hold when an exchange more lives in a scope that is there. -/
theorem share (tallies : l.Tallies scopes cancelled taken) {home : Nat} {scope : Scope}
    (there : scopes[home]? = some scope) :
    Ledger.Tallies { l with homes := l.homes ++ [home] } scopes cancelled taken := by
  have made := (List.getElem?_eq_some_iff.mp there).1
  exact { tallies with orderly := tallies.orderly.share (tallies.described.length_eq ▸ made) }

/-- Tallies hold when there is a scope more, whose identity was free. -/
theorem add (tallies : l.Tallies scopes cancelled taken) {entry : ScopeEntry} {scope : Scope}
    (describes : entry.Describes scopes scope) (free : ¬taken scope.identity)
    (more : ∀ identity, taken identity → stillTaken identity) (now : stillTaken scope.identity) :
    Ledger.Tallies { l with scopes := l.scopes ++ [entry] } (scopes ++ [scope]) cancelled stillTaken := by
  have length := tallies.described.length_eq
  have keeps {other : ScopeEntry} {made : Scope} (fits : other.Describes scopes made) :
      other.Describes (scopes ++ [scope]) made := by
    cases fits with
    | root identity => exact .root identity
    | below there identity deadline =>
      exact .below (by rw [List.getElem?_append_left (List.getElem?_eq_some_iff.mp there).1, there]) identity deadline
  have below (above : Nat) (next : entry.above = some above) : above < l.scopes.length := by
    cases describes with
    | root => cases next
    | below there =>
      cases next
      exact length ▸ (List.getElem?_eq_some_iff.mp there).1
  refine ⟨tallies.orderly.add below, ?_, ?_, ?_, ?_, ?_⟩
  · exact List.rel_append (tallies.described.imp fun _ _ => keeps) (.cons (keeps describes) .nil)
  · rw [List.map_append, List.map_singleton, List.nodup_append]
    refine ⟨tallies.distinct, List.nodup_singleton _, ?_⟩
    rintro _ member _ new rfl
    obtain ⟨other, there, same⟩ := List.mem_map.mp member
    rw [List.mem_singleton.mp new] at same
    exact free (same ▸ tallies.named other there)
  · exact List.forall_mem_append.mpr
      ⟨fun other member => more _ (tallies.named other member), List.forall_mem_singleton.mpr now⟩
  · exact fun identity member => more _ (tallies.known identity member)
  · intro n other there
    by_cases earlier : n < scopes.length
    · rw [List.getElem?_append_left earlier] at there
      exact tallies.cancelled there
    · -- Neither the identity of the new scope nor its number was cancelled.
      rw [List.getElem?_append_right (by omega), List.getElem?_singleton] at there
      split at there
      · cases there
        refine iff_of_false (fun member => free (tallies.known _ member)) fun member => ?_
        have := tallies.orderly.stopped n member
        omega
      · cases there

/-- Tallies hold when a scope was cancelled. -/
theorem cancel (tallies : l.Tallies scopes cancelled taken) {n : Nat} {scope : Scope} (there : scopes[n]? = some scope) :
    Ledger.Tallies { l with cancelled := n :: l.cancelled } scopes (scope.identity :: cancelled) taken := by
  have inside := (List.getElem?_eq_some_iff.mp there).1
  refine ⟨(Noted.cancelled n ?_).orderly tallies.orderly, tallies.described, tallies.distinct, tallies.named, ?_, ?_⟩
  · exact tallies.described.length_eq ▸ inside
  · exact List.forall_mem_cons.mpr ⟨tallies.named _ (List.mem_of_getElem? there), tallies.known⟩
  · intro m other found
    have same : other.identity = scope.identity ↔ m = n := by
      refine ⟨fun same => ?_, ?_⟩
      · refine (List.getElem?_inj ?_ tallies.distinct).mp ?_
        · rw [List.length_map]
          exact (List.getElem?_eq_some_iff.mp found).1
        · rw [List.getElem?_map, List.getElem?_map, found, there, Option.map_some, Option.map_some, same]
      · rintro rfl
        rw [Option.some.inj (found.symm.trans there)]
    rw [List.mem_cons, List.mem_cons, same, tallies.cancelled found]

end Tallies

end Ledger

/-! ## Identities -/

/-- The identities that were given so far: some of those without an owner, and those of things made from exchanges. -/
def Holdings.Taken (held : Holdings) (made : Nat) (identity : Identity) : Prop :=
  (∃ number < made, identity = .root number) ∨
    ∃ x ∈ held.exchanges, ∃ number < x.made, identity = x.identity.made number

/-- What is held and what the engine keeps are as the ledger says. -/
structure Ledger.Agrees {κ η : Type} (l : Ledger) (held : Holdings) (engine : Engine κ η) : Prop where
  /-- So are scopes and cancellations. -/
  tallies : l.Tallies held.scopes engine.cancelled (held.Taken engine.made)
  /-- Exchanges live in the scopes that they were given. -/
  homes : List.Forall₂ (fun scope home => held.scopes[home]? = some scope) (held.exchanges.map Exchange.scope) l.homes
  /-- Their identities are different. -/
  different : (held.exchanges.map Exchange.identity).Nodup
  /-- They are taken. -/
  owners : ∀ identity ∈ held.exchanges.map Exchange.identity, held.Taken engine.made identity

namespace Holdings

variable {held : Holdings} {made : Nat}

/-- No identity that was given is empty. -/
theorem Taken.ne_nil {identity : Identity} (taken : held.Taken made identity) : identity ≠ [] := by
  rcases taken with ⟨_, _, rfl⟩ | ⟨_, _, _, _, rfl⟩ <;> exact List.cons_ne_nil _ _

/-- The next identity without an owner is free. -/
theorem not_taken_root (owners : ∀ identity ∈ held.exchanges.map Exchange.identity, held.Taken made identity) :
    ¬held.Taken made (.root made) := by
  rintro (⟨number, earlier, same⟩ | ⟨x, member, number, _, same⟩)
  · rw [(List.cons.inj same).1] at earlier
    exact Nat.lt_irrefl _ earlier
  · exact (owners _ (List.mem_map_of_mem member)).ne_nil (List.cons.inj same).2.symm

/-- The next identity of an exchange is free. -/
theorem not_taken_next (owners : ∀ identity ∈ held.exchanges.map Exchange.identity, held.Taken made identity)
    (different : (held.exchanges.map Exchange.identity).Nodup) {x : Exchange} (own : x ∈ held.exchanges) :
    ¬held.Taken made x.nextIdentity := by
  rintro (⟨number, _, same⟩ | ⟨y, member, number, earlier, same⟩)
  · exact (owners _ (List.mem_map_of_mem own)).ne_nil (List.cons.inj same).2
  · obtain ⟨rfl, owner⟩ := Identity.made_inj.mp same
    have one : x = y := List.inj_on_of_nodup_map different own member owner
    exact Nat.lt_irrefl _ (one ▸ earlier)

/-- What was taken stays so as long as the exchanges are there, whatever they make. -/
theorem Taken.mono {after : Holdings} {later : Nat} {identity : Identity} (taken : held.Taken made identity)
    (kept : ∀ x ∈ held.exchanges, ∃ y ∈ after.exchanges, y.identity = x.identity ∧ x.made ≤ y.made)
    (order : made ≤ later) : after.Taken later identity := by
  rcases taken with ⟨number, earlier, same⟩ | ⟨x, member, number, earlier, rfl⟩
  · exact .inl ⟨number, Nat.lt_of_lt_of_le earlier order, same⟩
  · obtain ⟨y, there, same, more⟩ := kept x member
    exact .inr ⟨y, there, number, Nat.lt_of_lt_of_le earlier more, same ▸ rfl⟩

/-- The exchanges are still there if one was replaced by itself after it made something. -/
theorem kept_set {exchanges : List Exchange} {n : Nat} {old : Exchange} (there : exchanges[n]? = some old)
    (new : Exchange) (same : new.identity = old.identity) (more : old.made ≤ new.made) :
    ∀ x ∈ exchanges, ∃ y ∈ exchanges.set n new, y.identity = x.identity ∧ x.made ≤ y.made := by
  intro x member
  obtain ⟨m, found⟩ := List.mem_iff_getElem?.mp member
  by_cases here : m = n
  · subst here
    obtain rfl : old = x := Option.some.inj (there.symm.trans found)
    have replaced := List.getElem?_set_self (a := new) (List.getElem?_eq_some_iff.mp there).1
    exact ⟨new, List.mem_of_getElem? replaced, same, more⟩
  · rw [← List.getElem?_set_ne (Ne.symm here) (a := new)] at found
    exact ⟨x, List.mem_of_getElem? found, rfl, Nat.le_refl _⟩

/-- What was taken stays so when an exchange has made something and there is one more. -/
theorem Taken.later {identity : Identity} (taken : held.Taken made identity) {source : Nat} {x : Exchange}
    (there : held.exchanges[source]? = some x) (scopes : List Scope) (more : Exchange) :
    (⟨scopes, held.exchanges.set source x.afterMaking ++ [more]⟩ : Holdings).Taken made identity := by
  refine taken.mono (fun y member => ?_) (Nat.le_refl _)
  obtain ⟨z, found, same⟩ := kept_set there x.afterMaking rfl (Nat.le_succ _) y member
  exact ⟨z, List.mem_append_left _ found, same⟩

/-- What an exchange has just made is taken. -/
theorem taken_next {source : Nat} {x : Exchange} (there : held.exchanges[source]? = some x)
    (scopes : List Scope) (more : Exchange) :
    (⟨scopes, held.exchanges.set source x.afterMaking ++ [more]⟩ : Holdings).Taken made x.nextIdentity := by
  refine .inr ⟨x.afterMaking, ?_, x.made, Nat.lt_succ_self _, rfl⟩
  exact List.mem_append_left _ (List.mem_iff_getElem?.mpr
    ⟨source, List.getElem?_set_self (List.getElem?_eq_some_iff.mp there).1⟩)

end Holdings

/-- Replacing an item by one that looks the same changes nothing of how the items look. -/
theorem map_set_of_same {α β : Type} {f : α → β} {items : List α} {n : Nat} {old : α} (there : items[n]? = some old)
    (new : α) (same : f new = f old) : (items.set n new).map f = items.map f := by
  rw [List.map_set, same]
  refine List.ext_getElem? fun m => ?_
  rw [List.getElem?_set]
  split
  · rename_i here
    subst here
    simp only [List.getElem?_map, there, Option.map_some, ite_eq_left_iff, List.length_map]
    exact fun outside => absurd (List.getElem?_eq_some_iff.mp there).1 outside
  · simp only [List.getElem?_map]

namespace Engine

variable {κ η : Type} {answer : Processor κ × Exchange → Engine κ η → Option (Outcome × Engine κ η)} {l : Ledger}
  {held : Holdings} {engine : Engine κ η}

/-- A scope more is as the ledger says. -/
theorem agrees_scope (agrees : l.Agrees held engine) {entry : ScopeEntry} {scope : Scope}
    (describes : entry.Describes held.scopes scope) (own : scope.identity = engine.nextIdentity) :
    Ledger.Agrees { l with scopes := l.scopes ++ [entry] } { held with scopes := held.scopes ++ [scope] }
      { engine with made := engine.made + 1 } := by
  have more (identity : Identity) (taken : held.Taken engine.made identity) :
      Holdings.Taken { held with scopes := held.scopes ++ [scope] } (engine.made + 1) identity :=
    taken.mono (fun x member => ⟨x, member, rfl, Nat.le_refl _⟩) (Nat.le_succ _)
  refine ⟨agrees.tallies.add describes ?_ more ?_, ?_, agrees.different, ?_⟩
  · rw [own]
    exact Holdings.not_taken_root agrees.owners
  · exact .inl ⟨engine.made, Nat.lt_succ_self _, own⟩
  · exact agrees.homes.imp fun _ _ found => by
      rw [List.getElem?_append_left (List.getElem?_eq_some_iff.mp found).1, found]
  · exact fun identity member => more identity (agrees.owners identity member)

/-- An exchange more, with an identity that was free, is as the ledger says. -/
theorem agrees_exchange {after : Engine κ η} (agrees : l.Agrees held engine) {entries : List ScopeEntry}
    {scopes : List Scope} {others : List Exchange} {x : Exchange} {home : Nat}
    (tallies : Ledger.Tallies ⟨entries, l.homes, l.cancelled⟩ scopes after.cancelled
      (Holdings.Taken ⟨scopes, others ++ [x]⟩ after.made))
    (more : ∀ identity, held.Taken engine.made identity → Holdings.Taken ⟨scopes, others ++ [x]⟩ after.made identity)
    (kept : held.scopes <+: scopes) (lives : scopes[home]? = some x.scope)
    (sameScopes : others.map Exchange.scope = held.exchanges.map Exchange.scope)
    (sameIdentities : others.map Exchange.identity = held.exchanges.map Exchange.identity)
    (free : ¬held.Taken engine.made x.identity)
    (now : Holdings.Taken ⟨scopes, others ++ [x]⟩ after.made x.identity) :
    Ledger.Agrees ⟨entries, l.homes ++ [home], l.cancelled⟩ ⟨scopes, others ++ [x]⟩ after := by
  refine ⟨tallies.share lives, ?_, ?_, ?_⟩
  · rw [List.map_append, sameScopes]
    refine List.rel_append (agrees.homes.imp fun _ _ found => ?_) (.cons lives .nil)
    obtain ⟨later, rfl⟩ := kept
    rw [List.getElem?_append_left (List.getElem?_eq_some_iff.mp found).1, found]
  · rw [List.map_append, sameIdentities, List.map_singleton, List.nodup_append]
    refine ⟨agrees.different, List.nodup_singleton _, ?_⟩
    rintro identity member _ new rfl
    exact free (List.mem_singleton.mp new ▸ agrees.owners identity member)
  · rw [List.map_append, sameIdentities]
    exact List.forall_mem_append.mpr
      ⟨fun identity member => more identity (agrees.owners identity member), List.forall_mem_singleton.mpr now⟩

/-- A cancelled scope is cancelled in the ledger, too. -/
theorem agrees_cancel (agrees : l.Agrees held engine) {n : Nat} {scope : Scope} (there : held.scopes[n]? = some scope) :
    Ledger.Agrees { l with cancelled := n :: l.cancelled } held
      { engine with cancelled := scope.identity :: engine.cancelled } :=
  { agrees with tallies := agrees.tallies.cancel there }

/-- An exchange that is held lives in a scope that is there. -/
theorem exists_home (agrees : l.Agrees held engine) {n : Nat} {x : Exchange} (there : held.exchanges[n]? = some x) :
    ∃ home, l.homes[n]? = some home ∧ held.scopes[home]? = some x.scope := by
  obtain ⟨inside, rfl⟩ := List.getElem?_eq_some_iff.mp there
  have same := agrees.homes.length_eq
  rw [List.length_map] at same
  refine ⟨_, List.getElem?_eq_getElem (same ▸ inside), ?_⟩
  have found := agrees.homes.get (by simpa using inside) (same ▸ inside)
  simpa only [List.get_eq_getElem, List.getElem_map] using found

/-- Each call is carried out as the ledger notes it. -/
theorem arrives_carryOutCall (agrees : l.Agrees held engine) (call : ScopeCall) :
    (carryOutCall held call).Arrives answer engine fun after later => (l.note call).Agrees after later := by
  have length := agrees.tallies.described.length_eq
  -- A scope is looked up in what is held just if it is in the ledger.
  have inside {n : Nat} {scope : Scope} (there : held.scopes[n]? = some scope) : n < l.scopes.length :=
    length ▸ (List.getElem?_eq_some_iff.mp there).1
  have outside {n : Nat} (missing : held.scopes[n]? = none) : ¬n < l.scopes.length := by
    rw [length]
    exact Nat.not_lt.mpr (List.getElem?_eq_none_iff.mp missing)
  have homeless {n : Nat} (missing : held.exchanges[n]? = none) : l.homes[n]? = none := by
    have same := agrees.homes.length_eq
    rw [List.length_map] at same
    exact List.getElem?_eq_none_iff.mpr (same ▸ List.getElem?_eq_none_iff.mp missing)
  have here {more : Exchange} (x : Exchange) (member : x ∈ held.exchanges) :
      ∃ y ∈ held.exchanges ++ [more], y.identity = x.identity ∧ x.made ≤ y.made :=
    ⟨x, List.mem_append_left _ member, rfl, Nat.le_refl _⟩
  cases call with
  | root =>
    simp only [carryOutCall, newIdentity, Program.arrives_bind, Program.arrives_atomically, Program.arrives_pure]
    exact agrees_scope agrees (.root _) rfl
  | child above =>
    simp only [carryOutCall, Ledger.note, Ledger.addBelow]
    cases there : held.scopes[above]? with
    | none =>
      rw [if_neg (outside there)]
      exact Program.arrives_pure.mpr agrees
    | some scope =>
      simp only [newIdentity, Program.arrives_bind, Program.arrives_atomically, Program.arrives_pure]
      rw [if_pos (inside there)]
      have describes := ScopeEntry.Describes.below there engine.nextIdentity none
      rw [Ledger.earlier_none] at describes
      exact agrees_scope agrees describes rfl
  | withDeadline above deadline =>
    simp only [carryOutCall, Ledger.note, Ledger.addBelow]
    cases there : held.scopes[above]? with
    | none =>
      rw [if_neg (outside there)]
      exact Program.arrives_pure.mpr agrees
    | some scope =>
      simp only [newIdentity, Program.arrives_bind, Program.arrives_atomically, Program.arrives_pure]
      rw [if_pos (inside there)]
      exact agrees_scope agrees (.below there engine.nextIdentity (some deadline)) rfl
  | create above headers body =>
    simp only [carryOutCall, Ledger.note, Ledger.addExchange]
    cases there : held.scopes[above]? with
    | none =>
      rw [if_neg (outside there)]
      exact Program.arrives_pure.mpr agrees
    | some scope =>
      simp only [newIdentity, Program.arrives_bind, Program.arrives_atomically, Program.arrives_pure]
      rw [if_pos (inside there)]
      have describes := ScopeEntry.Describes.below there engine.nextIdentity none
      rw [Ledger.earlier_none] at describes
      have free := Holdings.not_taken_root agrees.owners
      refine agrees_exchange agrees (agrees.tallies.add (show ScopeEntry.Describes _ _ (scope.child _) from describes)
        free ?_ ?_) ?_ (List.prefix_append _ _) ?_ rfl rfl free ?_
      · exact fun identity taken => taken.mono here (Nat.le_succ _)
      · exact .inl ⟨engine.made, Nat.lt_succ_self _, rfl⟩
      · exact fun identity taken => taken.mono here (Nat.le_succ _)
      · rw [length, List.getElem?_concat_length]
      · exact .inl ⟨engine.made, Nat.lt_succ_self _, rfl⟩
  | copy source =>
    simp only [carryOutCall, Ledger.note]
    cases there : held.exchanges[source]? with
    | none =>
      rw [homeless there]
      exact Program.arrives_pure.mpr agrees
    | some x =>
      obtain ⟨home, lives, found⟩ := exists_home agrees there
      rw [lives]
      refine Program.arrives_pure.mpr ?_
      refine agrees_exchange agrees (agrees.tallies.mono ?_) ?_ (List.prefix_refl _) found
        (map_set_of_same there _ rfl) (map_set_of_same there _ rfl) ?_ ?_
      · exact fun identity taken => taken.later there _ _
      · exact fun identity taken => taken.later there _ _
      · exact Holdings.not_taken_next agrees.owners agrees.different (List.mem_of_getElem? there)
      · exact Holdings.taken_next there _ _
  | fork source =>
    simp only [carryOutCall, Ledger.note]
    cases there : held.exchanges[source]? with
    | none =>
      rw [homeless there]
      exact Program.arrives_pure.mpr agrees
    | some x =>
      obtain ⟨home, lives, found⟩ := exists_home agrees there
      rw [lives, Option.elim_some, Ledger.addExchange, if_pos (inside found)]
      have free := Holdings.not_taken_next agrees.owners agrees.different (List.mem_of_getElem? there)
      have describes := ScopeEntry.Describes.below found x.nextIdentity none
      rw [Ledger.earlier_none] at describes
      refine Program.arrives_pure.mpr ?_
      refine agrees_exchange agrees (agrees.tallies.add describes free ?_ ?_) ?_ (List.prefix_append _ _) ?_
        (map_set_of_same there _ rfl) (map_set_of_same there _ rfl) free ?_
      · exact fun identity taken => taken.later there _ _
      · exact Holdings.taken_next there _ _
      · exact fun identity taken => taken.later there _ _
      · rw [length, List.getElem?_concat_length]
      · exact Holdings.taken_next there _ _
  | cancelScope scope =>
    simp only [carryOutCall, Ledger.note, Ledger.target?]
    cases there : held.scopes[scope]? with
    | none =>
      rw [if_neg (outside there)]
      exact Program.arrives_pure.mpr agrees
    | some found =>
      simp only [cancel, Program.arrives_bind, Program.arrives_change, Program.arrives_pure]
      rw [if_pos (inside there)]
      exact agrees_cancel agrees there
  | cancelExchange exchange =>
    simp only [carryOutCall, Ledger.note, Ledger.target?]
    cases there : held.exchanges[exchange]? with
    | none =>
      rw [homeless there]
      exact Program.arrives_pure.mpr agrees
    | some x =>
      obtain ⟨home, lives, found⟩ := exists_home agrees there
      simp only [cancel, Program.arrives_bind, Program.arrives_change, Program.arrives_pure]
      rw [lives]
      exact agrees_cancel agrees found
  | absorb into other =>
    simp only [carryOutCall, Ledger.note]
    split
    · rename_i x y there _
      have kept (identity : Identity) (taken : held.Taken engine.made identity) :
          Holdings.Taken { held with exchanges := held.exchanges.set into (x.absorb y) } engine.made identity :=
        taken.mono (Holdings.kept_set there _ rfl (Nat.le_refl _)) (Nat.le_refl _)
      have scopes := map_set_of_same there (x.absorb y) (f := Exchange.scope) rfl
      have identities := map_set_of_same there (x.absorb y) (f := Exchange.identity) rfl
      refine Program.arrives_pure.mpr ⟨agrees.tallies.mono kept, ?_, ?_, ?_⟩
      · exact scopes.symm ▸ agrees.homes
      · exact identities.symm ▸ agrees.different
      · exact fun identity member => kept identity (agrees.owners identity (identities ▸ member))
    · exact Program.arrives_pure.mpr agrees

/-- Calls are carried out as the ledger notes them. -/
theorem arrives_carryOutCalls (agrees : l.Agrees held engine) (calls : List ScopeCall) :
    (carryOutCalls calls held).Arrives answer engine fun after later => (calls.foldl Ledger.note l).Agrees after later := by
  induction calls generalizing l held engine with
  | nil => exact Program.arrives_pure.mpr agrees
  | cons call rest later =>
    simp only [carryOutCalls, Program.arrives_bind]
    exact (arrives_carryOutCall agrees call).mono fun _ _ noted => later noted

/-- A new engine with nothing but the scope of its runtime is as the first ledger says. -/
theorem agrees_standard (config : Config) (now : Instant) (state : η) :
    (Ledger.ofCalls []).Agrees ⟨[(standard config now state : Engine κ η).scope], []⟩
      (standard config now state : Engine κ η) where
  tallies := {
    orderly := Ledger.orderly_ofCalls []
    described := .cons (.root _) .nil
    distinct := List.nodup_singleton _
    named := List.forall_mem_singleton.mpr (.inl ⟨0, Nat.one_pos, rfl⟩)
    known := nofun
    cancelled := fun _ => by simp [standard, Ledger.ofCalls] }
  homes := .nil
  different := List.nodup_nil
  owners := nofun

/-- What the check of an exchange answers at a moment after some calls on scopes of an engine, if there is that
exchange. -/
def checkAfter (start : Engine κ η) (calls : List ScopeCall) (exchange : Nat) (t : Instant) :
    Option (Except Fault Unit) :=
  let work : Work κ η (Option (Except Fault Unit)) := do
    let held ← carryOutCalls calls ⟨[start.scope], []⟩
    match held.exchanges[exchange]? with
    | none => return none
    | some x =>
      Program.change fun engine => { engine with now := t }
      return some (← check x)
  (work.runWith (fun _ _ => none) start).bind Prod.fst

section Checks

variable {start : Engine κ η} (fresh : (Ledger.ofCalls []).Agrees ⟨[start.scope], []⟩ start)

include fresh

/-- An exchange is there just if the ledger knows it, and then its check answers as the ledger says. -/
theorem checkAfter_spec (calls : List ScopeCall) (exchange : Nat) (t : Instant) :
    match (Ledger.ofCalls calls).homes[exchange]? with
    | none => checkAfter start calls exchange t = none
    | some home => ∃ answer, checkAfter start calls exchange t = some answer ∧
      (Ledger.ofCalls calls).Answers home t answer := by
  obtain ⟨held, engine, ran, agrees⟩ : (carryOutCalls calls ⟨[start.scope], []⟩).Arrives (fun _ _ => none) start
      fun after later => (Ledger.ofCalls calls).Agrees after later := arrives_carryOutCalls fresh calls
  have checked : checkAfter start calls exchange t =
      held.exchanges[exchange]?.map fun x => x.scope.check t engine.cancelled := by
    rw [checkAfter, Program.runWith_bind, ran]
    simp only [Option.bind_some]
    cases held.exchanges[exchange]? <;> rfl
  rw [checked]
  have same := agrees.homes.length_eq
  rw [List.length_map] at same
  cases there : held.exchanges[exchange]? with
  | none =>
    rw [List.getElem?_eq_none_iff.mpr (same ▸ List.getElem?_eq_none_iff.mp there)]
    rfl
  | some x =>
    obtain ⟨home, lives, found⟩ := exists_home agrees there
    rw [lives]
    exact ⟨_, rfl, agrees.tallies.answers found t⟩

/-- The check of an exchange that lives in a scope answers as the ledger says. -/
theorem exists_checkAfter {calls : List ScopeCall} {exchange home : Nat}
    (lives : (Ledger.ofCalls calls).homes[exchange]? = some home) (t : Instant) :
    ∃ answer, checkAfter start calls exchange t = some answer ∧ (Ledger.ofCalls calls).Answers home t answer := by
  have spec := checkAfter_spec fresh calls exchange t
  rwa [lives] at spec

/-- Exchanges whose ledgers give the same answers are checked alike. -/
theorem checkAfter_congr {calls others : List ScopeCall} {exchange other : Nat}
    (same : (Ledger.ofCalls calls).homes[exchange]? = (Ledger.ofCalls others).homes[other]?) {t : Instant}
    (alike : ∀ home answer, (Ledger.ofCalls calls).homes[exchange]? = some home →
      (Ledger.ofCalls calls).Answers home t answer → (Ledger.ofCalls others).Answers home t answer) :
    checkAfter start calls exchange t = checkAfter start others other t := by
  have first := checkAfter_spec fresh calls exchange t
  have second := checkAfter_spec fresh others other t
  rw [← same] at second
  cases lives : (Ledger.ofCalls calls).homes[exchange]? with
  | none =>
    rw [lives] at first second
    exact first.trans second.symm
  | some home =>
    rw [lives] at first second
    obtain ⟨answer, found, holds⟩ := first
    obtain ⟨expected, reached, promised⟩ := second
    rw [found, reached, (alike home answer lives holds).unique promised]

end Checks

end Engine

end MessageRouting
