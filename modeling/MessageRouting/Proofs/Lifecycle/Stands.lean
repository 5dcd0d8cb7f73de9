import MessageRouting.Proofs.Lifecycle.Invariant
import MessageRouting.Proofs.Program.Interleaving

/-!
# Where calls stand

While calls on the life of a runtime run side by side, each stands somewhere: it holds some locks, relies on what these
protect, has consumers under way that are not among the active ones, and has done this or that. A section moves a call
on, in a few ways. What all stands say together agrees with the engine, and each way to move keeps it so: what a call
relies on under a lock is changed by nobody else.
-/

namespace MessageRouting.Engine

variable {κ η : Type}

/-! ## Stands -/

/-- The locks that a call holds. -/
structure Held where
  /-- It shares the lock of the phase. -/
  shares : Bool := false
  /-- It holds the lock of the phase alone. -/
  alone : Bool := false
  /-- It holds the lock of the routes. -/
  routes : Bool := false

/-- Where a call stands. -/
structure Stand (κ : Type) where
  /-- The locks that it holds. -/
  held : Held := {}
  /-- The phase that it relies on. -/
  phase : Option Phase := none
  /-- The name that it relies on to be free. -/
  free : Option String := none
  /-- The consumers that it has started and not handed over, or that it has to stop. -/
  pending : List (ActiveConsumer κ) := []
  /-- The name of the route that it has kept. -/
  accepted : Option String := none
  /-- It has started the runtime. -/
  opened : Bool := false
  /-- It has stopped the runtime. -/
  retired : Bool := false
  /-- It has taken all routes away. -/
  cleared : Bool := false
  /-- It has touched no route and no consumer. -/
  calm : Bool := true

/-- Where a call stands that has just begun. -/
def Stand.outside : Stand κ where

/-- The call relies on the runtime going on. -/
def Stand.Open (stand : Stand κ) : Prop := ∃ phase, stand.phase = some phase ∧ phase ≠ .stopped

/-- A call relies on nothing without the lock for it, and has no consumers under way unless the runtime goes on or was
stopped by it. -/
structure Stand.Fits (stand : Stand κ) : Prop where
  /-- It relies on a phase under the lock of the phase. -/
  phase : stand.phase ≠ none → stand.held.shares = true ∨ stand.held.alone = true
  /-- It relies on a free name under the lock of the routes. -/
  free : stand.free ≠ none → stand.held.routes = true
  /-- It has consumers under way only in time. -/
  pending : stand.pending ≠ [] → stand.Open ∨ stand.retired = true

/-! ## Moves -/

/-- What a section does about locks. -/
inductive Locking (held : Held) (locks : Locks) : Held → Locks → Prop
  /-- Nothing. -/
  | same : Locking held locks held locks
  /-- It takes a share of the lock of the phase. -/
  | share (outside : held.shares = false) (free : locks.exclusive = false) :
    Locking held locks { held with shares := true } { locks with sharing := locks.sharing + 1 }
  /-- It gives the share back. -/
  | unshare (own : held.shares = true) :
    Locking held locks { held with shares := false } { locks with sharing := locks.sharing - 1 }
  /-- It takes the lock of the phase alone. -/
  | seize (free : locks.exclusive = false) (unshared : locks.sharing = 0) :
    Locking held locks { held with alone := true } { locks with exclusive := true }
  /-- It gives the lock of the phase back. -/
  | release (own : held.alone = true) :
    Locking held locks { held with alone := false } { locks with exclusive := false }
  /-- It takes the lock of the routes. -/
  | lockRoutes (free : locks.routes = false) :
    Locking held locks { held with routes := true } { locks with routes := true }
  /-- It gives the lock of the routes back. -/
  | unlockRoutes (own : held.routes = true) :
    Locking held locks { held with routes := false } { locks with routes := false }

/-- What a section does about the phase. -/
inductive Phasing (stand : Stand κ) (phase : Phase) (later : Stand κ) : Phase → Prop
  /-- It leaves it alone. -/
  | left (relies : later.phase = stand.phase ∨ later.phase = none) (opened : later.opened = stand.opened)
    (retired : later.retired = stand.retired) : Phasing stand phase later phase
  /-- It reads it. -/
  | read (relies : later.phase = some phase) (opened : later.opened = stand.opened)
    (retired : later.retired = stand.retired) : Phasing stand phase later phase
  /-- It starts the runtime. -/
  | started (alone : stand.held.alone = true) (before : stand.phase = some .created)
    (relies : later.phase = some .started) (opened : later.opened = true) (retired : later.retired = stand.retired) :
    Phasing stand phase later .started
  /-- It stops the runtime. -/
  | retire (alone : stand.held.alone = true) (before : stand.Open) (relies : later.phase = some .stopped)
    (opened : later.opened = stand.opened) (retired : later.retired = true) : Phasing stand phase later .stopped

/-- A call that has stopped the runtime has done so. -/
theorem Phasing.stays_retired {stand later : Stand κ} {phase next : Phase} (moves : Phasing stand phase later next)
    (retired : stand.retired = true) : later.retired = true := by
  cases moves with
  | left _ _ same | read _ _ same | started _ _ _ _ same => exact same.trans retired
  | retire _ _ _ _ done => exact done

/-- Only a call that stops the runtime takes it to its last phase. -/
theorem Phasing.retires {stand later : Stand κ} {phase next : Phase} (moves : Phasing stand phase later next)
    (going : phase ≠ .stopped) (stopped : next = .stopped) : later.retired = true := by
  cases moves with
  | left | read => exact absurd stopped going
  | started => cases stopped
  | retire _ _ _ _ done => exact done

/-- What a section does about routes. -/
inductive Routing (stand : Stand κ) (routes : Table (Route κ)) (later : Stand κ) : Table (Route κ) → Prop
  /-- It leaves them alone. -/
  | left (relies : later.free = stand.free ∨ later.free = none) (accepted : later.accepted = stand.accepted)
    (cleared : later.cleared = stand.cleared) : Routing stand routes later routes
  /-- It sees that a name is free. -/
  | read {name : String} (free : routes.has name = false) (relies : later.free = some name)
    (accepted : later.accepted = stand.accepted) (cleared : later.cleared = stand.cleared) :
    Routing stand routes later routes
  /-- It keeps a route under a free name. -/
  | keep {route : Route κ} (going : stand.Open) (before : stand.free = some route.name) (relies : later.free = none)
    (accepted : later.accepted = some route.name) (cleared : later.cleared = stand.cleared) :
    Routing stand routes later (routes.insert route.name route)
  /-- It takes all away. -/
  | clear (before : stand.retired = true) (relies : later.free = none) (accepted : later.accepted = stand.accepted)
    (cleared : later.cleared = true) : Routing stand routes later []

/-- What routes and consumers are is the same. -/
structure SameLife (engine after : Engine κ η) : Prop where
  /-- The routes are the same. -/
  routes : after.routes = engine.routes
  /-- The active consumers are the same. -/
  consumers : after.consumers = engine.consumers
  /-- The tables of direct consumers are the same. -/
  tables : after.tables = engine.tables
  /-- The timers are the same. -/
  timers : after.timers = engine.timers

/-- A section moves a call on from one stand to another. -/
structure Moves (stand : Stand κ) (engine : Engine κ η) (later : Stand κ) (after : Engine κ η) : Prop where
  /-- It takes locks and gives them back. -/
  locking : Locking stand.held engine.locks later.held after.locks
  /-- It changes the phase. -/
  phasing : Phasing stand engine.phase later after.phase
  /-- It changes routes. -/
  routing : Routing stand engine.routes later after.routes
  /-- Table and timers still belong to consumers that are active or under way. -/
  covered : ∀ others, engine.Covered (engine.consumers ++ (stand.pending ++ others)) →
    after.Covered (after.consumers ++ (later.pending ++ others))
  /-- There are no active consumers once the runtime was stopped, if there were none. -/
  idle : (engine.phase = .stopped → engine.consumers = []) → after.phase = .stopped → after.consumers = []
  /-- A calm call touches nothing. -/
  calm : later.calm = true → stand.calm = true ∧ SameLife engine after
  /-- The call relies on nothing without its lock. -/
  fits : later.Fits

/-! ## All stands together -/

/-- Some call with another number stands there. -/
def Beside (stands : List (Stand κ)) (n : Nat) (stand : Stand κ) : Prop := ∃ m, n ≠ m ∧ stands[m]? = some stand

/-- Of at most one call something is so. -/
def AtMostOne (Has : Stand κ → Prop) (stands : List (Stand κ)) : Prop :=
  ∀ (m n : Nat) (a b : Stand κ), stands[m]? = some a → stands[n]? = some b → Has a → Has b → m = n

section Lists

variable {Has : Stand κ → Prop} {stands : List (Stand κ)} {n : Nat} {stand later other : Stand κ}

/-- After a call has moved on, a stand is its new one or that of another call. -/
theorem beside_of_mem_set (member : other ∈ stands.set n later) : other = later ∨ Beside stands n other := by
  obtain ⟨m, found⟩ := List.mem_iff_getElem?.mp member
  rcases getElem?_of_set found with ⟨-, same⟩ | ⟨different, before⟩
  · exact .inl same.symm
  · exact .inr ⟨m, different, before⟩

/-- What stands beside a call stands somewhere. -/
theorem Beside.mem (beside : Beside stands n other) : other ∈ stands :=
  List.mem_iff_getElem?.mpr (beside.imp fun _ => And.right)

/-- What holds of all stands holds after a call has moved on, if it holds of its new stand. -/
theorem forall_mem_set {Good : Stand κ → Prop} (all : ∀ a ∈ stands, Good a) (new : Good later) :
    ∀ a ∈ stands.set n later, Good a := by
  intro a member
  rcases List.mem_or_eq_of_mem_set member with before | rfl
  · exact all a before
  · exact new

/-- What holds of all stands holds when one more call begins, if it holds of where that stands. -/
theorem forall_mem_concat {Good : Stand κ → Prop} (all : ∀ a ∈ stands, Good a) (new : Good later) :
    ∀ a ∈ stands ++ [later], Good a :=
  List.forall_mem_append.mpr ⟨all, List.forall_mem_singleton.mpr new⟩

/-- Without calls it is so of none. -/
theorem AtMostOne.nil : AtMostOne Has [] := by
  intro m n a b found
  cases List.mem_of_getElem? found

/-- If it is so of one call, it is not so of the others. -/
theorem AtMostOne.beside (one : AtMostOne Has stands) (own : stands[n]? = some stand) (has : Has stand)
    (beside : Beside stands n other) : ¬Has other := by
  obtain ⟨m, different, found⟩ := beside
  exact fun also => different (one n m stand other own found has also)

/-- It stays so of at most one call if the one that moves on has it only where no other one has. -/
theorem AtMostOne.set (one : AtMostOne Has stands) (new : Has later → ∀ a, Beside stands n a → ¬Has a) :
    AtMostOne Has (stands.set n later) := by
  intro m k a b first second has also
  rcases getElem?_of_set first with ⟨here, rfl⟩ | ⟨apart, first⟩ <;>
    rcases getElem?_of_set second with ⟨there, rfl⟩ | ⟨different, second⟩
  · exact here.symm.trans there
  · exact absurd also (new has b ⟨k, different, second⟩)
  · exact absurd has (new also a ⟨m, apart, first⟩)
  · exact one m k a b first second has also

/-- It stays so of at most one call if the one that moves on had it before. -/
theorem AtMostOne.kept (one : AtMostOne Has stands) (own : stands[n]? = some stand) (before : Has later → Has stand) :
    AtMostOne Has (stands.set n later) :=
  one.set fun has _ => one.beside own (before has)

/-- It stays so of at most one call when a call begins of which it is not so. -/
theorem AtMostOne.concat (one : AtMostOne Has stands) (not : ¬Has later) : AtMostOne Has (stands ++ [later]) := by
  have inside {m : Nat} {a : Stand κ} (found : (stands ++ [later])[m]? = some a) (has : Has a) :
      stands[m]? = some a := by
    rcases getElem?_of_concat found with ⟨-, rfl⟩ | ⟨-, before⟩
    · exact absurd has not
    · exact before
  intro m k a b first second has also
  exact one m k a b (inside first has) (inside second also) has also

end Lists

/-! ### Locks -/

/-- A lock that one call may hold is held as the stands say. -/
structure Guards (has : Stand κ → Bool) (stands : List (Stand κ)) (taken : Bool) : Prop where
  /-- It is taken if a call holds it. -/
  taken : ∀ a ∈ stands, has a = true → taken = true
  /-- At most one does. -/
  one : AtMostOne (has · = true) stands

/-- The locks are held as the stands say. -/
structure LocksAgree (stands : List (Stand κ)) (locks : Locks) : Prop where
  /-- As many calls share the lock of the phase as the lock says. -/
  shares : stands.countP (·.held.shares) = locks.sharing
  /-- It may be held alone. -/
  alone : Guards (·.held.alone) stands locks.exclusive
  /-- Nobody shares it meanwhile. -/
  apart : locks.exclusive = true → locks.sharing = 0
  /-- The lock of the routes may be held. -/
  routes : Guards (·.held.routes) stands locks.routes

section Locks

variable {stands : List (Stand κ)} {n : Nat} {stand later : Stand κ}

section Guards

variable {has : Stand κ → Bool} {taken : Bool}

/-- A call that does nothing about a lock leaves it as it is held. -/
theorem Guards.left (guards : Guards has stands taken) (own : stands[n]? = some stand)
    (same : has later = has stand) : Guards has (stands.set n later) taken where
  taken := forall_mem_set guards.taken fun holds =>
    guards.taken stand (List.mem_of_getElem? own) (same.symm.trans holds)
  one := guards.one.kept own fun holds => same.symm.trans holds

/-- A call takes a lock that is free. -/
theorem Guards.take (guards : Guards has stands false) : Guards has (stands.set n later) true where
  taken _ _ _ := rfl
  one := guards.one.set fun _ a beside holds => Bool.false_ne_true (guards.taken a beside.mem holds)

/-- A call gives back a lock that it holds. -/
theorem Guards.give (guards : Guards has stands taken) (own : stands[n]? = some stand) (holds : has stand = true)
    (gone : has later = false) : Guards has (stands.set n later) false where
  taken a member has := by
    rcases beside_of_mem_set member with rfl | beside
    · exact gone.symm.trans has
    · exact absurd has (guards.one.beside own holds beside)
  one := guards.one.kept own fun _ => holds

end Guards

variable {locks after : Locks}

/-- While a call holds the lock of the phase alone, nobody else has it. -/
theorem LocksAgree.unheld (agree : LocksAgree stands locks) (own : stands[n]? = some stand)
    (alone : stand.held.alone = true) {other : Stand κ} (beside : Beside stands n other) :
    other.held.shares = false ∧ other.held.alone = false := by
  have exclusive := agree.alone.taken stand (List.mem_of_getElem? own) alone
  have none := agree.shares.trans (agree.apart exclusive)
  refine ⟨Bool.eq_false_iff.mpr (List.countP_eq_zero.mp none other beside.mem), ?_⟩
  exact Bool.eq_false_iff.mpr (agree.alone.one.beside own alone beside)

/-- How many calls share the lock of the phase changes with the one that moves on. -/
theorem countP_set_stand (own : stands[n]? = some stand) (later : Stand κ) :
    (stands.set n later).countP (·.held.shares) + (if stand.held.shares then 1 else 0) =
      stands.countP (·.held.shares) + (if later.held.shares then 1 else 0) := by
  obtain ⟨inside, same⟩ := List.getElem?_eq_some_iff.mp own
  rw [List.countP_set inside, same]
  have positive : stand.held.shares = true → 0 < stands.countP (·.held.shares) :=
    fun shares => List.countP_pos_iff.mpr ⟨stand, List.mem_of_getElem? own, shares⟩
  cases shared : stand.held.shares with
  | false => simp
  | true =>
    have := positive shared
    simp only [if_true]
    omega

/-- However a call takes locks or gives them back, the locks are held as the stands say. -/
theorem LocksAgree.set (agree : LocksAgree stands locks) (own : stands[n]? = some stand)
    (moves : Locking stand.held locks later.held after) : LocksAgree (stands.set n later) after := by
  have count := countP_set_stand own later
  rw [agree.shares] at count
  generalize held : later.held = after_held at moves
  cases moves with
  | same =>
    refine ⟨?_, agree.alone.left own (congrArg Held.alone held), agree.apart,
      agree.routes.left own (congrArg Held.routes held)⟩
    rw [held] at count
    omega
  | share outside free =>
    have alone : later.held.alone = stand.held.alone := by rw [held]
    have routes : later.held.routes = stand.held.routes := by rw [held]
    refine ⟨?_, agree.alone.left own alone, ?_, agree.routes.left own routes⟩
    · rw [held, outside] at count
      simpa using count
    · exact fun exclusive => absurd (free.symm.trans exclusive) Bool.false_ne_true
  | unshare shares =>
    have alone : later.held.alone = stand.held.alone := by rw [held]
    have routes : later.held.routes = stand.held.routes := by rw [held]
    refine ⟨?_, agree.alone.left own alone, ?_, agree.routes.left own routes⟩
    · rw [held, shares] at count
      simp only [if_true, Bool.false_eq_true, if_false, Nat.add_zero] at count
      simp only
      omega
    · exact fun exclusive => by simp only [agree.apart exclusive]
  | seize free unshared =>
    have routes : later.held.routes = stand.held.routes := by rw [held]
    refine ⟨?_, ?_, fun _ => unshared, agree.routes.left own routes⟩
    · rw [held] at count
      simp only at count ⊢
      omega
    · have guards := agree.alone
      rw [free] at guards
      exact guards.take
  | release alone =>
    have gone : later.held.alone = false := by rw [held]
    have routes : later.held.routes = stand.held.routes := by rw [held]
    refine ⟨?_, agree.alone.give own alone gone, nofun, agree.routes.left own routes⟩
    rw [held] at count
    simp only at count ⊢
    omega
  | lockRoutes free =>
    have alone : later.held.alone = stand.held.alone := by rw [held]
    refine ⟨?_, agree.alone.left own alone, agree.apart, ?_⟩
    · rw [held] at count
      simp only at count ⊢
      omega
    · have guards := agree.routes
      rw [free] at guards
      exact guards.take
  | unlockRoutes routes =>
    have alone : later.held.alone = stand.held.alone := by rw [held]
    have gone : later.held.routes = false := by rw [held]
    refine ⟨?_, agree.alone.left own alone, agree.apart, agree.routes.give own routes gone⟩
    rw [held] at count
    simp only at count ⊢
    omega

/-- Without calls nobody holds a lock. -/
theorem LocksAgree.nil : LocksAgree ([] : List (Stand κ)) {} where
  shares := rfl
  alone := ⟨List.forall_mem_nil _, .nil⟩
  apart _ := rfl
  routes := ⟨List.forall_mem_nil _, .nil⟩

/-- A call that begins holds no locks. -/
theorem LocksAgree.concat (agree : LocksAgree stands locks) : LocksAgree (stands ++ [Stand.outside]) locks where
  shares := by
    rw [List.countP_append, agree.shares]
    rfl
  alone := ⟨forall_mem_concat agree.alone.taken nofun, agree.alone.one.concat nofun⟩
  apart := agree.apart
  routes := ⟨forall_mem_concat agree.routes.taken nofun, agree.routes.one.concat nofun⟩

end Locks

/-! ### The phase -/

/-- The phase is as the stands say. -/
structure PhasesAgree (stands : List (Stand κ)) (phase : Phase) : Prop where
  /-- It is the one that calls rely on. -/
  relied : ∀ a ∈ stands, ∀ known, a.phase = some known → phase = known
  /-- It is not the first one once a call has started the runtime. -/
  opened : ∀ a ∈ stands, a.opened = true → phase ≠ .created
  /-- At most one call did. -/
  opener : AtMostOne (·.opened = true) stands
  /-- It is the last one once a call has stopped the runtime. -/
  retired : ∀ a ∈ stands, a.retired = true → phase = .stopped
  /-- At most one call did. -/
  closer : AtMostOne (·.retired = true) stands

section Phases

variable {stands : List (Stand κ)} {phase next : Phase} {n : Nat} {stand later : Stand κ}

/-- A runtime that a call relies on to go on was not stopped. -/
theorem PhasesAgree.going (agree : PhasesAgree stands phase) (own : stands[n]? = some stand) (going : stand.Open) :
    phase ≠ .stopped := by
  obtain ⟨known, relies, different⟩ := going
  rw [agree.relied stand (List.mem_of_getElem? own) known relies]
  exact different

/-- A runtime that was stopped stays so. -/
theorem PhasesAgree.lasts (agree : PhasesAgree stands phase) (own : stands[n]? = some stand)
    (moves : Phasing stand phase later next) (stopped : phase = .stopped) : next = .stopped := by
  cases moves with
  | left | read => exact stopped
  | started _ before => cases (agree.relied stand (List.mem_of_getElem? own) _ before).symm.trans stopped
  | retire => rfl

/-- However a call changes the phase, it is as the stands say, if nobody relies on one without its lock. -/
theorem PhasesAgree.set {locks : Locks} (agree : PhasesAgree stands phase) (own : stands[n]? = some stand)
    (held : LocksAgree stands locks) (fits : ∀ a ∈ stands, a.Fits) (moves : Phasing stand phase later next) :
    PhasesAgree (stands.set n later) next := by
  have member := List.mem_of_getElem? own
  -- Nobody else relies on a phase while a call holds its lock alone.
  have unknown (alone : stand.held.alone = true) {other : Stand κ} (beside : Beside stands n other) :
      other.phase = none := by
    obtain ⟨unshared, unheld⟩ := held.unheld own alone beside
    refine Decidable.byContradiction fun relies => ?_
    rcases (fits other beside.mem).phase relies with shares | alone
    · exact Bool.false_ne_true (unshared.symm.trans shares)
    · exact Bool.false_ne_true (unheld.symm.trans alone)
  cases moves with
  | left relies opened retired =>
    refine ⟨forall_mem_set agree.relied fun known same => ?_,
      forall_mem_set agree.opened fun has => agree.opened stand member (opened.symm.trans has),
      agree.opener.kept own fun has => opened.symm.trans has,
      forall_mem_set agree.retired fun has => agree.retired stand member (retired.symm.trans has),
      agree.closer.kept own fun has => retired.symm.trans has⟩
    rcases relies with as | none
    · exact agree.relied stand member known (as.symm.trans same)
    · cases none.symm.trans same
  | read relies opened retired =>
    refine ⟨forall_mem_set agree.relied fun known same => Option.some.inj (relies.symm.trans same),
      forall_mem_set agree.opened fun has => agree.opened stand member (opened.symm.trans has),
      agree.opener.kept own fun has => opened.symm.trans has,
      forall_mem_set agree.retired fun has => agree.retired stand member (retired.symm.trans has),
      agree.closer.kept own fun has => retired.symm.trans has⟩
  | started alone before relies opened retired =>
    have created : phase = .created := agree.relied stand member _ before
    have unopened {a : Stand κ} (inside : a ∈ stands) : ¬a.opened = true := fun has => agree.opened a inside has created
    have unretired {a : Stand κ} (inside : a ∈ stands) : ¬a.retired = true := fun has => by
      cases created.symm.trans (agree.retired a inside has)
    refine ⟨fun a inside known same => ?_, fun _ _ _ => nofun, agree.opener.set fun _ a beside => unopened beside.mem,
      fun a inside has => ?_, agree.closer.kept own fun has => retired.symm.trans has⟩
    · rcases beside_of_mem_set inside with rfl | beside
      · exact Option.some.inj (relies.symm.trans same)
      · cases (unknown alone beside).symm.trans same
    · rcases beside_of_mem_set inside with rfl | beside
      · exact absurd (retired.symm.trans has) (unretired member)
      · exact absurd has (unretired beside.mem)
  | retire alone before relies opened retired =>
    have going := agree.going own before
    refine ⟨fun a inside known same => ?_, fun _ _ _ => nofun, agree.opener.kept own fun has => opened.symm.trans has,
      fun _ _ _ => rfl, agree.closer.set fun _ a beside has => going (agree.retired a beside.mem has)⟩
    rcases beside_of_mem_set inside with rfl | beside
    · exact Option.some.inj (relies.symm.trans same)
    · cases (unknown alone beside).symm.trans same

/-- Without calls nobody relies on a phase. -/
theorem PhasesAgree.nil (phase : Phase) : PhasesAgree ([] : List (Stand κ)) phase :=
  ⟨List.forall_mem_nil _, List.forall_mem_nil _, .nil, List.forall_mem_nil _, .nil⟩

/-- A call that begins relies on nothing. -/
theorem PhasesAgree.concat (agree : PhasesAgree stands phase) : PhasesAgree (stands ++ [Stand.outside]) phase where
  relied := forall_mem_concat agree.relied nofun
  opened := forall_mem_concat agree.opened nofun
  opener := agree.opener.concat nofun
  retired := forall_mem_concat agree.retired nofun
  closer := agree.closer.concat nofun

end Phases

/-! ### Routes -/

/-- The routes are as the stands say. -/
structure RoutesAgree (stands : List (Stand κ)) (phase : Phase) (routes : Table (Route κ)) : Prop where
  /-- Names are free that calls rely on to be free. -/
  free : ∀ a ∈ stands, ∀ name, a.free = some name → routes.has name = false
  /-- Names are taken for which calls have kept routes, until the runtime is stopped. -/
  accepted : ∀ a ∈ stands, ∀ name, a.accepted = some name → phase ≠ .stopped → routes.has name = true
  /-- For each name at most one call did. -/
  keeper : ∀ name, AtMostOne (·.accepted = some name) stands
  /-- There are no routes once a call has taken all away. -/
  cleared : ∀ a ∈ stands, a.cleared = true → phase = .stopped ∧ routes = []

section Routes

variable {stands : List (Stand κ)} {phase next : Phase} {routes after : Table (Route κ)} {n : Nat}
  {stand later : Stand κ}

/-- Routes that a call leaves alone are as the stands say. -/
theorem RoutesAgree.left (agree : RoutesAgree stands phase routes) (own : stands[n]? = some stand)
    (lasts : phase = .stopped → next = .stopped) (free : ∀ name, later.free = some name → routes.has name = false)
    (accepted : later.accepted = stand.accepted) (cleared : later.cleared = stand.cleared) :
    RoutesAgree (stands.set n later) next routes := by
  have member := List.mem_of_getElem? own
  have goes (going : next ≠ .stopped) : phase ≠ .stopped := fun stopped => going (lasts stopped)
  refine ⟨forall_mem_set agree.free free, ?_, ?_, ?_⟩
  · refine forall_mem_set (fun a inside name has going => agree.accepted a inside name has (goes going)) ?_
    exact fun name has going => agree.accepted stand member name (accepted.symm.trans has) (goes going)
  · exact fun name => (agree.keeper name).kept own fun has => accepted.symm.trans has
  · have still {a : Stand κ} (inside : a ∈ stands) (has : a.cleared = true) : next = .stopped ∧ routes = [] :=
      ⟨lasts (agree.cleared a inside has).1, (agree.cleared a inside has).2⟩
    exact forall_mem_set (fun a inside has => still inside has) fun has => still member (cleared.symm.trans has)

/-- However a call changes routes, they are as the stands say, if nobody relies on a free name without the lock. -/
theorem RoutesAgree.set {locks : Locks} (agree : RoutesAgree stands phase routes) (own : stands[n]? = some stand)
    (held : LocksAgree stands locks) (fits : ∀ a ∈ stands, a.Fits) (phases : PhasesAgree stands phase)
    (lasts : phase = .stopped → next = .stopped) (moves : Routing stand routes later after) :
    RoutesAgree (stands.set n later) next after := by
  have member := List.mem_of_getElem? own
  cases moves with
  | left relies accepted cleared =>
    refine agree.left own lasts (fun name has => ?_) accepted cleared
    rcases relies with as | none
    · exact agree.free stand member name (as.symm.trans has)
    · cases none.symm.trans has
  | @read name free relies accepted cleared =>
    refine agree.left own lasts (fun other has => ?_) accepted cleared
    rwa [← Option.some.inj (relies.symm.trans has)]
  | @keep route going before relies accepted cleared =>
    have started := phases.going own going
    have unused : routes.has route.name = false := agree.free stand member _ before
    have has_insert (name : String) : (routes.insert route.name route).has name =
        (if name = route.name then true else routes.has name) := by
      rw [Table.has, Table.find?_insert]
      split <;> rfl
    have uncleared {a : Stand κ} (inside : a ∈ stands) : ¬a.cleared = true :=
      fun has => started (agree.cleared a inside has).1
    refine ⟨fun a inside name free => ?_, fun a inside name has _ => ?_, fun name => ?_, fun a inside has => ?_⟩
    · -- Nobody else holds the lock of the routes.
      rcases beside_of_mem_set inside with rfl | beside
      · cases relies.symm.trans free
      · have locked := (fits stand member).free (by rw [before]; exact Option.some_ne_none _)
        have also := (fits a beside.mem).free (by rw [free]; exact Option.some_ne_none _)
        exact absurd also (held.routes.one.beside own locked beside)
    · rw [has_insert]
      rcases beside_of_mem_set inside with rfl | beside
      · rw [if_pos (Option.some.inj (accepted.symm.trans has)).symm]
      · split
        · rfl
        · exact agree.accepted a beside.mem name has started
    · refine (agree.keeper name).set fun new a beside has => ?_
      obtain rfl : route.name = name := Option.some.inj (accepted.symm.trans new)
      exact Bool.false_ne_true (unused.symm.trans (agree.accepted a beside.mem _ has started))
    · rcases beside_of_mem_set inside with rfl | beside
      · exact absurd (cleared.symm.trans has) (uncleared member)
      · exact absurd has (uncleared beside.mem)
  | clear before relies accepted cleared =>
    have stopped : next = .stopped := lasts (phases.retired stand member before)
    exact ⟨fun _ _ _ _ => rfl, fun _ _ _ _ going => absurd stopped going,
      fun name => (agree.keeper name).kept own fun has => accepted.symm.trans has, fun _ _ _ => ⟨stopped, rfl⟩⟩

/-- Without calls nobody relies on free names. -/
theorem RoutesAgree.nil (phase : Phase) (routes : Table (Route κ)) : RoutesAgree [] phase routes :=
  ⟨List.forall_mem_nil _, List.forall_mem_nil _, fun _ => .nil, List.forall_mem_nil _⟩

/-- A call that begins has kept no route. -/
theorem RoutesAgree.concat (agree : RoutesAgree stands phase routes) :
    RoutesAgree (stands ++ [Stand.outside]) phase routes where
  free := forall_mem_concat agree.free nofun
  accepted := forall_mem_concat agree.accepted nofun
  keeper name := (agree.keeper name).concat nofun
  cleared := forall_mem_concat agree.cleared nofun

end Routes

end MessageRouting.Engine
