import MessageRouting.Proofs.Exchange.Scopes

/-!
# Copies, forks and what cancels them

What the checks of exchanges answer after any calls on scopes is read off the ledger of the calls. So a copy is
cancelled with its source and its source with it, the cancellation of a fork stays below the fork, that of the source
reaches whatever was made from it, and a check that has failed fails ever after.
-/

namespace MessageRouting

namespace Ledger

variable {l other : Ledger} {calls : List ScopeCall} {source : Nat}

/-! ## One cancellation more -/

/-- Ledgers that differ by the cancellation of one scope at most. -/
structure DiffersBy (scope : Nat) (l other : Ledger) : Prop where
  /-- They have the same scopes. -/
  scopes : other.scopes = l.scopes
  /-- They have the same exchanges. -/
  homes : other.homes = l.homes
  /-- What is cancelled in one of them is cancelled in the other one, but for the scope. -/
  cancelled : ∀ n, n ≠ scope → (n ∈ other.cancelled ↔ n ∈ l.cancelled)

/-- Whatever is called, the ledgers differ by no more. -/
theorem DiffersBy.note {scope : Nat} (differs : DiffersBy scope l other) (call : ScopeCall) :
    DiffersBy scope (l.note call) (other.note call) := by
  obtain ⟨_, _, cancelled⟩ := l
  obtain ⟨entries, homes, others⟩ := other
  obtain ⟨rfl, rfl, same⟩ := differs
  have added (n : Nat) : DiffersBy scope ⟨entries, homes, n :: cancelled⟩ ⟨entries, homes, n :: others⟩ :=
    ⟨rfl, rfl, fun m different => by rw [List.mem_cons, List.mem_cons, same m different]⟩
  cases call <;> simp only [Ledger.note, addBelow, addExchange, target?]
  case root | absorb => exact ⟨rfl, rfl, same⟩
  case cancelScope n =>
    split
    · exact added n
    · exact ⟨rfl, rfl, same⟩
  case cancelExchange n =>
    cases homes[n]? with
    | none => exact ⟨rfl, rfl, same⟩
    | some home => exact added home
  case copy n =>
    cases homes[n]? <;> exact ⟨rfl, rfl, same⟩
  case fork n =>
    cases homes[n]? with
    | none => exact ⟨rfl, rfl, same⟩
    | some home =>
      simp only [Option.elim_some, addExchange]
      split <;> exact ⟨rfl, rfl, same⟩
  all_goals
    split <;> exact ⟨rfl, rfl, same⟩

/-- The way to the root is the same in ledgers with the same scopes. -/
theorem OnPath.congr (same : other.scopes = l.scopes) {scope top : Nat} (path : l.OnPath scope top) :
    other.OnPath scope top := by
  induction path with
  | self => exact .self _
  | up made next _ later => exact .up (same ▸ made) next later

/-- Answers are the same where the scope by which the ledgers differ is not on the way. -/
theorem Answers.differing {scope home : Nat} (differs : DiffersBy scope l other) (apart : ¬l.OnPath home scope)
    {t : Instant} {answer : Except Fault Unit} (answers : l.Answers home t answer) : other.Answers home t answer := by
  have path (top : Nat) : other.OnPath home top ↔ l.OnPath home top :=
    ⟨.congr differs.scopes.symm, .congr differs.scopes⟩
  have expired : other.Expired home t ↔ l.Expired home t := by
    simp only [Expired, path, differs.scopes]
  have cancelled : other.Cancelled home ↔ l.Cancelled home := by
    simp only [Cancelled, path]
    refine exists_congr fun top => and_congr_right fun reached => differs.cancelled top ?_
    rintro rfl
    exact apart reached
  cases answers with
  | expired late => exact .expired (expired.mpr late)
  | cancelled early stopped => exact .cancelled (mt expired.mp early) (cancelled.mpr stopped)
  | fine early going => exact .fine (mt expired.mp early) (mt cancelled.mp going)

/-- A call that cancels a scope only notes that it was cancelled. -/
theorem note_of_target {call : ScopeCall} {scope : Nat} (target : l.target? call = some scope) :
    l.note call = { l with cancelled := scope :: l.cancelled } := by
  cases call with
  | cancelScope | cancelExchange =>
    simp only [Ledger.note, target]
    rfl
  | _ => cases target

/-- The ledger of calls differs by the cancelled scope from that of the calls without the cancellation. -/
theorem differsBy_ofCalls {call : ScopeCall} {scope : Nat} (target : (ofCalls calls).target? call = some scope)
    (later : List ScopeCall) : DiffersBy scope (ofCalls (calls ++ later)) (ofCalls (calls ++ call :: later)) := by
  suffices kept : ∀ l other : Ledger, DiffersBy scope l other → DiffersBy scope (later.foldl note l)
      (later.foldl note other) by
    have added : DiffersBy scope (ofCalls calls) ((ofCalls calls).note call) := by
      rw [note_of_target target]
      exact ⟨rfl, rfl, fun n different => by rw [List.mem_cons, or_iff_right different]⟩
    have after := kept _ _ added
    rwa [ofCalls, ofCalls, List.foldl_append, List.foldl_append]
  induction later with
  | nil => exact fun _ _ differs => differs
  | cons next rest step => exact fun l other differs => step _ _ (differs.note next)

/-! ## What is made from an exchange -/

/-- Among some calls an exchange was made from one that was there. -/
def MadeFrom (make : Nat → ScopeCall) (calls : List ScopeCall) (source made : Nat) : Prop :=
  ∃ before later, calls = before ++ make source :: later ∧ source < (ofCalls before).homes.length ∧
    made = (ofCalls before).homes.length

/-- An exchange was made from another one, by copies and forks of whatever was made before. -/
inductive Descends (calls : List ScopeCall) (source : Nat) : Nat → Prop
  /-- The exchange itself is among these. -/
  | self : Descends calls source source
  /-- Copies are. -/
  | copy {between made : Nat} (before : Descends calls source between) (copied : MadeFrom .copy calls between made) :
    Descends calls source made
  /-- Forks are. -/
  | fork {between made : Nat} (before : Descends calls source between) (forked : MadeFrom .fork calls between made) :
    Descends calls source made

/-- A call after some others cancels an exchange: it cancels the scope in which it lives, through whatever holds it. -/
def Cancels (calls : List ScopeCall) (call : ScopeCall) (exchange : Nat) : Prop :=
  ∃ home, (ofCalls calls).homes[exchange]? = some home ∧ (ofCalls calls).target? call = some home

/-- What was made from an exchange still was after more calls. -/
theorem MadeFrom.later {make : Nat → ScopeCall} {made : Nat} (before : MadeFrom make calls source made)
    (later : List ScopeCall) : MadeFrom make (calls ++ later) source made := by
  obtain ⟨earlier, rest, rfl, inside, number⟩ := before
  exact ⟨earlier, rest ++ later, by rw [List.append_assoc, List.cons_append], inside, number⟩

/-- A copy lives where its source does. -/
theorem MadeFrom.copied {copy : Nat} (made : MadeFrom .copy calls source copy) :
    ∃ home, (ofCalls calls).homes[source]? = some home ∧ (ofCalls calls).homes[copy]? = some home := by
  obtain ⟨before, later, rfl, inside, rfl⟩ := made
  have lives := List.getElem?_eq_getElem inside
  have goesOn := goesOn_ofCalls (before ++ [.copy source]) later
  rw [List.append_assoc, List.singleton_append, ofCalls_concat] at goesOn
  simp only [Ledger.note, lives, Option.elim_some] at goesOn
  refine ⟨_, goesOn.home ?_, goesOn.home (List.getElem?_concat_length ..)⟩
  rw [List.getElem?_append_left inside, lives]

/-- When a fork is made, it lives in a new scope below that of its source. -/
theorem goesOn_fork {before : List ScopeCall} (inside : source < (ofCalls before).homes.length)
    (later : List ScopeCall) :
    GoesOn ⟨(ofCalls before).scopes ++ [⟨(ofCalls before).homes[source]?, none⟩],
      (ofCalls before).homes ++ [(ofCalls before).scopes.length], (ofCalls before).cancelled⟩
      (ofCalls (before ++ .fork source :: later)) := by
  have lives := List.getElem?_eq_getElem inside
  have there := (orderly_ofCalls before).living _ (List.mem_of_getElem? lives)
  have goesOn := goesOn_ofCalls (before ++ [.fork source]) later
  rw [List.append_assoc, List.singleton_append, ofCalls_concat] at goesOn
  simpa only [Ledger.note, lives, Option.elim_some, addExchange, if_pos there] using goesOn

/-- A fork lives in a scope below that of its source. -/
theorem MadeFrom.forked {fork : Nat} (made : MadeFrom .fork calls source fork) :
    ∃ home own, (ofCalls calls).homes[source]? = some home ∧ (ofCalls calls).homes[fork]? = some own ∧
      (ofCalls calls).scopes[own]? = some ⟨some home, none⟩ := by
  obtain ⟨before, later, rfl, inside, rfl⟩ := made
  have goesOn := goesOn_fork inside later
  have lives := List.getElem?_eq_getElem inside
  rw [lives] at goesOn
  refine ⟨_, _, goesOn.home ?_, goesOn.home (List.getElem?_concat_length ..),
    goesOn.made (List.getElem?_concat_length ..)⟩
  rw [List.getElem?_append_left inside, lives]

/-- Forks that are made later live in later scopes. -/
theorem MadeFrom.lt_of_lt {first second fork sibling own next : Nat} (one : MadeFrom .fork calls first fork)
    (two : MadeFrom .fork calls second sibling) (order : fork < sibling)
    (home : (ofCalls calls).homes[fork]? = some own) (lives : (ofCalls calls).homes[sibling]? = some next) :
    own < next := by
  obtain ⟨before, later, rfl, inside, rfl⟩ := one
  obtain ⟨start, rest, same, present, rfl⟩ := two
  cases home.symm.trans ((goesOn_fork inside later).home (List.getElem?_concat_length ..))
  rw [same] at lives
  cases lives.symm.trans ((goesOn_fork present rest).home (List.getElem?_concat_length ..))
  rcases List.append_eq_append_iff.mp same with ⟨between, rfl, continued⟩ | ⟨between, rfl, _⟩
  · rcases List.cons_eq_append_iff.mp continued with ⟨rfl, _⟩ | ⟨between, rfl, _⟩
    · rw [List.append_nil] at order
      exact absurd order (Nat.lt_irrefl _)
    · have longer := (goesOn_fork inside between).scopes.length_le
      rwa [List.length_append] at longer
  · have longer := (goesOn_ofCalls start between).homes.length_le
    omega

/-- Neither its source nor another fork lives below the scope of a fork. -/
theorem MadeFrom.not_onPath {fork own : Nat} (made : MadeFrom .fork calls source fork)
    (lives : (ofCalls calls).homes[fork]? = some own) {exchange home : Nat}
    (other : exchange = source ∨ exchange ≠ fork ∧ MadeFrom .fork calls source exchange)
    (place : (ofCalls calls).homes[exchange]? = some home) : ¬(ofCalls calls).OnPath home own := by
  obtain ⟨above, below, there, found, entry⟩ := made.forked
  cases lives.symm.trans found
  have orderly := orderly_ofCalls calls
  have earlier := orderly.below entry rfl
  rcases other with rfl | ⟨different, sibling⟩
  · cases place.symm.trans there
    exact fun path => absurd (orderly.le_of_onPath path) (Nat.not_le.mpr earlier)
  · obtain ⟨_, next, source, same, under⟩ := sibling.forked
    cases place.symm.trans same
    cases there.symm.trans source
    have apart : own ≠ home := by
      rcases Nat.lt_or_gt_of_ne different with before | after
      · exact Nat.ne_of_gt (sibling.lt_of_lt made before place lives)
      · exact Nat.ne_of_lt (made.lt_of_lt sibling after lives place)
    intro path
    rcases (onPath_iff under own).mp path with rfl | ⟨_, ⟨⟩, rest⟩
    · exact apart rfl
    · exact absurd (orderly.le_of_onPath rest) (Nat.not_le.mpr earlier)

/-- A cancellation reaches whatever was made from the exchange. -/
theorem Descends.cancelled {made home : Nat} (descends : Descends calls source made)
    (lives : (ofCalls calls).homes[source]? = some home) (stopped : (ofCalls calls).Cancelled home) :
    ∃ own, (ofCalls calls).homes[made]? = some own ∧ (ofCalls calls).Cancelled own := by
  induction descends with
  | self => exact ⟨home, lives, stopped⟩
  | copy _ copied reached =>
    obtain ⟨between, found, cancelled⟩ := reached
    obtain ⟨_, same, shared⟩ := copied.copied
    cases found.symm.trans same
    exact ⟨_, shared, cancelled⟩
  | fork _ forked reached =>
    obtain ⟨between, found, top, path, member⟩ := reached
    obtain ⟨_, own, same, below, entry⟩ := forked.forked
    cases found.symm.trans same
    exact ⟨own, below, top, .up entry rfl path, member⟩

end Ledger

namespace Engine

open Ledger

variable {κ η : Type}

/-- Checks of exchanges answer what was called on scopes and exchanges so far. -/
structure ChecksFollowCalls (start : Engine κ η) (calls : List ScopeCall) : Prop where
  /-- The check of an exchange fails with a deadline if one on the way to the root has passed, otherwise with a
  cancellation if there was one, and otherwise it does not fail. -/
  answers : ∀ {exchange home : Nat}, (ofCalls calls).homes[exchange]? = some home → ∀ t : Instant,
    ∃ answer, checkAfter start calls exchange t = some answer ∧ (ofCalls calls).Answers home t answer
  /-- A copy is checked like its source. -/
  copies : ∀ {source copy : Nat}, MadeFrom .copy calls source copy → ∀ t : Instant,
    checkAfter start calls copy t = checkAfter start calls source t
  /-- The cancellation of a fork changes no check of its source, then or later. -/
  source : ∀ {source fork : Nat} {call : ScopeCall}, MadeFrom .fork calls source fork → Cancels calls call fork →
    ∀ (later : List ScopeCall) (t : Instant),
      checkAfter start (calls ++ call :: later) source t = checkAfter start (calls ++ later) source t
  /-- Nor does it change one of another fork of the source. -/
  siblings : ∀ {source fork : Nat} {call : ScopeCall}, MadeFrom .fork calls source fork → Cancels calls call fork →
    ∀ (later : List ScopeCall) (sibling : Nat), sibling ≠ fork → MadeFrom .fork (calls ++ later) source sibling →
      ∀ t : Instant, checkAfter start (calls ++ call :: later) sibling t = checkAfter start (calls ++ later) sibling t
  /-- The cancellation of an exchange reaches whatever was made from it, before or after. -/
  reaches : ∀ {source made : Nat} {call : ScopeCall} {later : List ScopeCall}, Cancels calls call source →
    Descends (calls ++ call :: later) source made → ∀ t : Instant,
      ∃ fault, checkAfter start (calls ++ call :: later) made t = some (.error fault)
  /-- An exchange that takes another one over changes no check. -/
  absorbs : ∀ (into other : Nat) (later : List ScopeCall) (exchange : Nat) (t : Instant),
    checkAfter start (calls ++ .absorb into other :: later) exchange t = checkAfter start (calls ++ later) exchange t
  /-- A check that has failed fails ever after. -/
  lasts : ∀ {exchange : Nat} {t : Instant} {fault : Fault}, checkAfter start calls exchange t = some (.error fault) →
    ∀ (later : List ScopeCall) (u : Instant), t ≤ u →
      ∃ last, checkAfter start (calls ++ later) exchange u = some (.error last)

variable {start : Engine κ η} {calls : List ScopeCall}

/-- A cancellation changes no check of an exchange that does not live below it. -/
theorem checkAfter_spared (fresh : (ofCalls []).Agrees ⟨[start.scope], []⟩ start) {call : ScopeCall} {scope : Nat}
    (target : (ofCalls calls).target? call = some scope) {later : List ScopeCall} {exchange : Nat}
    (apart : ∀ home, (ofCalls (calls ++ later)).homes[exchange]? = some home →
      ¬(ofCalls (calls ++ later)).OnPath home scope) (t : Instant) :
    checkAfter start (calls ++ call :: later) exchange t = checkAfter start (calls ++ later) exchange t := by
  have differs := differsBy_ofCalls target later
  refine (checkAfter_congr fresh (congrArg (·[exchange]?) differs.homes.symm) ?_).symm
  exact fun home answer lives answers => answers.differing differs (apart home lives)

/-- A check of an exchange fails once its scope was cancelled. -/
theorem checkAfter_cancelled (fresh : (ofCalls []).Agrees ⟨[start.scope], []⟩ start) {exchange home : Nat}
    (lives : (ofCalls calls).homes[exchange]? = some home) (stopped : (ofCalls calls).Cancelled home) (t : Instant) :
    ∃ fault, checkAfter start calls exchange t = some (.error fault) := by
  obtain ⟨answer, checked, answers⟩ := exists_checkAfter fresh lives t
  obtain ⟨fault, rfl⟩ := answers.fails_iff.mpr (.inr stopped)
  exact ⟨fault, checked⟩

/-- Whatever is called on the scopes and exchanges of an engine, in whatever order, their checks answer the calls. -/
theorem checks_follow_calls (config : Config) (now : Instant) (state : η) (calls : List ScopeCall) :
    ChecksFollowCalls (standard config now state : Engine κ η) calls := by
  have fresh := agrees_standard (κ := κ) config now state
  constructor
  case answers => exact fun lives t => exists_checkAfter fresh lives t
  case copies =>
    intro source copy made t
    obtain ⟨home, lives, shared⟩ := made.copied
    exact checkAfter_congr fresh (shared.trans lives.symm) fun _ _ _ answers => answers
  case source =>
    rintro source fork call made ⟨own, lives, target⟩ later t
    have still := (goesOn_ofCalls calls later).home lives
    exact checkAfter_spared fresh target (fun _ place => (made.later later).not_onPath still (.inl rfl) place) t
  case siblings =>
    rintro source fork call made ⟨own, lives, target⟩ later sibling different also t
    have still := (goesOn_ofCalls calls later).home lives
    refine checkAfter_spared fresh target (fun home place => ?_) t
    exact (made.later later).not_onPath still (.inr ⟨different, also⟩) place
  case reaches =>
    rintro source made call later ⟨home, lives, target⟩ descends t
    have goesOn := goesOn_ofCalls (calls ++ [call]) later
    rw [List.append_assoc, List.singleton_append, ofCalls_concat, note_of_target target] at goesOn
    have stopped := goesOn.stillCancelled ⟨home, .self home, List.mem_cons_self⟩
    obtain ⟨own, place, reached⟩ := descends.cancelled (goesOn.home lives) stopped
    exact checkAfter_cancelled fresh place reached t
  case absorbs =>
    intro into other later exchange t
    have same : ofCalls (calls ++ .absorb into other :: later) = ofCalls (calls ++ later) := by
      rw [ofCalls, ofCalls, List.foldl_append, List.foldl_append]
      rfl
    exact checkAfter_congr fresh (by rw [same]) fun _ _ _ answers => same ▸ answers
  case lasts =>
    intro exchange t fault failed later u order
    have spec := checkAfter_spec fresh calls exchange t
    rw [failed] at spec
    cases lives : (ofCalls calls).homes[exchange]? with
    | none => simp [lives] at spec
    | some home =>
      simp only [lives] at spec
      obtain ⟨_, ⟨⟩, answers⟩ := spec
      have goesOn := goesOn_ofCalls calls later
      obtain ⟨answer, checked, promised⟩ := exists_checkAfter fresh (goesOn.home lives) u
      have still : (ofCalls (calls ++ later)).Expired home u ∨ (ofCalls (calls ++ later)).Cancelled home :=
        (answers.fails_iff.mp ⟨fault, rfl⟩).imp (goesOn.expired order) goesOn.stillCancelled
      obtain ⟨last, rfl⟩ := promised.fails_iff.mpr still
      exact ⟨last, checked⟩

/-- Of an exchange, its fork and a copy of the fork, the cancellation of the copy stops two. -/
example (config : Config) (state : η) :
    [0, 1, 2].map (checkAfter (standard config 0 state : Engine κ η)
      [.create 0 [] .null, .fork 0, .copy 1, .cancelExchange 2] · 5) =
      [some (.ok ()), some (.error .cancelled), some (.error .cancelled)] := rfl

end Engine

end MessageRouting
