import MessageRouting.Proofs.Lifecycle.Heeding

/-!
# Calls under their locks

Registering relies on the phase under a share of its lock and on a free name under the lock of the routes. Starting and
stopping hold the lock of the phase alone while they change the phase. What is stopped after the lock was given back
belongs to the call that stopped the runtime.
-/

namespace MessageRouting.Engine

variable {κ η α : Type} {stand later : Stand κ} {engine : Engine κ η}

/-! ## Locks -/

/-- A call moves on by taking or giving back a lock, or by looking at what is protected. -/
theorem Moves.relying {locks : Locks} (locking : Locking stand.held engine.locks later.held locks)
    (phasing : Phasing stand engine.phase later engine.phase)
    (routing : Routing stand engine.routes later engine.routes)
    (same : later = { stand with held := later.held, phase := later.phase, free := later.free }) (fits : later.Fits) :
    Moves stand engine later { engine with locks } where
  locking := locking
  phasing := phasing
  routing := routing
  covered others covered := by
    rw [same]
    exact covered.mono (List.Subset.refl _) rfl rfl
  idle := id
  calm calm := by
    rw [same] at calm
    exact ⟨calm, rfl, rfl, rfl, rfl⟩
  fits := fits

section Wrappers

variable {ends : α → Stand κ → Prop} {work : Work κ η α}

/-- What heeds the locks between taking a lock and giving it back does so with both. -/
theorem Heeds.between {taken : Stand κ} {goal : α → Stand κ → Prop} {take give : Work κ η Unit}
    (taking : Heeds (fun _ later => later = taken) stand take) (inside : Heeds goal taken work)
    (giving : ∀ result last, goal result last → Heeds (fun _ later => ends result later) last give) :
    Heeds ends stand (do take; let result ← work; give; return result) := by
  refine taking.bind fun _ later same => ?_
  rw [same]
  refine inside.bind fun result last ended => ?_
  exact (giving result last ended).bind fun _ _ => id

/-- What heeds the locks while it shares that of the phase does so with the lock. -/
theorem heeds_sharing (outside : stand.held.shares = false)
    (inside : Heeds (fun result last => last.held.shares = true ∧ (last.pending ≠ [] → last.retired = true) ∧
      ends result { last with held.shares := false, phase := none }) { stand with held.shares := true } work) :
    Heeds ends stand (sharing work) := by
  refine .between (.tryAtomically fun engine _ after knows took => ?_) inside fun result last ended => ?_
  · split at took
    · cases took
    · rename_i free
      cases took
      exact ⟨{ stand with held.shares := true }, .relying (.share outside (Bool.eq_false_iff.mpr free))
        (.left (.inl rfl) rfl rfl) (.left (.inl rfl) rfl rfl) rfl
        ⟨fun _ => .inl rfl, knows.fits.free, knows.fits.pending⟩, rfl⟩
  · obtain ⟨shares, pending, ended⟩ := ended
    exact .change fun engine knows => ⟨{ last with held.shares := false, phase := none },
      .relying (.unshare shares) (.left (.inr rfl) rfl rfl) (.left (.inl rfl) rfl rfl) rfl
      ⟨nofun, knows.fits.free, fun left => .inr (pending left)⟩, ended⟩

/-- What heeds the locks while it holds that of the phase alone does so with the lock. -/
theorem heeds_holding
    (inside : Heeds (fun result last => last.held.alone = true ∧ (last.pending ≠ [] → last.retired = true) ∧
      ends result { last with held.alone := false, phase := none }) { stand with held.alone := true } work) :
    Heeds ends stand (holding work) := by
  refine .between (.tryAtomically fun engine _ after knows took => ?_) inside fun result last ended => ?_
  · split at took
    · cases took
    · rename_i free
      cases took
      obtain ⟨free, unshared⟩ : engine.locks.exclusive = false ∧ engine.locks.sharing = 0 := by simpa using free
      exact ⟨{ stand with held.alone := true }, .relying (.seize free unshared) (.left (.inl rfl) rfl rfl)
        (.left (.inl rfl) rfl rfl) rfl ⟨fun _ => .inr rfl, knows.fits.free, knows.fits.pending⟩, rfl⟩
  · obtain ⟨alone, pending, ended⟩ := ended
    exact .change fun engine knows => ⟨{ last with held.alone := false, phase := none },
      .relying (.release alone) (.left (.inr rfl) rfl rfl) (.left (.inl rfl) rfl rfl) rfl
      ⟨nofun, knows.fits.free, fun left => .inr (pending left)⟩, ended⟩

/-- What heeds the locks while it holds that of the routes does so with the lock. -/
theorem heeds_holdingRoutes
    (inside : Heeds (fun result last => last.held.routes = true ∧
      ends result { last with held.routes := false, free := none }) { stand with held.routes := true } work) :
    Heeds ends stand (holdingRoutes work) := by
  refine .between (.tryAtomically fun engine _ after knows took => ?_) inside fun result last ended => ?_
  · split at took
    · cases took
    · rename_i free
      cases took
      exact ⟨{ stand with held.routes := true }, .relying (.lockRoutes (Bool.eq_false_iff.mpr free))
        (.left (.inl rfl) rfl rfl) (.left (.inl rfl) rfl rfl) rfl
        ⟨knows.fits.phase, fun _ => rfl, knows.fits.pending⟩, rfl⟩
  · obtain ⟨locked, ended⟩ := ended
    exact .change fun engine knows => ⟨{ last with held.routes := false, free := none },
      .relying (.unlockRoutes locked) (.left (.inl rfl) rfl rfl) (.left (.inr rfl) rfl rfl) rfl
      ⟨knows.fits.phase, nofun, knows.fits.pending⟩, ended⟩

end Wrappers

/-- A call that has the lock of the phase may look at the phase. -/
theorem heeds_readPhase (locked : stand.held.shares = true ∨ stand.held.alone = true) (pending : stand.pending = []) :
    Heeds (fun phase later => later = { stand with phase := some phase }) stand
      (Program.read (·.phase) : Work κ η Phase) :=
  .read fun engine knows => ⟨{ stand with phase := some engine.phase },
    .relying .same (.read rfl rfl rfl) (.left (.inl rfl) rfl rfl) rfl
    ⟨fun _ => locked, knows.fits.free, fun left => absurd pending left⟩, rfl⟩

/-- Consumers that were started are handed over while the runtime goes on. -/
theorem Moves.handOver (knows : Knows stand engine) (going : stand.Open) {started : List (ActiveConsumer κ)}
    (pending : stand.pending ⊆ started) : Moves stand engine (stand.withPending []) (activate started engine) where
  locking := .same
  phasing := .left (.inl rfl) rfl rfl
  routing := .left (.inl rfl) rfl rfl
  covered others covered := by
    refine covered.mono ?_ rfl rfl
    change engine.consumers ++ (stand.pending ++ others) ⊆ (engine.consumers ++ started) ++ others
    rw [List.append_assoc]
    intro active member
    simp only [List.mem_append] at member ⊢
    exact member.imp_right (.imp_left (pending ·))
  idle _ stopped := by
    obtain ⟨phase, relies, different⟩ := going
    exact absurd ((knows.phase phase relies).symm.trans stopped) different
  calm calm := nomatch calm
  fits := ⟨knows.fits.phase, knows.fits.free, fun left => absurd rfl left⟩

/-! ## Registering -/

variable (embedding : Embedding κ η)

/-- The call has kept a route of the name, or else touched nothing. -/
def Stand.Registers (name : String) (last : Stand κ) : Except Fault Unit → Prop
  | .ok () => last.accepted = some name
  | .error _ => last.calm = true

/-- The consumer of a route that was started is handed over while the runtime goes on. -/
theorem heeds_activate {began : Stand κ} {active : ActiveConsumer κ} (going : stand.Open) (pending : stand.pending = [])
    (tries : stand.Tries began (.ok active)) :
    Heeds (fun _ last => last = stand.withPending []) began (Program.change (activate [active]) : Work κ η Unit) := by
  refine .change fun engine knows => ?_
  rcases tries with rfl | ⟨-, rfl⟩
  · exact ⟨_, .handOver knows going (by rw [pending]; exact List.nil_subset _), rfl⟩
  · exact ⟨_, .handOver knows going (by rw [pending]; exact List.Subset.refl _), rfl⟩

/-- A route is kept under a name that is free. -/
theorem heeds_keepRoute (stand : Stand κ) {route : Route κ} (going : stand.Open) (free : stand.free = some route.name) :
    Heeds (fun _ last => last.held = stand.held ∧ last.pending = stand.pending ∧ last.accepted = some route.name) stand
      (Program.change (keepRoute route) : Work κ η Unit) := by
  refine .change fun engine knows => ⟨{ stand with free := none, accepted := some route.name, calm := false }, ?_,
    rfl, rfl, rfl⟩
  exact {
    locking := .same
    phasing := .left (.inl rfl) rfl rfl
    routing := .keep going free rfl rfl rfl
    covered := fun others covered => covered.mono (List.Subset.refl _) rfl rfl
    idle := id
    calm := fun calm => nomatch calm
    fits := ⟨knows.fits.phase, nofun, knows.fits.pending⟩ }

/-- A route is started if need be and kept, or else nothing has changed. -/
theorem heeds_enrol (stand : Stand κ) (route : Route κ) (going : stand.Open) (locked : stand.held.routes = true)
    (pending : stand.pending = []) (calm : stand.calm = true) :
    Heeds (fun given last => last.held = stand.held ∧ last.pending = [] ∧ last.Registers route.name given) stand
      (enrol embedding route) := by
  have looking : Heeds (fun taken later => taken = true ∧ later = stand ∨
      taken = false ∧ later = { stand with free := some route.name }) stand
      (Program.read fun engine => engine.routes.has route.name : Work κ η Bool) := by
    refine .read fun engine knows => ?_
    cases taken : engine.routes.has route.name with
    | true => exact ⟨stand, .quiet knows.fits (overTime_quiet.refl engine), .inl ⟨rfl, rfl⟩⟩
    | false => exact ⟨{ stand with free := some route.name }, .relying .same (.left (.inl rfl) rfl rfl)
        (.read taken rfl rfl rfl) rfl ⟨knows.fits.phase, fun _ => locked, knows.fits.pending⟩, .inr ⟨rfl, rfl⟩⟩
  refine looking.bind fun taken middle found => ?_
  rcases found with ⟨rfl, rfl⟩ | ⟨rfl, same⟩
  · exact ⟨rfl, pending, calm⟩
  · -- From here on the name is free until the lock is given back.
    have relies : middle.Open := by rw [same]; exact going
    have free : middle.free = some route.name := by rw [same]
    have unused : middle.pending = [] := by rw [same]; exact pending
    have untouched : middle.calm = true := by rw [same]; exact calm
    have held : middle.held = stand.held := by rw [same]
    clear same looking
    refine (Heeds.quiet (Program.Sections.read overTime_quiet _)).bind fun phase _ still => ?_
    cases still
    split
    · refine (heeds_startRoute embedding route (.inl relies)).bind fun given began tries => ?_
      cases given with
      | error fault =>
        cases tries
        exact ⟨held, unused, untouched⟩
      | ok started =>
        refine (heeds_activate relies unused tries).bind fun _ last handed => ?_
        cases handed
        refine (heeds_keepRoute (middle.withPending []) relies free).bind fun _ last kept => ?_
        exact ⟨kept.1.trans held, kept.2.1, kept.2.2⟩
    · refine (heeds_keepRoute middle relies free).bind fun _ last kept => ?_
      exact ⟨kept.1.trans held, kept.2.1.trans unused, kept.2.2⟩

/-- A route that was compiled from a definition bears its name. -/
theorem name_of_compileRoute {definition : Definition κ} {route : Route κ}
    (compiled : (compileRoute definition engine).1 = .ok route) : route.name = definition.name := by
  simp only [compileRoute, Definition.compile] at compiled
  split at compiled
  · cases compiled
  · obtain ⟨_, -, rest⟩ := exists_of_bind_eq_ok compiled
    obtain ⟨_, -, made⟩ := exists_of_bind_eq_ok rest
    cases made
    rfl

/-- Registering while sharing the lock of the phase keeps a route, or else touches nothing. -/
theorem heeds_registerShared (definition : Definition κ) (locked : stand.held.shares = true)
    (pending : stand.pending = []) (calm : stand.calm = true) :
    Heeds (fun given last => last.held.shares = true ∧ last.pending = [] ∧ last.Registers definition.name given) stand
      (registerShared embedding definition) := by
  refine (heeds_readPhase (.inl locked) pending).bind fun phase middle same => ?_
  have held : middle.held.shares = true := by rw [same]; exact locked
  have unused : middle.pending = [] := by rw [same]; exact pending
  have untouched : middle.calm = true := by rw [same]; exact calm
  have relies : middle.phase = some phase := by rw [same]
  clear same
  split
  · exact ⟨held, unused, untouched⟩
  · rename_i going
    refine (Heeds.quiet (Program.Sections.read overTime_quiet _)).bind fun taken _ still => ?_
    cases still
    split
    · exact ⟨held, unused, untouched⟩
    · have compiling : Heeds (fun given later => later = middle ∧ ∀ route, given = .ok route →
          route.name = definition.name) middle
          (Program.atomically (compileRoute definition) : Work κ η (Except Fault (Route κ))) :=
        .atomically fun engine knows => ⟨middle, .quiet knows.fits ⟨⟨rfl, rfl, rfl, rfl⟩, rfl, rfl⟩, rfl,
          fun _ => name_of_compileRoute⟩
      refine compiling.bind fun given _ ⟨still, named⟩ => ?_
      cases still
      cases given with
      | error fault => exact ⟨held, unused, untouched⟩
      | ok route =>
        refine heeds_holdingRoutes ((heeds_enrol embedding { middle with held.routes := true } route
          ⟨phase, relies, going⟩ rfl unused untouched).mono ?_)
        rintro given last ⟨same, none, registers⟩
        rw [named route rfl] at registers
        refine ⟨by rw [same], by rw [same]; exact held, none, ?_⟩
        cases given <;> exact registers

/-- Registering a definition keeps a route of its name, or else touches nothing. -/
theorem heeds_registerRoute (definition : Definition κ) :
    Heeds (fun given last => last.Registers definition.name given) .outside (registerRoute embedding definition) := by
  refine heeds_sharing rfl ((heeds_registerShared embedding definition rfl rfl rfl).mono ?_)
  rintro given last ⟨shares, none, registers⟩
  refine ⟨shares, fun left => absurd none left, ?_⟩
  cases given <;> exact registers

/-! ## Starting -/

/-- Starting while holding the lock of the phase starts the runtime, or else leaves no consumers under way. -/
theorem heeds_startHolding (locked : stand.held.alone = true) (pending : stand.pending = []) :
    Heeds (fun given last => last.held.alone = true ∧ last.pending = [] ∧ (given = .ok () → last.opened = true)) stand
      (startHolding embedding) := by
  refine (heeds_readPhase (.inr locked) pending).bind fun phase middle same => ?_
  have held : middle.held.alone = true := by rw [same]; exact locked
  have unused : middle.pending = [] := by rw [same]; exact pending
  have relies : middle.phase = some phase := by rw [same]
  clear same
  cases phase with
  | started => exact ⟨held, unused, nofun⟩
  | stopped => exact ⟨held, unused, nofun⟩
  | created =>
    have going : middle.Open := ⟨.created, relies, nofun⟩
    refine (Heeds.quiet (Program.Sections.read overTime_quiet _)).bind fun routes _ still => ?_
    cases still
    have nothing : middle.pending ⊆ running [] := by rw [unused]; exact List.nil_subset _
    refine (heeds_startAll embedding going nothing).bind fun given later ⟨handles, ended⟩ => ?_
    have alone : later.held.alone = true := by rw [handles]; exact held
    have created : later.phase = some .created := by rw [handles]; exact relies
    clear handles
    cases given with
    | error fault => exact ⟨alone, ended, nofun⟩
    | ok all =>
      have handing : Heeds (fun _ last => last = later.withPending []) later
          (Program.change (activate all) : Work κ η Unit) :=
        .change fun engine knows => ⟨_, .handOver knows ⟨.created, created, nofun⟩ ended, rfl⟩
      refine handing.bind fun _ last handed => ?_
      have opening : Heeds (fun _ last => last.held.alone = true ∧ last.pending = [] ∧ last.opened = true) last
          (Program.change fun engine => { engine with phase := .started } : Work κ η Unit) := by
        rw [handed]
        refine .change fun engine knows =>
          ⟨{ later.withPending [] with phase := some .started, opened := true }, ?_, alone, rfl, rfl⟩
        exact {
          locking := .same
          phasing := .started alone created rfl rfl rfl
          routing := .left (.inl rfl) rfl rfl
          covered := fun others covered => covered.mono (List.Subset.refl _) rfl rfl
          idle := fun _ stopped => nomatch stopped
          calm := fun calm => nomatch calm
          fits := ⟨fun _ => .inr alone, knows.fits.free, fun left => absurd rfl left⟩ }
      exact opening.bind fun _ last started => ⟨started.1, started.2.1, fun _ => started.2.2⟩

/-- A call that starts a runtime has started it if it says so. -/
theorem heeds_start :
    Heeds (fun given last => given = .ok () → last.opened = true) .outside (start embedding) := by
  refine heeds_holding ((heeds_startHolding embedding rfl rfl).mono ?_)
  rintro given last ⟨alone, none, opened⟩
  exact ⟨alone, fun left => absurd none left, opened⟩

/-! ## Stopping -/

/-- Stopping while holding the lock of the phase takes the active consumers over, unless the runtime was stopped. -/
theorem heeds_retireHolding (locked : stand.held.alone = true) (pending : stand.pending = [])
    (retired : stand.retired = false) :
    Heeds (fun given last => last.held.alone = true ∧ match given with
      | none => last.pending = [] ∧ last.retired = false
      | some consumers => last.retired = true ∧ last.pending ⊆ running consumers.reverse) stand
      (retireHolding : Work κ η (Option (List (ActiveConsumer κ)))) := by
  refine (heeds_readPhase (.inr locked) pending).bind fun phase middle same => ?_
  have held : middle.held.alone = true := by rw [same]; exact locked
  have unused : middle.pending = [] := by rw [same]; exact pending
  have unretired : middle.retired = false := by rw [same]; exact retired
  have relies : middle.phase = some phase := by rw [same]
  clear same
  split
  · exact ⟨held, unused, unretired⟩
  · rename_i going
    have retiring : Heeds (fun consumers last => last.held.alone = true ∧ last.retired = true ∧
        last.pending ⊆ running consumers.reverse) middle
        (Program.atomically retire : Work κ η (List (ActiveConsumer κ))) := by
      refine .atomically fun engine knows => ⟨{ middle with
        phase := some .stopped, retired := true, pending := running engine.consumers.reverse, calm := false }, ?_,
        held, rfl, List.Subset.refl _⟩
      exact {
        locking := .same
        phasing := .retire held ⟨phase, relies, going⟩ rfl rfl rfl
        routing := .left (.inl rfl) rfl rfl
        covered := fun others covered => by
          have taken : (retire engine).2.Covered (engine.consumers.reverse ++ others) := by
            refine covered.mono ?_ rfl rfl
            rw [unused]
            have reversed : engine.consumers ⊆ engine.consumers.reverse := fun _ => List.mem_reverse.mpr
            exact List.append_subset.mpr
              ⟨List.subset_append_of_subset_left _ reversed, List.subset_append_right _ _⟩
          exact taken.running
        idle := fun _ _ => rfl
        calm := fun calm => nomatch calm
        fits := ⟨fun _ => .inr held, knows.fits.free, fun _ => .inr rfl⟩ }
    exact retiring.bind fun consumers last taken => taken

/-- Emptying the registries takes all routes away once the runtime was stopped. -/
theorem heeds_clearAll (retired : stand.retired = true) (pending : stand.pending = []) :
    Heeds (fun _ last => last.pending = [] ∧ last.cleared = true) stand (clearAll : Work κ η Unit) := by
  have emptying : Heeds (fun _ last => last.held.routes = true ∧ last.pending = [] ∧ last.cleared = true)
      { stand with held.routes := true }
      (Program.change fun engine => { engine with routes := [] } : Work κ η Unit) := by
    refine .change fun engine knows => ⟨{ stand with
      held.routes := true, free := none, cleared := true, calm := false }, ?_, rfl, pending, rfl⟩
    exact {
      locking := .same
      phasing := .left (.inl rfl) rfl rfl
      routing := .clear retired rfl rfl rfl
      covered := fun others covered => covered.mono (List.Subset.refl _) rfl rfl
      idle := id
      calm := fun calm => nomatch calm
      fits := ⟨knows.fits.phase, nofun, knows.fits.pending⟩ }
  have locked : Heeds (fun _ last => last.pending = [] ∧ last.cleared = true) stand
      (holdingRoutes (Program.change fun engine => { engine with routes := [] }) : Work κ η Unit) :=
    heeds_holdingRoutes emptying
  refine locked.bind fun _ last emptied => ?_
  refine (Heeds.quiet ?_).mono fun _ later still => still ▸ emptied
  -- The other registries are none of what calls go by.
  refine .bind (.change fun _ => ⟨⟨rfl, rfl, rfl, rfl⟩, rfl, rfl⟩) fun _ => ?_
  refine .bind (.change fun _ => ⟨⟨rfl, rfl, rfl, rfl⟩, rfl, rfl⟩) fun _ => ?_
  refine .bind (.change fun _ => ⟨⟨rfl, rfl, rfl, rfl⟩, rfl, rfl⟩) fun _ => ?_
  refine .bind (.bind (.change fun _ => ⟨⟨rfl, rfl, rfl, rfl⟩, rfl, rfl⟩) fun _ => ?_) fun _ => ?_
  · exact .change fun _ => ⟨⟨rfl, rfl, rfl, rfl⟩, rfl, rfl⟩
  · exact .change fun _ => ⟨⟨rfl, rfl, rfl, rfl⟩, rfl, rfl⟩

/-- A call that has stopped the runtime has left no consumers and no routes when it comes to its end. -/
theorem heeds_stop :
    Heeds (fun _ last => last.retired = true → last.pending = [] ∧ last.cleared = true) .outside (stop embedding) := by
  have taking : Heeds (fun given last => match given with
      | none => last.retired = false
      | some consumers => last.retired = true ∧ last.pending ⊆ running consumers.reverse) .outside
      (holding retireHolding : Work κ η (Option (List (ActiveConsumer κ)))) := by
    refine heeds_holding ((heeds_retireHolding rfl rfl rfl).mono ?_)
    rintro given last ⟨alone, ended⟩
    cases given with
    | none => exact ⟨alone, fun left => absurd ended.1 left, ended.2⟩
    | some consumers => exact ⟨alone, fun _ => ended.1, ended⟩
  refine taking.bind fun given last ended => ?_
  cases given with
  | none => exact fun retired => absurd (ended.symm.trans retired) Bool.false_ne_true
  | some consumers =>
    obtain ⟨retired, pending⟩ := ended
    refine (heeds_stopAll embedding (.inr retired) pending).bind fun fault later ⟨handles, stopped⟩ => ?_
    have still : later.retired = true := by rw [handles]; exact retired
    exact (heeds_clearAll still stopped).bind fun _ last cleared _ => cleared

end MessageRouting.Engine
