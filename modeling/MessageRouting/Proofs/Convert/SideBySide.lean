import MessageRouting.Proofs.Convert.Calls
import MessageRouting.Proofs.Program.Runs

/-!
# Calls on converters side by side

A path is searched in one section and kept in another one, and a converter is put in place in one section before the
paths are forgotten in another one. Each call is careful: it keeps no path but the one that it has just found, and it
forgets all paths after it changed what is registered. So a path that is kept when no call is in progress was found by
the call that kept it, over the converters that it met in its search, and nothing has changed since it was kept. If a
whole registration fell between the search and the keeping, the path is out of date, and it stays so.
-/

namespace MessageRouting

open MessageRouting.Convert

variable {κ η α : Type}

/-! ## What sections do -/

/-- What a section of a call does to converters: nothing, or it keeps the path that is found over the converters that
the call met in the section before, or it changes what is registered and owes that all paths are forgotten, or it pays
that. -/
inductive Converters.Touched (met : Option (Converters κ)) (before : Converters κ) :
    Converters κ → Bool → Bool → Prop
  /-- It does nothing. -/
  | left (owing : Bool) : Touched met before before owing owing
  /-- It keeps a path. -/
  | kept (owing : Bool) (edge : Edge) {searched : Converters κ} (found : met = some searched) :
    Touched met before (before.remember edge (searched.find edge)) owing owing
  /-- It changes what is registered. -/
  | changed (owing : Bool) (edges : List (Edge × Converter κ)) : Touched met before { before with edges } owing true
  /-- It forgets all paths. -/
  | forgot (owing : Bool) : Touched met before before.forget owing false

namespace Engine

/-- The call keeps no path but those that it found in the section before, and where it changes what is registered, it
forgets all paths later, whatever happens between its sections. -/
def Careful : Option (Converters κ) → Bool → Work κ η α → Prop
  | _, owing, .done _ => owing = false
  | met, owing, .act update next => ∀ engine after, update engine = some after →
    ∃ owes, Converters.Touched met engine.converters after.converters owing owes ∧
      Careful (some engine.converters) owes (next engine)
  | met, owing, .call _ next => ∀ answer, Careful met owing (next answer)

/-! ## Careful calls -/

/-- Careful calls that owe nothing in the end may be followed by careful ones. -/
theorem Careful.bind {β : Type} {met : Option (Converters κ)} {owing : Bool} {work : Work κ η α}
    {next : α → Work κ η β} (first : Careful met owing work)
    (later : ∀ result last, Careful last false (next result)) : Careful met owing (work >>= next) := by
  change Careful met owing (Program.bind work next)
  induction work generalizing met owing with
  | done result =>
    have nothing : owing = false := first
    rw [nothing]
    exact later result met
  | act update rest ih =>
    intro engine after took
    obtain ⟨owes, touched, follows⟩ := first engine after took
    exact ⟨owes, touched, ih engine follows⟩
  | call task rest ih => exact fun answer => ih answer (first answer)

/-- An end is careful. -/
theorem Careful.pure (result : α) (met : Option (Converters κ)) :
    Careful met false (Pure.pure result : Work κ η α) := rfl

/-- Reading is careful. -/
theorem Careful.read (f : Engine κ η → α) (met : Option (Converters κ)) :
    Careful met false (Program.read f : Work κ η α) := by
  intro engine after took
  cases took
  exact ⟨false, .left false, rfl⟩

/-- Registering a converter is careful. -/
theorem careful_registerConverter (edge : Edge) (converter : Converter κ) (met : Option (Converters κ)) :
    Careful met false (registerConverter edge converter : Work κ η Unit) := by
  intro engine after took
  cases took
  refine ⟨true, .changed false (engine.converters.place edge converter).edges, fun between last forgot => ?_⟩
  cases forgot
  exact ⟨false, .forgot true, rfl⟩

/-- Taking all converters away is careful. -/
theorem careful_clearConverters (met : Option (Converters κ)) :
    Careful met false (clearConverters : Work κ η Unit) := by
  intro engine after took
  cases took
  refine ⟨true, .changed false [], fun between last forgot => ?_⟩
  cases forgot
  exact ⟨false, .forgot true, rfl⟩

/-- Looking for a path is careful. -/
theorem careful_pathBetween (edge : Edge) (met : Option (Converters κ)) :
    Careful met false (pathBetween edge : Work κ η (Option (List Kind))) := by
  refine (Careful.read (fun engine => engine.converters.known? edge) met).bind fun known last => ?_
  cases known with
  | some path => exact .pure path last
  | none =>
    -- The search meets the converters over which the path is found that is kept in the next section.
    intro searching found searched
    cases searched
    refine ⟨false, .left false, fun keeping after remembered => ?_⟩
    cases remembered
    exact ⟨false, .kept false edge rfl, rfl⟩

/-- Asking for a way is careful. -/
theorem careful_canConvert (source target : Kind) (met : Option (Converters κ)) :
    Careful met false (canConvert source target : Work κ η Bool) := by
  unfold canConvert
  split
  · exact .pure true met
  · exact (careful_pathBetween (source, target) met).bind fun path last => .pure path.isSome last

end Engine

/-- Converters of the embedding program do nothing with converters that careful calls do not do. -/
def Embedding.ConvertsCarefully (embedding : Embedding κ η) : Prop :=
  ∀ code value params met, Engine.Careful met false (embedding.convert code value params)

namespace Engine

section Calls

variable {embedding : Embedding κ η} (carefully : embedding.ConvertsCarefully)

include carefully

/-- Applying a converter is careful. -/
theorem careful_applyConverter (converter : Converter κ) (value : Value) (params : Table String)
    (met : Option (Converters κ)) : Careful met false (applyConverter embedding converter value params) := by
  cases converter with
  | builtin conversion => exact .pure _ met
  | custom code => exact carefully code value params met

/-- Converting along edges is careful. -/
theorem careful_convertAlong (params : Table String) (edges : List Edge) :
    ∀ (value : Value) (met : Option (Converters κ)),
      Careful met false (convertAlong embedding params edges value) := by
  induction edges with
  | nil => exact fun value met => .pure (Ending.returned value) met
  | cons edge rest ih =>
    intro value met
    refine (Careful.read (fun engine => engine.converters.at? edge) met).bind fun found last => ?_
    cases found with
    | none => exact .pure _ last
    | some converter =>
      refine (careful_applyConverter carefully converter value params last).bind fun ending last => ?_
      cases ending with
      | returned next => exact ih next last
      | failed cause => exact .pure _ last
      | panicked panic => exact .pure _ last

/-- Converting is careful. -/
theorem careful_convert (value : Value) (target : Kind) (params : Table String) (met : Option (Converters κ)) :
    Careful met false (convert embedding value target params) := by
  unfold Engine.convert
  split
  · exact .pure _ met
  · refine (careful_pathBetween (value.kind, target) met).bind fun path last => ?_
    cases path with
    | none => exact .pure _ last
    | some path => exact careful_convertAlong carefully params (hops path) value last

/-- Every call is careful. -/
theorem careful_perform (call : ConverterCall κ) (met : Option (Converters κ)) :
    Careful met false (perform embedding call) := by
  cases call with
  | register edge converter =>
    exact (careful_registerConverter edge converter met).bind fun _ last => .pure ConverterAnswer.done last
  | clear => exact (careful_clearConverters met).bind fun _ last => .pure ConverterAnswer.done last
  | canConvert source target =>
    exact (careful_canConvert source target met).bind fun answer last => .pure (ConverterAnswer.possible answer) last
  | convert value target params =>
    exact (careful_convert carefully value target params met).bind fun ending last =>
      .pure (ConverterAnswer.converted ending) last

end Calls

/-! ## Kept paths -/

/-- Calls on converters that run side by side. -/
abbrev Calling (κ η : Type) := Interleaving (Engine κ η) (Processor κ × Exchange) Outcome ConverterAnswer

/-- What begins is a call. -/
def IsCall (embedding : Embedding κ η) (program : Work κ η ConverterAnswer) : Prop :=
  ∃ call, program = perform embedding call

/-- All else leaves the converters alone. -/
def LeavesConverters (before after : Engine κ η) : Prop := after.converters = before.converters

/-- A call searched a path over the converters of one engine, and in its next section kept it in those of another. -/
structure ComesOf (past : List (Nat × Engine κ η)) (edge : Edge) (path : Option (List Kind))
    (searched kept : Engine κ η) : Prop where
  /-- The sections are in a row. -/
  row : Interleaving.InARow past searched kept
  /-- The path was found. -/
  found : path = searched.converters.find edge

/-- Each kept path comes of a call, and what was registered when it was kept is registered now, unless it is owed that
paths are forgotten. -/
def PathsCome (past : List (Nat × Engine κ η)) (converters : Converters κ) (owed : Prop) : Prop :=
  ∀ edge path, converters.known? edge = some path → ∃ searched kept, ComesOf past edge path searched kept ∧
    (converters.edges = kept.converters.edges ∨ owed)

/-- Some call in progress owes that all paths are forgotten. -/
def Owed (now : Calling κ η) (owing : Nat → Bool) : Prop := ∃ n < now.programs.length, owing n = true

/-- All calls are careful where they stand, and kept paths come of calls. -/
structure Sound (now : Calling κ η) (owing : Nat → Bool) : Prop where
  /-- The calls are careful. -/
  careful : ∀ n call, now.programs[n]? = some call →
    Careful ((now.lastMet n).map Engine.converters) (owing n) call
  /-- The paths come of calls. -/
  come : PathsCome now.past now.state.converters (Owed now owing)

/-- Kept paths still come of calls when more takes place. -/
theorem PathsCome.cons {past : List (Nat × Engine κ η)} {converters : Converters κ} {owed : Prop}
    (come : PathsCome past converters owed) (entry : Nat × Engine κ η) :
    PathsCome (entry :: past) converters owed := by
  intro edge path known
  obtain ⟨searched, kept, comes, registered⟩ := come edge path known
  exact ⟨searched, kept, ⟨comes.row.cons entry, comes.found⟩, registered⟩

/-- Kept paths come of calls with more that is owed. -/
theorem PathsCome.mono {past : List (Nat × Engine κ η)} {converters : Converters κ} {owed stillOwed : Prop}
    (come : PathsCome past converters owed) (still : owed → stillOwed) : PathsCome past converters stillOwed := by
  intro edge path known
  obtain ⟨searched, kept, comes, registered⟩ := come edge path known
  exact ⟨searched, kept, comes, registered.imp id still⟩

/-- After a section of a call, kept paths come of calls. -/
theorem PathsCome.touched {now : Calling κ η} {n : Nat} {after : Converters κ} {owed stillOwed : Prop}
    {owing owes : Bool} (come : PathsCome now.past now.state.converters owed)
    (touched : Converters.Touched ((now.lastMet n).map Engine.converters) now.state.converters after owing owes)
    (still : owes = owing → owed → stillOwed) (owe : owes = true → stillOwed) :
    PathsCome ((n, now.state) :: now.past) after stillOwed := by
  have older := come.cons (n, now.state)
  cases touched with
  | left => exact older.mono (still rfl)
  | @kept _ own searched found =>
    intro edge path known
    rw [Converters.known?_remember] at known
    by_cases same : edge = own
    · -- The path is the one that is kept now, so it was found in the section before.
      rw [if_pos same] at known
      obtain ⟨met, last, rfl⟩ := Option.map_eq_some_iff.mp found
      refine ⟨met, now.state, ⟨Interleaving.inARow_of_lastMet last, ?_⟩, .inl rfl⟩
      rw [same]
      exact (Option.some.inj known).symm
    · rw [if_neg same] at known
      exact older.mono (still rfl) edge path known
  | changed _ edges =>
    intro edge path known
    obtain ⟨searched, kept, comes, -⟩ := older edge path known
    exact ⟨searched, kept, comes, .inr (owe rfl)⟩
  | forgot =>
    intro edge path never
    cases never

/-- Whatever happens while calls run side by side, they stay sound, if all else leaves the converters alone. -/
theorem Sound.step {embedding : Embedding κ η} (carefully : embedding.ConvertsCarefully) {now later : Calling κ η}
    {owing : Nat → Bool} (sound : Sound now owing)
    (next : Interleaving.Step (IsCall embedding) LeavesConverters now later) : ∃ owes, Sound later owes := by
  cases next with
  | began fits =>
    obtain ⟨call, rfl⟩ := fits
    refine ⟨Function.update owing now.programs.length false, ?_, ?_⟩
    · intro n program found
      rcases getElem?_of_concat found with ⟨rfl, rfl⟩ | ⟨other, before⟩
      · rw [Function.update_self]
        exact careful_perform carefully call _
      · rw [Function.update_of_ne other.symm]
        exact sound.careful n program before
    · refine sound.come.mono ?_
      rintro ⟨n, within, owed⟩
      refine ⟨n, ?_, ?_⟩
      · rw [List.length_append]
        omega
      · rwa [Function.update_of_ne (by omega)]
  | @acted n update next after turn took =>
    have inside : n < now.programs.length := (List.getElem?_eq_some_iff.mp turn).1
    obtain ⟨owes, touched, rest⟩ := sound.careful n _ turn now.state after took
    refine ⟨Function.update owing n owes, ?_, sound.come.touched touched ?_ ?_⟩
    · intro m program found
      rw [Interleaving.lastMet_cons]
      rcases getElem?_of_set found with ⟨rfl, rfl⟩ | ⟨other, before⟩
      · rw [if_pos rfl, Function.update_self]
        exact rest
      · rw [if_neg other, Function.update_of_ne other.symm]
        exact sound.careful m program before
    · rintro rfl ⟨m, within, owed⟩
      exact ⟨m, by rwa [List.length_set], by rwa [Function.update_eq_self]⟩
    · rintro rfl
      exact ⟨n, by rwa [List.length_set], Function.update_self ..⟩
  | @answered n task next turn answer =>
    refine ⟨owing, ?_, ?_⟩
    · intro m program found
      rcases getElem?_of_set found with ⟨rfl, rfl⟩ | ⟨-, before⟩
      · exact sound.careful n _ turn answer
      · exact sound.careful m program before
    · refine sound.come.mono ?_
      rintro ⟨m, within, owed⟩
      exact ⟨m, by rwa [List.length_set], owed⟩
  | @changed after holds =>
    have same : after.converters = now.state.converters := holds
    refine ⟨owing, sound.careful, ?_⟩
    change PathsCome now.past after.converters (Owed now owing)
    rw [same]
    exact sound.come

/-- From an engine without kept paths on, calls that run side by side are sound at any moment. -/
theorem exists_sound {embedding : Embedding κ η} (carefully : embedding.ConvertsCarefully) {start : Engine κ η}
    (fresh : start.converters.paths = []) {now : Calling κ η}
    (reached : Interleaving.Reaches (IsCall embedding) LeavesConverters start now) : ∃ owing, Sound now owing := by
  induction reached with
  | start =>
    refine ⟨fun _ => false, fun n call never => ?_, fun edge path known => ?_⟩
    · cases never
    · change start.converters.paths.lookup edge = some path at known
      rw [fresh] at known
      cases known
  | step _ next ih =>
    obtain ⟨owing, sound⟩ := ih
    exact sound.step carefully next

/-- Whenever no call is in progress, a kept path was found by the call that kept it in its next section, and what was
registered when it was kept is registered now. So it is the one that is found now just if it did not change between the
two sections. -/
theorem kept_paths_were_found {embedding : Embedding κ η} (carefully : embedding.ConvertsCarefully)
    {start : Engine κ η} (fresh : start.converters.paths = []) {now : Calling κ η}
    (reached : Interleaving.Reaches (IsCall embedding) LeavesConverters start now) (ended : now.Ended) (edge : Edge)
    (path : Option (List Kind)) (known : now.state.converters.known? edge = some path) :
    ∃ searched kept, ComesOf now.past edge path searched kept ∧
      now.state.converters.edges = kept.converters.edges ∧
      (path = now.state.converters.find edge ↔ searched.converters.find edge = kept.converters.find edge) := by
  obtain ⟨owing, sound⟩ := exists_sound carefully fresh reached
  obtain ⟨searched, kept, comes, registered⟩ := sound.come edge path known
  have same : now.state.converters.edges = kept.converters.edges := by
    rcases registered with same | ⟨n, within, owed⟩
    · exact same
    · -- A call that has come to its end owes nothing.
      obtain ⟨result, finished⟩ := ended _ (List.getElem_mem within)
      have careful := sound.careful n _ (List.getElem?_eq_getElem within)
      rw [finished] at careful
      exact absurd owed (Bool.eq_false_iff.mp careful)
  refine ⟨searched, kept, comes, same, ?_⟩
  have finds : now.state.converters.find edge = kept.converters.find edge := by
    unfold Converters.find
    rw [same]
  rw [finds, comes.found]

/-- A way from truth values to texts is asked for while a converter is registered for some edge. -/
def crossingCalls (edge : Edge) : List (Work Nat Unit ConverterAnswer) :=
  [perform idle (.canConvert .bool .string), perform idle (.register edge (.custom 0))]

/-- What comes of it if the registration falls between the search of the path and its keeping. -/
def crossed (edge : Edge) : Calling Nat Unit :=
  let registered : Engine Nat Unit := { bareEngine with converters := ⟨[(edge, .custom 0)], []⟩ }
  ⟨registered.withPaths [((.bool, .string), none)], [.done (.possible false), .done .done],
    [(0, registered), (1, registered), (1, bareEngine), (0, bareEngine), (0, bareEngine)]⟩

/-- It does come of it. -/
theorem reaches_crossed (edge : Edge) :
    Interleaving.Reaches (IsCall idle) LeavesConverters bareEngine (crossed edge) := by
  have calls : ∀ program ∈ crossingCalls edge, IsCall idle program :=
    List.forall_mem_cons.mpr ⟨⟨_, rfl⟩, List.forall_mem_singleton.mpr ⟨_, rfl⟩⟩
  have began : Interleaving.Runs (IsCall idle) LeavesConverters ⟨bareEngine, [], []⟩ []
      ⟨bareEngine, crossingCalls edge, []⟩ :=
    Interleaving.Runs.none.began (crossingCalls edge) calls
  exact (began.turns [0, 0, 1, 1, 0] rfl).reaches

/-- No call is in progress then. -/
theorem ended_crossed (edge : Edge) : (crossed edge).Ended :=
  List.forall_mem_cons.mpr ⟨⟨_, rfl⟩, List.forall_mem_singleton.mpr ⟨_, rfl⟩⟩

/-- Where the edge leads elsewhere, what was kept is still right. -/
theorem kept_paths_were_found_crossed :
    idle.ConvertsCarefully ∧ bareEngine.converters.paths = [] ∧
    Interleaving.Reaches (IsCall idle) LeavesConverters bareEngine (crossed (.int, .float)) ∧
    (crossed (.int, .float)).Ended ∧
    (crossed (.int, .float)).state.converters.known? (.bool, .string) = some none ∧
    ∃ searched kept, ComesOf (crossed (.int, .float)).past (.bool, .string) none searched kept ∧
      (crossed (.int, .float)).state.converters.edges = kept.converters.edges ∧
      (none = (crossed (.int, .float)).state.converters.find (.bool, .string) ↔
        searched.converters.find (.bool, .string) = kept.converters.find (.bool, .string)) := by
  have carefully : idle.ConvertsCarefully := fun _ value _ met => .pure (Ending.returned value) met
  exact ⟨carefully, rfl, reaches_crossed _, ended_crossed _, rfl,
    kept_paths_were_found carefully rfl (reaches_crossed _) (ended_crossed _) (.bool, .string) none rfl⟩

/-- Where the converter is that of the way that was asked for, a call keeps that there is none, although there is one
as soon as all calls have ended; a later call answers so, too. -/
theorem registered_converter_not_found :
    ∃ now : Calling Nat Unit, Interleaving.Reaches (IsCall idle) LeavesConverters bareEngine now ∧ now.Ended ∧
      ¬now.state.converters.Current ∧
      now.state.converters.at? (.bool, .string) = some (.custom 0) ∧
      now.state.converters.find (.bool, .string) = some [.bool, .string] ∧
      run idle 1 (canConvert .bool .string) now.state = some (false, now.state) := by
  refine ⟨crossed (.bool, .string), reaches_crossed _, ended_crossed _, fun current => ?_, rfl, rfl, rfl⟩
  have found : none = some [Kind.bool, Kind.string] := current (.bool, .string) none rfl
  cases found

end Engine

end MessageRouting
