import Mathlib.Logic.Function.Basic
import MessageRouting.Engine.Endpoints
import MessageRouting.Proofs.Engine.Running
import MessageRouting.Proofs.Program.Runs

/-!
# Endpoints are made once

Any number of calls look for endpoints at one time. A call looks whether the endpoint for its text is kept, finds the
component for it, and looks again before it makes one, each in a section of its own, and others may have made it
meanwhile. Of all sections at most one makes the endpoint for a text, and every call for the text that ends well gives
that one. A call whose own attempt fails leaves what is kept as it was, so the next one tries again, and what is kept for
other texts is never touched.
-/

namespace MessageRouting.Engine

variable {κ η : Type}

/-! ## Calls -/

/-- What is given by a call that has come to its end. -/
structure Resolved (κ : Type) where
  /-- The text. -/
  text : String
  /-- What it gives. -/
  given : Except Fault (Endpoint κ)

/-- Looks for the endpoint for a text. -/
def resolveCall (embedding : Embedding κ η) (text : String) : Work κ η (Resolved κ) := do
  return ⟨text, ← resolve embedding text⟩

/-- Calls that run side by side. -/
abbrev Resolving (κ η : Type) := Interleaving (Engine κ η) (Processor κ × Exchange) Outcome (Resolved κ)

/-- What begins is a call. -/
def IsResolveCall (embedding : Embedding κ η) (program : Work κ η (Resolved κ)) : Prop :=
  ∃ text, program = resolveCall embedding text

/-- All else leaves alone what is kept. -/
def LeavesEndpoints (before after : Engine κ η) : Prop := after.endpoints = before.endpoints

/-! ## What sections do -/

/-- Keeps an endpoint that was made for a text. -/
def keep (text : String) (given : Except Fault (Endpoint κ)) (engine : Engine κ η) : Engine κ η :=
  match given with
  | .ok endpoint => { engine with endpoints := engine.endpoints.insert text endpoint }
  | .error _ => engine

/-- A section tries to make the endpoint for a text, which is not there. -/
structure Attempt (embedding : Embedding κ η) (text : String) (uri : Uri) (component : Component κ)
    (sections : List (Passage (Engine κ η))) (own : Passage (Engine κ η)) (given : Except Fault (Endpoint κ)) :
    Prop where
  /-- The text is a URI. -/
  parsed : Uri.parse text = .ok uri
  /-- The call found the component for it. -/
  registered : ∃ other ∈ sections, other.program = own.program ∧
    other.before.components.get? uri.component = some component
  /-- Nothing is kept for the text. -/
  missing : own.before.endpoints.find? text = none
  /-- The component is asked once, and what it makes is kept. -/
  tried : ∃ between, makeEndpoint embedding component uri own.before = (given, between) ∧
    own.after = keep text given between

/-- The attempt of a section made an endpoint. -/
def Makes (embedding : Embedding κ η) (text : String) (sections : List (Passage (Engine κ η)))
    (own : Passage (Engine κ η)) (endpoint : Endpoint κ) : Prop :=
  ∃ uri component, Attempt embedding text uri component sections own (.ok endpoint)

/-- What a section of a call for a text does: nothing, or it tries to make the endpoint. -/
def Touches (embedding : Embedding κ η) (text : String) (sections : List (Passage (Engine κ η)))
    (own : Passage (Engine κ η)) : Prop :=
  own.after = own.before ∨ ∃ uri component given, Attempt embedding text uri component sections own given

/-- Why a call for a text gives what it gives, after its sections. -/
inductive Owing (embedding : Embedding κ η) (text : String) (sections : List (Passage (Engine κ η))) (n : Nat) :
    Except Fault (Endpoint κ) → Prop
  /-- The endpoint was kept after a section of the call. -/
  | kept {own : Passage (Engine κ η)} {endpoint : Endpoint κ} (member : own ∈ sections) (mine : own.program = n)
    (there : own.after.endpoints.find? text = some endpoint) : Owing embedding text sections n (.ok endpoint)
  /-- The text is no URI. -/
  | unreadable {fault : Fault} (refused : Uri.parse text = .error fault) : Owing embedding text sections n (.error fault)
  /-- There was no component for it. -/
  | unknown {own : Passage (Engine κ η)} {uri : Uri} (member : own ∈ sections) (mine : own.program = n)
    (parsed : Uri.parse text = .ok uri) (missing : own.before.components.get? uri.component = none) :
    Owing embedding text sections n (.error (.unknownComponent uri.component))
  /-- The call tried to make the endpoint and failed. -/
  | failed {own : Passage (Engine κ η)} {uri : Uri} {component : Component κ} {fault : Fault} (member : own ∈ sections)
    (mine : own.program = n) (attempt : Attempt embedding text uri component sections own (.error fault)) :
    Owing embedding text sections n (.error fault)

/-- After its sections, the work of the call of a number for a text goes on so: each section does nothing or tries to make
the endpoint, no tasks are handed over, and in the end something holds of all its sections and of what comes of it. -/
def Looks (embedding : Embedding κ η) (text : String) (n : Nat) {α : Type}
    (ends : List (Passage (Engine κ η)) → α → Prop) : List (Passage (Engine κ η)) → Work κ η α → Prop
  | sections, .done result => ends sections result
  | sections, .act update next => ∀ met after, update met = some after →
    Touches embedding text (⟨n, met, after⟩ :: sections) ⟨n, met, after⟩ ∧
      Looks embedding text n ends (⟨n, met, after⟩ :: sections) (next met)
  | _, .call _ _ => False

section Looks

variable {embedding : Embedding κ η} {text : String} {n : Nat} {α β : Type}
  {sections : List (Passage (Engine κ η))} {ends : List (Passage (Engine κ η)) → α → Prop}

/-- Work that goes on so may be followed by work that does. -/
theorem Looks.bind {work : Work κ η α} {next : α → Work κ η β} {last : List (Passage (Engine κ η)) → β → Prop}
    (first : Looks embedding text n ends sections work)
    (later : ∀ sections result, ends sections result → Looks embedding text n last sections (next result)) :
    Looks embedding text n last sections (work >>= next) := by
  change Looks embedding text n last sections (Program.bind work next)
  induction work generalizing sections with
  | done result => exact later sections result first
  | act update rest ih =>
    intro met after took
    obtain ⟨touches, follows⟩ := first met after took
    exact ⟨touches, ih met follows⟩
  | call task rest ih => exact first.elim

/-- A section that never blocks is such work if it does nothing or tries to make the endpoint. -/
theorem Looks.atomically {f : Engine κ η → α × Engine κ η}
    (holds : ∀ engine, Touches embedding text (⟨n, engine, (f engine).2⟩ :: sections) ⟨n, engine, (f engine).2⟩ ∧
      ends (⟨n, engine, (f engine).2⟩ :: sections) (f engine).1) :
    Looks embedding text n ends sections (Program.atomically f) := by
  intro met after took
  cases took
  exact holds met

/-- Reading does nothing. -/
theorem Looks.read {f : Engine κ η → α} (holds : ∀ engine, ends (⟨n, engine, engine⟩ :: sections) (f engine)) :
    Looks embedding text n ends sections (Program.read f) := by
  intro met after took
  cases took
  exact ⟨.inl rfl, holds met⟩

end Looks

/-- Where nothing is kept for a text, the component is asked, and what it makes is kept. -/
theorem makeKept_of_missing {embedding : Embedding κ η} {text : String} {component : Component κ} {uri : Uri}
    {engine : Engine κ η} (missing : engine.endpoints.find? text = none) :
    makeKept embedding text component uri engine =
      ((makeEndpoint embedding component uri engine).1,
        keep text (makeEndpoint embedding component uri engine).1 (makeEndpoint embedding component uri engine).2) := by
  unfold makeKept
  rw [missing]
  rcases makeEndpoint embedding component uri engine with ⟨fault | endpoint, between⟩ <;> rfl

/-- Where an endpoint is kept for a text, that is it. -/
theorem makeKept_of_kept {embedding : Embedding κ η} {text : String} {component : Component κ} {uri : Uri}
    {engine : Engine κ η} {endpoint : Endpoint κ} (kept : engine.endpoints.find? text = some endpoint) :
    makeKept embedding text component uri engine = (.ok endpoint, engine) := by
  unfold makeKept
  rw [kept]

/-- Finding the component of a URI is such work. -/
theorem looks_componentOf {embedding : Embedding κ η} {text : String} {n : Nat} {uri : Uri}
    {sections : List (Passage (Engine κ η))} (parsed : Uri.parse text = .ok uri) :
    Looks embedding text n (fun sections found => match found with
      | .ok component => ∃ own ∈ sections, own.program = n ∧
          own.before.components.get? uri.component = some component
      | .error fault => Owing embedding text sections n (.error fault)) sections (componentOf uri) := by
  refine .read fun engine => ?_
  cases registered : engine.components.get? uri.component with
  | none => exact .unknown List.mem_cons_self rfl parsed registered
  | some component => exact ⟨_, List.mem_cons_self, rfl, registered⟩

/-- Making the endpoint for a text, unless it is there, is such work. -/
theorem looks_makeKept {embedding : Embedding κ η} {text : String} {n : Nat} {uri : Uri} {component : Component κ}
    {sections : List (Passage (Engine κ η))} (parsed : Uri.parse text = .ok uri)
    (registered : ∃ other ∈ sections, other.program = n ∧ other.before.components.get? uri.component = some component) :
    Looks embedding text n (fun sections given => Owing embedding text sections n given) sections
      (Program.atomically (makeKept embedding text component uri)) := by
  refine .atomically fun engine => ?_
  cases kept : engine.endpoints.find? text with
  | some endpoint =>
    rw [makeKept_of_kept kept]
    exact ⟨.inl rfl, .kept List.mem_cons_self rfl kept⟩
  | none =>
    rw [makeKept_of_missing kept]
    obtain ⟨other, member, mine, found⟩ := registered
    generalize tried : makeEndpoint embedding component uri engine = made
    obtain ⟨given, between⟩ := made
    have attempt : Attempt embedding text uri component
        (⟨n, engine, keep text given between⟩ :: sections) ⟨n, engine, keep text given between⟩ given :=
      ⟨parsed, ⟨other, List.mem_cons_of_mem _ member, mine, found⟩, kept, between, tried, rfl⟩
    refine ⟨.inr ⟨uri, component, given, attempt⟩, ?_⟩
    cases given with
    | error fault => exact .failed List.mem_cons_self rfl attempt
    | ok endpoint => exact .kept List.mem_cons_self rfl (Table.find?_insert_self text endpoint _)

/-- Looking for the endpoint for a text is such work. -/
theorem looks_resolve (embedding : Embedding κ η) (text : String) (n : Nat) :
    Looks embedding text n (fun sections given => Owing embedding text sections n given) [] (resolve embedding text) := by
  have first : Looks embedding text n (fun sections found => ∀ endpoint, found = some endpoint →
      Owing embedding text sections n (.ok endpoint)) []
      (Program.read fun engine => engine.endpoints.find? text) :=
    .read fun engine endpoint kept => .kept List.mem_cons_self rfl kept
  refine first.bind fun sections found there => ?_
  cases found with
  | some endpoint => exact there endpoint rfl
  | none =>
    cases parsed : Uri.parse text with
    | error fault => exact .unreadable parsed
    | ok uri =>
      refine (looks_componentOf parsed).bind fun sections found registered => ?_
      cases found with
      | error fault => exact registered
      | ok component => exact looks_makeKept parsed registered

/-- So is a call, and it tells its text. -/
theorem looks_resolveCall (embedding : Embedding κ η) (text : String) (n : Nat) :
    Looks embedding text n
      (fun sections answer => answer.text = text ∧ Owing embedding answer.text sections n answer.given) []
      (resolveCall embedding text) :=
  (looks_resolve embedding text n).bind fun _ _ owing => ⟨rfl, owing⟩

/-! ## What is kept -/

/-- What is kept for a text before is kept for it afterwards. -/
def KeepsEndpoints (before after : Engine κ η) : Prop :=
  ∀ text endpoint, before.endpoints.find? text = some endpoint → after.endpoints.find? text = some endpoint

/-- What is kept over one time and over the next is kept over both. -/
theorem KeepsEndpoints.trans {first second third : Engine κ η} (early : KeepsEndpoints first second)
    (late : KeepsEndpoints second third) : KeepsEndpoints first third :=
  fun text endpoint kept => late text endpoint (early text endpoint kept)

section Sections

variable {embedding : Embedding κ η} {text : String} {uri : Uri} {component : Component κ} {engine between : Engine κ η}
  {sections more : List (Passage (Engine κ η))} {own : Passage (Engine κ η)} {given : Except Fault (Endpoint κ)}

/-- Making an endpoint keeps nothing. -/
theorem endpoints_of_makeEndpoint (made : makeEndpoint embedding component uri engine = (given, between)) :
    between.endpoints = engine.endpoints := by
  have same : (makeEndpoint embedding component uri engine).2.endpoints = engine.endpoints := rfl
  rwa [made] at same

/-- Making an endpoint leaves the components alone. -/
theorem components_of_makeEndpoint (made : makeEndpoint embedding component uri engine = (given, between)) :
    between.components = engine.components := by
  have same : (makeEndpoint embedding component uri engine).2.components = engine.components := rfl
  rwa [made] at same

/-- After an attempt, what was made is kept for the text, and for others what was. -/
theorem Attempt.find?_after (attempt : Attempt embedding text uri component sections own given) (other : String) :
    own.after.endpoints.find? other = if other = text then given.toOption else own.before.endpoints.find? other := by
  obtain ⟨between, made, kept⟩ := attempt.tried
  rw [kept]
  cases given with
  | ok endpoint =>
    rw [keep, Table.find?_insert, endpoints_of_makeEndpoint made]
    rfl
  | error fault =>
    rw [keep, endpoints_of_makeEndpoint made]
    split
    · next same =>
      rw [same]
      exact attempt.missing
    · rfl

/-- After an attempt that failed, all that is kept is as it was. -/
theorem Attempt.endpoints_of_error {fault : Fault}
    (attempt : Attempt embedding text uri component sections own (.error fault)) :
    own.after.endpoints = own.before.endpoints := by
  obtain ⟨between, made, kept⟩ := attempt.tried
  rw [kept]
  exact endpoints_of_makeEndpoint made

/-- Among more sections an attempt is one. -/
theorem Attempt.mono (attempt : Attempt embedding text uri component sections own given) (subset : sections ⊆ more) :
    Attempt embedding text uri component more own given where
  parsed := attempt.parsed
  registered := by
    obtain ⟨other, member, found⟩ := attempt.registered
    exact ⟨other, subset member, found⟩
  missing := attempt.missing
  tried := attempt.tried

/-- Among more sections it still does nothing or tries to make the endpoint. -/
theorem Touches.mono (touches : Touches embedding text sections own) (subset : sections ⊆ more) :
    Touches embedding text more own := by
  rcases touches with same | ⟨uri, component, given, attempt⟩
  · exact .inl same
  · exact .inr ⟨uri, component, given, attempt.mono subset⟩

/-- Among more sections it still makes the endpoint. -/
theorem Makes.mono {endpoint : Endpoint κ} (makes : Makes embedding text sections own endpoint)
    (subset : sections ⊆ more) : Makes embedding text more own endpoint := by
  obtain ⟨uri, component, attempt⟩ := makes
  exact ⟨uri, component, attempt.mono subset⟩

/-- What was made is kept after the section. -/
theorem Makes.kept {endpoint : Endpoint κ} (makes : Makes embedding text sections own endpoint) :
    own.after.endpoints.find? text = some endpoint := by
  obtain ⟨uri, component, attempt⟩ := makes
  rw [attempt.find?_after, if_pos rfl]
  rfl

/-- Nothing was kept before the section. -/
theorem Makes.missing {endpoint : Endpoint κ} (makes : Makes embedding text sections own endpoint) :
    own.before.endpoints.find? text = none := by
  obtain ⟨uri, component, attempt⟩ := makes
  exact attempt.missing

/-- A section of a call for a text leaves alone what is kept for others. -/
theorem Touches.apart (touches : Touches embedding text sections own) {other : String} (different : other ≠ text) :
    own.after.endpoints.find? other = own.before.endpoints.find? other := by
  rcases touches with same | ⟨uri, component, given, attempt⟩
  · rw [same]
  · rw [attempt.find?_after, if_neg different]

/-- A section of a call keeps what is kept. -/
theorem Touches.keeps (touches : Touches embedding text sections own) : KeepsEndpoints own.before own.after := by
  intro other endpoint kept
  rcases touches with same | ⟨uri, component, given, attempt⟩
  · rwa [same]
  · rw [attempt.find?_after, if_neg]
    · exact kept
    · rintro rfl
      rw [attempt.missing] at kept
      cases kept

/-- A section of a call leaves the components alone. -/
theorem Touches.components (touches : Touches embedding text sections own) :
    own.after.components = own.before.components := by
  rcases touches with same | ⟨uri, component, given, attempt⟩
  · rw [same]
  · obtain ⟨between, made, kept⟩ := attempt.tried
    rw [kept, ← components_of_makeEndpoint made]
    cases given <;> rfl

/-- What is kept after a section of a call was kept before or was made by it. -/
theorem Touches.comes (touches : Touches embedding text sections own) {other : String} {endpoint : Endpoint κ}
    (kept : own.after.endpoints.find? other = some endpoint) :
    own.before.endpoints.find? other = some endpoint ∨ Makes embedding other sections own endpoint := by
  rcases touches with same | ⟨uri, component, given, attempt⟩
  · exact .inl (same ▸ kept)
  · rw [attempt.find?_after] at kept
    split at kept
    · next same =>
      subst same
      cases given with
      | error fault => cases kept
      | ok made =>
        cases kept
        exact .inr ⟨uri, component, attempt⟩
    · exact .inl kept

/-- Among more sections it is due to them what is given. -/
theorem Owing.mono {n : Nat} (owing : Owing embedding text sections n given) (subset : sections ⊆ more) :
    Owing embedding text more n given := by
  cases owing with
  | kept member mine there => exact .kept (subset member) mine there
  | unreadable refused => exact .unreadable refused
  | unknown member mine parsed missing => exact .unknown (subset member) mine parsed missing
  | failed member mine attempt => exact .failed (subset member) mine (attempt.mono subset)

end Sections

/-! ## Calls alone -/

/-- The endpoint for a text is the one that is kept; where none is, it is looked whether the text is a URI and whether
there is a component, and then the component is asked. -/
theorem run_resolve (embedding : Embedding κ η) (fuel : Nat) (text : String) (engine : Engine κ η) :
    run embedding fuel (resolve embedding text) engine = some (
      match engine.endpoints.find? text with
      | some endpoint => (.ok endpoint, engine)
      | none =>
        match Uri.parse text with
        | .error fault => (.error fault, engine)
        | .ok uri =>
          match engine.components.get? uri.component with
          | none => (.error (.unknownComponent uri.component), engine)
          | some component => makeKept embedding text component uri engine) := by
  rw [resolve, run_bind_of_run (run_read _ engine)]
  cases engine.endpoints.find? text with
  | some endpoint => rfl
  | none =>
    cases Uri.parse text with
    | error fault => rfl
    | ok uri =>
      change run embedding fuel (componentOf uri >>= _) engine = _
      rw [componentOf, run_bind_of_run (run_read _ engine)]
      dsimp only
      cases engine.components.get? uri.component <;> rfl

/-- What a call alone gives for a text, but for the identity of an endpoint. -/
def answerFor (embedding : Embedding κ η) (fuel : Nat) (text : String) (engine : Engine κ η) :
    Option (Except Fault (Uri × EndpointRole κ)) :=
  (run embedding fuel (resolve embedding text) engine).map fun ended =>
    ended.1.map fun endpoint => (endpoint.uri, endpoint.role)

/-- What is given for a text depends on what is kept for it, and on what its component makes for it. -/
theorem answerFor_congr {embedding : Embedding κ η} {text : String} {engine other : Engine κ η}
    (kept : other.endpoints.find? text = engine.endpoints.find? text)
    (components : other.components = engine.components)
    (role : ∀ uri component, Uri.parse text = .ok uri → engine.components.get? uri.component = some component →
      (roleFor embedding component uri other.embedding).1 = (roleFor embedding component uri engine.embedding).1)
    (fuel : Nat) : answerFor embedding fuel text other = answerFor embedding fuel text engine := by
  unfold answerFor
  rw [run_resolve, run_resolve, kept, components]
  cases found : engine.endpoints.find? text with
  | some endpoint => rfl
  | none =>
    cases parsed : Uri.parse text with
    | error fault => rfl
    | ok uri =>
      dsimp only
      cases registered : engine.components.get? uri.component with
      | none => rfl
      | some component =>
        have same := role uri component parsed registered
        dsimp only
        rw [makeKept_of_missing found, makeKept_of_missing (kept.trans found)]
        simp only [makeEndpoint, same]
        cases (roleFor embedding component uri engine.embedding).1 <;> rfl

/-! ## Calls side by side -/

/-- Before now, each call has looked for the endpoint for its text, and what was kept is kept. -/
structure Tally (embedding : Embedding κ η) (start : Engine κ η) (textOf : Nat → String)
    (sections : List (Passage (Engine κ η))) (now : Resolving κ η) : Prop where
  /-- Each call goes on so from where it stands. -/
  looks : ∀ (n : Nat) program, now.programs[n]? = some program →
    Looks embedding (textOf n) n
      (fun sections answer => answer.text = textOf n ∧ Owing embedding answer.text sections n answer.given)
      (sections.filter (·.program == n)) program
  /-- Each section is one of a call. -/
  inside : ∀ own ∈ sections, own.program < now.programs.length
  /-- It did nothing, or tried to make the endpoint. -/
  touches : ∀ own ∈ sections, Touches embedding (textOf own.program) sections own
  /-- What was kept at the start was kept before each. -/
  since : ∀ own ∈ sections, KeepsEndpoints start own.before
  /-- What was kept after one was kept before each later one. -/
  chained : sections.Pairwise fun later earlier => KeepsEndpoints earlier.after later.before
  /-- It is kept now. -/
  lasts : ∀ own ∈ sections, KeepsEndpoints own.after now.state
  /-- What was kept at the start is kept now. -/
  fromStart : KeepsEndpoints start now.state
  /-- What is kept now was kept at the start or was made by one. -/
  comes : ∀ text endpoint, now.state.endpoints.find? text = some endpoint →
    start.endpoints.find? text = some endpoint ∨ ∃ own ∈ sections, Makes embedding text sections own endpoint

section Tally

variable {embedding : Embedding κ η} {start : Engine κ η} {textOf : Nat → String}
  {sections more : List (Passage (Engine κ η))} {now later : Resolving κ η}

/-- After a section of its own, the sections of a call are one more. -/
theorem filter_own (n : Nat) (met after : Engine κ η) :
    ((⟨n, met, after⟩ :: sections : List (Passage (Engine κ η))).filter (·.program == n)) =
      ⟨n, met, after⟩ :: sections.filter (·.program == n) :=
  List.filter_cons_of_pos (beq_self_eq_true n)

/-- After a section of another call, the sections of a call are the same. -/
theorem filter_other {n m : Nat} (different : n ≠ m) (met after : Engine κ η) :
    ((⟨n, met, after⟩ :: sections : List (Passage (Engine κ η))).filter (·.program == m)) =
      sections.filter (·.program == m) :=
  List.filter_cons_of_neg (by simpa using different)

/-- A call goes through a section, and the tally stands. -/
theorem Tally.acted (tally : Tally embedding start textOf sections now) {n : Nat}
    {update : Engine κ η → Option (Engine κ η)} {next : Engine κ η → Work κ η (Resolved κ)} {after : Engine κ η}
    (turn : now.programs[n]? = some (.act update next)) (took : update now.state = some after)
    (past : List (Nat × Engine κ η)) :
    Tally embedding start textOf (⟨n, now.state, after⟩ :: sections)
      ⟨after, now.programs.set n (next now.state), past⟩ := by
  obtain ⟨touched, follows⟩ := tally.looks n _ turn now.state after took
  rw [← filter_own] at touched follows
  have touches : Touches embedding (textOf n) (⟨n, now.state, after⟩ :: sections) ⟨n, now.state, after⟩ :=
    touched.mono (List.filter_sublist ..).subset
  have keeps : KeepsEndpoints now.state after := touches.keeps
  exact {
    looks := fun m program found => by
      rcases getElem?_of_set found with ⟨rfl, rfl⟩ | ⟨different, before⟩
      · exact follows
      · rw [filter_other different]
        exact tally.looks m program before
    inside := by
      rw [List.length_set]
      exact List.forall_mem_cons.mpr ⟨(List.getElem?_eq_some_iff.mp turn).1, tally.inside⟩
    touches := List.forall_mem_cons.mpr ⟨touches, fun own member =>
      (tally.touches own member).mono (List.subset_cons_self ..)⟩
    since := List.forall_mem_cons.mpr ⟨tally.fromStart, tally.since⟩
    chained := List.pairwise_cons.mpr ⟨tally.lasts, tally.chained⟩
    lasts := List.forall_mem_cons.mpr ⟨fun _ _ => id, fun own member => (tally.lasts own member).trans keeps⟩
    fromStart := tally.fromStart.trans keeps
    comes := fun text endpoint kept => by
      rcases touches.comes kept with before | makes
      · rcases tally.comes text endpoint before with first | ⟨own, member, makes⟩
        · exact .inl first
        · exact .inr ⟨own, List.mem_cons_of_mem _ member, makes.mono (List.subset_cons_self ..)⟩
      · exact .inr ⟨_, List.mem_cons_self, makes⟩ }

/-- A call begins, and the tally stands. -/
theorem Tally.began (tally : Tally embedding start textOf sections now) (text : String) :
    Tally embedding start (Function.update textOf now.programs.length text) sections
      { now with programs := now.programs ++ [resolveCall embedding text] } where
  looks n program found := by
    rcases getElem?_of_concat found with ⟨rfl, rfl⟩ | ⟨different, before⟩
    · have none : sections.filter (·.program == now.programs.length) = [] := by
        refine List.filter_eq_nil_iff.mpr fun own member same => ?_
        exact absurd (eq_of_beq same) (Nat.ne_of_lt (tally.inside own member))
      rw [Function.update_self, none]
      exact looks_resolveCall embedding text _
    · rw [Function.update_of_ne different.symm]
      exact tally.looks n program before
  inside own member := by
    rw [List.length_append]
    exact Nat.lt_add_right _ (tally.inside own member)
  touches own member := by
    rw [Function.update_of_ne (Nat.ne_of_lt (tally.inside own member))]
    exact tally.touches own member
  since := tally.since
  chained := tally.chained
  lasts := tally.lasts
  fromStart := tally.fromStart
  comes := tally.comes

/-- Something else happens that leaves alone what is kept, and the tally stands. -/
theorem Tally.changed (tally : Tally embedding start textOf sections now) {after : Engine κ η}
    (leaves : LeavesEndpoints now.state after) :
    Tally embedding start textOf sections { now with state := after } := by
  have same : after.endpoints = now.state.endpoints := leaves
  have keeps : KeepsEndpoints now.state after := fun text endpoint kept => by rwa [same]
  exact {
    looks := tally.looks
    inside := tally.inside
    touches := tally.touches
    since := tally.since
    chained := tally.chained
    lasts := fun own member => (tally.lasts own member).trans keeps
    fromStart := tally.fromStart.trans keeps
    comes := fun text endpoint kept => tally.comes text endpoint (by rwa [← same]) }

/-- Before any call begins, the tally stands. -/
theorem tally_of_start (embedding : Embedding κ η) (start : Engine κ η) (textOf : Nat → String) :
    Tally embedding start textOf [] ⟨start, [], []⟩ where
  looks n program found := by cases found
  inside := List.forall_mem_nil _
  touches := List.forall_mem_nil _
  since := List.forall_mem_nil _
  chained := .nil
  lasts := List.forall_mem_nil _
  fromStart _ _ := id
  comes _ _ := .inl

/-- Whatever happens while calls run side by side, there is a tally of it. -/
theorem exists_tally
    (run : Interleaving.Runs (IsResolveCall embedding) LeavesEndpoints ⟨start, [], []⟩ sections now) :
    ∃ textOf, Tally embedding start textOf sections now := by
  induction run with
  | none => exact ⟨fun _ => "", tally_of_start embedding start _⟩
  | acted _ turn took ih =>
    obtain ⟨textOf, tally⟩ := ih
    exact ⟨textOf, tally.acted turn took _⟩
  | aside _ next quiet ih =>
    obtain ⟨textOf, tally⟩ := ih
    cases next with
    | began fits =>
      obtain ⟨text, rfl⟩ := fits
      exact ⟨_, tally.began text⟩
    | acted => exact absurd quiet (List.cons_ne_self _ _)
    | answered turn => exact (tally.looks _ _ turn).elim
    | changed leaves => exact ⟨textOf, tally.changed leaves⟩

end Tally

/-- Calls for endpoints run side by side from an engine on, the one of each number for its text. -/
structure MadeOnce (embedding : Embedding κ η) (start : Engine κ η) (textOf : Nat → String)
    (sections : List (Passage (Engine κ η))) (now : Resolving κ η) : Prop where
  /-- Each section does nothing, or asks the component that its call found to make the endpoint for the text of the call,
  which is not there, and keeps what it makes. -/
  touches : ∀ own ∈ sections, Touches embedding (textOf own.program) sections own
  /-- Of all sections at most one makes the endpoint for a text. -/
  once : ∀ text endpoint other, sections.Pairwise fun later earlier =>
    Makes embedding text sections later endpoint → ¬Makes embedding text sections earlier other
  /-- None does if one was kept from the start. -/
  needed : ∀ text endpoint, ∀ own ∈ sections, Makes embedding text sections own endpoint →
    start.endpoints.find? text = none
  /-- Each call for a text that has ended well gave the endpoint that is kept for it now, and that was kept from the start
  or is the one that was made. -/
  gives : ∀ (n : Nat) text endpoint, now.programs[n]? = some (.done ⟨text, .ok endpoint⟩) →
    now.state.endpoints.find? text = some endpoint ∧
      (start.endpoints.find? text = some endpoint ∨ ∃ own ∈ sections, Makes embedding text sections own endpoint)
  /-- Whatever a call gave is due to its own sections: if it failed, its text is no URI, it found no component for it, or
  its own attempt failed. -/
  owes : ∀ (n : Nat) answer, now.programs[n]? = some (.done answer) →
    answer.text = textOf n ∧ Owing embedding answer.text sections n answer.given
  /-- An attempt that failed left all that is kept as it was. -/
  leaves : ∀ own ∈ sections, ∀ text uri component fault,
    Attempt embedding text uri component sections own (.error fault) → own.after.endpoints = own.before.endpoints
  /-- As long as nothing is kept for a text, a further call asks its component again. -/
  again : ∀ text uri component, Uri.parse text = .ok uri → now.state.components.get? uri.component = some component →
    now.state.endpoints.find? text = none → ∀ fuel,
      let made := makeEndpoint embedding component uri now.state
      run embedding fuel (resolve embedding text) now.state = some (made.1, keep text made.1 made.2)
  /-- For other texts a section leaves the endpoints that are kept; a call for one is given the same before and after, if
  the component for it makes the same. -/
  apart : ∀ own ∈ sections, ∀ other, other ≠ textOf own.program →
    own.after.endpoints.find? other = own.before.endpoints.find? other ∧
      ((∀ uri component, Uri.parse other = .ok uri → own.before.components.get? uri.component = some component →
          (roleFor embedding component uri own.after.embedding).1 =
            (roleFor embedding component uri own.before.embedding).1) →
        ∀ fuel, answerFor embedding fuel other own.after = answerFor embedding fuel other own.before)

/-- Whatever happens while calls for endpoints run side by side, each endpoint is made once, if all else leaves alone
what is kept. -/
theorem endpoints_made_once (embedding : Embedding κ η) {start : Engine κ η} {sections : List (Passage (Engine κ η))}
    {now : Resolving κ η}
    (run : Interleaving.Runs (IsResolveCall embedding) LeavesEndpoints ⟨start, [], []⟩ sections now) :
    ∃ textOf, MadeOnce embedding start textOf sections now := by
  obtain ⟨textOf, tally⟩ := exists_tally run
  have owes (n : Nat) (answer : Resolved κ) (ended : now.programs[n]? = some (.done answer)) :
      answer.text = textOf n ∧ Owing embedding answer.text sections n answer.given := by
    obtain ⟨own, owing⟩ := tally.looks n _ ended
    exact ⟨own, owing.mono (List.filter_sublist ..).subset⟩
  refine ⟨textOf, tally.touches, ?_, ?_, ?_, owes, ?_, ?_, ?_⟩
  · intro text endpoint other
    refine tally.chained.imp fun {later earlier} keeps makes made => ?_
    have kept := keeps text other made.kept
    rw [makes.missing] at kept
    cases kept
  · intro text endpoint own member makes
    cases kept : start.endpoints.find? text with
    | none => rfl
    | some other =>
      have before := tally.since own member text other kept
      rw [makes.missing] at before
      cases before
  · intro n text endpoint ended
    obtain ⟨-, owing⟩ := owes n _ ended
    cases owing with
    | kept member mine there =>
      have kept := tally.lasts _ member text endpoint there
      exact ⟨kept, tally.comes text endpoint kept⟩
  · intro own member text uri component fault attempt
    exact attempt.endpoints_of_error
  · intro text uri component parsed registered missing fuel
    rw [run_resolve, missing, parsed]
    dsimp only
    rw [registered]
    exact congrArg some (makeKept_of_missing missing)
  · intro own member other different
    have touches := tally.touches own member
    exact ⟨touches.apart different, answerFor_congr (touches.apart different) touches.components⟩

/-- A component that is not ready when it is asked first. -/
def reluctant : Embedding Unit Bool where
  evaluate _ _ := return .returned .null
  function _ x := return (x, .returned ())
  process _ x := return .returned x
  hook _ _ _ x := return .returned x
  aggregate _ _ branch := return .ok branch
  convert _ value _ := return .returned value
  formatName _ := ""
  marshal _ _ := return .returned ""
  unmarshal _ _ _ := return .returned .null
  component _ _ ready := (if ready then .ok () else .error (.internal "not ready"), true)

/-- An engine with that component. -/
def reluctantEngine : Engine Unit Bool :=
  { Engine.standard {} 0 false with components := ⟨"component", [("mock", .custom "mock" ())]⟩ }

/-- Three calls for one text that have just begun. -/
def contending : Resolving Unit Bool := ⟨reluctantEngine, List.replicate 3 (resolveCall reluctant "mock:a"), []⟩

/-- The identities of the endpoints that calls gave which have ended. -/
def identities (now : Resolving κ η) : List (Option (Except Fault Identity)) :=
  now.programs.map fun program => match program with
    | .done answer => some (answer.given.map Endpoint.identity)
    | _ => none

/-- Two calls miss the endpoint and find the component before either makes it, and the third one misses it, too. The
attempt of the first call fails, that of the second one does not, and the third one finds what was made. -/
theorem endpoints_made_once_contending :
    ∃ sections now, Interleaving.Runs (IsResolveCall reluctant) LeavesEndpoints ⟨reluctantEngine, [], []⟩ sections now ∧
      identities now =
        [some (.error (.internal "not ready")), some (.ok (.root 2)), some (.ok (.root 2))] ∧
      ∃ textOf, MadeOnce reluctant reluctantEngine textOf sections now := by
  have calls : ∀ program ∈ contending.programs, IsResolveCall reluctant program :=
    fun program member => ⟨"mock:a", List.eq_of_mem_replicate member⟩
  have began : Interleaving.Runs (IsResolveCall reluctant) LeavesEndpoints ⟨reluctantEngine, [], []⟩ [] contending :=
    Interleaving.Runs.none.began contending.programs calls
  have turns : ([0, 1, 0, 1, 2, 0, 1, 2, 2].foldlM Interleaving.tellTurn ([], contending)).map
      (fun told => identities told.2) =
        some [some (.error (.internal "not ready")), some (.ok (.root 2)), some (.ok (.root 2))] := rfl
  obtain ⟨⟨sections, now⟩, took, gave⟩ := Option.map_eq_some_iff.mp turns
  have run := began.turns _ took
  exact ⟨sections, now, run, gave, endpoints_made_once reluctant run⟩

end MessageRouting.Engine
