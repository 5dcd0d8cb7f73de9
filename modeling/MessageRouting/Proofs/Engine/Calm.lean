import MessageRouting.Engine.Run
import MessageRouting.Proofs.Engine.Sections

/-!
# Sections that let a cancellation stand

A section of an engine is calm if it takes no cancellation back, only adds to the journal, and does not note that a
step began to work. All that an engine does is made of calm sections, but for the note that a step began; so it is
with the code of an embedding program that keeps to what it was given.
-/

namespace MessageRouting

/-- A scope that is cancelled stays so when more is cancelled. -/
theorem Scope.isCancelled_mono {scope : Scope} {cancelled more : List Identity}
    (kept : ∀ identity ∈ cancelled, identity ∈ more) (reached : scope.isCancelled cancelled = true) :
    scope.isCancelled more = true := by
  obtain ⟨identity, above, member⟩ := List.any_eq_true.mp reached
  exact List.any_eq_true.mpr ⟨identity, above, by simpa using kept identity (by simpa using member)⟩

namespace Engine

variable {κ η : Type}

/-- Between two states no cancellation is taken back, events are added to the journal, and no step begins to work on
an exchange whose scope is cancelled in the first of them. -/
structure Later (engine later : Engine κ η) : Prop where
  /-- Cancelled scopes stay cancelled. -/
  cancelled : ∀ identity ∈ engine.cancelled, identity ∈ later.cancelled
  /-- The journal goes on, without such a step. -/
  journal : ∃ events, later.journal = events ++ engine.journal ∧
    ∀ info x, .started info x ∈ events → x.scope.isCancelled engine.cancelled = false

/-- Between two states no cancellation is taken back and events are added to the journal, none of which is that a step
begins to work. -/
structure Calm (engine later : Engine κ η) : Prop where
  /-- Cancelled scopes stay cancelled. -/
  cancelled : ∀ identity ∈ engine.cancelled, identity ∈ later.cancelled
  /-- The journal goes on, without a step that begins. -/
  journal : ∃ events, later.journal = events ++ engine.journal ∧ ∀ info x, .started info x ∉ events

/-- What is calm does not let a step begin that must not. -/
theorem Calm.later {engine later : Engine κ η} (calm : Calm engine later) : Later engine later where
  cancelled := calm.cancelled
  journal := by
    obtain ⟨events, added, quiet⟩ := calm.journal
    exact ⟨events, added, fun info x member => absurd member (quiet info x)⟩

/-- What touches neither the cancelled scopes nor the journal is calm. -/
theorem Calm.of_same {engine later : Engine κ η} (cancelled : later.cancelled = engine.cancelled)
    (journal : later.journal = engine.journal) : Calm engine later where
  cancelled := by simp [cancelled]
  journal := ⟨[], by simp [journal], by simp⟩

/-- Being calm holds over time. -/
theorem overTime_calm : OverTime (Calm : Engine κ η → Engine κ η → Prop) where
  refl _ := .of_same rfl rfl
  trans first second := by
    obtain ⟨events, added, quiet⟩ := first.journal
    obtain ⟨more, addedMore, quietMore⟩ := second.journal
    refine ⟨fun identity member => second.cancelled identity (first.cancelled identity member), more ++ events, ?_, ?_⟩
    · rw [addedMore, added, List.append_assoc]
    · intro info x member
      rcases List.mem_append.mp member with here | there
      · exact quietMore info x here
      · exact quiet info x there

/-- Being later holds over time. -/
theorem overTime_later : OverTime (Later : Engine κ η → Engine κ η → Prop) where
  refl _ := (Calm.of_same rfl rfl).later
  trans {first second third} before after := by
    obtain ⟨events, added, quiet⟩ := before.journal
    obtain ⟨more, addedMore, quietMore⟩ := after.journal
    refine ⟨fun identity member => after.cancelled identity (before.cancelled identity member), more ++ events, ?_, ?_⟩
    · rw [addedMore, added, List.append_assoc]
    · intro info x member
      rcases List.mem_append.mp member with here | there
      · cases reached : x.scope.isCancelled first.cancelled with
        | false => rfl
        | true => exact absurd (Scope.isCancelled_mono before.cancelled reached) (by simp [quietMore info x here])
      · exact quiet info x there

/-- Noting anything but that a step begins is calm. -/
theorem calm_note (event : Event) (other : ∀ info x, event ≠ .started info x) :
    (note event : Work κ η Unit).Sections Calm :=
  .change fun _ => {
    cancelled := fun _ member => member
    journal := ⟨[event], rfl, fun info x member => other info x (List.mem_singleton.mp member).symm⟩ }

/-- Cancelling a scope is calm. -/
theorem calm_cancel (scope : Scope) : (cancel scope : Work κ η Unit).Sections Calm :=
  .change fun _ => ⟨fun _ member => List.mem_cons_of_mem _ member, [], rfl, by simp⟩

/-- Reading is calm. -/
theorem calm_read {α : Type} (f : Engine κ η → α) : (Program.read f : Work κ η α).Sections Calm :=
  .read overTime_calm f

/-- Checking an exchange is calm. -/
theorem calm_check (x : Exchange) : (check x : Work κ η (Except Fault Unit)).Sections Calm := calm_read _

end Engine

/-- All sections of the code of an embedding program are calm, and its hooks before steps leave an exchange that is not
cancelled uncancelled. -/
structure Embedding.Calm {κ η : Type} (embedding : Embedding κ η) : Prop where
  /-- Finding values is calm. -/
  evaluate : ∀ code x, (embedding.evaluate code x).Sections Engine.Calm
  /-- Functions are calm. -/
  function : ∀ code x, (embedding.function code x).Sections Engine.Calm
  /-- Processors are calm. -/
  process : ∀ code x, (embedding.process code x).Sections Engine.Calm
  /-- Hooks are calm. -/
  hook : ∀ code point info x, (embedding.hook code point info x).Sections Engine.Calm
  /-- Joining branches is calm. -/
  aggregate : ∀ code before branch, (embedding.aggregate code before branch).Sections Engine.Calm
  /-- Converting values is calm. -/
  convert : ∀ code value params, (embedding.convert code value params).Sections Engine.Calm
  /-- Writing in a data format is calm. -/
  marshal : ∀ code value, (embedding.marshal code value).Sections Engine.Calm
  /-- Reading from a data format is calm. -/
  unmarshal : ∀ code octets target, (embedding.unmarshal code octets target).Sections Engine.Calm
  /-- Hooks before steps do not cancel. -/
  spares : ∀ code info x fuel engine before after,
    Engine.run embedding fuel (embedding.hook code .pre info x) engine = some (before, after) →
    x.scope.isCancelled engine.cancelled = false → before.exchange.scope.isCancelled after.cancelled = false

namespace Engine

variable {κ η : Type}

/-- Making an endpoint is calm. -/
theorem calm_makeEndpoint (embedding : Embedding κ η) (component : Component κ) (uri : Uri) (engine : Engine κ η) :
    Calm engine (makeEndpoint embedding component uri engine).2 :=
  .of_same rfl rfl

/-- Making an endpoint that is kept is calm. -/
theorem calm_makeKept (embedding : Embedding κ η) (text : String) (component : Component κ) (uri : Uri)
    (engine : Engine κ η) : Calm engine (makeKept embedding text component uri engine).2 := by
  unfold makeKept
  split
  · exact .of_same rfl rfl
  · have calm := calm_makeEndpoint embedding component uri engine
    split
    · rename_i made
      rwa [made] at calm
    · rename_i made
      rw [made] at calm
      exact ⟨calm.cancelled, calm.journal⟩

/-- Resolving a text is calm. -/
theorem calm_resolve (embedding : Embedding κ η) (text : String) : (resolve embedding text).Sections Calm :=
  sections_resolve overTime_calm fun uri _ component => calm_makeKept embedding text component uri

end Engine

end MessageRouting
