import MessageRouting.Engine.Endpoints
import MessageRouting.Proofs.Program.Passing

/-!
# Sections of finding endpoints and of making their consumers

Finding an endpoint and making a consumer of one reads the engine, and changes it in few sections only. A relation that
holds over time goes along with the whole if it does with these.
-/

namespace MessageRouting.Engine

variable {κ η : Type} {embedding : Embedding κ η} {relation : Engine κ η → Engine κ η → Prop}

/-- Looking for an endpoint goes along with a relation if making the endpoint for the text does. -/
theorem sections_resolve (time : OverTime relation) {text : String}
    (makes : ∀ uri, Uri.parse text = .ok uri →
      ∀ component engine, relation engine (makeKept embedding text component uri engine).2) :
    (resolve embedding text).Sections relation := by
  refine (Program.Sections.read time _).bind fun found => ?_
  split
  · trivial
  · split
    · trivial
    · rename_i uri parsed
      refine (Program.Sections.read time _).bind fun component => ?_
      split
      · trivial
      · rename_i component
        exact .atomically (makes uri parsed component)

/-- Making a consumer goes along with a relation if numbering a timer and asking the embedding program do. -/
theorem sections_makeConsumer (numbers : (newIdentity : Work κ η Identity).Sections relation)
    (asks : ∀ code wanted, (request embedding code wanted).Sections relation) (endpoint : Endpoint κ)
    (context : ConsumerContext κ) : (makeConsumer embedding endpoint context).Sections relation := by
  unfold makeConsumer
  split
  · trivial
  · exact numbers.bind fun _ => trivial
  · exact (asks _ _).bind fun _ => trivial

end MessageRouting.Engine
