import MessageRouting.Failure.Matcher
import MessageRouting.Level
import MessageRouting.Pattern.Loop

/-!
# Definitions of routes

A route is defined by a name, the URI it consumes from, and a tree of steps. Expressions, URIs and the names of
functions, formats and types stand in the tree as they were written. Where code of the embedding program comes in,
a name of type `κ` stands for it.
-/

namespace MessageRouting

/-- Where a value comes from. -/
inductive ValueSource (κ : Type) where
  /-- It is fixed. -/
  | constant (value : Value)
  /-- Code of the embedding program gives it. -/
  | code (code : κ)
  /-- It is the value of an expression. -/
  | simple (source : String)

/-- What a loop goes by. -/
inductive LoopMode (κ : Type) where
  /-- A number of iterations. -/
  | count (times : ValueSource κ)
  /-- A condition before each iteration. -/
  | while (condition : ValueSource κ)

/-- A step of a route. -/
inductive Step (κ : Type) where
  | setBody (value : ValueSource κ)
  | setHeader (name : String) (value : ValueSource κ)
  | setProperty (name : String) (value : ValueSource κ)
  | removeHeader (name : String)
  | removeProperty (name : String)
  | to (uri : String)
  | function (name : String)
  | setError (error : ValueSource κ)
  | delay (duration : ValueSource κ)
  | log (message : String) (level : Level)
  | marshal (format : String)
  | unmarshal (format : String) (target : Option String)
  | convertBody (target : String) (params : Table String)
  | convertHeader (name target : String) (params : Table String)
  | convertProperty (name target : String) (params : Table String)
  | pipeline (steps : List (Step κ)) (stopOnError : Bool)
  | choice (clauses : List (ValueSource κ × List (Step κ))) (otherwise : Option (List (Step κ)))
  | tryCatch (steps : List (Step κ)) (catches : List (Matcher × List (Step κ)))
      (last : Option (List (Step κ)))
  | multicast (outputs : List (Step κ)) (parallel stopOnError : Bool) (aggregator : Option κ)
  | loop (mode : LoopMode κ) (steps : List (Step κ)) (policy : Pattern.ConditionPolicy)

/-- The definition of a route. -/
structure Definition (κ : Type) where
  /-- The name. -/
  name : String
  /-- The URI the route consumes from. -/
  source : String
  /-- The steps. -/
  steps : List (Step κ)

/-- The name of a step, by which hooks and histories know it. -/
def Step.name {κ : Type} : Step κ → String
  | .setBody _ => "setBody"
  | .setHeader name _ => s!"setHeader[{name}]"
  | .setProperty name _ => s!"setProperty[{name}]"
  | .removeHeader name => s!"removeHeader[{name}]"
  | .removeProperty name => s!"removeProperty[{name}]"
  | .to uri => s!"to[{uri}]"
  | .function name => s!"process[{name}]"
  | .setError _ => "setError"
  | .delay _ => "delay"
  | .log _ _ => "log"
  | .marshal format => s!"marshal[{format}]"
  | .unmarshal format _ => s!"unmarshal[{format}]"
  | .convertBody target _ => s!"convertBodyTo[{target}]"
  | .convertHeader name target _ => s!"convertHeaderTo[{name}:{target}]"
  | .convertProperty name target _ => s!"convertPropertyTo[{name}:{target}]"
  | .pipeline _ _ => "pipeline"
  | .choice _ _ => "choice"
  | .tryCatch _ _ _ => "doTry"
  | .multicast _ _ _ _ => "multicast"
  | .loop _ _ _ => "loop"

end MessageRouting
