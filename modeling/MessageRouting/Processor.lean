import MessageRouting.Expr.Template
import MessageRouting.Failure.Matcher
import MessageRouting.Journal
import MessageRouting.Json.Printer
import MessageRouting.Pattern.Loop

/-!
# Processors

A processor is what a route is compiled to: a tree of steps with everything in place that can be known
beforehand. Where code of the embedding program comes in, a name of type `κ` stands for it.
-/

namespace MessageRouting

/-- How a value is found when a step runs. -/
inductive Evaluator (κ : Type) where
  /-- It is fixed. -/
  | constant (value : Value)
  /-- It is the value of an expression. -/
  | formula (formula : Formula)
  /-- Code of the embedding program finds it. -/
  | code (code : κ)

/-- A data format. -/
inductive Format (κ : Type) where
  /-- JSON. -/
  | json (layout : Json.Layout)
  /-- A format of the embedding program. -/
  | custom (code : κ)

/-- What a conversion step converts. -/
inductive Place where
  /-- The body. -/
  | body
  /-- A header. -/
  | header (name : String)
  /-- A property. -/
  | property (name : String)
  deriving Repr, DecidableEq

/-- Hooks around steps. -/
structure Hooks (κ : Type) where
  /-- The one before each step. -/
  pre : Option κ := none
  /-- The one after each step. -/
  post : Option κ := none

/-- A step without steps inside. -/
inductive Leaf (κ : Type) where
  | setBody (value : Evaluator κ)
  | setHeader (name : String) (value : Evaluator κ)
  | setProperty (name : String) (value : Evaluator κ)
  | removeHeader (name : String)
  | removeProperty (name : String)
  | setError (value : Evaluator κ)
  | delay (duration : Evaluator κ)
  | log (route : String) (template : Template) (level : Level)
  | marshal (format : Format κ)
  | unmarshal (format : Format κ) (target : Option Kind)
  | convert (place : Place) (target : Kind) (params : Table String)

/-- A processor. -/
inductive Processor (κ : Type) where
  /-- A step without steps inside. -/
  | leaf (leaf : Leaf κ)
  /-- Hands the exchange to an endpoint; the producer is kept under the given identity once it is made. -/
  | to (keptAs : Identity) (uri : String)
  /-- Hands the exchange to the consumer of a name in a table of direct consumers. -/
  | direct (uri name : String) (table : Nat)
  /-- A function of the embedding program, whose failure becomes the pending error. -/
  | function (code : κ)
  /-- A processor of the embedding program. -/
  | custom (code : κ)
  /-- A step with all that surrounds it. -/
  | decorated (info : StepInfo) (hooks : Hooks κ) (tracked : Bool) (inner : Processor κ)
  | pipeline (stopOnError : Bool) (steps : List (Processor κ))
  | choice (clauses : List (Evaluator κ × Processor κ)) (otherwise : Option (Processor κ))
  | tryCatch (steps : List (Processor κ)) (handlers : List (Matcher × Processor κ))
      (last : List (Processor κ))
  | multicast (parallel stopOnError : Bool) (aggregator : Option κ) (outputs : List (Processor κ))
  | countLoop (count : Evaluator κ) (body : Processor κ)
  | whileLoop (condition : Evaluator κ) (policy : Pattern.ConditionPolicy) (body : Processor κ)

instance {κ : Type} : Inhabited (Processor κ) := ⟨.pipeline false []⟩

end MessageRouting
