import MessageRouting.Route.Compiled
import MessageRouting.Value.Printed

/-!
# Descriptions of definitions

The structured description of a definition, in one line.
-/

namespace MessageRouting

/-- Named parts between braces. -/
def describedFields (name : String) (fields : List (String × String)) : String :=
  name ++ " \x7b " ++ ", ".intercalate (fields.map fun (field, text) => s!"{field}: {text}") ++ " \x7d"

/-- Parts between brackets. -/
def describedList (parts : List String) : String := "[" ++ ", ".intercalate parts ++ "]"

/-- A part that may be missing. -/
def describedOption : Option String → String
  | some text => s!"Some({text})"
  | none => "None"

/-- A truth value. -/
def describedBool (b : Bool) : String := if b then "true" else "false"

/-- Named texts between braces. -/
def describedParams (params : Table String) : String :=
  let entries := params.map fun (name, text) => s!"{Text.quoted name}: {Text.quoted text}"
  "\x7b" ++ ", ".intercalate entries ++ "\x7d"

/-- The description of a matcher. -/
def Matcher.described : Matcher → String
  | .any => "Any"
  | .equals text => s!"Equals({Text.quoted text})"
  | .contains lowered => s!"Contains({Text.quoted lowered})"
  | .is type => s!"Is({Text.quoted type.name})"
  | .identity target => s!"Identity({target.described})"
  | .regex pattern => s!"Regex({Text.quoted pattern.source})"

/-- The description of the source of a value. -/
def ValueSource.described {κ : Type} : ValueSource κ → String
  | .constant value => s!"Constant({value.described})"
  | .code _ => "Func(..)"
  | .simple source => s!"Simple({Text.quoted source})"

/-- The description of what a loop goes by. -/
def LoopMode.described {κ : Type} : LoopMode κ → String
  | .count times => s!"Count({times.described})"
  | .while condition => s!"While({condition.described})"

/-- The description of what a loop does when its condition fails. -/
def Pattern.ConditionPolicy.described : Pattern.ConditionPolicy → String
  | .clearAndStop => "ClearAndStop"
  | .propagate => "Propagate"

namespace Step

variable {κ : Type}

mutual

/-- The description of a step. -/
def described : Step κ → String
  | .setBody value => s!"SetBody({value.described})"
  | .setHeader name value =>
    describedFields "SetHeader" [("name", Text.quoted name), ("value", value.described)]
  | .setProperty name value =>
    describedFields "SetProperty" [("name", Text.quoted name), ("value", value.described)]
  | .removeHeader name => s!"RemoveHeader({Text.quoted name})"
  | .removeProperty name => s!"RemoveProperty({Text.quoted name})"
  | .to uri => s!"To({Text.quoted uri})"
  | .function name => s!"Fn({Text.quoted name})"
  | .setError value => s!"SetError({value.described})"
  | .delay value => s!"Delay({value.described})"
  | .log message level =>
    describedFields "Log" [("message", Text.quoted message), ("level", level.name)]
  | .marshal format => describedFields "Marshal" [("format", Text.quoted format)]
  | .unmarshal format target =>
    describedFields "Unmarshal"
      [("format", Text.quoted format), ("target", describedOption (target.map Text.quoted))]
  | .convertBody target params =>
    describedFields "ConvertBody" [("to", Text.quoted target), ("params", describedParams params)]
  | .convertHeader name target params =>
    describedFields "ConvertHeader"
      [("name", Text.quoted name), ("to", Text.quoted target), ("params", describedParams params)]
  | .convertProperty name target params =>
    describedFields "ConvertProperty"
      [("name", Text.quoted name), ("to", Text.quoted target), ("params", describedParams params)]
  | .pipeline steps stopOnError =>
    describedFields "Pipeline"
      [("steps", describedList (each steps)), ("stop_on_error", describedBool stopOnError)]
  | .choice clauses none =>
    describedFields "Choice" [("when", describedList (eachClause clauses)), ("otherwise", "None")]
  | .choice clauses (some steps) =>
    describedFields "Choice"
      [("when", describedList (eachClause clauses)),
       ("otherwise", describedOption (some (describedList (each steps))))]
  | .tryCatch steps catches none =>
    describedFields "Try"
      [("steps", describedList (each steps)), ("catches", describedList (eachCatch catches)),
       ("finally", "None")]
  | .tryCatch steps catches (some ends) =>
    describedFields "Try"
      [("steps", describedList (each steps)), ("catches", describedList (eachCatch catches)),
       ("finally", describedOption (some (describedList (each ends))))]
  | .multicast outputs parallel stopOnError aggregator =>
    describedFields "Multicast"
      [("outputs", describedList (each outputs)), ("parallel", describedBool parallel),
       ("stop_on_error", describedBool stopOnError),
       ("aggregator", describedOption (aggregator.map fun _ => "AggregatorDef(..)"))]
  | .loop mode steps policy =>
    describedFields "Loop"
      [("mode", mode.described), ("steps", describedList (each steps)),
       ("on_predicate_error", policy.described)]

/-- The descriptions of steps. -/
def each : List (Step κ) → List String
  | [] => []
  | step :: rest => described step :: each rest

/-- The descriptions of the clauses of a choice. -/
def eachClause : List (ValueSource κ × List (Step κ)) → List String
  | [] => []
  | (condition, steps) :: rest =>
    describedFields "WhenDef"
      [("predicate", condition.described), ("steps", describedList (each steps))] :: eachClause rest

/-- The descriptions of the clauses that handle errors. -/
def eachCatch : List (Matcher × List (Step κ)) → List String
  | [] => []
  | (matcher, steps) :: rest =>
    describedFields "CatchDef"
      [("matcher", matcher.described), ("steps", describedList (each steps))] :: eachCatch rest

end

end Step

/-- The description of a definition. -/
def Definition.described {κ : Type} (definition : Definition κ) : String :=
  describedFields "RouteDefinition"
    [("name", Text.quoted definition.name), ("from", Text.quoted definition.source),
     ("steps", describedList (Step.each definition.steps))]

/-- The description of a compiled route. -/
def Route.described {κ : Type} (route : Route κ) : String :=
  describedFields "Route" [("name", Text.quoted route.name), ("from", Text.quoted route.source)]

end MessageRouting
