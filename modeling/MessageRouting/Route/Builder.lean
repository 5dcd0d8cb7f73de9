import MessageRouting.Route.Definition

/-!
# Building routes

A route is built by calls: steps are added to the block that was opened last, blocks are opened and closed, and
clauses begin inside blocks. The builder keeps the open blocks, the innermost first, and the first misuse; after
a misuse it does not change any more.
-/

namespace MessageRouting

/-- Where steps go inside a choice. -/
inductive ChoiceSection where
  /-- No clause has begun. -/
  | start
  /-- The latest clause with a condition. -/
  | when
  /-- The branch for all other cases. -/
  | otherwise
  deriving Repr, DecidableEq

/-- Where steps go inside a block that tries. -/
inductive TrySection where
  /-- The steps that are tried. -/
  | steps
  /-- The latest clause that handles errors. -/
  | catch
  /-- The steps that come last in any case. -/
  | last
  deriving Repr, DecidableEq

/-- An open block. The steps and clauses in it are kept in order. -/
inductive Block (κ : Type) where
  | route (steps : List (Step κ))
  | pipeline (steps : List (Step κ)) (stopOnError : Bool)
  | choice (clauses : List (ValueSource κ × List (Step κ))) (otherwise : Option (List (Step κ)))
      (current : ChoiceSection)
  | tryCatch (steps : List (Step κ)) (catches : List (Matcher × List (Step κ)))
      (last : Option (List (Step κ))) (current : TrySection)
  | loop (mode : LoopMode κ) (steps : List (Step κ)) (policy : Pattern.ConditionPolicy)
  | multicast (outputs : List (Step κ)) (parallel stopOnError : Bool) (aggregator : Option κ)

namespace Block

variable {κ : Type}

/-- The name of a block in messages. -/
def label : Block κ → String
  | route _ => "route"
  | pipeline _ _ => "pipeline"
  | choice _ _ _ => "choice"
  | tryCatch _ _ _ _ => "doTry"
  | loop _ _ _ => "loop"
  | multicast _ _ _ _ => "multicast"

/-- Adds a step to the last clause. -/
def addToLast {α : Type} (step : Step κ) :
    List (α × List (Step κ)) → Option (List (α × List (Step κ)))
  | [] => none
  | [(head, steps)] => some [(head, steps ++ [step])]
  | clause :: next :: rest => (addToLast step (next :: rest)).map (clause :: ·)

/-- Adds a step where the block takes steps now. -/
def add (step : Step κ) : Block κ → Except String (Block κ)
  | route steps => .ok (route (steps ++ [step]))
  | pipeline steps stopOnError => .ok (pipeline (steps ++ [step]) stopOnError)
  | loop mode steps policy => .ok (loop mode (steps ++ [step]) policy)
  | multicast outputs parallel stopOnError aggregator =>
    .ok (multicast (outputs ++ [step]) parallel stopOnError aggregator)
  | choice _ _ .start => .error "steps inside choice() must follow when() or otherwise()"
  | choice clauses otherwise .when =>
    match addToLast step clauses with
    | some clauses => .ok (choice clauses otherwise .when)
    | none => .error "when() clause missing"
  | choice clauses (some steps) .otherwise =>
    .ok (choice clauses (some (steps ++ [step])) .otherwise)
  | choice _ none .otherwise => .error "otherwise() clause missing"
  | tryCatch steps catches last .steps => .ok (tryCatch (steps ++ [step]) catches last .steps)
  | tryCatch steps catches last .catch =>
    match addToLast step catches with
    | some catches => .ok (tryCatch steps catches last .catch)
    | none => .error "doCatch() clause missing"
  | tryCatch steps catches (some ends) .last =>
    .ok (tryCatch steps catches (some (ends ++ [step])) .last)
  | tryCatch _ _ none .last => .error "doFinally() clause missing"

/-- Why the block takes no steps now. -/
def refusal? : Block κ → Option String
  | choice _ _ .start => some "steps inside choice() must follow when() or otherwise()"
  | choice [] _ .when => some "when() clause missing"
  | choice _ none .otherwise => some "otherwise() clause missing"
  | tryCatch _ [] _ .catch => some "doCatch() clause missing"
  | tryCatch _ _ none .last => some "doFinally() clause missing"
  | _ => none

/-- The step that a block is when it is closed; a route itself is none. -/
def close : Block κ → Option (Step κ)
  | route _ => none
  | pipeline steps stopOnError => some (.pipeline steps stopOnError)
  | choice clauses otherwise _ => some (.choice clauses otherwise)
  | tryCatch steps catches last _ => some (.tryCatch steps catches last)
  | loop mode steps policy => some (.loop mode steps policy)
  | multicast outputs parallel stopOnError aggregator =>
    some (.multicast outputs parallel stopOnError aggregator)

/-- Begins a clause with a condition. -/
def beginWhen (condition : ValueSource κ) : Block κ → Except String (Block κ)
  | choice _ _ .otherwise => .error "when() cannot follow otherwise()"
  | choice clauses otherwise _ => .ok (choice (clauses ++ [(condition, [])]) otherwise .when)
  | other => .error s!"when() used inside {other.label} instead of choice()"

/-- Begins the branch for all other cases. -/
def beginOtherwise : Block κ → Except String (Block κ)
  | choice _ (some _) _ => .error "otherwise() declared twice"
  | choice clauses none _ => .ok (choice clauses (some []) .otherwise)
  | other => .error s!"otherwise() used inside {other.label} instead of choice()"

/-- Begins a clause that handles errors. -/
def beginCatch (matcher : Matcher) : Block κ → Except String (Block κ)
  | tryCatch _ _ _ .last => .error "doCatch() cannot follow doFinally()"
  | tryCatch steps catches last _ => .ok (tryCatch steps (catches ++ [(matcher, [])]) last .catch)
  | other => .error s!"doCatch() used inside {other.label} instead of doTry()"

/-- Begins the steps that come last in any case. -/
def beginLast : Block κ → Except String (Block κ)
  | tryCatch _ _ (some _) _ => .error "doFinally() declared twice"
  | tryCatch steps catches none _ => .ok (tryCatch steps catches (some []) .last)
  | other => .error s!"doFinally() used inside {other.label} instead of doTry()"

/-- Says whether errors stop the block. -/
def setStopOnError (enabled : Bool) : Block κ → Except String (Block κ)
  | pipeline steps _ => .ok (pipeline steps enabled)
  | multicast outputs parallel _ aggregator => .ok (multicast outputs parallel enabled aggregator)
  | other => .error s!"stop_on_error() is not available inside {other.label}"

/-- Lets outputs run side by side. -/
def setParallel : Block κ → Except String (Block κ)
  | multicast outputs _ stopOnError aggregator => .ok (multicast outputs true stopOnError aggregator)
  | other => .error s!"parallel() is not available inside {other.label}"

/-- Gives a multicast the function that joins its branches. -/
def setAggregator (code : κ) : Block κ → Except String (Block κ)
  | multicast outputs parallel stopOnError _ =>
    .ok (multicast outputs parallel stopOnError (some code))
  | other => .error s!"aggregate() is not available inside {other.label}"

/-- Says what a loop does when its condition fails. -/
def setPolicy (policy : Pattern.ConditionPolicy) : Block κ → Except String (Block κ)
  | loop (.while condition) steps _ => .ok (loop (.while condition) steps policy)
  | other => .error s!"on_predicate_error() needs loop_while(), found {other.label}"

end Block

/-- A call to a builder. -/
inductive BuilderCall (κ : Type) where
  /-- Adds a step. -/
  | step (step : Step κ)
  | openPipeline
  | openChoice
  | openTry
  | openCountLoop (times : ValueSource κ)
  | openWhileLoop (condition : ValueSource κ)
  | openMulticast
  | when (condition : ValueSource κ)
  | otherwise
  | catch (matcher : Matcher)
  | last
  | stopOnError (enabled : Bool)
  | parallel
  | aggregate (code : κ)
  | policy (policy : Pattern.ConditionPolicy)
  /-- Closes the innermost block. -/
  | close

/-- A route that is being built. -/
structure Builder (κ : Type) where
  /-- The name of the route. -/
  name : String
  /-- The URI the route consumes from. -/
  source : String
  /-- The open blocks, the innermost first. -/
  blocks : List (Block κ)
  /-- The first misuse. -/
  misuse : Option String

namespace Builder

variable {κ : Type}

/-- A route without steps. -/
def new (name source : String) : Builder κ := ⟨name, source, [.route []], none⟩

/-- How many blocks are open, the route itself included. -/
def depth (builder : Builder κ) : Nat := builder.blocks.length

/-- Notes a misuse. -/
def fail (builder : Builder κ) (message : String) : Builder κ :=
  { builder with misuse := some (builder.misuse.getD message) }

/-- Changes the innermost block. -/
def onInnermost (builder : Builder κ) (f : Block κ → Except String (Block κ)) : Builder κ :=
  match builder.blocks with
  | [] => builder.fail "builder stack is empty"
  | block :: rest =>
    match f block with
    | .ok block => { builder with blocks := block :: rest }
    | .error message => builder.fail message

/-- Opens a block where the innermost one takes steps. -/
def openBlock (builder : Builder κ) (block : Block κ) : Builder κ :=
  match builder.blocks.head?.bind Block.refusal? with
  | some message => builder.fail message
  | none => { builder with blocks := block :: builder.blocks }

/-- Closes the innermost block, which becomes a step of the one around it. -/
def closeBlock (builder : Builder κ) : Builder κ :=
  match builder.blocks with
  | [] => builder.fail "end() called without an open block"
  | [_] => builder.fail "end() called without an open block"
  | block :: rest =>
    match block.close with
    | some step => onInnermost { builder with blocks := rest } (Block.add step)
    | none => builder.fail "cannot close the route itself"

/-- Carries a call out on a builder that was not misused. -/
def carryOut (builder : Builder κ) : BuilderCall κ → Builder κ
  | .step step => builder.onInnermost (Block.add step)
  | .openPipeline => builder.openBlock (.pipeline [] false)
  | .openChoice => builder.openBlock (.choice [] none .start)
  | .openTry => builder.openBlock (.tryCatch [] [] none .steps)
  | .openCountLoop times => builder.openBlock (.loop (.count times) [] .clearAndStop)
  | .openWhileLoop condition => builder.openBlock (.loop (.while condition) [] .clearAndStop)
  | .openMulticast => builder.openBlock (.multicast [] false false none)
  | .when condition => builder.onInnermost (Block.beginWhen condition)
  | .otherwise => builder.onInnermost Block.beginOtherwise
  | .catch matcher => builder.onInnermost (Block.beginCatch matcher)
  | .last => builder.onInnermost Block.beginLast
  | .stopOnError enabled => builder.onInnermost (Block.setStopOnError enabled)
  | .parallel => builder.onInnermost Block.setParallel
  | .aggregate code => builder.onInnermost (Block.setAggregator code)
  | .policy policy => builder.onInnermost (Block.setPolicy policy)
  | .close => builder.closeBlock

/-- Carries a call out; after a misuse nothing changes any more. -/
def apply (builder : Builder κ) (call : BuilderCall κ) : Builder κ :=
  if builder.misuse.isSome then builder else builder.carryOut call

/-- The definition that was built. -/
def build (builder : Builder κ) : Except Fault (Definition κ) :=
  match builder.misuse, builder.blocks with
  | some message, _ => .error (.routeBuild s!"route '{builder.name}': {message}")
  | none, [.route steps] => .ok ⟨builder.name, builder.source, steps⟩
  | none, [_] => .error (.internal "route builder lost its root frame")
  | none, blocks =>
    let unclosed := blocks.dropLast.reverse
    let labels := " > ".intercalate (unclosed.map Block.label)
    .error (.routeBuild s!"route '{builder.name}': {unclosed.length} unclosed block(s): {labels}")

end Builder

end MessageRouting
