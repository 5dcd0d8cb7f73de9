import MessageRouting.Route.Compiled

/-!
# What steps are compiled to

The processor that a step is compiled to has a shape that follows from the step: its own references stand resolved in
it, and in the places of the steps inside stand what those are compiled to, decorated. So a relation between steps and
processors holds of all that is compiled, if it holds whenever the shape is right and it holds of what is inside.
-/

namespace MessageRouting

/-- What was mapped came to a result. -/
theorem exists_of_map_eq_ok {ε α β : Type} {before : Except ε α} {f : α → β} {result : β}
    (mapped : before.map f = .ok result) : ∃ a, before = .ok a ∧ f a = result := by
  cases before with
  | error e => cases mapped
  | ok a =>
    cases mapped
    exact ⟨a, rfl, rfl⟩

/-- What is followed came to a result. -/
theorem exists_of_bind_eq_ok {ε α β : Type} {before : Except ε α} {f : α → Except ε β} {result : β}
    (followed : before >>= f = .ok result) : ∃ a, before = .ok a ∧ f a = .ok result := by
  cases before with
  | error e => cases followed
  | ok a => exact ⟨a, rfl, followed⟩

/-- What was looked up and came to a result was found. -/
theorem eq_some_of_elim_eq_ok {ε α : Type} {found : Option α} {fault : ε} {result : α}
    (looked : found.elim (.error fault) (.ok : α → Except ε α) = .ok result) : found = some result := by
  cases found with
  | none => cases looked
  | some value =>
    cases looked
    rfl

namespace CompileContext

variable {κ : Type}

/-- A relation holds of each of some steps, from an index on, and what is decorated of it. -/
inductive Each (context : CompileContext κ) (route : String) (rel : Identity → Step κ → Processor κ → Prop)
    (place : Identity) : Nat → List (Step κ) → List (Processor κ) → Prop
  | nil (index : Nat) : Each context route rel place index [] []
  | cons {index : Nat} {step : Step κ} {processor : Processor κ} {steps : List (Step κ)} {parts : List (Processor κ)}
    (first : rel (place.made index) step processor) (rest : Each context route rel place (index + 1) steps parts) :
    Each context route rel place index (step :: steps) (context.decorate route step.name processor :: parts)

/-- A relation holds throughout the clauses of a choice, from an index on. -/
inductive EachClause (context : CompileContext κ) (route : String) (rel : Identity → Step κ → Processor κ → Prop)
    (place : Identity) : Nat → List (ValueSource κ × List (Step κ)) → List (Evaluator κ × Processor κ) → Prop
  | nil (index : Nat) : EachClause context route rel place index [] []
  | cons {index : Nat} {condition : ValueSource κ} {compiled : Evaluator κ} {steps : List (Step κ)}
    {parts : List (Processor κ)} {clauses : List (ValueSource κ × List (Step κ))}
    {branches : List (Evaluator κ × Processor κ)} (asked : evaluator condition = .ok compiled)
    (block : Each context route rel (place.made index) 0 steps parts)
    (rest : EachClause context route rel place (index + 1) clauses branches) :
    EachClause context route rel place index ((condition, steps) :: clauses)
      ((compiled, context.joined route parts) :: branches)

/-- A relation holds throughout the clauses that handle errors, from an index on. -/
inductive EachCatch (context : CompileContext κ) (route : String) (rel : Identity → Step κ → Processor κ → Prop)
    (place : Identity) : Nat → List (Matcher × List (Step κ)) → List (Matcher × Processor κ) → Prop
  | nil (index : Nat) : EachCatch context route rel place index [] []
  | cons {index : Nat} {matcher : Matcher} {steps : List (Step κ)} {parts : List (Processor κ)}
    {catches : List (Matcher × List (Step κ))} {handlers : List (Matcher × Processor κ)}
    (block : Each context route rel (place.made index) 0 steps parts)
    (rest : EachCatch context route rel place (index + 1) catches handlers) :
    EachCatch context route rel place index ((matcher, steps) :: catches)
      ((matcher, context.joined route parts) :: handlers)

/-- The processor has the shape of what the step at a place is compiled to, and a relation holds of what is inside. -/
inductive Shape (context : CompileContext κ) (route : String) (rel : Identity → Step κ → Processor κ → Prop)
    (place : Identity) : Step κ → Processor κ → Prop
  | setBody {value : ValueSource κ} {compiled : Evaluator κ} (found : evaluator value = .ok compiled) :
    Shape context route rel place (.setBody value) (.leaf (.setBody compiled))
  | setHeader (name : String) {value : ValueSource κ} {compiled : Evaluator κ}
    (found : evaluator value = .ok compiled) :
    Shape context route rel place (.setHeader name value) (.leaf (.setHeader name compiled))
  | setProperty (name : String) {value : ValueSource κ} {compiled : Evaluator κ}
    (found : evaluator value = .ok compiled) :
    Shape context route rel place (.setProperty name value) (.leaf (.setProperty name compiled))
  | removeHeader (name : String) : Shape context route rel place (.removeHeader name) (.leaf (.removeHeader name))
  | removeProperty (name : String) :
    Shape context route rel place (.removeProperty name) (.leaf (.removeProperty name))
  | to {uri : String} {parsed : Uri} (valid : validate context.schemes uri = .ok parsed) :
    Shape context route rel place (.to uri) (.to place uri)
  | function {name : String} {processor : Processor κ} (found : context.functions.get? name = some processor) :
    Shape context route rel place (.function name) processor
  | setError {value : ValueSource κ} {compiled : Evaluator κ} (found : evaluator value = .ok compiled) :
    Shape context route rel place (.setError value) (.leaf (.setError compiled))
  | delay {value : ValueSource κ} {compiled : Evaluator κ} (found : evaluator value = .ok compiled) :
    Shape context route rel place (.delay value) (.leaf (.delay compiled))
  | log {message : String} (level : Level) {template : Template} (found : Template.compile message = .ok template) :
    Shape context route rel place (.log message level) (.leaf (.log route template level))
  | marshal {name : String} {format : Format κ} (found : context.formats.get? name = some format) :
    Shape context route rel place (.marshal name) (.leaf (.marshal format))
  | unmarshal {name : String} {target : Option String} {format : Format κ} {kind : Option Kind}
    (typed : target.mapM (kindOf route) = .ok kind) (found : context.formats.get? name = some format) :
    Shape context route rel place (.unmarshal name target) (.leaf (.unmarshal format kind))
  | convertBody {target : String} (params : Table String) {kind : Kind} (typed : kindOf route target = .ok kind) :
    Shape context route rel place (.convertBody target params) (.leaf (.convert .body kind params))
  | convertHeader (name : String) {target : String} (params : Table String) {kind : Kind}
    (typed : kindOf route target = .ok kind) :
    Shape context route rel place (.convertHeader name target params) (.leaf (.convert (.header name) kind params))
  | convertProperty (name : String) {target : String} (params : Table String) {kind : Kind}
    (typed : kindOf route target = .ok kind) :
    Shape context route rel place (.convertProperty name target params) (.leaf (.convert (.property name) kind params))
  | pipeline {steps : List (Step κ)} (stopOnError : Bool) {parts : List (Processor κ)}
    (inside : Each context route rel place 0 steps parts) :
    Shape context route rel place (.pipeline steps stopOnError) (.pipeline stopOnError parts)
  | choice {clauses : List (ValueSource κ × List (Step κ))} {branches : List (Evaluator κ × Processor κ)}
    (inside : EachClause context route rel (place.made 0) 0 clauses branches) :
    Shape context route rel place (.choice clauses none) (.choice branches none)
  | otherwise {clauses : List (ValueSource κ × List (Step κ))} {branches : List (Evaluator κ × Processor κ)}
    {steps : List (Step κ)} {parts : List (Processor κ)}
    (inside : EachClause context route rel (place.made 0) 0 clauses branches)
    (block : Each context route rel (place.made 1) 0 steps parts) :
    Shape context route rel place (.choice clauses (some steps))
      (.choice branches (some (context.joined route parts)))
  | tryCatch {steps : List (Step κ)} {catches : List (Matcher × List (Step κ))} {last : Option (List (Step κ))}
    {parts : List (Processor κ)} {handlers : List (Matcher × Processor κ)} {ends : List (Processor κ)}
    (tried : Each context route rel (place.made 2) 0 steps parts)
    (caught : EachCatch context route rel (place.made 0) 0 catches handlers)
    (ending : Each context route rel (place.made 1) 0 (last.getD []) ends) :
    Shape context route rel place (.tryCatch steps catches last) (.tryCatch parts handlers ends)
  | multicast {outputs : List (Step κ)} (parallel stopOnError : Bool) (aggregator : Option κ)
    {parts : List (Processor κ)} (inside : Each context route rel place 0 outputs parts) :
    Shape context route rel place (.multicast outputs parallel stopOnError aggregator)
      (.multicast parallel stopOnError aggregator parts)
  | countLoop {times : ValueSource κ} {compiled : Evaluator κ} {steps : List (Step κ)} {parts : List (Processor κ)}
    (policy : Pattern.ConditionPolicy) (found : evaluator times = .ok compiled)
    (block : Each context route rel place 0 steps parts) :
    Shape context route rel place (.loop (.count times) steps policy)
      (.countLoop compiled (context.joined route parts))
  | whileLoop {condition : ValueSource κ} {compiled : Evaluator κ} {steps : List (Step κ)}
    {parts : List (Processor κ)} (policy : Pattern.ConditionPolicy) (found : evaluator condition = .ok compiled)
    (block : Each context route rel place 0 steps parts) :
    Shape context route rel place (.loop (.while condition) steps policy)
      (.whileLoop compiled policy (context.joined route parts))

variable {context : CompileContext κ} {route : String} {rel : Identity → Step κ → Processor κ → Prop}

/-- There are as many parts as steps. -/
theorem Each.length_eq {place : Identity} {index : Nat} {steps : List (Step κ)} {parts : List (Processor κ)}
    (each : Each context route rel place index steps parts) : steps.length = parts.length := by
  induction each with
  | nil => rfl
  | cons _ _ later => simp only [List.length_cons, later]

/-- A step that refers to one thing is compiled to what is made of that thing, so the relation has to hold of this. -/
theorem rel_of_map_eq_ok {place : Identity} {step : Step κ} {processor : Processor κ} {α : Type}
    {before : Except Fault α} {f : α → Processor κ} (mapped : inner context route place step = before.map f)
    (all : ∀ a, before = .ok a → rel place step (f a)) (compiled : inner context route place step = .ok processor) :
    rel place step processor := by
  rw [mapped] at compiled
  obtain ⟨a, found, rfl⟩ := exists_of_map_eq_ok compiled
  exact all a found

mutual

/-- A relation that follows from the shape of processors holds between a step and what it is compiled to. -/
theorem rel_of_inner (closed : ∀ {place step processor}, Shape context route rel place step processor →
      rel place step processor) (place : Identity) :
    ∀ (step : Step κ) {processor : Processor κ}, inner context route place step = .ok processor →
      rel place step processor
  | .setBody _ => rel_of_map_eq_ok (by rw [inner]) fun _ found => closed (.setBody found)
  | .setHeader name _ => rel_of_map_eq_ok (by rw [inner]) fun _ found => closed (.setHeader name found)
  | .setProperty name _ => rel_of_map_eq_ok (by rw [inner]) fun _ found => closed (.setProperty name found)
  | .setError _ => rel_of_map_eq_ok (by rw [inner]) fun _ found => closed (.setError found)
  | .delay _ => rel_of_map_eq_ok (by rw [inner]) fun _ found => closed (.delay found)
  | .log _ level => rel_of_map_eq_ok (by rw [inner]) fun _ found => closed (.log level found)
  | .to _ => rel_of_map_eq_ok (by rw [inner]) fun _ found => closed (.to found)
  | .convertBody _ params => rel_of_map_eq_ok (by rw [inner]) fun _ found => closed (.convertBody params found)
  | .convertHeader name _ params => rel_of_map_eq_ok (by rw [inner]) fun _ found =>
    closed (.convertHeader name params found)
  | .convertProperty name _ params => rel_of_map_eq_ok (by rw [inner]) fun _ found =>
    closed (.convertProperty name params found)
  | .removeHeader name => fun compiled => by
    rw [inner] at compiled
    cases compiled
    exact closed (.removeHeader name)
  | .removeProperty name => fun compiled => by
    rw [inner] at compiled
    cases compiled
    exact closed (.removeProperty name)
  | .function name => fun compiled => by
    rw [inner, functionOf] at compiled
    exact closed (.function (eq_some_of_elim_eq_ok compiled))
  | .marshal _ => rel_of_map_eq_ok (by rw [inner, formatOf]) fun _ taken =>
    closed (.marshal (eq_some_of_elim_eq_ok taken))
  | .unmarshal name target => fun compiled => by
    rw [inner] at compiled
    obtain ⟨kind, typed, compiled⟩ := exists_of_bind_eq_ok compiled
    obtain ⟨format, taken, compiled⟩ := exists_of_bind_eq_ok compiled
    cases compiled
    exact closed (.unmarshal typed (eq_some_of_elim_eq_ok taken))
  | .pipeline steps stopOnError => rel_of_map_eq_ok (by rw [inner]) fun _ compiledParts =>
    closed (.pipeline stopOnError (rel_of_each closed place 0 steps compiledParts))
  | .choice clauses none => fun compiled => by
    rw [inner] at compiled
    obtain ⟨branches, compiledBranches, compiled⟩ := exists_of_bind_eq_ok compiled
    cases compiled
    exact closed (.choice (rel_of_eachClause closed (place.made 0) 0 clauses compiledBranches))
  | .choice clauses (some steps) => fun compiled => by
    rw [inner] at compiled
    obtain ⟨branches, compiledBranches, compiled⟩ := exists_of_bind_eq_ok compiled
    obtain ⟨parts, compiledParts, compiled⟩ := exists_of_bind_eq_ok compiled
    cases compiled
    exact closed (.otherwise (rel_of_eachClause closed (place.made 0) 0 clauses compiledBranches)
      (rel_of_each closed (place.made 1) 0 steps compiledParts))
  | .tryCatch steps catches none => fun compiled => by
    rw [inner] at compiled
    obtain ⟨handlers, compiledHandlers, compiled⟩ := exists_of_bind_eq_ok compiled
    obtain ⟨ends, noEnds, compiled⟩ := exists_of_bind_eq_ok compiled
    obtain ⟨parts, compiledParts, compiled⟩ := exists_of_bind_eq_ok compiled
    cases noEnds
    cases compiled
    exact closed (.tryCatch (rel_of_each closed (place.made 2) 0 steps compiledParts)
      (rel_of_eachCatch closed (place.made 0) 0 catches compiledHandlers) (.nil 0))
  | .tryCatch steps catches (some last) => fun compiled => by
    rw [inner] at compiled
    obtain ⟨handlers, compiledHandlers, compiled⟩ := exists_of_bind_eq_ok compiled
    obtain ⟨ends, compiledEnds, compiled⟩ := exists_of_bind_eq_ok compiled
    obtain ⟨parts, compiledParts, compiled⟩ := exists_of_bind_eq_ok compiled
    cases compiled
    exact closed (.tryCatch (rel_of_each closed (place.made 2) 0 steps compiledParts)
      (rel_of_eachCatch closed (place.made 0) 0 catches compiledHandlers)
      (rel_of_each closed (place.made 1) 0 last compiledEnds))
  | .multicast outputs parallel stopOnError aggregator => rel_of_map_eq_ok (by rw [inner]) fun _ compiledParts =>
    closed (.multicast parallel stopOnError aggregator (rel_of_each closed place 0 outputs compiledParts))
  | .loop (.count times) steps policy => fun compiled => by
    rw [inner] at compiled
    obtain ⟨around, looped, compiled⟩ := exists_of_bind_eq_ok compiled
    obtain ⟨parts, compiledParts, compiled⟩ := exists_of_bind_eq_ok compiled
    cases compiled
    obtain ⟨_, found, rfl⟩ := exists_of_map_eq_ok looped
    exact closed (.countLoop policy found (rel_of_each closed place 0 steps compiledParts))
  | .loop (.while condition) steps policy => fun compiled => by
    rw [inner] at compiled
    obtain ⟨around, looped, compiled⟩ := exists_of_bind_eq_ok compiled
    obtain ⟨parts, compiledParts, compiled⟩ := exists_of_bind_eq_ok compiled
    cases compiled
    obtain ⟨_, found, rfl⟩ := exists_of_map_eq_ok looped
    exact closed (.whileLoop policy found (rel_of_each closed place 0 steps compiledParts))

/-- It holds between steps and what they are compiled to one by one. -/
theorem rel_of_each (closed : ∀ {place step processor}, Shape context route rel place step processor →
      rel place step processor) (place : Identity) (index : Nat) :
    ∀ (steps : List (Step κ)) {parts : List (Processor κ)}, each context route place index steps = .ok parts →
      Each context route rel place index steps parts
  | [] => fun compiled => by
    rw [each] at compiled
    cases compiled
    exact .nil index
  | step :: rest => fun compiled => by
    rw [each] at compiled
    obtain ⟨first, compiledFirst, compiled⟩ := exists_of_bind_eq_ok compiled
    obtain ⟨others, compiledOthers, compiled⟩ := exists_of_bind_eq_ok compiled
    cases compiled
    exact .cons (rel_of_inner closed (place.made index) step compiledFirst)
      (rel_of_each closed place (index + 1) rest compiledOthers)

/-- It holds throughout the clauses of a choice. -/
theorem rel_of_eachClause (closed : ∀ {place step processor}, Shape context route rel place step processor →
      rel place step processor) (place : Identity) (index : Nat) :
    ∀ (clauses : List (ValueSource κ × List (Step κ))) {branches : List (Evaluator κ × Processor κ)},
      eachClause context route place index clauses = .ok branches →
      EachClause context route rel place index clauses branches
  | [] => fun compiled => by
    rw [eachClause] at compiled
    cases compiled
    exact .nil index
  | (condition, steps) :: rest => fun compiled => by
    rw [eachClause] at compiled
    obtain ⟨asked, found, compiled⟩ := exists_of_bind_eq_ok compiled
    obtain ⟨parts, compiledParts, compiled⟩ := exists_of_bind_eq_ok compiled
    obtain ⟨others, compiledOthers, compiled⟩ := exists_of_bind_eq_ok compiled
    cases compiled
    exact .cons found (rel_of_each closed (place.made index) 0 steps compiledParts)
      (rel_of_eachClause closed place (index + 1) rest compiledOthers)

/-- It holds throughout the clauses that handle errors. -/
theorem rel_of_eachCatch (closed : ∀ {place step processor}, Shape context route rel place step processor →
      rel place step processor) (place : Identity) (index : Nat) :
    ∀ (catches : List (Matcher × List (Step κ))) {handlers : List (Matcher × Processor κ)},
      eachCatch context route place index catches = .ok handlers →
      EachCatch context route rel place index catches handlers
  | [] => fun compiled => by
    rw [eachCatch] at compiled
    cases compiled
    exact .nil index
  | (matcher, steps) :: rest => fun compiled => by
    rw [eachCatch] at compiled
    obtain ⟨parts, compiledParts, compiled⟩ := exists_of_bind_eq_ok compiled
    obtain ⟨others, compiledOthers, compiled⟩ := exists_of_bind_eq_ok compiled
    cases compiled
    exact .cons (rel_of_each closed (place.made index) 0 steps compiledParts)
      (rel_of_eachCatch closed place (index + 1) rest compiledOthers)

end

end CompileContext

/-- What a definition is compiled to is a block, and its parts stand to the steps in any relation that follows from the
shape of processors. -/
theorem Definition.rel_of_compile {κ : Type} (definition : Definition κ) {context : CompileContext κ}
    {identity : Identity} {route : Route κ} (compiled : definition.compile context identity = .ok route)
    {rel : Identity → Step κ → Processor κ → Prop}
    (closed : ∀ {place step processor}, CompileContext.Shape context definition.name rel place step processor →
      rel place step processor) :
    ∃ parts, context.Each definition.name rel identity 0 definition.steps parts ∧
      route = ⟨definition.name, definition.source, context.joined definition.name parts⟩ := by
  unfold Definition.compile at compiled
  split at compiled
  · cases compiled
  · obtain ⟨source, -, compiled⟩ := exists_of_bind_eq_ok compiled
    obtain ⟨processor, compiledBlock, compiled⟩ := exists_of_bind_eq_ok compiled
    cases compiled
    obtain ⟨parts, compiledParts, rfl⟩ := exists_of_map_eq_ok compiledBlock
    exact ⟨parts, CompileContext.rel_of_each closed identity 0 definition.steps compiledParts, rfl⟩

end MessageRouting
