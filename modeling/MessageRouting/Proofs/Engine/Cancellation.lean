import MessageRouting.Proofs.Engine.RefusedTry

/-!
# What a cancellation stops

Once a scope is cancelled, a compiled route lets no step begin on an exchange in it or below it: all its steps are
decorated, and what was begun before comes to its end soon. A loop goes on for one iteration at most, which is
refused, and a try keeps the error of a refusal, but for an earlier failure among its last steps. The code of the
embedding program has a part in this: it takes no cancellation back, and its hooks before steps do not cancel.
-/

namespace MessageRouting

namespace Engine

variable {κ η : Type}

/-- What is undecorated in a step ends soon when its exchange is cancelled, and does not forget the error of a
refusal. -/
def StopsWhenCancelled (embedding : Embedding κ η) : Processor κ → Prop
  | .countLoop _ body => CountStops embedding body
  | .whileLoop condition policy body => WhileStops embedding condition policy body
  | .tryCatch steps handlers last => TryKeeps embedding steps handlers last
  | _ => True

/-- A scope that is cancelled at a state is so at a later one, and in between no step began to work on an exchange in
it or below it. -/
def NothingStarts (now later : Engine κ η) : Prop :=
  ∀ scope : Scope, scope.isCancelled now.cancelled = true →
    scope.isCancelled later.cancelled = true ∧
      ∃ events, later.journal = events ++ now.journal ∧
        ∀ info x, .started info x ∈ events → ¬ scope.path <:+ x.scope.path

/-- A scope below a cancelled one is cancelled. -/
theorem isCancelled_of_suffix {scope below : Scope} {cancelled : List Identity} (suffix : scope.path <:+ below.path)
    (reached : scope.isCancelled cancelled = true) : below.isCancelled cancelled = true := by
  obtain ⟨identity, above, member⟩ := List.any_eq_true.mp reached
  exact List.any_eq_true.mpr ⟨identity, suffix.subset above, member⟩

/-- Later states let nothing start in a scope that is cancelled. -/
theorem Later.nothingStarts {now later : Engine κ η} (order : Later now later) : NothingStarts now later := by
  intro scope reached
  obtain ⟨events, added, quiet⟩ := order.journal
  refine ⟨Scope.isCancelled_mono order.cancelled reached, events, added, fun info x member suffix => ?_⟩
  have alive := quiet info x member
  rw [isCancelled_of_suffix suffix reached] at alive
  cases alive

/-- Over decorated parts, loops end soon and tries keep the error of a refusal. -/
theorem holdsOverDecorated_stopsWhenCancelled {embedding : Embedding κ η} (calm : embedding.Calm) :
    Processor.HoldsOverDecorated (StopsWhenCancelled embedding) := by
  intro inner parts
  cases inner with
  | countLoop count body => exact countStops_of_decorated (parts body List.mem_cons_self)
  | whileLoop condition policy body =>
    exact whileStops_of_decorated calm condition policy (parts body List.mem_cons_self)
  | tryCatch steps handlers last =>
    refine tryKeeps_of_decorated (fun clause member => parts clause.2 ?_) fun step member => parts step ?_
    · exact List.mem_append_left _ (List.mem_append_right _ (List.mem_map_of_mem member))
    · exact List.mem_append_right _ member
  | _ => trivial

/-- From the moment at which a scope is cancelled, a compiled route lets nothing start on exchanges in it or below it,
in every run, however far it goes; its steps are decorated everywhere, and decorated steps refuse such exchanges; its
loops end with the iteration they are in or with one more that is refused; and its tries keep the error of a refusal,
but for an earlier failure among their last steps. -/
theorem compiled_stopsWhenCancelled (embedding : Embedding κ η) (calm : embedding.Calm) (definition : Definition κ)
    (context : CompileContext κ) (identity : Identity) (route : Route κ)
    (compiled : definition.compile context identity = .ok route) :
    (∀ (fuel : Nat) (x : Exchange) (engine : Engine κ η),
      (engine :: passedByTask embedding fuel (route.processor, x) engine).Pairwise NothingStarts) ∧
    route.processor.Guarded context.functions (StopsWhenCancelled embedding) ∧
    ∀ (step : Processor κ), step.IsDecorated → ∀ (fuel patience : Nat) (x : Exchange) (engine : Engine κ η),
      engine.IsCancelled x →
      ∃ y after, run embedding fuel (behaviour embedding patience step x) engine = some (.returned y, after) ∧
        Refused engine x y after := by
  refine ⟨fun fuel x engine => ?_, ?_, fun step decorated fuel patience x engine cancelled => ?_⟩
  · exact (tasksInOrder calm fuel (route.processor, x) engine).pairwise.imp Later.nothingStarts
  · exact Definition.guarded_of_compile compiled (holdsOverDecorated_stopsWhenCancelled calm)
  · exact run_decorated_of_cancelled embedding fuel patience decorated cancelled

/-! ## A function that cancels -/

/-- The only function cancels the scope of its exchange; after a pipeline the hook lets the time go on. -/
def stopping : Embedding Nat Unit where
  evaluate _ _ := return .returned .null
  function _ x := do
    cancel x.scope
    return (x, .returned ())
  process _ x := return .returned x
  hook _ point info x :=
    if point = .post ∧ info.step = "pipeline" then do
      Program.change fun engine => { engine with now := engine.now + 1000 }
      return .returned x
    else return .returned x
  aggregate _ _ branch := return .ok branch
  convert _ value _ := return .returned value
  formatName _ := ""
  marshal _ _ := return .returned ""
  unmarshal _ _ _ := return .returned .null
  component _ _ state := (.error .cancelled, state)

/-- Code that cancels only in its function is calm. -/
theorem calm_stopping : stopping.Calm where
  evaluate _ _ := trivial
  function _ x := (calm_cancel x.scope).bind fun _ => trivial
  process _ _ := trivial
  hook _ point info x := by
    change Program.Sections Calm (if point = .post ∧ info.step = "pipeline" then _ else _)
    split
    · exact (Program.Sections.change fun _ => .of_same rfl rfl).bind fun _ => trivial
    · trivial
  aggregate _ _ _ := trivial
  convert _ _ _ := trivial
  marshal _ _ := trivial
  unmarshal _ _ _ := trivial
  spares _ _ _ _ _ _ _ ran alive := by
    cases ran
    exact alive

/-- A context with the function that cancels and a hook after each step. -/
def stoppingContext : CompileContext Nat :=
  ⟨⟨"function", [("stop", .function 0)]⟩, ⟨"data format", []⟩, [], { post := some 0 }, false⟩

/-- An exchange with a deadline. -/
def stoppingExchange : Exchange :=
  .create (.root 1) ((Scope.root (.root 0)).withDeadline (.root 2) 500) [] .null

/-- An engine for the exchange. -/
def stoppingEngine : Engine Nat Unit := .standard {} 0 ()

/-- A loop over a try in which the function cancels and a handler accepts any error. -/
def loopOverStop : Definition Nat :=
  ⟨"r", "direct:in", [.loop (.count (.constant (.int 3)))
    [.tryCatch [.function "stop", .setBody (.constant .null)] [(.any, [])] (some [.removeHeader "h"])] .propagate]⟩

/-- What the loop is compiled to. -/
def routeOverStop : Route Nat :=
  let step (name : String) : Processor Nat → Processor Nat := stoppingContext.decorate "r" name
  ⟨"r", "direct:in", step "loop" (.countLoop (.constant (.int 3)) (step "doTry" (.tryCatch
    [step "process[stop]" (.function 0), step "setBody" (.leaf (.setBody (.constant .null)))]
    [(.any, step "pipeline" (.pipeline false []))]
    [step "removeHeader[h]" (.leaf (.removeHeader "h"))])))⟩

/-- The loop over the try stops when the function has cancelled. -/
theorem compiled_stopsWhenCancelled_loopOverStop :
    stopping.Calm ∧ loopOverStop.compile stoppingContext (.root 0) = .ok routeOverStop ∧
      (stoppingEngine ::
        passedByTask stopping 9 (routeOverStop.processor, stoppingExchange) stoppingEngine).Pairwise NothingStarts ∧
      routeOverStop.processor.Guarded stoppingContext.functions (StopsWhenCancelled stopping) := by
  have compiled : loopOverStop.compile stoppingContext (.root 0) = .ok routeOverStop := rfl
  obtain ⟨quiet, guarded, -⟩ :=
    compiled_stopsWhenCancelled stopping calm_stopping loopOverStop stoppingContext (.root 0) routeOverStop compiled
  exact ⟨calm_stopping, compiled, quiet 9 stoppingExchange stoppingEngine, guarded⟩

/-- What comes last in a try fails, cancels, and is refused. -/
def failingBeforeStop : Definition Nat :=
  ⟨"r", "direct:in", [.tryCatch [] [] (some
    [.setError (.constant (.string "boom")), .function "stop", .setBody (.constant .null)])]⟩

/-- What is tried cancels and is refused; the deadline passes, and a handler is refused. -/
def handledAfterDeadline : Definition Nat :=
  ⟨"r", "direct:in", [.tryCatch [.pipeline [.function "stop", .removeHeader "h"] false]
    [(.any, [.setBody (.constant .null)])] none]⟩

/-- What the route of a definition makes of the exchange. -/
def ranOnce (definition : Definition Nat) : Option (Outcome × Engine Nat Unit) :=
  match definition.compile stoppingContext (.root 0) with
  | .error _ => none
  | .ok route => run stopping 9 (Program.ask (route.processor, stoppingExchange)) stoppingEngine

/-- The error says that the scope was cancelled, or that last steps failed. -/
def SaysCancelled (error : Raised) : Prop :=
  error.cause = .fault .cancelled ∨ ∃ earlier later, error.cause = .fault (.finallyFailed earlier later)

/-- The check of a step has put the error of a cancelled scope on the exchange, but this is not how it ends: an earlier
failure among the last steps stands in the place of that error, and so does a deadline that has passed when a handler
is refused. -/
theorem cancelled_error_lost :
    (∃ outcome after error y, ranOnce failingBeforeStop = some (outcome, after) ∧
      .refused ⟨"r", "setBody"⟩ y ∈ after.journal ∧ refusal stoppingEngine y = .cancelled ∧
      outcome.exchange.error = some error ∧ ¬ SaysCancelled error) ∧
    ∃ outcome after error y, ranOnce handledAfterDeadline = some (outcome, after) ∧
      .refused ⟨"r", "removeHeader[h]"⟩ y ∈ after.journal ∧ refusal stoppingEngine y = .cancelled ∧
      outcome.exchange.error = some error ∧ ¬ SaysCancelled error := by
  constructor
  · refine ⟨_, _, _, _, rfl, .tail _ (.tail _ (.head _)), rfl, rfl, ?_⟩
    rintro (same | ⟨_, _, same⟩) <;> cases same
  · refine ⟨_, _, _, _, rfl, .tail _ (.tail _ (.tail _ (.tail _ (.tail _ (.head _))))), rfl, rfl, ?_⟩
    rintro (same | ⟨_, _, same⟩) <;> cases same

end Engine

end MessageRouting
