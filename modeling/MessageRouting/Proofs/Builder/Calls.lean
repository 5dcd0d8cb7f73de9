import MessageRouting.Proofs.Route.References
import MessageRouting.Route.Builder

/-!
# Sequences of calls to a builder

A definition is written down as calls: a step without steps inside is one call, and a block is opened, given its
options, filled clause by clause, and closed. A builder that gets these calls builds that definition. Only the policy
of a loop that counts cannot be given by a call; it is the default one.

After calls without misuse, the number of blocks that are open is one more than those opened less those closed, since
the route itself is never closed. After a misuse, calls change nothing.
-/

namespace MessageRouting

variable {κ : Type}

/-! ## The calls of a definition -/

mutual

/-- The calls that add a step. -/
def Step.calls : Step κ → List (BuilderCall κ)
  | .pipeline steps stopOnError =>
    .openPipeline :: .stopOnError stopOnError :: (Step.callsOfAll steps ++ [.close])
  | .choice clauses otherwise =>
    .openChoice :: (Step.callsOfClauses clauses ++ Step.callsOfEnd .otherwise otherwise ++ [.close])
  | .tryCatch steps catches last =>
    .openTry :: (Step.callsOfAll steps ++ Step.callsOfCatches catches ++ Step.callsOfEnd .last last ++ [.close])
  | .multicast outputs parallel stopOnError aggregator =>
    .openMulticast :: .stopOnError stopOnError ::
      ((if parallel then [.parallel] else []) ++ aggregator.toList.map .aggregate ++ Step.callsOfAll outputs ++
        [.close])
  | .loop (.count times) steps _ => .openCountLoop times :: (Step.callsOfAll steps ++ [.close])
  | .loop (.while condition) steps policy =>
    .openWhileLoop condition :: .policy policy :: (Step.callsOfAll steps ++ [.close])
  | .setBody value => [.step (.setBody value)]
  | .setHeader name value => [.step (.setHeader name value)]
  | .setProperty name value => [.step (.setProperty name value)]
  | .removeHeader name => [.step (.removeHeader name)]
  | .removeProperty name => [.step (.removeProperty name)]
  | .to uri => [.step (.to uri)]
  | .function name => [.step (.function name)]
  | .setError error => [.step (.setError error)]
  | .delay duration => [.step (.delay duration)]
  | .log message level => [.step (.log message level)]
  | .marshal format => [.step (.marshal format)]
  | .unmarshal format target => [.step (.unmarshal format target)]
  | .convertBody target params => [.step (.convertBody target params)]
  | .convertHeader name target params => [.step (.convertHeader name target params)]
  | .convertProperty name target params => [.step (.convertProperty name target params)]

/-- The calls that add steps. -/
def Step.callsOfAll : List (Step κ) → List (BuilderCall κ)
  | [] => []
  | step :: rest => step.calls ++ Step.callsOfAll rest

/-- The calls that add the clauses of a choice. -/
def Step.callsOfClauses : List (ValueSource κ × List (Step κ)) → List (BuilderCall κ)
  | [] => []
  | (condition, steps) :: rest => .when condition :: (Step.callsOfAll steps ++ Step.callsOfClauses rest)

/-- The calls that add the clauses that handle errors. -/
def Step.callsOfCatches : List (Matcher × List (Step κ)) → List (BuilderCall κ)
  | [] => []
  | (matcher, steps) :: rest => .catch matcher :: (Step.callsOfAll steps ++ Step.callsOfCatches rest)

/-- The calls that add the clause at the end of a block, if there is one. -/
def Step.callsOfEnd (begins : BuilderCall κ) : Option (List (Step κ)) → List (BuilderCall κ)
  | none => []
  | some steps => begins :: Step.callsOfAll steps

end

/-- The calls that give a definition its steps. -/
def Definition.calls (definition : Definition κ) : List (BuilderCall κ) := Step.callsOfAll definition.steps

/-- A loop that counts has the default policy. -/
def Step.CountsByDefault : Step κ → Prop
  | .loop (.count _) _ policy => policy = .clearAndStop
  | _ => True

namespace Builder

/-- Carries calls out, one after the other. -/
def run (builder : Builder κ) (calls : List (BuilderCall κ)) : Builder κ := calls.foldl apply builder

/-- Without calls a builder does not change. -/
@[simp] theorem run_nil (builder : Builder κ) : builder.run [] = builder := rfl

/-- The first call is carried out before the others. -/
@[simp] theorem run_cons (builder : Builder κ) (call : BuilderCall κ) (rest : List (BuilderCall κ)) :
    builder.run (call :: rest) = (builder.apply call).run rest := rfl

/-- Calls followed by others are carried out before them. -/
theorem run_append (builder : Builder κ) (calls others : List (BuilderCall κ)) :
    builder.run (calls ++ others) = (builder.run calls).run others := List.foldl_append

/-! ## After a misuse -/

/-- A misused builder does not change. -/
theorem run_of_misuse {builder : Builder κ} {message : String} (misused : builder.misuse = some message)
    (calls : List (BuilderCall κ)) : builder.run calls = builder := by
  induction calls with
  | nil => rfl
  | cons call rest later =>
    have unchanged : builder.apply call = builder := by
      rw [apply, misused]
      rfl
    rw [run_cons, unchanged, later]

/-- A misused builder says so, and which misuse came first. -/
theorem build_of_misuse {builder : Builder κ} {message : String} (misused : builder.misuse = some message) :
    builder.build = .error (.routeBuild s!"route '{builder.name}': {message}") := by
  rw [build, misused]

/-- A builder that builds was not misused. -/
theorem misuse_of_build {builder : Builder κ} {definition : Definition κ} (built : builder.build = .ok definition) :
    builder.misuse = none := by
  cases misused : builder.misuse with
  | none => rfl
  | some message =>
    rw [build_of_misuse misused] at built
    cases built

/-- Where there is no misuse after calls, there was none before. -/
theorem misuse_of_run {builder : Builder κ} {calls : List (BuilderCall κ)}
    (fine : (builder.run calls).misuse = none) : builder.misuse = none := by
  cases misused : builder.misuse with
  | none => rfl
  | some message =>
    rw [run_of_misuse misused, misused] at fine
    cases fine

/-- A builder that was not misused carries calls out. -/
theorem apply_of_fine {builder : Builder κ} (fine : builder.misuse = none) (call : BuilderCall κ) :
    builder.apply call = builder.carryOut call := by
  rw [apply, fine]
  rfl

/-- Where there is no misuse after a call and others, the call is carried out without misuse. -/
theorem run_cons_of_fine {builder : Builder κ} {call : BuilderCall κ} {rest : List (BuilderCall κ)}
    (fine : (builder.run (call :: rest)).misuse = none) :
    builder.run (call :: rest) = (builder.carryOut call).run rest ∧ (builder.carryOut call).misuse = none := by
  have isCarriedOut := apply_of_fine (misuse_of_run fine) call
  rw [run_cons, isCarriedOut] at fine ⊢
  exact ⟨rfl, misuse_of_run fine⟩

/-- The innermost block is changed, where it can be. -/
theorem onInnermost_of_ok {name source : String} {misuse : Option String} {f : Block κ → Except String (Block κ)}
    {block changed : Block κ} {rest : List (Block κ)} (changes : f block = .ok changed) :
    onInnermost ⟨name, source, block :: rest, misuse⟩ f = ⟨name, source, changed :: rest, misuse⟩ := by
  simp only [onInnermost, changes]

end Builder

/-! ## Blocks that take steps -/

/-- A step comes after those of the last clause. -/
theorem Block.addToLast_concat {α : Type} (step : Step κ) (head : α) (steps : List (Step κ)) :
    ∀ clauses : List (α × List (Step κ)),
      addToLast step (clauses ++ [(head, steps)]) = some (clauses ++ [(head, steps ++ [step])])
  | [] => rfl
  | [clause] => rfl
  | clause :: next :: rest => by
    have later := addToLast_concat step head steps (next :: rest)
    rw [List.cons_append] at later
    rw [List.cons_append, List.cons_append, addToLast, later]
    rfl

/-- A block that takes a step refuses no block. -/
theorem Block.refusal?_of_add {block changed : Block κ} {step : Step κ} (added : block.add step = .ok changed) :
    block.refusal? = none := by
  fun_cases Block.refusal? block with
  | case1 | case2 | case3 | case4 | case5 => cases added
  | case6 => rfl

/-- A block that is filled with steps takes any further step at their end. -/
def Block.Fills (fill : List (Step κ) → Block κ) : Prop :=
  ∀ (before : List (Step κ)) (step : Step κ), (fill before).add step = .ok (fill (before ++ [step]))

namespace Block

/-- A route is filled with steps. -/
theorem fills_route : Fills (κ := κ) .route := fun _ _ => rfl

/-- A pipeline is filled with steps. -/
theorem fills_pipeline (stopOnError : Bool) : Fills (κ := κ) (.pipeline · stopOnError) := fun _ _ => rfl

/-- A loop is filled with steps. -/
theorem fills_loop (mode : LoopMode κ) (policy : Pattern.ConditionPolicy) : Fills (.loop mode · policy) :=
  fun _ _ => rfl

/-- A multicast is filled with outputs. -/
theorem fills_multicast (parallel stopOnError : Bool) (aggregator : Option κ) :
    Fills (.multicast · parallel stopOnError aggregator) := fun _ _ => rfl

/-- Before the first handler, the steps that are tried are filled. -/
theorem fills_tried : Fills (κ := κ) (.tryCatch · [] none .steps) := fun _ _ => rfl

/-- The latest clause of a choice is filled. -/
theorem fills_when (clauses : List (ValueSource κ × List (Step κ))) (condition : ValueSource κ) :
    Fills fun steps => .choice (clauses ++ [(condition, steps)]) none .when := by
  intro before step
  simp only [add, addToLast_concat]

/-- The branch for all other cases is filled. -/
theorem fills_otherwise (clauses : List (ValueSource κ × List (Step κ))) :
    Fills fun steps => .choice clauses (some steps) .otherwise := fun _ _ => rfl

/-- The latest handler is filled. -/
theorem fills_catch (steps : List (Step κ)) (catches : List (Matcher × List (Step κ))) (matcher : Matcher) :
    Fills fun handler => .tryCatch steps (catches ++ [(matcher, handler)]) none .catch := by
  intro before step
  simp only [add, addToLast_concat]

/-- The steps that come last are filled. -/
theorem fills_last (steps : List (Step κ)) (catches : List (Matcher × List (Step κ))) :
    Fills fun ends => .tryCatch steps catches (some ends) .last := fun _ _ => rfl

/-! ## Clauses that begin -/

/-- A clause begins in a choice without a branch for all other cases. -/
theorem beginWhen_eq (clauses : List (ValueSource κ × List (Step κ))) (condition : ValueSource κ)
    {current : ChoiceSection} (unfinished : current ≠ .otherwise) :
    beginWhen condition (.choice clauses none current) = .ok (.choice (clauses ++ [(condition, [])]) none .when) := by
  cases current with
  | start | when => rfl
  | otherwise => exact absurd rfl unfinished

/-- The branch for all other cases begins in a choice that has none. -/
theorem beginOtherwise_eq (clauses : List (ValueSource κ × List (Step κ))) (current : ChoiceSection) :
    beginOtherwise (.choice clauses none current) = .ok (.choice clauses (some []) .otherwise) := by
  cases current <;> rfl

/-- A handler begins in a block without steps that come last. -/
theorem beginCatch_eq (steps : List (Step κ)) (catches : List (Matcher × List (Step κ))) (matcher : Matcher)
    {current : TrySection} (unfinished : current ≠ .last) :
    beginCatch matcher (.tryCatch steps catches none current) =
      .ok (.tryCatch steps (catches ++ [(matcher, [])]) none .catch) := by
  cases current with
  | steps | «catch» => rfl
  | last => exact absurd rfl unfinished

/-- The steps that come last begin in a block that has none. -/
theorem beginLast_eq (steps : List (Step κ)) (catches : List (Matcher × List (Step κ))) (current : TrySection) :
    beginLast (.tryCatch steps catches none current) = .ok (.tryCatch steps catches (some []) .last) := by
  cases current <;> rfl

/-- A choice that is closed, with or without a branch for all other cases. -/
theorem close_choice (clauses : List (ValueSource κ × List (Step κ))) (otherwise : Option (List (Step κ)))
    (current : ChoiceSection) :
    (otherwise.elim (choice clauses none current) fun steps => choice clauses (some steps) .otherwise).close =
      some (Step.choice clauses otherwise) := by
  cases otherwise <;> rfl

/-- A block that tries and is closed, with or without steps that come last. -/
theorem close_tryCatch (steps : List (Step κ)) (catches : List (Matcher × List (Step κ)))
    (last : Option (List (Step κ))) (current : TrySection) :
    (last.elim (tryCatch steps catches none current) fun ends => tryCatch steps catches (some ends) .last).close =
      some (Step.tryCatch steps catches last) := by
  cases last <;> rfl

/-! ## Calls that turn a block into another -/

/-- The calls turn the innermost block into another one, and do nothing else. -/
def Turns (block : Block κ) (calls : List (BuilderCall κ)) (changed : Block κ) : Prop :=
  ∀ (name source : String) (rest : List (Block κ)),
    Builder.run ⟨name, source, block :: rest, none⟩ calls = ⟨name, source, changed :: rest, none⟩

namespace Turns

/-- No calls leave a block as it is. -/
theorem nil (block : Block κ) : block.Turns [] block := fun _ _ _ => rfl

/-- Calls after calls. -/
theorem trans {block between changed : Block κ} {calls others : List (BuilderCall κ)}
    (first : block.Turns calls between) (second : between.Turns others changed) :
    block.Turns (calls ++ others) changed := by
  intro name source rest
  rw [Builder.run_append, first, second]

/-- A call that changes the innermost block, before other calls. -/
theorem cons {f : Block κ → Except String (Block κ)} {block between changed : Block κ} {call : BuilderCall κ}
    {others : List (BuilderCall κ)} (does : ∀ builder : Builder κ, builder.carryOut call = builder.onInnermost f)
    (changes : f block = .ok between) (second : between.Turns others changed) :
    block.Turns (call :: others) changed := by
  intro name source rest
  have first : Builder.apply ⟨name, source, block :: rest, none⟩ call = ⟨name, source, between :: rest, none⟩ :=
    (does _).trans (Builder.onInnermost_of_ok changes)
  rw [Builder.run_cons, first]
  exact second name source rest

/-- A block that is opened in one that takes steps, filled by calls and closed becomes the next step of it. -/
theorem block {fill : List (Step κ) → Block κ} (fills : Fills fill) (before : List (Step κ)) {opened filled : Block κ}
    {step : Step κ} {begins : BuilderCall κ} {inside : List (BuilderCall κ)}
    (opens : ∀ builder : Builder κ, builder.carryOut begins = builder.openBlock opened)
    (turns : opened.Turns inside filled) (closes : filled.close = some step) :
    (fill before).Turns (begins :: (inside ++ [.close])) (fill (before ++ [step])) := by
  intro name source rest
  have takes : (fill before).refusal? = none := refusal?_of_add (fills before step)
  have isOpened : Builder.apply ⟨name, source, fill before :: rest, none⟩ begins =
      ⟨name, source, opened :: fill before :: rest, none⟩ := by
    refine (opens _).trans ?_
    simp only [Builder.openBlock, List.head?_cons, Option.bind_some, takes]
  have isClosed : Builder.apply ⟨name, source, filled :: fill before :: rest, none⟩ .close =
      ⟨name, source, fill (before ++ [step]) :: rest, none⟩ := by
    refine (Builder.apply_of_fine rfl _).trans ?_
    simp only [Builder.carryOut, Builder.closeBlock, closes]
    exact Builder.onInnermost_of_ok (fills before step)
  rw [Builder.run_cons, isOpened, Builder.run_append, turns, Builder.run_cons, isClosed, Builder.run_nil]

end Turns

end Block

/-! ## Building a definition -/

namespace Step

open Block

mutual

/-- The calls of a step add it to a block that takes steps. -/
theorem turns_calls {fill : List (Step κ) → Block κ} (fills : Fills fill) (before : List (Step κ)) :
    ∀ step : Step κ, step.CountsByDefault → Throughout CountsByDefault step.children →
      (fill before).Turns step.calls (fill (before ++ [step]))
  | .pipeline steps stopOnError, _, inside => by
    have filled := turns_callsOfAll (fills_pipeline stopOnError) [] steps inside
    have turns : (Block.pipeline [] false).Turns (.stopOnError stopOnError :: callsOfAll steps)
      (.pipeline steps stopOnError) := .cons (fun _ => rfl) rfl filled
    exact .block fills before (fun _ => rfl) turns rfl
  | .choice clauses otherwise, _, inside => by
    obtain ⟨inClauses, inOtherwise⟩ := throughout_append.mp inside
    obtain ⟨current, _, filled⟩ := turns_callsOfClauses [] .start (by decide) clauses inClauses
    have ended := turns_callsOfEnd .otherwise (fills_otherwise clauses) (fun _ => rfl)
      (beginOtherwise_eq clauses current) otherwise inOtherwise
    exact .block fills before (fun _ => rfl) (filled.trans ended) (close_choice clauses otherwise current)
  | .tryCatch steps catches last, _, inside => by
    obtain ⟨inFirst, inLast⟩ := throughout_append.mp inside
    obtain ⟨inSteps, inCatches⟩ := throughout_append.mp inFirst
    have tried := turns_callsOfAll fills_tried [] steps inSteps
    obtain ⟨current, _, filled⟩ := turns_callsOfCatches steps [] .steps (by decide) catches inCatches
    have ended := turns_callsOfEnd .last (fills_last steps catches) (fun _ => rfl) (beginLast_eq steps catches current)
      last inLast
    exact .block fills before (fun _ => rfl) ((tried.trans filled).trans ended)
      (close_tryCatch steps catches last current)
  | .multicast outputs parallel stopOnError aggregator, _, inside => by
    have filled := turns_callsOfAll (fills_multicast parallel stopOnError aggregator) [] outputs inside
    have joined : (Block.multicast [] parallel stopOnError none).Turns (aggregator.toList.map .aggregate)
        (.multicast [] parallel stopOnError aggregator) := by
      cases aggregator with
      | none => exact .nil _
      | some code => exact .cons (fun _ => rfl) rfl (.nil _)
    have sideBySide : (Block.multicast (κ := κ) [] false stopOnError none).Turns
        (if parallel then [.parallel] else []) (.multicast [] parallel stopOnError none) := by
      cases parallel with
      | false => exact .nil _
      | true => exact .cons (fun _ => rfl) rfl (.nil _)
    have turns : (Block.multicast [] false false none).Turns (.stopOnError stopOnError ::
        ((if parallel then [BuilderCall.parallel] else []) ++ aggregator.toList.map .aggregate ++ callsOfAll outputs))
        (.multicast outputs parallel stopOnError aggregator) :=
      .cons (fun _ => rfl) rfl ((sideBySide.trans joined).trans filled)
    exact .block fills before (fun _ => rfl) turns rfl
  | .loop (.count times) steps policy, byDefault, inside => by
    have filled := turns_callsOfAll (fills_loop (.count times) .clearAndStop) [] steps inside
    cases byDefault
    exact .block fills before (fun _ => rfl) filled rfl
  | .loop (.while condition) steps policy, _, inside => by
    have filled := turns_callsOfAll (fills_loop (.while condition) policy) [] steps inside
    have turns : (Block.loop (.while condition) [] .clearAndStop).Turns (.policy policy :: callsOfAll steps)
      (.loop (.while condition) steps policy) := .cons (fun _ => rfl) rfl filled
    exact .block fills before (fun _ => rfl) turns rfl
  | .setBody _, _, _ | .setHeader _ _, _, _ | .setProperty _ _, _, _ | .removeHeader _, _, _
  | .removeProperty _, _, _ | .to _, _, _ | .function _, _, _ | .setError _, _, _ | .delay _, _, _
  | .log _ _, _, _ | .marshal _, _, _ | .unmarshal _ _, _, _ | .convertBody _ _, _, _
  | .convertHeader _ _ _, _, _ | .convertProperty _ _ _, _, _ =>
    .cons (fun _ => rfl) (fills before _) (.nil _)
termination_by structural step => step

/-- The calls of steps add them to a block that takes steps. -/
theorem turns_callsOfAll {fill : List (Step κ) → Block κ} (fills : Fills fill) (before : List (Step κ)) :
    ∀ steps : List (Step κ), Throughout CountsByDefault steps →
      (fill before).Turns (callsOfAll steps) (fill (before ++ steps))
  | [], _ => by
    rw [callsOfAll, List.append_nil]
    exact .nil _
  | step :: others, inside => by
    obtain ⟨⟨own, below⟩, later⟩ := throughout_cons.mp inside
    have first := turns_calls fills before step own below
    have second := turns_callsOfAll fills (before ++ [step]) others later
    rw [List.append_assoc, List.singleton_append] at second
    exact first.trans second
termination_by structural steps => steps

/-- The calls of clauses add them to a choice that takes clauses. -/
theorem turns_callsOfClauses (done : List (ValueSource κ × List (Step κ))) (current : ChoiceSection)
    (unfinished : current ≠ .otherwise) : ∀ clauses : List (ValueSource κ × List (Step κ)),
      Throughout CountsByDefault (clauses.flatMap Prod.snd) → ∃ now : ChoiceSection, now ≠ .otherwise ∧
        (Block.choice done none current).Turns (callsOfClauses clauses) (.choice (done ++ clauses) none now)
  | [], _ => by
    refine ⟨current, unfinished, ?_⟩
    rw [callsOfClauses, List.append_nil]
    exact .nil _
  | (condition, steps) :: others, inside => by
    obtain ⟨inFirst, inOthers⟩ := throughout_append.mp inside
    have first := turns_callsOfAll (fills_when done condition) [] steps inFirst
    obtain ⟨now, stillUnfinished, second⟩ :=
      turns_callsOfClauses (done ++ [(condition, steps)]) .when (by decide) others inOthers
    rw [List.append_assoc, List.singleton_append] at second
    exact ⟨now, stillUnfinished, .cons (fun _ => rfl) (beginWhen_eq done condition unfinished) (first.trans second)⟩
termination_by structural clauses => clauses

/-- The calls of handlers add them to a block that takes handlers. -/
theorem turns_callsOfCatches (steps : List (Step κ)) (done : List (Matcher × List (Step κ))) (current : TrySection)
    (unfinished : current ≠ .last) : ∀ catches : List (Matcher × List (Step κ)),
      Throughout CountsByDefault (catches.flatMap Prod.snd) → ∃ now : TrySection, now ≠ .last ∧
        (Block.tryCatch steps done none current).Turns (callsOfCatches catches)
          (.tryCatch steps (done ++ catches) none now)
  | [], _ => by
    refine ⟨current, unfinished, ?_⟩
    rw [callsOfCatches, List.append_nil]
    exact .nil _
  | (matcher, handler) :: others, inside => by
    obtain ⟨inFirst, inOthers⟩ := throughout_append.mp inside
    have first := turns_callsOfAll (fills_catch steps done matcher) [] handler inFirst
    obtain ⟨now, stillUnfinished, second⟩ :=
      turns_callsOfCatches steps (done ++ [(matcher, handler)]) .catch (by decide) others inOthers
    rw [List.append_assoc, List.singleton_append] at second
    exact ⟨now, stillUnfinished,
      .cons (fun _ => rfl) (beginCatch_eq steps done matcher unfinished) (first.trans second)⟩
termination_by structural catches => catches

/-- The calls of a clause at the end begin it, if there is one, and fill it. -/
theorem turns_callsOfEnd (begins : BuilderCall κ) {f : Block κ → Except String (Block κ)} {block : Block κ}
    {fill : List (Step κ) → Block κ} (fills : Fills fill)
    (does : ∀ builder : Builder κ, builder.carryOut begins = builder.onInnermost f)
    (changes : f block = .ok (fill [])) : ∀ ends : Option (List (Step κ)), Throughout CountsByDefault (ends.getD []) →
      block.Turns (callsOfEnd begins ends) (ends.elim block fill)
  | none, _ => by
    rw [callsOfEnd]
    exact .nil _
  | some steps, inside => by
    rw [callsOfEnd]
    exact .cons does changes (turns_callsOfAll fills [] steps inside)
termination_by structural ends => ends

end

end Step

/-- The calls of a definition build that definition. -/
theorem Builder.build_calls (definition : Definition κ)
    (byDefault : Step.Throughout Step.CountsByDefault definition.steps) :
    ((Builder.new definition.name definition.source).run definition.calls).build = .ok definition := by
  have filled : Builder.run (new definition.name definition.source) definition.calls = _ :=
    Step.turns_callsOfAll Block.fills_route [] definition.steps byDefault definition.name definition.source []
  rw [filled]
  rfl

end MessageRouting
