import MessageRouting.Proofs.Builder.Places

/-!
# Builders read nested calls

What a call does to the open blocks, without misuse, is one of four things: it opens a block, closes the innermost one,
adds a step, or changes the innermost block without adding to it. Each is counted by the depth, and each leaves the
blocks in a form that leads to the place where the call moves. So, over all calls, a definition that was built has the
steps that were added, at the places that the calls told.
-/

namespace MessageRouting

variable {κ : Type}

/-! ## Calls without misuse -/

namespace Builder

open BuilderCall

variable {builder : Builder κ}

/-- A builder that fails is misused. -/
theorem misuse_fail (builder : Builder κ) (message : String) : (builder.fail message).misuse ≠ none :=
  Option.some_ne_none _

/-- The innermost block is changed without misuse. -/
theorem onInnermost_fine {f : Block κ → Except String (Block κ)} (fine : (builder.onInnermost f).misuse = none) :
    ∃ (block changed : Block κ) (rest : List (Block κ)), builder.blocks = block :: rest ∧ f block = .ok changed ∧
      (builder.onInnermost f).blocks = changed :: rest := by
  unfold onInnermost at fine ⊢
  split at fine
  · exact absurd fine (misuse_fail _ _)
  · rename_i block rest isBlocks
    split at fine
    · rename_i changed changes
      exact ⟨block, changed, rest, isBlocks, changes, rfl⟩
    · exact absurd fine (misuse_fail _ _)

/-- A block is opened without misuse. -/
theorem openBlock_fine {opened : Block κ} (fine : (builder.openBlock opened).misuse = none) :
    (builder.openBlock opened).blocks = opened :: builder.blocks := by
  unfold openBlock at fine ⊢
  split at fine
  · exact absurd fine (misuse_fail _ _)
  · rfl

/-- A block is closed without misuse. -/
theorem closeBlock_fine (fine : builder.closeBlock.misuse = none) :
    ∃ (block parent changed : Block κ) (rest : List (Block κ)) (step : Step κ),
      builder.blocks = block :: parent :: rest ∧ block.close = some step ∧ parent.add step = .ok changed ∧
        builder.closeBlock.blocks = changed :: rest := by
  unfold closeBlock at fine ⊢
  split at fine
  · exact absurd fine (misuse_fail _ _)
  · exact absurd fine (misuse_fail _ _)
  · rename_i block outer notAlone isBlocks
    split at fine
    · rename_i step closes
      obtain ⟨parent, changed, rest, isOuter, added, isAdded⟩ := onInnermost_fine fine
      cases isOuter
      exact ⟨block, parent, changed, rest, step, isBlocks, closes, added, isAdded⟩
    · exact absurd fine (misuse_fail _ _)

/-- What a call can do to the open blocks, and how it counts. -/
inductive Effect (call : BuilderCall κ) : List (Block κ) → List (Block κ) → Prop
  /-- It opens a block without leaves, in which the next step goes first. -/
  | opened (blocks : List (Block κ)) {opened : Block κ} {part : Section} (opens : call.opens = true)
      (closes : call.closes = false) (adds : call.added? = none)
      (moves : ∀ place : Address, call.moves place = (part, 0) :: place) (takes : opened.Takes part [])
      (empty : ∀ place : Address, opened.leaves place = []) : Effect call blocks (opened :: blocks)
  /-- It closes the innermost block, which becomes a step of the one around. -/
  | closed (rest : List (Block κ)) {block parent changed : Block κ} {step : Step κ} (isClose : call = .close)
      (closes : block.close = some step) (added : parent.add step = .ok changed) :
    Effect call (block :: parent :: rest) (changed :: rest)
  /-- It adds a step. -/
  | added (rest : List (Block κ)) {block changed : Block κ} {step : Step κ} (isStep : call = .step step)
      (added : block.add step = .ok changed) : Effect call (block :: rest) (changed :: rest)
  /-- It changes the innermost block, which gets no leaf. -/
  | turned (rest : List (Block κ)) {block changed : Block κ} (opens : call.opens = false)
      (closes : call.closes = false) (adds : call.added? = none)
      (turns : ∀ (part : Section) (steps : List (Step κ)), block.Takes part steps →
        ∃ (other : Section) (now : List (Step κ)), block.Turned changed other now ∧
          ∀ place : Address, call.moves ((part, steps.length) :: place) = (other, now.length) :: place) :
    Effect call (block :: rest) (changed :: rest)

/-- A call that changes the innermost block without a further leaf. -/
theorem effect_of_turns {call : BuilderCall κ} {f : Block κ → Except String (Block κ)}
    (fine : (builder.onInnermost f).misuse = none) (opens : call.opens = false) (closes : call.closes = false)
    (adds : call.added? = none)
    (turns : ∀ (block changed : Block κ) (part : Section) (steps : List (Step κ)), block.Takes part steps →
      f block = .ok changed → ∃ (other : Section) (now : List (Step κ)), block.Turned changed other now ∧
        ∀ place : Address, call.moves ((part, steps.length) :: place) = (other, now.length) :: place) :
    Effect call builder.blocks (builder.onInnermost f).blocks := by
  obtain ⟨block, changed, rest, isBlocks, changes, isChanged⟩ := onInnermost_fine fine
  rw [isBlocks, isChanged]
  exact .turned rest opens closes adds fun part steps takes => turns block changed part steps takes changes

/-- What a call does without misuse. -/
theorem effect_carryOut (call : BuilderCall κ) (fine : (builder.carryOut call).misuse = none) :
    Effect call builder.blocks (builder.carryOut call).blocks := by
  cases call with
  | step step =>
    obtain ⟨block, changed, rest, isBlocks, adds, isChanged⟩ := onInnermost_fine fine
    rw [isBlocks, carryOut, isChanged]
    exact .added rest rfl adds
  | openPipeline =>
    rw [carryOut, openBlock_fine fine]
    exact .opened _ rfl rfl rfl (fun _ => rfl) (.pipeline [] false) fun _ => rfl
  | openChoice =>
    rw [carryOut, openBlock_fine fine]
    exact .opened _ rfl rfl rfl (fun _ => rfl) .start fun _ => rfl
  | openTry =>
    rw [carryOut, openBlock_fine fine]
    exact .opened _ rfl rfl rfl (fun _ => rfl) (.tried []) fun _ => rfl
  | openCountLoop times =>
    rw [carryOut, openBlock_fine fine]
    exact .opened _ rfl rfl rfl (fun _ => rfl) (.loop (.count times) [] .clearAndStop) fun _ => rfl
  | openWhileLoop condition =>
    rw [carryOut, openBlock_fine fine]
    exact .opened _ rfl rfl rfl (fun _ => rfl) (.loop (.while condition) [] .clearAndStop) fun _ => rfl
  | openMulticast =>
    rw [carryOut, openBlock_fine fine]
    exact .opened _ rfl rfl rfl (fun _ => rfl) (.multicast [] false false none) fun _ => rfl
  | «when» condition =>
    exact effect_of_turns fine rfl rfl rfl fun _ _ _ _ takes begins => ⟨_, [], takes.beginWhen begins, fun _ => rfl⟩
  | otherwise =>
    exact effect_of_turns fine rfl rfl rfl fun _ _ _ _ takes begins =>
      ⟨_, [], takes.beginOtherwise begins, fun _ => rfl⟩
  | «catch» matcher =>
    exact effect_of_turns fine rfl rfl rfl fun _ _ _ _ takes begins => ⟨_, [], takes.beginCatch begins, fun _ => rfl⟩
  | last =>
    exact effect_of_turns fine rfl rfl rfl fun _ _ _ _ takes begins => ⟨_, [], takes.beginLast begins, fun _ => rfl⟩
  | stopOnError enabled =>
    exact effect_of_turns fine rfl rfl rfl fun _ _ part steps takes sets =>
      ⟨part, steps, takes.setStopOnError sets, fun _ => rfl⟩
  | parallel =>
    exact effect_of_turns fine rfl rfl rfl fun _ _ part steps takes sets =>
      ⟨part, steps, takes.setParallel sets, fun _ => rfl⟩
  | aggregate code =>
    exact effect_of_turns fine rfl rfl rfl fun _ _ part steps takes sets =>
      ⟨part, steps, takes.setAggregator sets, fun _ => rfl⟩
  | policy policy =>
    exact effect_of_turns fine rfl rfl rfl fun _ _ part steps takes sets =>
      ⟨part, steps, takes.setPolicy sets, fun _ => rfl⟩
  | close =>
    obtain ⟨block, parent, changed, rest, step, isBlocks, closes, adds, isClosed⟩ := closeBlock_fine fine
    rw [isBlocks, carryOut, isClosed]
    exact .closed rest rfl closes adds

/-- A call opens at most one block or closes at most one, and never the route. -/
theorem Effect.depth {call : BuilderCall κ} {blocks after : List (Block κ)} (effect : Effect call blocks after) :
    after.length + (if call.closes then 1 else 0) = blocks.length + (if call.opens then 1 else 0) ∧
      1 ≤ after.length := by
  cases effect with
  | opened blocks opens closes =>
    rw [opens, closes, List.length_cons]
    exact ⟨rfl, by omega⟩
  | closed rest isClose =>
    subst isClose
    exact ⟨rfl, Nat.le_add_left 1 rest.length⟩
  | added rest isStep =>
    subst isStep
    exact ⟨rfl, Nat.le_add_left 1 rest.length⟩
  | turned rest opens closes =>
    rw [opens, closes, List.length_cons, List.length_cons]
    exact ⟨rfl, by omega⟩

/-- The blocks lead to where the call moves, and it has added its leaves behind all others. -/
theorem Effect.stack {call : BuilderCall κ} {blocks after : List (Block κ)} (effect : Effect call blocks after)
    {place : Address} {all : List (Address × Step κ)} (stack : Block.Stack blocks place all) :
    Block.Stack after (call.moves place) (all ++ call.added?.elim [] (Step.leavesAt place)) := by
  cases effect with
  | opened blocks opens closes adds moves takes empty =>
    rw [adds, moves, Option.elim_none, List.append_nil]
    exact stack.open takes (empty place)
  | closed rest isClose closes added =>
    subst isClose
    cases stack with
    | cons around takes =>
      have grown := around.add added
      rw [Block.leaves_of_close closes] at grown
      exact (List.append_nil _).symm ▸ grown
  | added rest isStep added =>
    subst isStep
    exact stack.add added
  | turned rest opens closes adds turns =>
    cases stack with
    | cons around takes =>
      obtain ⟨other, now, turned, moves⟩ := turns _ _ takes
      rw [adds, moves, Option.elim_none, List.append_nil]
      exact around.turned turned

/-- After calls without misuse the depth is what it was, with the blocks opened and without those closed. -/
theorem depth_run (calls : List (BuilderCall κ)) : ∀ builder : Builder κ, 1 ≤ builder.depth →
    (builder.run calls).misuse = none →
      (builder.run calls).depth + calls.countP closes = builder.depth + calls.countP opens ∧
        1 ≤ (builder.run calls).depth := by
  induction calls with
  | nil => exact fun builder deep _ => ⟨rfl, deep⟩
  | cons call rest later =>
    intro builder deep fine
    obtain ⟨isCarriedOut, fineBefore⟩ := run_cons_of_fine fine
    rw [isCarriedOut] at fine ⊢
    obtain ⟨counted, stillDeep⟩ := (effect_carryOut call fineBefore).depth
    obtain ⟨countedLater, deepAfter⟩ := later _ stillDeep fine
    refine ⟨?_, deepAfter⟩
    rw [List.countP_cons, List.countP_cons]
    unfold depth at *
    omega

/-- After calls without misuse the blocks lead to some place, with all leaves that the calls added. -/
theorem stack_run (calls : List (BuilderCall κ)) : ∀ (builder : Builder κ) (place : Address)
    (all : List (Address × Step κ)), Block.Stack builder.blocks place all → (builder.run calls).misuse = none →
      ∃ after : Address, Block.Stack (builder.run calls).blocks after (all ++ leaves place calls) := by
  induction calls with
  | nil =>
    intro builder place all stack _
    exact ⟨place, by rwa [leaves, List.append_nil]⟩
  | cons call rest later =>
    intro builder place all stack fine
    obtain ⟨isCarriedOut, fineBefore⟩ := run_cons_of_fine fine
    rw [isCarriedOut] at fine ⊢
    have grown := (effect_carryOut call fineBefore).stack stack
    obtain ⟨after, grownLater⟩ := later _ _ _ grown fine
    refine ⟨after, ?_⟩
    rwa [leaves, ← List.append_assoc]

/-- A builder that builds has only the route open, with the steps of the definition. -/
theorem blocks_of_build {definition : Definition κ} (built : builder.build = .ok definition) :
    builder.blocks = [.route definition.steps] ∧ definition.name = builder.name ∧
      definition.source = builder.source := by
  unfold build at built
  split at built
  · cases built
  · rename_i steps _ isBlocks
    cases built
    exact ⟨isBlocks, rfl, rfl⟩
  · cases built
  · cases built

/-- What changes the innermost block changes neither the name nor the source. -/
theorem names_onInnermost (builder : Builder κ) (f : Block κ → Except String (Block κ)) :
    (builder.onInnermost f).name = builder.name ∧ (builder.onInnermost f).source = builder.source := by
  unfold onInnermost
  split
  · exact ⟨rfl, rfl⟩
  · split <;> exact ⟨rfl, rfl⟩

/-- Opening a block changes neither the name nor the source. -/
theorem names_openBlock (builder : Builder κ) (opened : Block κ) :
    (builder.openBlock opened).name = builder.name ∧ (builder.openBlock opened).source = builder.source := by
  unfold openBlock
  split <;> exact ⟨rfl, rfl⟩

/-- Closing a block changes neither the name nor the source. -/
theorem names_closeBlock (builder : Builder κ) :
    builder.closeBlock.name = builder.name ∧ builder.closeBlock.source = builder.source := by
  unfold closeBlock
  split
  · exact ⟨rfl, rfl⟩
  · exact ⟨rfl, rfl⟩
  · split
    · exact names_onInnermost _ _
    · exact ⟨rfl, rfl⟩

/-- A route keeps its name and its source. -/
theorem names_run (calls : List (BuilderCall κ)) : ∀ builder : Builder κ,
    (builder.run calls).name = builder.name ∧ (builder.run calls).source = builder.source := by
  induction calls with
  | nil => exact fun builder => ⟨rfl, rfl⟩
  | cons call rest later =>
    intro builder
    obtain ⟨name, source⟩ := later (builder.apply call)
    have kept : (builder.apply call).name = builder.name ∧ (builder.apply call).source = builder.source := by
      unfold apply
      split
      · exact ⟨rfl, rfl⟩
      · cases call with
        | openPipeline | openChoice | openTry | openCountLoop | openWhileLoop | openMulticast =>
          exact names_openBlock _ _
        | close => exact names_closeBlock _
        | _ => exact names_onInnermost _ _
    rw [run_cons]
    exact ⟨name.trans kept.1, source.trans kept.2⟩

/-- After the first of the calls that build a definition, the depth is one more than the blocks opened less those
closed. -/
theorem depth_of_build {name source : String} {before after : List (BuilderCall κ)} {definition : Definition κ}
    (built : ((new name source).run (before ++ after)).build = .ok definition) :
    ((new name source).run before).depth + before.countP closes = 1 + before.countP opens ∧
      1 ≤ ((new name source).run before).depth := by
  have fine := misuse_of_build built
  rw [run_append] at fine
  exact depth_run before _ (Nat.le_refl 1) (misuse_of_run fine)

/-- The leaves of a definition are those that the calls added, each at its place. -/
theorem leavesFrom_of_build {name source : String} {calls : List (BuilderCall κ)} {definition : Definition κ}
    (built : ((new name source).run calls).build = .ok definition) :
    Step.leavesFrom [(.route, 0)] definition.steps = leaves [(.route, 0)] calls := by
  have start : Block.Stack (new (κ := κ) name source).blocks [(.route, 0)] [] := Block.Stack.nil.open (.route []) rfl
  obtain ⟨after, stack⟩ := stack_run calls _ _ _ start (misuse_of_build built)
  rw [(blocks_of_build built).1, List.nil_append] at stack
  generalize leaves [(.route, 0)] calls = all at stack
  cases stack with
  | cons around takes =>
    cases around with
    | nil => rfl

/-- After the first misuse, calls change nothing. -/
theorem run_after_misuse {builder : Builder κ} {calls : List (BuilderCall κ)} {call : BuilderCall κ} {message : String}
    (misused : (builder.run (calls ++ [call])).misuse = some message) (more : List (BuilderCall κ)) :
    builder.run (calls ++ call :: more) = builder.run (calls ++ [call]) := by
  rw [← List.singleton_append, ← List.append_assoc, run_append, run_of_misuse misused]

end Builder

/-! ## A builder reads nested calls -/

/-- A builder reads nested calls as they are meant. The calls of a definition build that definition, if loops that count
have the default policy. Whatever calls build a definition, they close as many blocks as they open, after the first
of them the depth is one more than the blocks opened less those closed, and the leaves of the definition are those
that were added, in this order, each where the calls before it lead to. And after a misuse a builder does not change
any more, and tells of the first misuse instead of building. -/
theorem builder_reads_calls :
    (∀ definition : Definition κ, Step.Throughout Step.CountsByDefault definition.steps →
      ((Builder.new definition.name definition.source).run definition.calls).build = .ok definition) ∧
    (∀ (name source : String) (calls : List (BuilderCall κ)) (definition : Definition κ),
      ((Builder.new name source).run calls).build = .ok definition →
        definition.name = name ∧ definition.source = source ∧
        calls.countP BuilderCall.closes = calls.countP BuilderCall.opens ∧
        (∀ before after : List (BuilderCall κ), calls = before ++ after →
          ((Builder.new name source).run before).depth + before.countP BuilderCall.closes =
              1 + before.countP BuilderCall.opens ∧
            1 ≤ ((Builder.new name source).run before).depth) ∧
        Step.leavesFrom [(.route, 0)] definition.steps = BuilderCall.leaves [(.route, 0)] calls ∧
        ((∀ step ∈ calls.filterMap BuilderCall.added?, step.IsLeaf = true) →
          (Step.leavesFrom [(.route, 0)] definition.steps).map Prod.snd = calls.filterMap BuilderCall.added?)) ∧
    (∀ (name source : String) (calls : List (BuilderCall κ)) (call : BuilderCall κ) (message : String),
      ((Builder.new name source).run calls).misuse = none →
      ((Builder.new name source).run (calls ++ [call])).misuse = some message →
        ∀ more : List (BuilderCall κ),
          ((Builder.new name source).run (calls ++ call :: more)).depth =
              ((Builder.new name source).run (calls ++ [call])).depth ∧
            ((Builder.new name source).run (calls ++ call :: more)).misuse = some message ∧
            ((Builder.new name source).run (calls ++ call :: more)).build =
              .error (.routeBuild s!"route '{name}': {message}")) := by
  refine ⟨Builder.build_calls, fun name source calls definition built => ?_,
    fun name source calls call message _ misused more => ?_⟩
  · obtain ⟨isRoute, isName, isSource⟩ := Builder.blocks_of_build built
    have counted (before after : List (BuilderCall κ)) (isCalls : calls = before ++ after) :=
      Builder.depth_of_build (isCalls ▸ built)
    have same := Builder.leavesFrom_of_build built
    have balanced : calls.countP BuilderCall.closes = calls.countP BuilderCall.opens := by
      have all := (counted calls [] (List.append_nil calls).symm).1
      have alone : ((Builder.new name source).run calls).depth = 1 := congrArg List.length isRoute
      omega
    refine ⟨isName.trans (Builder.names_run calls _).1, isSource.trans (Builder.names_run calls _).2, balanced, counted,
      same, fun onlyLeaves => ?_⟩
    rw [same]
    exact BuilderCall.map_leaves _ calls onlyLeaves
  · have isName := (Builder.names_run (calls ++ [call]) (Builder.new name source)).1
    rw [Builder.run_after_misuse misused]
    refine ⟨rfl, misused, ?_⟩
    rw [Builder.build_of_misuse misused, isName]
    rfl

/-- A loop around a choice, behind it steps that are tried with a handler. -/
def nestedDefinition : Definition Nat where
  name := "r"
  source := "direct:a"
  steps :=
    [.loop (.count (.code 0)) [.choice [(.simple "${body}", [.marshal "json"])] (some [.to "direct:b"])] .clearAndStop,
      .tryCatch [.multicast [.to "direct:c", .to "direct:d"] true false (some 1)] [(.any, [.removeHeader "h"])] none]

/-- The calls of a nested definition build it and balance, and its leaves stand in five clauses of four blocks; and a
step before the first clause of a choice is a misuse that stays. -/
theorem builder_reads_calls_nested :
    ((Builder.new "r" "direct:a").run nestedDefinition.calls).build = .ok nestedDefinition ∧
    nestedDefinition.calls.countP BuilderCall.closes = nestedDefinition.calls.countP BuilderCall.opens ∧
    BuilderCall.leaves [(.route, 0)] nestedDefinition.calls =
      [([(.when 0, 0), (.loop, 0), (.route, 0)], .marshal "json"),
        ([(.otherwise, 0), (.loop, 0), (.route, 0)], .to "direct:b"),
        ([(.multicast, 0), (.tried, 0), (.route, 1)], .to "direct:c"),
        ([(.multicast, 1), (.tried, 0), (.route, 1)], .to "direct:d"),
        ([(.catch 0, 0), (.route, 1)], .removeHeader "h")] ∧
    ((Builder.new "r" "direct:a").run ([.openChoice] ++ .step (.to "direct:b") :: nestedDefinition.calls)).build =
      .error (.routeBuild "route 'r': steps inside choice() must follow when() or otherwise()") := by
  have byDefault : Step.Throughout Step.CountsByDefault nestedDefinition.steps := by
    simp [nestedDefinition, Step.throughout_cons, Step.throughout_nil, Step.children, Step.CountsByDefault]
  obtain ⟨complete, sound, sticky⟩ := builder_reads_calls (κ := Nat)
  have built := complete nestedDefinition byDefault
  obtain ⟨_, _, balanced, _, same, _⟩ := sound "r" "direct:a" nestedDefinition.calls nestedDefinition built
  obtain ⟨_, _, refused⟩ :=
    sticky "r" "direct:a" [.openChoice] (.step (.to "direct:b")) _ rfl rfl nestedDefinition.calls
  exact ⟨built, balanced, same.symm.trans rfl, refused.trans rfl⟩

end MessageRouting
