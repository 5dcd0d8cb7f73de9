import MessageRouting.Proofs.Builder.Places

/-!
# The open blocks of a builder

Calls to a builder look at the innermost block only. Even so the blocks stay in order, however many are open: the
route is outermost and nowhere else, the part of each block that takes steps is there, and each block with others
inside takes steps. So a block that is closed always finds a place in the one around it, and a builder never has to
tell that a part or a block is missing.
-/

namespace MessageRouting

variable {κ : Type}

/-! ## Kinds of calls -/

namespace BuilderCall

/-- What a call does with the innermost block, if that is all it does. -/
def change? : BuilderCall κ → Option (Block κ → Except String (Block κ))
  | .step added => some (Block.add added)
  | .when condition => some (Block.beginWhen condition)
  | .otherwise => some Block.beginOtherwise
  | .catch matcher => some (Block.beginCatch matcher)
  | .last => some Block.beginLast
  | .stopOnError enabled => some (Block.setStopOnError enabled)
  | .parallel => some Block.setParallel
  | .aggregate code => some (Block.setAggregator code)
  | .policy chosen => some (Block.setPolicy chosen)
  | _ => none

/-- The block that a call opens. -/
def opened? : BuilderCall κ → Option (Block κ)
  | .openPipeline => some (.pipeline [] false)
  | .openChoice => some (.choice [] none .start)
  | .openTry => some (.tryCatch [] [] none .steps)
  | .openCountLoop times => some (.loop (.count times) [] .clearAndStop)
  | .openWhileLoop condition => some (.loop (.while condition) [] .clearAndStop)
  | .openMulticast => some (.multicast [] false false none)
  | _ => none

/-- A call changes the innermost block, opens a block or closes one. -/
theorem carryOut_cases (call : BuilderCall κ) :
    (∃ f, call.change? = some f ∧ ∀ builder : Builder κ, builder.carryOut call = builder.onInnermost f) ∨
      (∃ opened, call.opened? = some opened ∧
        ∀ builder : Builder κ, builder.carryOut call = builder.openBlock opened) ∨
      call = .close := by
  cases call with
  | close => exact .inr (.inr rfl)
  | openPipeline | openChoice | openTry | openCountLoop | openWhileLoop | openMulticast =>
    exact .inr (.inl ⟨_, rfl, fun _ => rfl⟩)
  | _ => exact .inl ⟨_, rfl, fun _ => rfl⟩

end BuilderCall

namespace Block

variable {block changed : Block κ} {call : BuilderCall κ} {f : Block κ → Except String (Block κ)}

/-! ## The innermost block -/

/-- The block is a route. -/
def IsRoute : Block κ → Prop
  | .route _ => True
  | _ => False

/-- The block has one of the forms that blocks take between calls. -/
def Formed (block : Block κ) : Prop := ∃ (part : Section) (steps : List (Step κ)), block.Takes part steps

/-- What would be told of a part or a block that is missing. -/
def missingTexts : List String :=
  ["when() clause missing", "otherwise() clause missing", "doCatch() clause missing", "doFinally() clause missing",
    "builder stack is empty", "cannot close the route itself"]

/-- Why a choice takes no steps at first. -/
def noClauseText : String := "steps inside choice() must follow when() or otherwise()"

/-- A block takes a step and stays what it is, or it is a choice without a clause. -/
theorem Formed.add (formed : block.Formed) (step : Step κ) :
    (∃ changed, block.add step = .ok changed ∧ (changed.IsRoute ↔ block.IsRoute)) ∨
      block.add step = .error noClauseText ∧ block.refusal? = some noClauseText := by
  obtain ⟨part, steps, takes⟩ := formed
  cases takes with
  | start => exact .inr ⟨rfl, rfl⟩
  | «when» clauses condition => exact .inl ⟨_, fills_when clauses condition steps step, .rfl⟩
  | «catch» tried catches matcher => exact .inl ⟨_, fills_catch tried catches matcher steps step, .rfl⟩
  | _ => exact .inl ⟨_, rfl, .rfl⟩

/-- A block that does not refuse others takes every step. -/
theorem Formed.takes (formed : block.Formed) (free : block.refusal? = none) (step : Step κ) :
    ∃ changed, block.add step = .ok changed := by
  obtain ⟨changed, added, -⟩ | ⟨-, refused⟩ := formed.add step
  · exact ⟨changed, added⟩
  · cases free.symm.trans refused

/-- A block refuses others only as a choice without a clause. -/
theorem Formed.refusal? (formed : block.Formed) {message : String} (refused : block.refusal? = some message) :
    message = noClauseText := by
  obtain ⟨changed, added, -⟩ | ⟨-, choice⟩ := formed.add (.removeHeader "")
  · cases (refusal?_of_add added).symm.trans refused
  · exact Option.some.inj (refused.symm.trans choice)

/-- A block that a call opens is empty. -/
theorem formed_of_opened? (opens : call.opened? = some block) : block.Formed ∧ ¬block.IsRoute := by
  cases call <;> cases opens
  · exact ⟨⟨_, _, .pipeline [] false⟩, id⟩
  · exact ⟨⟨_, _, .start⟩, id⟩
  · exact ⟨⟨_, _, .tried []⟩, id⟩
  · exact ⟨⟨_, _, .loop _ [] _⟩, id⟩
  · exact ⟨⟨_, _, .loop _ [] _⟩, id⟩
  · exact ⟨⟨_, _, .multicast [] false false none⟩, id⟩

/-- A block that was changed has one of the forms again. -/
theorem Formed.change? (formed : block.Formed) (changes : call.change? = some f) (made : f block = .ok changed) :
    changed.Formed := by
  obtain ⟨part, steps, takes⟩ := formed
  cases call <;> cases changes
  · exact ⟨_, _, (takes.add made).1⟩
  · exact ⟨_, _, (takes.beginWhen made).1⟩
  · exact ⟨_, _, (takes.beginOtherwise made).1⟩
  · exact ⟨_, _, (takes.beginCatch made).1⟩
  · exact ⟨_, _, (takes.beginLast made).1⟩
  · exact ⟨_, _, (takes.setStopOnError made).1⟩
  · exact ⟨_, _, (takes.setParallel made).1⟩
  · exact ⟨_, _, (takes.setAggregator made).1⟩
  · exact ⟨_, _, (takes.setPolicy made).1⟩

/-- A loop is given a policy, or it goes by a count. -/
theorem setPolicy_loop (mode : LoopMode κ) (steps : List (Step κ)) (policy chosen : Pattern.ConditionPolicy) :
    setPolicy chosen (.loop mode steps policy) = .ok (.loop mode steps chosen) ∨
      setPolicy chosen (.loop mode steps policy) = .error "on_predicate_error() needs loop_while(), found loop" := by
  cases mode with
  | count => exact .inr rfl
  | «while» => exact .inl rfl

/-- A route that was changed is still one, and nothing else has become one. -/
theorem Formed.isRoute_iff (formed : block.Formed) (changes : call.change? = some f) (made : f block = .ok changed) :
    changed.IsRoute ↔ block.IsRoute := by
  cases call with
  | step added =>
    cases changes
    obtain ⟨other, taken, same⟩ | ⟨refused, -⟩ := formed.add added
    · cases taken.symm.trans made
      exact same
    · cases refused.symm.trans made
  | policy chosen =>
    cases changes
    cases block with
    | loop mode steps policy =>
      obtain set | refused := setPolicy_loop mode steps policy chosen
      · cases set.symm.trans made
        exact .rfl
      · cases refused.symm.trans made
    | _ => cases made
  | _ =>
    obtain ⟨part, steps, takes⟩ := formed
    cases changes <;> cases takes <;> cases made <;> exact .rfl

/-- Where a block refuses a change, nothing is told to be missing. -/
theorem Formed.told (formed : block.Formed) (changes : call.change? = some f) {message : String}
    (refused : f block = .error message) : message ∉ missingTexts := by
  cases call with
  | step added =>
    cases changes
    obtain ⟨other, taken, -⟩ | ⟨choice, -⟩ := formed.add added
    · cases taken.symm.trans refused
    · cases choice.symm.trans refused
      decide
  | policy chosen =>
    cases changes
    cases block with
    | loop mode steps policy =>
      obtain set | other := setPolicy_loop mode steps policy chosen
      · cases set.symm.trans refused
      · cases other.symm.trans refused
        decide
    | _ =>
      cases refused
      simp only [label, missingTexts]
      decide
  | _ =>
    obtain ⟨part, steps, takes⟩ := formed
    cases changes <;> cases takes <;> cases refused <;> simp only [label, missingTexts] <;> decide

/-! ## All open blocks -/

/-- The blocks that are open, the innermost first: the route is outermost and nowhere else, and each block around
another one takes steps. -/
inductive Nested : List (Block κ) → Prop
  /-- Only the route is open. -/
  | route (steps : List (Step κ)) : Nested [.route steps]
  /-- A block is open inside another one. -/
  | inside {block parent : Block κ} {rest : List (Block κ)} (formed : block.Formed) (inner : ¬block.IsRoute)
    (free : parent.refusal? = none) (around : Nested (parent :: rest)) : Nested (block :: parent :: rest)

namespace Nested

variable {blocks rest : List (Block κ)} {parent : Block κ}

/-- The innermost block has one of the forms. -/
theorem formed (nested : Nested (block :: rest)) : block.Formed := by
  cases nested with
  | route steps => exact ⟨_, _, .route steps⟩
  | inside formed => exact formed

/-- The innermost block may be changed in the way of a call. -/
theorem change? (nested : Nested (block :: rest)) (changes : call.change? = some f) (made : f block = .ok changed) :
    Nested (changed :: rest) := by
  have same := nested.formed.isRoute_iff changes made
  have formed := nested.formed.change? changes made
  cases nested with
  | route steps =>
    cases changed with
    | route now => exact .route now
    | _ => exact False.elim (same.mpr trivial)
  | inside _ inner free around => exact .inside formed (fun now => inner (same.mp now)) free around

/-- A block that is closed becomes a step of the one around it, and the others stay open. -/
theorem close (nested : Nested (block :: parent :: rest)) : ∃ (step : Step κ) (changed : Block κ),
    block.close = some step ∧ parent.add step = .ok changed ∧ Nested (changed :: rest) := by
  cases nested with
  | inside formed inner free around =>
    obtain ⟨step, closes⟩ : ∃ step, block.close = some step := by
      cases block with
      | route steps => exact absurd trivial inner
      | _ => exact ⟨_, rfl⟩
    obtain ⟨changed, added⟩ := around.formed.takes free step
    have changes : (BuilderCall.step step).change? = some (Block.add step) := rfl
    exact ⟨step, changed, closes, added, around.change? changes added⟩

/-- At least the route is open. -/
theorem ne_nil (nested : Nested blocks) : blocks ≠ [] := by
  cases nested <;> exact List.cons_ne_nil _ _

/-- All open blocks have one of the forms. -/
theorem all_formed (nested : Nested blocks) : ∀ block ∈ blocks, block.Formed := by
  induction nested with
  | route steps => exact List.forall_mem_singleton.mpr ⟨_, _, .route steps⟩
  | inside formed _ _ _ ih => exact List.forall_mem_cons.mpr ⟨formed, ih⟩

/-- The route is outermost and nowhere else. -/
theorem bottom (nested : Nested blocks) : ∃ (inner : List (Block κ)) (steps : List (Step κ)),
    blocks = inner ++ [.route steps] ∧ ∀ block ∈ inner, ¬block.IsRoute := by
  induction nested with
  | route steps => exact ⟨[], steps, rfl, List.forall_mem_nil _⟩
  | @inside block _ _ _ notRoute _ _ ih =>
    obtain ⟨inner, steps, isBlocks, others⟩ := ih
    exact ⟨block :: inner, steps, congrArg (block :: ·) isBlocks, List.forall_mem_cons.mpr ⟨notRoute, others⟩⟩

/-- Each block with another one inside takes every step. -/
theorem covered (nested : Nested blocks) (step : Step κ) : ∀ block ∈ blocks.tail, ∃ changed,
    block.add step = .ok changed := by
  induction nested with
  | route steps => exact List.forall_mem_nil _
  | @inside _ parent rest _ _ free around ih => exact List.forall_mem_cons.mpr ⟨around.formed.takes free step, ih⟩

end Nested

end Block

/-! ## Builders -/

namespace Builder

open Block

/-- The blocks of a builder are in order, and nothing was told to be missing. -/
structure InOrder (builder : Builder κ) : Prop where
  /-- The blocks are in order. -/
  nested : Nested builder.blocks
  /-- Nothing was told to be missing. -/
  told : ∀ message, builder.misuse = some message → message ∉ missingTexts

variable {builder : Builder κ} {call : BuilderCall κ}

/-- A misuse that tells of nothing missing leaves a builder in order. -/
theorem InOrder.fail (inOrder : builder.InOrder) {message : String} (told : message ∉ missingTexts) :
    (builder.fail message).InOrder := by
  refine ⟨inOrder.nested, fun first isFirst => ?_⟩
  cases misused : builder.misuse with
  | none =>
    rw [Builder.fail, misused] at isFirst
    cases isFirst
    exact told
  | some earlier =>
    rw [Builder.fail, misused] at isFirst
    cases isFirst
    exact inOrder.told earlier misused

/-- What changes the innermost block leaves a builder in order. -/
theorem InOrder.onInnermost (inOrder : builder.InOrder) {f : Block κ → Except String (Block κ)}
    (changes : call.change? = some f) : (builder.onInnermost f).InOrder := by
  unfold Builder.onInnermost
  split
  · rename_i none
    exact absurd none inOrder.nested.ne_nil
  · rename_i block rest isBlocks
    have nested := isBlocks ▸ inOrder.nested
    split
    · rename_i changed made
      exact ⟨nested.change? changes made, inOrder.told⟩
    · rename_i message refused
      exact inOrder.fail (nested.formed.told changes refused)

/-- Opening a block leaves a builder in order. -/
theorem InOrder.openBlock (inOrder : builder.InOrder) {block : Block κ} (opens : call.opened? = some block) :
    (builder.openBlock block).InOrder := by
  obtain ⟨formed, inner⟩ := formed_of_opened? opens
  obtain ⟨parent, rest, isBlocks⟩ := List.exists_cons_of_ne_nil inOrder.nested.ne_nil
  have nested := isBlocks ▸ inOrder.nested
  unfold Builder.openBlock
  rw [isBlocks, List.head?_cons, Option.bind_some]
  split
  · rename_i message refused
    rw [nested.formed.refusal? refused]
    exact inOrder.fail (by decide)
  · rename_i free
    exact ⟨.inside formed inner free nested, inOrder.told⟩

/-- A builder that was not misused closes a block into the one around it. -/
theorem InOrder.closeBlock_eq (inOrder : builder.InOrder) (deep : 1 < builder.depth) :
    ∃ (block parent changed : Block κ) (rest : List (Block κ)) (step : Step κ),
      builder.blocks = block :: parent :: rest ∧ block.close = some step ∧ parent.add step = .ok changed ∧
        Nested (changed :: rest) ∧ builder.closeBlock = { builder with blocks := changed :: rest } := by
  obtain ⟨name, source, blocks, misuse⟩ := builder
  match blocks, deep with
  | block :: parent :: rest, _ =>
    obtain ⟨step, changed, closes, added, nested⟩ := inOrder.nested.close
    refine ⟨block, parent, changed, rest, step, rfl, closes, added, nested, ?_⟩
    simp only [Builder.closeBlock, closes]
    exact onInnermost_of_ok added

/-- Every call leaves a builder in order. -/
theorem InOrder.apply (inOrder : builder.InOrder) (call : BuilderCall κ) : (builder.apply call).InOrder := by
  unfold Builder.apply
  split
  · exact inOrder
  · obtain ⟨f, changes, does⟩ | ⟨block, opens, does⟩ | rfl := call.carryOut_cases
    · exact does builder ▸ inOrder.onInnermost changes
    · exact does builder ▸ inOrder.openBlock opens
    · by_cases deep : 1 < builder.depth
      · obtain ⟨_, _, _, _, _, _, _, _, nested, isClosed⟩ := inOrder.closeBlock_eq deep
        rw [carryOut, isClosed]
        exact ⟨nested, inOrder.told⟩
      · have alone : builder.closeBlock = builder.fail "end() called without an open block" := by
          unfold depth at deep
          unfold closeBlock
          split <;> simp_all
        rw [carryOut, alone]
        exact inOrder.fail (by decide)

/-- A new builder is in order after any calls. -/
theorem inOrder_run (name source : String) (calls : List (BuilderCall κ)) :
    ((new name source).run calls).InOrder := by
  have new : (new (κ := κ) name source).InOrder := ⟨.route [], nofun⟩
  generalize Builder.new name source = builder at new
  induction calls generalizing builder with
  | nil => exact new
  | cons call rest later => exact later _ (new.apply call)

/-! ## What is promised of builders -/

/-- What holds of the open blocks of a builder. -/
structure Promised (builder : Builder κ) : Prop where
  /-- At least one block is open. -/
  nonempty : builder.blocks ≠ []
  /-- The outermost block is a route, and no other one is. -/
  route : ∃ (inner : List (Block κ)) (steps : List (Step κ)),
    builder.blocks = inner ++ [.route steps] ∧ ∀ block ∈ inner, ¬block.IsRoute
  /-- A choice that fills its latest clause has a clause. -/
  clause : ∀ clauses otherwise, .choice clauses otherwise .when ∈ builder.blocks → clauses ≠ []
  /-- A choice that fills its branch for all other cases has that branch. -/
  branch : ∀ clauses otherwise, .choice clauses otherwise .otherwise ∈ builder.blocks → otherwise ≠ none
  /-- A block that tries and fills its latest handler has a handler. -/
  handler : ∀ steps catches last, .tryCatch steps catches last .catch ∈ builder.blocks → catches ≠ []
  /-- A block that tries and fills the steps that come last has them. -/
  ends : ∀ steps catches last, .tryCatch steps catches last .last ∈ builder.blocks → last ≠ none
  /-- Each block with another one inside takes every step. -/
  covered : ∀ block ∈ builder.blocks.tail, ∀ step, ∃ changed, block.add step = .ok changed
  /-- A block that is closed becomes a step of the one around it, and nothing else happens. -/
  closed : builder.misuse = none → 1 < builder.depth →
    ∃ (block parent changed : Block κ) (rest : List (Block κ)) (step : Step κ),
      builder.blocks = block :: parent :: rest ∧ block.close = some step ∧ parent.add step = .ok changed ∧
        builder.apply .close = { builder with blocks := changed :: rest }
  /-- Nothing is told to be missing. -/
  told : ∀ message ∈ missingTexts, builder.misuse ≠ some message
  /-- Building never fails for a reason within the builder. -/
  built : ∀ message, builder.build ≠ .error (.internal message)

/-- Whatever calls a new builder gets, its blocks are as promised. -/
theorem open_blocks_in_order (name source : String) (calls : List (BuilderCall κ)) :
    ((new name source).run calls).Promised := by
  have inOrder := inOrder_run name source calls
  generalize (new name source).run calls = builder at inOrder
  have formed := inOrder.nested.all_formed
  exact {
    nonempty := inOrder.nested.ne_nil
    route := inOrder.nested.bottom
    clause := fun clauses otherwise member => by
      obtain ⟨part, steps, takes⟩ := formed _ member
      cases takes
      simp
    branch := fun clauses otherwise member => by
      obtain ⟨part, steps, takes⟩ := formed _ member
      cases takes
      exact Option.some_ne_none _
    handler := fun steps catches last member => by
      obtain ⟨part, steps, takes⟩ := formed _ member
      cases takes
      simp
    ends := fun steps catches last member => by
      obtain ⟨part, steps, takes⟩ := formed _ member
      cases takes
      exact Option.some_ne_none _
    covered := fun block member step => inOrder.nested.covered step block member
    closed := fun fine deep => by
      obtain ⟨block, parent, changed, rest, step, isOpen, closes, added, -, isClosed⟩ := inOrder.closeBlock_eq deep
      exact ⟨block, parent, changed, rest, step, isOpen, closes, added, (apply_of_fine fine _).trans isClosed⟩
    told := fun message missing misused => inOrder.told message misused missing
    built := fun message failed => by
      unfold build at failed
      split at failed
      · cases failed
      · cases failed
      · rename_i block notRoute _ alone
        cases alone ▸ inOrder.nested
        exact notRoute _ rfl
      · cases failed }

end Builder

end MessageRouting
