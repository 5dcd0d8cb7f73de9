import MessageRouting.Proofs.Builder.Calls

/-!
# Where added steps end up

The place of a step in a definition is given by the parts of blocks around it, each with a number of steps before it.
Every call to a builder moves the place where the next step goes, and that can be told from the calls alone: what is
opened begins inside, a clause begins another part, and what is closed goes on behind the block.

The steps of a definition that was built are the steps that were added: read in the order of the document, each step
stands at the place that the calls before it lead to.
-/

namespace MessageRouting

variable {κ : Type}

/-! ## Places in definitions -/

/-- A part of a route or block, with steps in it. -/
inductive Section where
  | route
  | pipeline
  | loop
  | multicast
  /-- What is before the first clause of a choice; no steps go there. -/
  | start
  | when (clause : Nat)
  | otherwise
  | tried
  | catch (clause : Nat)
  | last
  deriving Repr, DecidableEq

/-- A place for a step: the part that it is in and the number of steps before it there, and so on for the blocks
around, outwards. -/
abbrev Address := List (Section × Nat)

namespace Address

/-- The next place in the same part. -/
def next : Address → Address
  | [] => []
  | (part, index) :: around => (part, index + 1) :: around

/-- The first place in another part of the same block. -/
def turn (other : Section → Section) : Address → Address
  | [] => []
  | (part, _) :: around => (other part, 0) :: around

/-- The place behind the block around. -/
def leave (place : Address) : Address := next place.tail

end Address

/-- The part of the next clause with a condition. -/
def Section.nextWhen : Section → Section
  | .when clause => .when (clause + 1)
  | _ => .when 0

/-- The part of the next clause that handles errors. -/
def Section.nextCatch : Section → Section
  | .catch clause => .catch (clause + 1)
  | _ => .catch 0

namespace Step

mutual

/-- The steps without steps inside that are in a step or are it, in the order of the document, with their places. -/
def leavesAt (place : Address) : Step κ → List (Address × Step κ)
  | .pipeline steps _ => leavesFrom ((.pipeline, 0) :: place) steps
  | .choice clauses otherwise => leavesOfClauses place 0 clauses ++ leavesOfEnd ((.otherwise, 0) :: place) otherwise
  | .tryCatch steps catches last =>
    leavesFrom ((.tried, 0) :: place) steps ++ leavesOfCatches place 0 catches ++ leavesOfEnd ((.last, 0) :: place) last
  | .multicast outputs _ _ _ => leavesFrom ((.multicast, 0) :: place) outputs
  | .loop _ steps _ => leavesFrom ((.loop, 0) :: place) steps
  | .setBody value => [(place, .setBody value)]
  | .setHeader name value => [(place, .setHeader name value)]
  | .setProperty name value => [(place, .setProperty name value)]
  | .removeHeader name => [(place, .removeHeader name)]
  | .removeProperty name => [(place, .removeProperty name)]
  | .to uri => [(place, .to uri)]
  | .function name => [(place, .function name)]
  | .setError error => [(place, .setError error)]
  | .delay duration => [(place, .delay duration)]
  | .log message level => [(place, .log message level)]
  | .marshal format => [(place, .marshal format)]
  | .unmarshal format target => [(place, .unmarshal format target)]
  | .convertBody target params => [(place, .convertBody target params)]
  | .convertHeader name target params => [(place, .convertHeader name target params)]
  | .convertProperty name target params => [(place, .convertProperty name target params)]

/-- The leaves of steps, from a place on. -/
def leavesFrom (place : Address) : List (Step κ) → List (Address × Step κ)
  | [] => []
  | step :: rest => step.leavesAt place ++ leavesFrom place.next rest

/-- The leaves in the clauses of a choice, from the clause with an index on. -/
def leavesOfClauses (place : Address) (index : Nat) :
    List (ValueSource κ × List (Step κ)) → List (Address × Step κ)
  | [] => []
  | (_, steps) :: rest => leavesFrom ((.when index, 0) :: place) steps ++ leavesOfClauses place (index + 1) rest

/-- The leaves in the clauses that handle errors, from the clause with an index on. -/
def leavesOfCatches (place : Address) (index : Nat) : List (Matcher × List (Step κ)) → List (Address × Step κ)
  | [] => []
  | (_, steps) :: rest => leavesFrom ((.catch index, 0) :: place) steps ++ leavesOfCatches place (index + 1) rest

/-- The leaves in a clause at the end, if there is one. -/
def leavesOfEnd (place : Address) : Option (List (Step κ)) → List (Address × Step κ)
  | none => []
  | some steps => leavesFrom place steps

end

/-- A step is a leaf: there are no parts with steps in it. -/
def IsLeaf : Step κ → Bool
  | .pipeline _ _ | .choice _ _ | .tryCatch _ _ _ | .multicast _ _ _ _ | .loop _ _ _ => false
  | _ => true

/-- A leaf is its only leaf. -/
theorem leavesAt_of_isLeaf {step : Step κ} (leaf : step.IsLeaf = true) (place : Address) :
    step.leavesAt place = [(place, step)] := by
  cases step <;> first | rfl | cases leaf

/-- A further step stands behind the steps. -/
theorem leavesFrom_concat (part : Section) (around : Address) (step : Step κ) : ∀ (index : Nat) (steps : List (Step κ)),
    leavesFrom ((part, index) :: around) (steps ++ [step]) =
      leavesFrom ((part, index) :: around) steps ++ step.leavesAt ((part, index + steps.length) :: around)
  | index, [] => by
    rw [List.nil_append, leavesFrom, leavesFrom, leavesFrom, List.append_nil]
    rfl
  | index, first :: rest => by
    have later := leavesFrom_concat part around step (index + 1) rest
    have behind : index + 1 + rest.length = index + (first :: rest).length := by
      rw [List.length_cons]
      omega
    rw [List.cons_append, leavesFrom, leavesFrom, List.append_assoc, ← behind]
    exact congrArg _ later

/-- A further clause stands behind the clauses. -/
theorem leavesOfClauses_concat (place : Address) (condition : ValueSource κ) (steps : List (Step κ)) :
    ∀ (index : Nat) (clauses : List (ValueSource κ × List (Step κ))),
      leavesOfClauses place index (clauses ++ [(condition, steps)]) =
        leavesOfClauses place index clauses ++ leavesFrom ((.when (index + clauses.length), 0) :: place) steps
  | index, [] => by
    rw [List.nil_append, leavesOfClauses, leavesOfClauses, leavesOfClauses, List.append_nil]
    rfl
  | index, first :: rest => by
    have later := leavesOfClauses_concat place condition steps (index + 1) rest
    have behind : index + 1 + rest.length = index + (first :: rest).length := by
      rw [List.length_cons]
      omega
    rw [List.cons_append, leavesOfClauses, leavesOfClauses, List.append_assoc, ← behind, later]

/-- A further handler stands behind the handlers. -/
theorem leavesOfCatches_concat (place : Address) (matcher : Matcher) (steps : List (Step κ)) :
    ∀ (index : Nat) (catches : List (Matcher × List (Step κ))),
      leavesOfCatches place index (catches ++ [(matcher, steps)]) =
        leavesOfCatches place index catches ++ leavesFrom ((.catch (index + catches.length), 0) :: place) steps
  | index, [] => by
    rw [List.nil_append, leavesOfCatches, leavesOfCatches, leavesOfCatches, List.append_nil]
    rfl
  | index, first :: rest => by
    have later := leavesOfCatches_concat place matcher steps (index + 1) rest
    have behind : index + 1 + rest.length = index + (first :: rest).length := by
      rw [List.length_cons]
      omega
    rw [List.cons_append, leavesOfCatches, leavesOfCatches, List.append_assoc, ← behind, later]

end Step

/-! ## The places of calls -/

namespace BuilderCall

/-- The call opens a block. -/
def opens : BuilderCall κ → Bool
  | .openPipeline | .openChoice | .openTry | .openCountLoop _ | .openWhileLoop _ | .openMulticast => true
  | _ => false

/-- The call closes a block. -/
def closes : BuilderCall κ → Bool
  | .close => true
  | _ => false

/-- The step that the call adds. -/
def added? : BuilderCall κ → Option (Step κ)
  | .step added => some added
  | _ => none

/-- Where the next step goes after the call. -/
def moves (place : Address) : BuilderCall κ → Address
  | .step _ => place.next
  | .openPipeline => (.pipeline, 0) :: place
  | .openChoice => (.start, 0) :: place
  | .openTry => (.tried, 0) :: place
  | .openCountLoop _ | .openWhileLoop _ => (.loop, 0) :: place
  | .openMulticast => (.multicast, 0) :: place
  | .when _ => place.turn Section.nextWhen
  | .otherwise => place.turn fun _ => .otherwise
  | .catch _ => place.turn Section.nextCatch
  | .last => place.turn fun _ => .last
  | .stopOnError _ | .parallel | .aggregate _ | .policy _ => place
  | .close => place.leave

/-- The leaves that calls add, from a place on, each with the place that the calls before it lead to. -/
def leaves (place : Address) : List (BuilderCall κ) → List (Address × Step κ)
  | [] => []
  | call :: rest => call.added?.elim [] (Step.leavesAt place) ++ leaves (call.moves place) rest

/-- Where only leaves are added, they are the leaves that calls add. -/
theorem map_leaves : ∀ (place : Address) (calls : List (BuilderCall κ)),
    (∀ step ∈ calls.filterMap added?, step.IsLeaf = true) →
      (leaves place calls).map Prod.snd = calls.filterMap added?
  | _, [], _ => rfl
  | place, call :: rest, onlyLeaves => by
    cases adds : call.added? with
    | none =>
      rw [List.filterMap_cons_none adds] at onlyLeaves ⊢
      rw [leaves, adds]
      exact map_leaves _ rest onlyLeaves
    | some step =>
      rw [List.filterMap_cons_some adds] at onlyLeaves ⊢
      have leaf := onlyLeaves step List.mem_cons_self
      have later := map_leaves (call.moves place) rest fun other member =>
        onlyLeaves other (List.mem_cons_of_mem _ member)
      rw [leaves, adds, Option.elim_some, Step.leavesAt_of_isLeaf leaf, List.map_append, later]
      rfl

end BuilderCall

/-! ## Blocks and the places they lead to -/

namespace Block

open Step

/-- The leaves in a block that is at a place. -/
def leaves (place : Address) : Block κ → List (Address × Step κ)
  | route steps => leavesFrom ((.route, 0) :: place) steps
  | pipeline steps _ => leavesFrom ((.pipeline, 0) :: place) steps
  | choice clauses otherwise _ => leavesOfClauses place 0 clauses ++ leavesOfEnd ((.otherwise, 0) :: place) otherwise
  | tryCatch steps catches last _ =>
    leavesFrom ((.tried, 0) :: place) steps ++ leavesOfCatches place 0 catches ++
      leavesOfEnd ((.last, 0) :: place) last
  | loop _ steps _ => leavesFrom ((.loop, 0) :: place) steps
  | multicast outputs _ _ _ => leavesFrom ((.multicast, 0) :: place) outputs

/-- A block that is closed has the leaves of the step that it becomes. -/
theorem leaves_of_close {block : Block κ} {step : Step κ} (closes : block.close = some step) (place : Address) :
    step.leavesAt place = block.leaves place := by
  cases block <;> cases closes <;> rfl

/-- The forms that blocks take between calls. Steps go into a part of the block, after those already there; the parts
behind it are empty. -/
inductive Takes : Block κ → Section → List (Step κ) → Prop
  | route (steps : List (Step κ)) : Takes (.route steps) .route steps
  | pipeline (steps : List (Step κ)) (stopOnError : Bool) : Takes (.pipeline steps stopOnError) .pipeline steps
  | loop (mode : LoopMode κ) (steps : List (Step κ)) (policy : Pattern.ConditionPolicy) :
    Takes (.loop mode steps policy) .loop steps
  | multicast (outputs : List (Step κ)) (parallel stopOnError : Bool) (aggregator : Option κ) :
    Takes (.multicast outputs parallel stopOnError aggregator) .multicast outputs
  | start : Takes (.choice [] none .start) .start []
  | when (clauses : List (ValueSource κ × List (Step κ))) (condition : ValueSource κ) (steps : List (Step κ)) :
    Takes (.choice (clauses ++ [(condition, steps)]) none .when) (.when clauses.length) steps
  | otherwise (clauses : List (ValueSource κ × List (Step κ))) (steps : List (Step κ)) :
    Takes (.choice clauses (some steps) .otherwise) .otherwise steps
  | tried (steps : List (Step κ)) : Takes (.tryCatch steps [] none .steps) .tried steps
  | catch (steps : List (Step κ)) (catches : List (Matcher × List (Step κ))) (matcher : Matcher)
      (handler : List (Step κ)) :
    Takes (.tryCatch steps (catches ++ [(matcher, handler)]) none .catch) (.catch catches.length) handler
  | last (steps : List (Step κ)) (catches : List (Matcher × List (Step κ))) (ends : List (Step κ)) :
    Takes (.tryCatch steps catches (some ends) .last) .last ends

variable {block changed : Block κ} {part : Section} {steps : List (Step κ)}

/-- A step is added behind all leaves of a block. -/
theorem Takes.add (takes : block.Takes part steps) {step : Step κ} (added : block.add step = .ok changed) :
    changed.Takes part (steps ++ [step]) ∧ ∀ place : Address,
      changed.leaves place = block.leaves place ++ step.leavesAt ((part, steps.length) :: place) := by
  cases takes with
  | route | pipeline | loop | multicast =>
    cases added
    refine ⟨by constructor, fun place => ?_⟩
    rw [leaves, leavesFrom_concat, Nat.zero_add]
    rfl
  | start => cases added
  | «when» clauses condition =>
    rw [(fills_when clauses condition steps step : Block.add _ _ = _)] at added
    cases added
    refine ⟨.when clauses condition _, fun place => ?_⟩
    simp only [leaves, leavesOfEnd, List.append_nil, leavesOfClauses_concat, leavesFrom_concat, Nat.zero_add,
      List.append_assoc]
  | otherwise clauses =>
    cases added
    refine ⟨.otherwise clauses _, fun place => ?_⟩
    simp only [leaves, leavesOfEnd, leavesFrom_concat, Nat.zero_add, List.append_assoc]
  | tried =>
    cases added
    refine ⟨.tried _, fun place => ?_⟩
    simp only [leaves, leavesOfEnd, leavesOfCatches, List.append_nil, leavesFrom_concat, Nat.zero_add]
  | «catch» before catches matcher =>
    rw [(fills_catch before catches matcher steps step : Block.add _ _ = _)] at added
    cases added
    refine ⟨.catch before catches matcher _, fun place => ?_⟩
    simp only [leaves, leavesOfEnd, List.append_nil, leavesOfCatches_concat, leavesFrom_concat, Nat.zero_add,
      List.append_assoc]
  | last before catches =>
    cases added
    refine ⟨.last before catches _, fun place => ?_⟩
    simp only [leaves, leavesOfEnd, leavesFrom_concat, Nat.zero_add, List.append_assoc]

/-- A block that has changed without a further leaf: now some steps go into another part, or where they went. -/
def Turned (block changed : Block κ) (part : Section) (steps : List (Step κ)) : Prop :=
  changed.Takes part steps ∧ ∀ place : Address, changed.leaves place = block.leaves place

/-- A clause with a condition begins behind the clauses of a choice, without steps. -/
theorem Takes.beginWhen (takes : block.Takes part steps) {condition : ValueSource κ}
    (begins : block.beginWhen condition = .ok changed) : block.Turned changed part.nextWhen [] := by
  cases takes with
  | route | pipeline | loop | multicast | tried | «catch» | last | otherwise => cases begins
  | start =>
    cases begins
    exact ⟨.when [] condition [], fun _ => rfl⟩
  | «when» clauses earlier =>
    cases begins
    have behind := Takes.when (clauses ++ [(earlier, steps)]) condition []
    rw [List.length_append] at behind
    refine ⟨behind, fun place => ?_⟩
    rw [leaves, leaves, leavesOfClauses_concat, leavesFrom, List.append_nil]

/-- The branch for all other cases begins behind the clauses of a choice, without steps. -/
theorem Takes.beginOtherwise (takes : block.Takes part steps) (begins : block.beginOtherwise = .ok changed) :
    block.Turned changed .otherwise [] := by
  cases takes with
  | route | pipeline | loop | multicast | tried | «catch» | last | otherwise => cases begins
  | start | «when» =>
    cases begins
    exact ⟨.otherwise _ [], fun _ => rfl⟩

/-- A handler begins behind the steps that are tried and the other handlers, without steps. -/
theorem Takes.beginCatch (takes : block.Takes part steps) {matcher : Matcher}
    (begins : block.beginCatch matcher = .ok changed) : block.Turned changed part.nextCatch [] := by
  cases takes with
  | route | pipeline | loop | multicast | start | «when» | otherwise | last => cases begins
  | tried =>
    cases begins
    exact ⟨.catch steps [] matcher [], fun _ => rfl⟩
  | «catch» before catches earlier =>
    cases begins
    have behind := Takes.catch before (catches ++ [(earlier, steps)]) matcher []
    rw [List.length_append] at behind
    refine ⟨behind, fun place => ?_⟩
    rw [leaves, leaves, leavesOfCatches_concat, leavesFrom, List.append_nil]

/-- The steps that come last begin behind the handlers, and there are none yet. -/
theorem Takes.beginLast (takes : block.Takes part steps) (begins : block.beginLast = .ok changed) :
    block.Turned changed .last [] := by
  cases takes with
  | route | pipeline | loop | multicast | start | «when» | otherwise | last => cases begins
  | tried | «catch» =>
    cases begins
    exact ⟨.last _ _ [], fun _ => rfl⟩

/-- Whether errors stop a block has nothing to do with its steps. -/
theorem Takes.setStopOnError (takes : block.Takes part steps) {enabled : Bool}
    (sets : block.setStopOnError enabled = .ok changed) : block.Turned changed part steps := by
  cases takes with
  | pipeline | multicast =>
    cases sets
    exact ⟨by constructor, fun _ => rfl⟩
  | _ => cases sets

/-- Whether outputs run side by side has nothing to do with them. -/
theorem Takes.setParallel (takes : block.Takes part steps) (sets : block.setParallel = .ok changed) :
    block.Turned changed part steps := by
  cases takes with
  | multicast =>
    cases sets
    exact ⟨by constructor, fun _ => rfl⟩
  | _ => cases sets

/-- What joins the branches has nothing to do with the outputs. -/
theorem Takes.setAggregator (takes : block.Takes part steps) {code : κ}
    (sets : block.setAggregator code = .ok changed) : block.Turned changed part steps := by
  cases takes with
  | multicast =>
    cases sets
    exact ⟨by constructor, fun _ => rfl⟩
  | _ => cases sets

/-- The policy of a loop has nothing to do with its steps. -/
theorem Takes.setPolicy (takes : block.Takes part steps) {policy : Pattern.ConditionPolicy}
    (sets : block.setPolicy policy = .ok changed) : block.Turned changed part steps := by
  cases takes with
  | loop mode steps earlier =>
    cases mode with
    | count times => cases sets
    | «while» condition =>
      cases sets
      exact ⟨.loop _ _ policy, fun _ => rfl⟩
  | _ => cases sets

/-- The open blocks, the place that they lead to, and the leaves in them, the outermost block first. -/
inductive Stack : List (Block κ) → Address → List (Address × Step κ) → Prop
  | nil : Stack [] [] []
  | cons {rest : List (Block κ)} {place : Address} {outer : List (Address × Step κ)} {block : Block κ}
      {part : Section} {steps : List (Step κ)} (around : Stack rest place outer) (takes : block.Takes part steps) :
    Stack (block :: rest) ((part, steps.length) :: place) (outer ++ block.leaves place)

/-- A new block is opened at the place that the blocks around lead to. -/
theorem Stack.open {blocks : List (Block κ)} {place : Address} {outer : List (Address × Step κ)}
    (around : Stack blocks place outer) {opened : Block κ} (takes : opened.Takes part [])
    (empty : opened.leaves place = []) : Stack (opened :: blocks) ((part, 0) :: place) outer := by
  have grown := around.cons takes
  rwa [empty, List.append_nil] at grown

/-- A block that has changed without a further leaf leads to another place. -/
theorem Stack.turned {rest : List (Block κ)} {place : Address} {outer : List (Address × Step κ)}
    (around : Stack rest place outer) (turns : block.Turned changed part steps) :
    Stack (changed :: rest) ((part, steps.length) :: place) (outer ++ block.leaves place) := by
  have grown := around.cons turns.1
  rwa [turns.2 place] at grown

/-- A step is added at the place that the blocks lead to, behind all leaves. -/
theorem Stack.add {rest : List (Block κ)} {place : Address} {all : List (Address × Step κ)} {step : Step κ}
    (stack : Stack (block :: rest) place all) (added : block.add step = .ok changed) :
    Stack (changed :: rest) place.next (all ++ step.leavesAt place) := by
  cases stack with
  | cons around takes =>
    obtain ⟨takesMore, behind⟩ := takes.add added
    have grown := around.cons takesMore
    rwa [behind, List.length_append, ← List.append_assoc] at grown

end Block

end MessageRouting
