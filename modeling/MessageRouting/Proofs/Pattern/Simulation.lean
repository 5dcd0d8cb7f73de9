import Mathlib.Data.List.Forall2
import MessageRouting.Pattern.Choice
import MessageRouting.Pattern.Decorated
import MessageRouting.Pattern.Loop
import MessageRouting.Pattern.Multicast
import MessageRouting.Pattern.Pipeline
import MessageRouting.Pattern.TryCatch
import MessageRouting.Proofs.Exchange.Carried

/-!
# Patterns over parts that do the same

Programs are related when they come to the same results, and these are good. A relation that ends have with
themselves, and that goes on with related programs to what follows them, relates a pattern over some parts to the
pattern over others, if the parts are related one by one. Exchanges are good when the errors they carry are allowed;
the faults that patterns raise themselves are.
-/

namespace MessageRouting

/-- An exchange that was worked on carries only errors that are allowed. -/
def Outcome.CarriesOnly (allowed : Raised → Prop) (o : Outcome) : Prop := o.exchange.CarriesOnly allowed

namespace Pattern

/-- All that branches carry is allowed. -/
structure Branches.CarryOnly (allowed : Raised → Prop) (branches : Branches) : Prop where
  /-- What the exchange carries. -/
  source : branches.source.CarriesOnly allowed
  /-- What the branches carry that ran. -/
  ended : ∀ branch ∈ branches.ended, branch.CarriesOnly allowed
  /-- The error that stopped the multicast. -/
  failure : ∀ e ∈ branches.failure, allowed e

variable {m : Type → Type} [Monad m] {allowed : Raised → Prop}

/-! ## Decorated steps taken apart -/

/-- The exchange with which a step is entered, and the place of its record in the history. -/
def entered (info : StepInfo) (tracked : Bool) (x : Exchange) : Exchange × Option Nat :=
  if tracked then ((beginRecord info x).1, some (beginRecord info x).2) else (x, none)

/-- A record in the history changes nothing but a header. -/
theorem entered_eq (info : StepInfo) (tracked : Bool) (x : Exchange) :
    ∃ headers, (entered info tracked x).1 = x.setHeaders headers := by
  cases tracked with
  | false => exact ⟨x.headers, rfl⟩
  | true => exact ⟨_, rfl⟩

/-- Finishing a record changes nothing but a header. -/
theorem finishRecord_eq (record : Option Nat) (x : Exchange) :
    ∃ headers, finishRecord record x = x.setHeaders headers := by
  cases record with
  | none => exact ⟨x.headers, rfl⟩
  | some place => exact ⟨_, rfl⟩

/-- A decorated step is entered, checked, and refused or run between its hooks. -/
theorem decorated_eq (around : Surroundings m) (info : StepInfo) (pre post : Option (Behaviour m)) (tracked : Bool)
    (inner : Behaviour m) (x : Exchange) :
    decorated around info pre post tracked inner x = (do
      match ← around.check (entered info tracked x).1 with
      | .error fault =>
        around.note (.refused info (entered info tracked x).1)
        return .returned (finishRecord (entered info tracked x).2 ((entered info tracked x).1.fail fault))
      | .ok () => runHooked around info pre post (entered info tracked x).2 inner (entered info tracked x).1) := by
  cases tracked <;> rfl

/-! ## Relations -/

/-- A relation between programs that come to the same good results. -/
structure Simulation (m : Type → Type) [Monad m] where
  /-- The relation, for results of a kind. -/
  relates : {α : Type} → (α → Prop) → m α → m α → Prop
  /-- A good end is related to itself. -/
  pure : ∀ {α : Type} {good : α → Prop} {result : α}, good result → relates good (Pure.pure result) (Pure.pure result)
  /-- Related programs are followed by related programs. -/
  bind : ∀ {α β : Type} {good : α → Prop} {fine : β → Prop} {program other : m α} {next follow : α → m β},
    relates good program other → (∀ result, good result → relates fine (next result) (follow result)) →
    relates fine (program >>= next) (other >>= follow)

namespace Simulation

variable (sim : Simulation m)

/-- Two behaviours are related on good exchanges. -/
def Behaviours (allowed : Raised → Prop) (child other : Behaviour m) : Prop :=
  ∀ x : Exchange, x.CarriesOnly allowed → sim.relates (Outcome.CarriesOnly allowed) (child x) (other x)

/-- Two questions are related on good exchanges. -/
def Queries {α : Type} (allowed : Raised → Prop) (good : α → Prop) (asked other : Query m α) : Prop :=
  ∀ x : Exchange, x.CarriesOnly allowed → sim.relates (Ending.Keeps allowed good) (asked x) (other x)

/-- Two ways of making exchanges of exchanges are related on good ones. -/
def Turns (allowed : Raised → Prop) (turn other : Exchange → m Exchange) : Prop :=
  ∀ x : Exchange, x.CarriesOnly allowed → sim.relates (Exchange.CarriesOnly allowed) (turn x) (other x)

variable {sim} (admits : Admits allowed)

/-- An exchange that was worked on without a panic is a good end. -/
theorem returned {x : Exchange} (carried : x.CarriesOnly allowed) :
    sim.relates (Outcome.CarriesOnly allowed) (return .returned x) (return .returned x) :=
  sim.pure carried

include admits

/-- Containing panics keeps related behaviours related. -/
theorem invoke {child other : Behaviour m} (part : sim.Behaviours allowed child other) :
    sim.Turns allowed (invoke child) (invoke other) :=
  fun x carried => sim.bind (part x carried) fun _ ended => sim.pure (Outcome.carriesOnly_contained admits ended)

/-! ## Sequences -/

omit admits in
/-- Pipelines of related steps are related. -/
theorem pipeline (stopOnError : Bool) {steps others : List (Behaviour m)}
    (parts : List.Forall₂ (sim.Behaviours allowed) steps others) :
    sim.Behaviours allowed (pipeline stopOnError steps) (pipeline stopOnError others) := by
  induction parts with
  | nil => exact fun x carried => returned carried
  | cons first _ later =>
    refine fun x carried => sim.bind (first x carried) fun o ended => ?_
    split
    · exact sim.pure ended
    · exact later _ ended

omit admits in
/-- Choices with related clauses are related. -/
theorem choice {otherwise instead : Option (Behaviour m)} {clauses others : List (Query m Bool × Behaviour m)}
    (last : Option.Rel (sim.Behaviours allowed) otherwise instead)
    (parts : List.Forall₂ (fun clause other => sim.Queries allowed (fun _ => True) clause.1 other.1 ∧
      sim.Behaviours allowed clause.2 other.2) clauses others) :
    sim.Behaviours allowed (choice otherwise clauses) (choice instead others) := by
  induction parts with
  | nil =>
    intro x carried
    cases last with
    | none => exact returned carried
    | some part => exact part x carried
  | cons first _ later =>
    refine fun x carried => sim.bind (first.1 x carried) fun ending ended => ?_
    split
    · exact first.2 x carried
    · exact later x carried
    · exact returned (carried.fail ended)
    · exact sim.pure carried

/-! ## Trying -/

/-- Related steps that are tried are related. -/
theorem runUntilError {steps others : List (Behaviour m)}
    (parts : List.Forall₂ (sim.Behaviours allowed) steps others) :
    sim.Turns allowed (runUntilError steps) (runUntilError others) := by
  induction parts with
  | nil => exact fun x carried => sim.pure carried
  | cons first _ later =>
    refine fun x carried => sim.bind (invoke admits first x carried) fun y kept => ?_
    split
    · exact sim.pure kept
    · exact later y kept

/-- Two handlers take the same errors and are related. -/
def Handlers (sim : Simulation m) (allowed : Raised → Prop) (handler other : Handler m) : Prop :=
  handler.accepts = other.accepts ∧ sim.Behaviours allowed handler.behaviour other.behaviour

omit admits in
/-- Of related handlers the first ones that take an error are related. -/
theorem find?_handlers {handlers others : List (Handler m)}
    (parts : List.Forall₂ (sim.Handlers allowed) handlers others) (e : Raised) :
    Option.Rel (sim.Handlers allowed) (handlers.find? (·.accepts e)) (others.find? (·.accepts e)) := by
  induction parts with
  | nil => exact .none
  | @cons handler other _ _ first _ later =>
    simp only [List.find?_cons, first.1]
    cases other.accepts e with
    | true => exact .some first
    | false => exact later

/-- Handling an error by related handlers is related. -/
theorem handle {handlers others : List (Handler m)} (parts : List.Forall₂ (sim.Handlers allowed) handlers others) :
    sim.Turns allowed (handle handlers) (handle others) := by
  intro x carried
  unfold Pattern.handle
  cases pending : x.error with
  | none => exact sim.pure carried
  | some caught =>
    have noted : (x.setProperty caughtProperty (.error caught)).CarriesOnly allowed :=
      carried.setProperty (carried.error caught pending)
    dsimp only
    have related := find?_handlers parts caught
    generalize handlers.find? (·.accepts caught) = handler at related ⊢
    generalize others.find? (·.accepts caught) = other at related ⊢
    cases related with
    | none => exact sim.pure carried
    | some first =>
      refine sim.bind (invoke admits first.2 _ noted) fun y kept => ?_
      split
      · exact sim.pure kept.clearError
      · exact sim.pure kept

/-- Related last steps are related. -/
theorem runLast {steps others : List (Behaviour m)} (parts : List.Forall₂ (sim.Behaviours allowed) steps others)
    {first : Option Raised} (before : ∀ e ∈ first, allowed e) {x : Exchange} (carried : x.CarriesOnly allowed) :
    sim.relates (fun ended => ended.1.CarriesOnly allowed ∧ ∀ e ∈ ended.2, allowed e)
      (runLast first steps x) (runLast first others x) := by
  induction parts generalizing first x with
  | nil => exact sim.pure ⟨carried, before⟩
  | cons one _ later =>
    refine sim.bind (invoke admits one x carried) fun y kept => later (fun e found => ?_) kept.clearError
    cases first with
    | none => exact kept.error e found
    | some earlier => exact before e found

/-- What is pending after the last steps is allowed. -/
theorem carriesOnly_settle {x : Exchange} (carried : x.CarriesOnly allowed) {pending later : Option Raised}
    (before : ∀ e ∈ pending, allowed e) (after : ∀ e ∈ later, allowed e) :
    (settle x pending later).CarriesOnly allowed := by
  match pending, later with
  | some earlier, some e => exact carried.fail (Fault.IsPlain.raisesOnly admits trivial)
  | none, some e => exact carried.setError (after e rfl)
  | none, none | some earlier, none => exact ⟨before, carried.body, carried.headers, carried.properties⟩

/-- Related last steps with the pending error set aside are related. -/
theorem finish {last others : List (Behaviour m)} (parts : List.Forall₂ (sim.Behaviours allowed) last others) :
    sim.Turns allowed (finish last) (finish others) := by
  intro x carried
  cases parts with
  | nil => exact sim.pure carried
  | cons first rest =>
    refine sim.bind (runLast admits (.cons first rest) (fun _ missing => by cases missing) carried.clearError)
      fun ended kept => ?_
    exact sim.pure (carriesOnly_settle admits kept.1 carried.error kept.2)

/-- Trying related steps with related handlers and related last steps is related. -/
theorem tryCatch {steps otherSteps : List (Behaviour m)} {handlers otherHandlers : List (Handler m)}
    {last otherLast : List (Behaviour m)} (tried : List.Forall₂ (sim.Behaviours allowed) steps otherSteps)
    (handled : List.Forall₂ (sim.Handlers allowed) handlers otherHandlers)
    (ending : List.Forall₂ (sim.Behaviours allowed) last otherLast) :
    sim.Behaviours allowed (tryCatch steps handlers last) (tryCatch otherSteps otherHandlers otherLast) :=
  fun x carried => sim.bind (runUntilError admits tried x carried) fun y kept =>
    sim.bind (handle admits handled y kept) fun z held =>
      sim.bind (finish admits ending z held) fun _ settled => returned settled

/-! ## Loops -/

omit admits in
/-- The index of an iteration is no error. -/
theorem carriesOnly_atIndex {x : Exchange} (carried : x.CarriesOnly allowed) (index : Nat) :
    (atIndex index x).CarriesOnly allowed :=
  carried.setProperty trivial

/-- Iterations of related bodies are related. -/
theorem iterate {body other : Behaviour m} (part : sim.Behaviours allowed body other) (index : Nat) :
    sim.Turns allowed (iterate body index) (iterate other index) :=
  fun _ carried => sim.bind (invoke admits part _ ((carriesOnly_atIndex carried index).copyIn _)) fun _ kept =>
    sim.pure (Exchange.CarriesOnly.absorb kept)

/-- Counted iterations of related bodies are related. -/
theorem countFrom {body other : Behaviour m} (part : sim.Behaviours allowed body other) (n index : Nat) :
    sim.Behaviours allowed (countFrom body n index) (countFrom other n index) := by
  induction n generalizing index with
  | zero => exact fun x carried => returned carried
  | succ n later =>
    refine fun x carried => sim.bind (iterate admits part index x carried) fun y kept => ?_
    split
    · exact returned kept
    · exact later (index + 1) y kept

/-- Iterations of related bodies under related conditions are related. -/
theorem whileFrom {stuck instead : Behaviour m} {condition asked : Query m Bool} {body other : Behaviour m}
    (policy : ConditionPolicy) (rest : sim.Behaviours allowed stuck instead)
    (question : sim.Queries allowed (fun _ => True) condition asked) (part : sim.Behaviours allowed body other)
    (patience index : Nat) :
    sim.Behaviours allowed (whileFrom stuck condition policy body patience index)
      (whileFrom instead asked policy other patience index) := by
  induction patience generalizing index with
  | zero => exact rest
  | succ patience later =>
    intro x carried
    have noted := carriesOnly_atIndex carried index
    refine sim.bind (question _ noted) fun ending ended => ?_
    split
    · refine sim.bind (iterate admits part index _ noted) fun y kept => ?_
      split
      · exact returned kept
      · exact later (index + 1) y kept
    · exact returned noted
    · split
      · exact returned noted.clearError
      · exact returned (noted.fail ended)
    · exact sim.pure noted

omit admits in
/-- A value that is no number of iterations is refused by a plain fault. -/
theorem isPlain_of_timesOf {value : Value} {fault : Fault} (refused : timesOf value = .error fault) :
    fault.IsPlain := by
  cases value <;> simp only [timesOf] at refused <;> (repeat' split at refused) <;> cases refused <;> trivial

/-- Counting loops over related bodies are related. -/
theorem countLoop {count asked : Query m Value} {body other : Behaviour m} {good : Value → Prop}
    (question : sim.Queries allowed good count asked) (part : sim.Behaviours allowed body other) :
    sim.Behaviours allowed (countLoop count body) (countLoop asked other) := by
  refine fun x carried => sim.bind (question x carried) fun ending ended => ?_
  have times : (ending.bind fun value => .ofExcept (timesOf value)).Keeps allowed fun _ => True :=
    ended.bind fun value _ => Ending.keeps_ofExcept admits (fun _ _ => trivial) fun _ => isPlain_of_timesOf
  split
  · exact countFrom admits part _ 0 x carried
  · rename_i failed
    rw [failed] at times
    exact returned (carried.fail times)
  · exact sim.pure carried

/-! ## Multicasts -/

/-- Related outputs that run one after the other are related. -/
theorem runInTurn (stopOnError : Bool) {outputs others : List (Behaviour m)}
    (parts : List.Forall₂ (sim.Behaviours allowed) outputs others) {x : Exchange} (carried : x.CarriesOnly allowed) :
    sim.relates (Branches.CarryOnly allowed) (runInTurn stopOnError outputs x) (runInTurn stopOnError others x) := by
  induction parts generalizing x with
  | nil => exact sim.pure ⟨carried, fun _ member => (nomatch member), fun _ missing => by cases missing⟩
  | cons first _ later =>
    refine sim.bind (invoke admits first _ (carried.copyIn _)) fun branch kept => ?_
    split
    · exact sim.pure ⟨carried.afterMaking, List.forall_mem_singleton.mpr kept, kept.error⟩
    · exact sim.bind (later carried.afterMaking) fun more all =>
        sim.pure ⟨all.source, List.forall_mem_cons.mpr ⟨kept, all.ended⟩, all.failure⟩

/-- The forks for related outputs are related. -/
theorem forksFor {outputs others : List (Behaviour m)} (parts : List.Forall₂ (sim.Behaviours allowed) outputs others)
    {x : Exchange} (carried : x.CarriesOnly allowed) :
    List.Forall₂ (sim.relates (Exchange.CarriesOnly allowed)) (forksFor outputs x).1 (forksFor others x).1 ∧
      (forksFor outputs x).2 = (forksFor others x).2 ∧ (forksFor others x).2.CarriesOnly allowed := by
  induction parts generalizing x with
  | nil => exact ⟨.nil, rfl, carried⟩
  | cons first _ later =>
    obtain ⟨forks, same, kept⟩ := later carried.afterMaking
    exact ⟨.cons (invoke admits first _ (carried.copyIn _)) forks, same, kept⟩

omit admits in
/-- Related branches that run in some order are related. -/
theorem runAt {branches others : List (m Exchange)}
    (parts : List.Forall₂ (sim.relates (Exchange.CarriesOnly allowed)) branches others) (order : List Nat) :
    sim.relates (fun ended => ∀ entry ∈ ended, entry.2.CarriesOnly allowed)
      (runAt branches order) (runAt others order) := by
  induction order with
  | nil => exact sim.pure fun _ member => (nomatch member)
  | cons place rest later =>
    have same : branches.length = others.length := parts.length_eq
    unfold Pattern.runAt
    cases found : branches[place]? with
    | none =>
      have missing : others[place]? = none := by
        rw [List.getElem?_eq_none_iff] at found ⊢
        omega
      rw [missing]
      exact later
    | some branch =>
      obtain ⟨inside, rfl⟩ := List.getElem?_eq_some_iff.mp found
      rw [List.getElem?_eq_getElem (same ▸ inside)]
      exact sim.bind (parts.get inside (same ▸ inside)) fun ended kept => sim.bind later fun more all =>
        sim.pure (List.forall_mem_cons.mpr ⟨kept, all⟩)

/-- Related outputs that run side by side are related. -/
theorem runSideBySide (order : List Nat) {outputs others : List (Behaviour m)}
    (parts : List.Forall₂ (sim.Behaviours allowed) outputs others) {x : Exchange} (carried : x.CarriesOnly allowed) :
    sim.relates (Branches.CarryOnly allowed) (runSideBySide order outputs x) (runSideBySide order others x) := by
  obtain ⟨forks, same, kept⟩ := forksFor admits parts carried
  unfold Pattern.runSideBySide
  rw [parts.length_eq]
  generalize Pattern.forksFor outputs x = forked at forks same ⊢
  generalize Pattern.forksFor others x = instead at forks same kept ⊢
  obtain ⟨branches, source⟩ := forked
  obtain rfl : source = instead.2 := same
  refine sim.bind (runAt forks order) fun ended all =>
    sim.pure ⟨kept, fun branch member => ?_, fun _ missing => by cases missing⟩
  obtain ⟨place, -, found⟩ := List.mem_filterMap.mp member
  obtain ⟨before, after, rfl, -⟩ := List.lookup_eq_some_iff.mp found
  exact all (place, branch) (List.mem_append_right before List.mem_cons_self)

/-- An aggregator does the same to good branches again. -/
def Joins (sim : Simulation m) (allowed : Raised → Prop) (aggregate : Aggregator m) : Prop :=
  ∀ (before : Option Exchange) (branch : Exchange), (∀ folded ∈ before, folded.CarriesOnly allowed) →
    branch.CarriesOnly allowed →
    sim.relates (fun joined => ∀ y, joined = .ok y → y.CarriesOnly allowed) (aggregate before branch)
      (aggregate before branch)

omit admits in
/-- Folding branches is related to itself. -/
theorem foldBranches {aggregate : Aggregator m} (joins : sim.Joins allowed aggregate) {before : Option Exchange}
    (folded : ∀ y ∈ before, y.CarriesOnly allowed) {branches : List Exchange}
    (ended : ∀ branch ∈ branches, branch.CarriesOnly allowed) :
    sim.relates (fun joined => ∀ y, joined = .ok (some y) → y.CarriesOnly allowed)
      (foldBranches aggregate before branches) (foldBranches aggregate before branches) := by
  induction branches generalizing before with
  | nil =>
    refine sim.pure fun y same => folded y ?_
    cases same
    rfl
  | cons branch rest later =>
    obtain ⟨first, others⟩ := List.forall_mem_cons.mp ended
    refine sim.bind (joins before branch folded first) fun joined kept => ?_
    split
    · rename_i next
      exact later (fun y same => by cases same; exact kept next rfl) others
    · exact sim.pure fun y same => by cases same

omit admits in
/-- The error that stopped a multicast is carried. -/
theorem carriesOnly_withFailure {failure : Option Raised} (new : ∀ e ∈ failure, allowed e) {x : Exchange}
    (carried : x.CarriesOnly allowed) : (withFailure failure x).CarriesOnly allowed := by
  cases failure with
  | none => exact carried
  | some e => exact carried.setError (new e rfl)

/-- Gathering branches is related to itself. -/
theorem gather {aggregator : Option (Aggregator m)} (joins : ∀ aggregate ∈ aggregator, sim.Joins allowed aggregate)
    {branches : Branches} (all : branches.CarryOnly allowed) :
    sim.relates (Exchange.CarriesOnly allowed) (gather aggregator branches) (gather aggregator branches) := by
  cases aggregator with
  | none => exact sim.pure (carriesOnly_withFailure all.failure all.source)
  | some aggregate =>
    refine sim.bind (foldBranches (joins aggregate rfl) (fun _ missing => by cases missing) all.ended)
      fun joined kept => ?_
    split
    · rename_i folded
      exact sim.pure (carriesOnly_withFailure all.failure (Exchange.CarriesOnly.absorb (kept folded rfl)))
    · exact sim.pure (carriesOnly_withFailure all.failure all.source)
    · exact sim.pure (all.source.fail (Fault.IsPlain.raisesOnly admits trivial))

/-- Multicasts to related outputs are related. -/
theorem multicast (mode : Mode) {aggregator : Option (Aggregator m)}
    (joins : ∀ aggregate ∈ aggregator, sim.Joins allowed aggregate) {outputs others : List (Behaviour m)}
    (parts : List.Forall₂ (sim.Behaviours allowed) outputs others) :
    sim.Behaviours allowed (multicast mode aggregator outputs) (multicast mode aggregator others) := by
  intro x carried
  have gathered (branches : Branches) (all : branches.CarryOnly allowed) :
      sim.relates (Outcome.CarriesOnly allowed) (do return .returned (← Pattern.gather aggregator branches))
        (do return .returned (← Pattern.gather aggregator branches)) :=
    sim.bind (gather admits joins all) fun _ kept => returned kept
  cases mode with
  | inTurn stopOnError => exact sim.bind (runInTurn admits stopOnError parts carried) gathered
  | sideBySide order => exact sim.bind (runSideBySide admits order parts carried) gathered

/-! ## Decorated steps -/

/-- What surrounds steps does the same again: refusals are allowed. -/
structure Surrounds (sim : Simulation m) (allowed : Raised → Prop) (around : Surroundings m) : Prop where
  /-- Checking. -/
  check : ∀ x, sim.relates (fun verdict => ∀ fault, verdict = .error fault → fault.RaisesOnly allowed)
    (around.check x) (around.check x)
  /-- Noting. -/
  note : ∀ event, sim.relates (fun _ => True) (around.note event) (around.note event)

variable {around : Surroundings m}

omit admits in
/-- Running a hook is related to itself. -/
theorem runHook (surrounds : sim.Surrounds allowed around) (point : HookPoint) (info : StepInfo)
    {hook : Option (Behaviour m)} (hooked : ∀ behaviour ∈ hook, sim.Behaviours allowed behaviour behaviour) :
    sim.Behaviours allowed (runHook around point info hook) (runHook around point info hook) := by
  intro x carried
  cases hook with
  | none => exact returned carried
  | some behaviour => exact sim.bind (surrounds.note _) fun _ _ => hooked behaviour rfl x carried

omit admits in
/-- A record of the history that is begun is no error. -/
theorem carriesOnly_entered (info : StepInfo) (tracked : Bool) {x : Exchange} (carried : x.CarriesOnly allowed) :
    (entered info tracked x).1.CarriesOnly allowed := by
  cases tracked with
  | false => exact carried
  | true => exact carried.mapHistory (·.begin info.route info.step)

omit admits in
/-- A record of the history that is finished is no error. -/
theorem carriesOnly_finishRecord {x : Exchange} (carried : x.CarriesOnly allowed) (record : Option Nat) :
    (finishRecord record x).CarriesOnly allowed := by
  cases record with
  | none => exact carried
  | some place => exact carried.mapHistory _

omit admits in
/-- Related steps between the same hooks are related. -/
theorem runHooked (surrounds : sim.Surrounds allowed around) (info : StepInfo) {pre post : Option (Behaviour m)}
    (before : ∀ behaviour ∈ pre, sim.Behaviours allowed behaviour behaviour)
    (after : ∀ behaviour ∈ post, sim.Behaviours allowed behaviour behaviour) (record : Option Nat)
    {inner other : Behaviour m} (part : sim.Behaviours allowed inner other) :
    sim.Behaviours allowed (runHooked around info pre post record inner)
      (runHooked around info pre post record other) := by
  refine fun x carried => sim.bind (runHook surrounds .pre info before x carried) fun entered kept => ?_
  split
  · exact sim.pure kept
  · refine sim.bind (surrounds.note _) fun _ _ => sim.bind (part _ kept) fun done ended =>
      sim.bind (surrounds.note _) fun _ _ => sim.bind (runHook surrounds .post info after _ ended) fun left last => ?_
    split
    · exact sim.pure last
    · exact sim.pure (carriesOnly_finishRecord last record)

omit admits in
/-- Related steps in the same surroundings are related. -/
theorem decorated (surrounds : sim.Surrounds allowed around) (info : StepInfo) {pre post : Option (Behaviour m)}
    (before : ∀ behaviour ∈ pre, sim.Behaviours allowed behaviour behaviour)
    (after : ∀ behaviour ∈ post, sim.Behaviours allowed behaviour behaviour) (tracked : Bool)
    {inner other : Behaviour m} (part : sim.Behaviours allowed inner other) :
    sim.Behaviours allowed (decorated around info pre post tracked inner)
      (decorated around info pre post tracked other) := by
  intro x carried
  have entering := carriesOnly_entered info tracked carried
  rw [decorated_eq, decorated_eq]
  refine sim.bind (surrounds.check _) fun verdict kept => ?_
  split
  · rename_i fault
    exact sim.bind (surrounds.note _) fun _ _ =>
      returned (carriesOnly_finishRecord (entering.fail (kept fault rfl)) _)
  · exact runHooked surrounds info before after _ part _ entering

end Simulation

end Pattern

end MessageRouting
