import MessageRouting.Proofs.Engine.Basis
import MessageRouting.Proofs.Program.Yielding

/-!
# Runs that differ in notes only

That steps were entered, refused and left is noted for whoever asks later, and nothing an engine does depends on it. So
two programs are alike if from engines that differ in such notes only they come to the same results, in engines that
again differ in such notes only, or both come to none. What was logged counts.
-/

namespace MessageRouting

/-- A message was logged. -/
def Event.isLogged : Event → Bool
  | .logged _ _ _ => true
  | _ => false

namespace Engine

open Pattern

variable {κ η α β : Type}

/-- The engine without its notes of steps. -/
def quiet (engine : Engine κ η) : Engine κ η := { engine with journal := engine.journal.filter Event.isLogged }

/-- Two engines differ in their notes of steps only. -/
def SameButNotes (engine other : Engine κ η) : Prop := quiet engine = quiet other

/-- Two runs come to the same result, in engines that differ in notes only, or both come to none. -/
inductive SameEnd : Option (α × Engine κ η) → Option (α × Engine κ η) → Prop
  | none : SameEnd none none
  | some (result : α) {engine other : Engine κ η} (same : SameButNotes engine other) :
    SameEnd (some (result, engine)) (some (result, other))

/-- Engines that differ in notes only are the same but for the journal. -/
theorem SameButNotes.eq {engine other : Engine κ η} (same : SameButNotes engine other) :
    engine = { other with journal := engine.journal } := by
  cases engine
  cases other
  simp_all [SameButNotes, quiet]

/-- What was logged is the same. -/
theorem SameButNotes.logged {engine other : Engine κ η} (same : SameButNotes engine other) :
    engine.journal.filter Event.isLogged = other.journal.filter Event.isLogged :=
  congrArg Engine.journal same

/-- Engines that are the same but for the journal, with the same logged in it, differ in notes only. -/
theorem sameButNotes_of_journal {engine : Engine κ η} {journal other : List Event}
    (logged : journal.filter Event.isLogged = other.filter Event.isLogged) :
    SameButNotes { engine with journal } { engine with journal := other } := by
  simp [SameButNotes, quiet, logged]

/-- Two programs are alike when their tasks are answered in a way. -/
def Alike (answer : Processor κ × Exchange → Engine κ η → Option (Outcome × Engine κ η)) (program other : Work κ η α) :
    Prop :=
  ∀ engine instead, SameButNotes engine instead → SameEnd (program.runWith answer engine) (other.runWith answer instead)

/-- Tasks are answered alike. -/
def AnswersAlike (answer : Processor κ × Exchange → Engine κ η → Option (Outcome × Engine κ η)) : Prop :=
  ∀ task engine other, SameButNotes engine other → SameEnd (answer task engine) (answer task other)

/-- The code of a program does not look at notes: it changes engines that differ in notes only in the same way, and goes
on in the same way. -/
def Overlooks : Work κ η α → Prop
  | .done _ => True
  | .act update next => (∀ engine other, SameButNotes engine other →
      (update engine).map quiet = (update other).map quiet ∧ next engine = next other) ∧
      ∀ engine, Overlooks (next engine)
  | .call _ next => ∀ outcome, Overlooks (next outcome)

/-- What a section does leaves the journal out. -/
def LeavesJournal (f : Engine κ η → α × Engine κ η) : Prop :=
  ∀ engine journal, f { engine with journal } = ((f engine).1, { (f engine).2 with journal })

variable {answer : Processor κ × Exchange → Engine κ η → Option (Outcome × Engine κ η)}

namespace Alike

/-- Ends with the same result are alike. -/
theorem pure (result : α) : Alike answer (Pure.pure result) (Pure.pure result) :=
  fun _ _ same => .some result same

/-- Programs that are alike are followed by programs that are alike. -/
theorem bind {good : α → Prop} {program other : Work κ η α} {next follow : α → Work κ η β}
    (first : Alike answer program other) (comes : program.ComesTo answer good)
    (later : ∀ result, good result → Alike answer (next result) (follow result)) :
    Alike answer (program >>= next) (other >>= follow) := by
  intro engine instead same
  rw [Program.runWith_bind, Program.runWith_bind]
  have ended := first engine instead same
  have good := comes engine
  generalize program.runWith answer engine = here at ended good
  generalize other.runWith answer instead = there at ended
  cases ended with
  | none => exact .none
  | some result same => exact later result (good result _ rfl) _ _ same

/-- A program that is alike another one is alike what runs as that one does. -/
theorem congr {program other another : Work κ η α} (alike : Alike answer program other)
    (runs : ∀ engine, other.runWith answer engine = another.runWith answer engine) : Alike answer program another :=
  fun engine instead same => runs instead ▸ alike engine instead same

/-- A section that leaves the journal out is alike itself. -/
theorem atomically {f : Engine κ η → α × Engine κ η} (leaves : LeavesJournal f) :
    Alike answer (Program.atomically f) (Program.atomically f) := by
  intro engine instead same
  have here : f engine = ((f instead).1, { (f instead).2 with journal := engine.journal }) := by
    rw [same.eq, leaves]
  have there : f instead = ((f instead).1, { (f instead).2 with journal := instead.journal }) := leaves instead _
  rw [Program.runWith_atomically, Program.runWith_atomically, here]
  conv =>
    rhs
    rw [there]
  exact .some _ (sameButNotes_of_journal same.logged)

/-- A change that leaves the journal out is alike itself. -/
theorem change {f : Engine κ η → Engine κ η}
    (leaves : ∀ engine journal, f { engine with journal } = { f engine with journal }) :
    Alike answer (Program.change f) (Program.change f) := by
  have whole : LeavesJournal fun engine => ((), f engine) :=
    fun engine journal => congrArg (Prod.mk ()) (leaves engine journal)
  exact atomically whole

/-- Reading something else than the journal is alike itself. -/
theorem read {f : Engine κ η → α} (blind : Blind f) : Alike answer (Program.read f) (Program.read f) := by
  intro engine instead same
  have seen : f engine = f instead := by
    rw [same.eq, blind]
  rw [Program.runWith_read, Program.runWith_read, seen]
  exact .some _ same

/-- Noting is alike itself. -/
theorem note (event : Event) : Alike answer (note event : Work κ η Unit) (note event) := by
  intro engine instead same
  refine .some () ?_
  rw [same.eq]
  exact sameButNotes_of_journal (by simp [List.filter_cons, same.logged])

/-- Waiting in vain is alike itself. -/
theorem blocked (result : α) : Alike answer (Program.blocked result) (Program.blocked result) :=
  fun _ _ _ => .none

/-- Handing a task over is alike itself, if tasks are answered alike. -/
theorem ask (tasks : AnswersAlike answer) (task : Processor κ × Exchange) :
    Alike answer (Program.ask task) (Program.ask task) := by
  intro engine instead same
  rw [Program.runWith_ask, Program.runWith_ask]
  exact tasks task engine instead same

end Alike

/-- Code that does not look at notes is alike itself, if tasks are answered alike. -/
theorem Overlooks.alike (tasks : AnswersAlike answer) {program : Work κ η α} (overlooks : Overlooks program) :
    Alike answer program program := by
  induction program with
  | done result => exact .pure result
  | act update next later =>
    intro engine instead same
    obtain ⟨changed, goesOn⟩ := overlooks.1 engine instead same
    simp only [Program.runWith]
    cases here : update engine with
    | none =>
      cases there : update instead with
      | none => exact .none
      | some after => simp [here, there] at changed
    | some after =>
      cases there : update instead with
      | none => simp [here, there] at changed
      | some other =>
        simp only [here, there, Option.map_some, Option.some.injEq] at changed
        have later := later engine (overlooks.2 engine) after other changed
        exact goesOn ▸ later
  | call task next later =>
    intro engine instead same
    have answered := tasks task engine instead same
    simp only [Program.runWith]
    generalize answer task engine = here at answered
    generalize answer task instead = there at answered
    cases answered with
    | none => exact .none
    | some outcome same => exact later outcome (overlooks outcome) _ _ same

/-- Being alike goes on with what follows. -/
theorem goesOn_alike : Program.GoesOn answer (Alike answer) := ⟨.pure, .bind⟩

/-- Being alike, and coming to results of a kind, as a relation that goes along with patterns. -/
def alike (answer : Processor κ × Exchange → Engine κ η → Option (Outcome × Engine κ η)) :
    Simulation (Working κ η) :=
  (goesOn_alike : Program.GoesOn answer (Alike answer)).simulation

end Engine

/-- No code of an embedding program looks at the notes of steps. -/
abbrev Embedding.Overlooks {κ η : Type} (embedding : Embedding κ η) : Prop := embedding.AllCode Engine.Overlooks

namespace Engine

open Pattern

variable {κ η α : Type} {answer : Processor κ × Exchange → Engine κ η → Option (Outcome × Engine κ η)}
  {embedding : Embedding κ η}

/-- A program that is alike itself is related to itself. -/
theorem Alike.self {program : Work κ η α} (alikeItself : Alike answer program program) :
    (alike answer).Self (fun _ => True) program :=
  ⟨alikeItself, fun _ _ _ _ => trivial⟩

/-- Whatever does not depend on what was noted is read alike. -/
theorem reads_alike : Reads (alike answer) fun _ => True :=
  fun blind holds => ⟨.read blind, fun engine _ _ ran => by cases ran; exact holds engine trivial⟩

/-- Making an endpoint that is kept leaves the journal out. -/
theorem leavesJournal_makeKept (text : String) (component : Component κ) (uri : Uri) :
    LeavesJournal (makeKept embedding text component uri) := by
  intro engine journal
  unfold makeKept makeEndpoint
  dsimp only
  split
  · rfl
  · cases roleFor embedding component uri engine.embedding with
    | mk role state => cases role <;> rfl

/-- Looking for an endpoint is alike itself. -/
theorem alike_resolve (text : String) :
    Alike answer (resolve embedding text) (resolve embedding text) := by
  refine (Alike.read fun _ _ => rfl).bind (fun _ _ _ _ => trivial) fun found (_ : True) => ?_
  split
  · exact .pure _
  · split
    · exact .pure _
    · refine (Alike.read fun _ _ => rfl).bind (fun _ _ _ _ => trivial) fun component (_ : True) => ?_
      split
      · exact .pure _
      · exact .atomically (leavesJournal_makeKept text _ _)

/-- All pieces of work are alike themselves, if tasks are answered alike. -/
theorem pieces_alike (overlooks : embedding.Overlooks) (tasks : AnswersAlike answer) :
    Pieces (alike answer) embedding where
  read := reads_alike
  pass _ := (Alike.change fun _ _ => rfl).self
  remember _ _ := (Alike.change fun _ _ => rfl).self
  log _ _ _ := (Alike.note _).self
  decorates := decorates_of_noted (fun _ _ => trivial) reads_alike (fun event => (Alike.note event).self)
    fun code point info x _ => self_of_all (fun o => o.exchange.carriesOnly_of_all fun _ => trivial)
      ((overlooks.hook code point info x).alike tasks).self
  producer := self_producerFor_of_any reads_alike (fun text => (alike_resolve text).self)
    (fun _ _ => (Alike.atomically fun _ _ => rfl).self) (fun _ _ _ => (Alike.change fun _ _ => rfl).self)
  ask task := (Alike.ask tasks task).self
  blocked result := ⟨.blocked result, fun _ _ _ never => nomatch never⟩
  code := overlooks.mono fun _ overlooks => (overlooks.alike tasks).self

/-- The basis of work that is alike itself. -/
theorem basis_alike (overlooks : embedding.Overlooks) (tasks : AnswersAlike answer) :
    Basis (alike answer) anyError (fun _ => True) embedding :=
  (pieces_alike overlooks tasks).basis

/-- What a processor does is alike itself, if tasks are answered alike. -/
theorem alike_behaviour (overlooks : embedding.Overlooks) (tasks : AnswersAlike answer) (patience : Nat)
    (processor : Processor κ) (x : Exchange) :
    Alike answer (behaviour embedding patience processor x) (behaviour embedding patience processor x) :=
  ((pieces_alike overlooks tasks).self_behaviour patience processor x).1

/-- Tasks are answered alike, at every depth. -/
theorem answersAlike (overlooks : embedding.Overlooks) (fuel : Nat) :
    AnswersAlike (Program.answerWithin (carryOut embedding) fuel) := by
  induction fuel with
  | zero => exact fun _ _ _ _ => .none
  | succ fuel below => exact fun task => alike_behaviour overlooks below fuel task.1 task.2

end Engine

end MessageRouting
