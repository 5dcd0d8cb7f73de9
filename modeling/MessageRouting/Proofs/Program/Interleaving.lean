import MessageRouting.Program

/-!
# Programs that run side by side

Programs that work on one state take turns: at any time one of them goes through its next section, wherever it stands,
so the sections of one program may fall between any two sections of another one. What took place is remembered, section
by section, with the states that were met.
-/

namespace MessageRouting

variable {σ τ ρ α : Type}

/-- After an item of a list was replaced, the item of some place is the new one, or it is that of before in another
place. -/
theorem getElem?_of_set {items : List α} {n m : Nat} {item other : α} (found : (items.set n item)[m]? = some other) :
    (n = m ∧ item = other) ∨ (n ≠ m ∧ items[m]? = some other) := by
  by_cases same : n = m
  · subst same
    have inside : n < items.length := by
      rw [← List.length_set]
      exact (List.getElem?_eq_some_iff.mp found).1
    rw [List.getElem?_set_self inside] at found
    exact .inl ⟨rfl, Option.some.inj found⟩
  · rw [List.getElem?_set_ne same] at found
    exact .inr ⟨same, found⟩

/-- After one more item was added to a list, the item of some place is that of before or the new one in the last
place. -/
theorem getElem?_of_concat {items : List α} {m : Nat} {item other : α}
    (found : (items ++ [item])[m]? = some other) :
    (items.length = m ∧ item = other) ∨ (items.length ≠ m ∧ items[m]? = some other) := by
  by_cases last : items.length = m
  · subst last
    rw [List.getElem?_concat_length] at found
    exact .inl ⟨rfl, Option.some.inj found⟩
  · have bound := (List.getElem?_eq_some_iff.mp found).1
    rw [List.length_append, List.length_singleton] at bound
    rw [List.getElem?_append_left (by omega)] at found
    exact .inr ⟨last, found⟩

/-- Programs that run side by side, at some moment. -/
structure Interleaving (σ τ ρ α : Type) where
  /-- The state that they share. -/
  state : σ
  /-- What is left of each program, in the order in which they began. -/
  programs : List (Program σ τ ρ α)
  /-- The sections that took place, the latest first: of which program each was, and which state it met. -/
  past : List (Nat × σ)

namespace Interleaving

/-- Something happens: a program that is admitted begins, one goes through a section or gets an answer, or something
else changes the state in a way that is open to it. -/
inductive Step (admitted : Program σ τ ρ α → Prop) (others : σ → σ → Prop) :
    Interleaving σ τ ρ α → Interleaving σ τ ρ α → Prop
  /-- A program begins. -/
  | began (now : Interleaving σ τ ρ α) {program : Program σ τ ρ α} (fits : admitted program) :
    Step admitted others now { now with programs := now.programs ++ [program] }
  /-- A program goes through a section. -/
  | acted {now : Interleaving σ τ ρ α} {n : Nat} {update : σ → Option σ} {next : σ → Program σ τ ρ α} {after : σ}
    (turn : now.programs[n]? = some (.act update next)) (took : update now.state = some after) :
    Step admitted others now ⟨after, now.programs.set n (next now.state), (n, now.state) :: now.past⟩
  /-- A program gets an answer. -/
  | answered {now : Interleaving σ τ ρ α} {n : Nat} {task : τ} {next : ρ → Program σ τ ρ α}
    (turn : now.programs[n]? = some (.call task next)) (answer : ρ) :
    Step admitted others now { now with programs := now.programs.set n (next answer) }
  /-- Something else changes the state. -/
  | changed {now : Interleaving σ τ ρ α} {after : σ} (holds : others now.state after) :
    Step admitted others now { now with state := after }

/-- From a state on, things may happen that lead to the moment. -/
inductive Reaches (admitted : Program σ τ ρ α → Prop) (others : σ → σ → Prop) (start : σ) :
    Interleaving σ τ ρ α → Prop
  /-- Nothing has happened yet. -/
  | start : Reaches admitted others start ⟨start, [], []⟩
  /-- Something more happens. -/
  | step {now later : Interleaving σ τ ρ α} (before : Reaches admitted others start now)
    (next : Step admitted others now later) : Reaches admitted others start later

/-- No program is in progress. -/
def Ended (now : Interleaving σ τ ρ α) : Prop := ∀ program ∈ now.programs, ∃ result, program = .done result

/-- It is the turn of a program: it goes through its next section, if it stands before one that can take place. -/
def takeTurn (now : Interleaving σ τ ρ α) (n : Nat) : Option (Interleaving σ τ ρ α) :=
  match now.programs[n]? with
  | some (.act update next) =>
    (update now.state).map fun after => ⟨after, now.programs.set n (next now.state), (n, now.state) :: now.past⟩
  | _ => none

/-- The state that a program met in its latest section. -/
def lastMet (now : Interleaving σ τ ρ α) (n : Nat) : Option σ :=
  (now.past.find? fun entry => entry.1 == n).map Prod.snd

/-- A program went through two sections, one after the other; what fell between them were sections of other ones. -/
def InARow (past : List (Nat × σ)) (first second : σ) : Prop :=
  ∃ n later between before, past = later ++ (n, second) :: (between ++ (n, first) :: before) ∧
    ∀ entry ∈ between, entry.1 ≠ n

variable {admitted : Program σ τ ρ α → Prop} {others : σ → σ → Prop} {start : σ}

/-- After a section of a program, that is its latest one, and others have theirs as before. -/
theorem lastMet_cons (state : σ) (programs : List (Program σ τ ρ α)) (n m : Nat) (met : σ) (past : List (Nat × σ)) :
    lastMet ⟨state, programs, (n, met) :: past⟩ m =
      if n = m then some met else (past.find? fun entry => entry.1 == m).map Prod.snd := by
  unfold lastMet
  by_cases same : n = m
  · rw [if_pos same, List.find?_cons_of_pos (by simpa using same)]
    rfl
  · rw [if_neg same, List.find?_cons_of_neg (by simpa using same)]

/-- Sections in a row stay so when more takes place. -/
theorem InARow.cons {past : List (Nat × σ)} {first second : σ} (row : InARow past first second) (entry : Nat × σ) :
    InARow (entry :: past) first second := by
  obtain ⟨n, later, between, before, rfl, others⟩ := row
  exact ⟨n, entry :: later, between, before, rfl, others⟩

/-- The latest section of a program and the one that it goes through now are in a row. -/
theorem inARow_of_lastMet {now : Interleaving σ τ ρ α} {n : Nat} {met : σ} (last : now.lastMet n = some met) :
    InARow ((n, now.state) :: now.past) met now.state := by
  unfold lastMet at last
  obtain ⟨⟨m, state⟩, found, rfl⟩ := Option.map_eq_some_iff.mp last
  obtain ⟨own, between, before, split, others⟩ := List.find?_eq_some_iff_append.mp found
  have same : m = n := by simpa using own
  refine ⟨n, [], between, before, ?_, fun entry member => ?_⟩
  · rw [split, same]
    rfl
  · simpa using others entry member

end Interleaving

end MessageRouting
