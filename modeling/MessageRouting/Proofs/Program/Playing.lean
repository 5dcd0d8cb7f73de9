import MessageRouting.Proofs.Program.Passing
import MessageRouting.Proofs.Program.Runs

/-!
# Programs among others

Between any two sections of a program, and while it waits for an answer, others may change the state within a relation.
A program plays to an end among them if it comes there for some changes and some answers. Whatever happens while
programs run side by side, each one that comes to its end has played to it, if all others stay within the relation.
-/

namespace MessageRouting

variable {σ τ ρ α β : Type}

namespace Program

/-- Among others that change the state within a relation, the program can come from a state to an end, with a result and
a state. -/
def Plays (others : σ → σ → Prop) : Program σ τ ρ α → σ → α → σ → Prop
  | done result, s, final, t => final = result ∧ others s t
  | act update next, s, final, t =>
    ∃ met left, others s met ∧ update met = some left ∧ (next met).Plays others left final t
  | call _ next, s, final, t => ∃ answer met, others s met ∧ (next answer).Plays others met final t

variable {others : σ → σ → Prop} {s t u : σ}

/-- Others may change the state before a program begins. -/
theorem Plays.before (time : OverTime others) {program : Program σ τ ρ α} {final : α} (changed : others s t)
    (plays : program.Plays others t final u) : program.Plays others s final u := by
  cases program with
  | done result => exact ⟨plays.1, time.trans changed plays.2⟩
  | act update next =>
    obtain ⟨met, left, between, took, later⟩ := plays
    exact ⟨met, left, time.trans changed between, took, later⟩
  | call task next =>
    obtain ⟨answer, met, between, later⟩ := plays
    exact ⟨answer, met, time.trans changed between, later⟩

/-- Others may change the state after a program has come to its end. -/
theorem Plays.after (time : OverTime others) {program : Program σ τ ρ α} {final : α}
    (plays : program.Plays others s final t) (changed : others t u) : program.Plays others s final u := by
  induction program generalizing s with
  | done result => exact ⟨plays.1, time.trans plays.2 changed⟩
  | act update next ih =>
    obtain ⟨met, left, between, took, later⟩ := plays
    exact ⟨met, left, between, took, ih met later⟩
  | call task next ih =>
    obtain ⟨answer, met, between, later⟩ := plays
    exact ⟨answer, met, between, ih answer later⟩

/-! ## Laws -/

/-- An end is played to if others change nothing but what they may. -/
@[simp] theorem plays_pure {result final : α} :
    (pure result : Program σ τ ρ α).Plays others s final t ↔ final = result ∧ others s t := Iff.rfl

/-- What goes on with a program plays on from where that has come to. -/
theorem plays_bind (time : OverTime others) {program : Program σ τ ρ α} {next : α → Program σ τ ρ β} {final : β} :
    (program >>= next).Plays others s final t ↔
      ∃ middle u, program.Plays others s middle u ∧ (next middle).Plays others u final t := by
  change (program.bind next).Plays others s final t ↔ _
  induction program generalizing s with
  | done result =>
    constructor
    · exact fun plays => ⟨result, s, ⟨rfl, time.refl s⟩, plays⟩
    · rintro ⟨middle, u, ⟨rfl, changed⟩, plays⟩
      exact plays.before time changed
  | act update rest ih =>
    constructor
    · rintro ⟨met, left, between, took, plays⟩
      obtain ⟨middle, u, first, later⟩ := (ih met).1 plays
      exact ⟨middle, u, ⟨met, left, between, took, first⟩, later⟩
    · rintro ⟨middle, u, ⟨met, left, between, took, first⟩, later⟩
      exact ⟨met, left, between, took, (ih met).2 ⟨middle, u, first, later⟩⟩
  | call task rest ih =>
    constructor
    · rintro ⟨answer, met, between, plays⟩
      obtain ⟨middle, u, first, later⟩ := (ih answer).1 plays
      exact ⟨middle, u, ⟨answer, met, between, first⟩, later⟩
    · rintro ⟨middle, u, ⟨answer, met, between, first⟩, later⟩
      exact ⟨answer, met, between, (ih answer).2 ⟨middle, u, first, later⟩⟩

/-- A section that may block takes place in a state that others have led to. -/
theorem plays_tryAtomically {f : σ → Option (α × σ)} {absent final : α} :
    (tryAtomically f absent : Program σ τ ρ α).Plays others s final t ↔
      ∃ met left, others s met ∧ f met = some (final, left) ∧ others left t := by
  constructor
  · rintro ⟨met, left, between, took, rfl, later⟩
    obtain ⟨⟨result, after⟩, found, rfl⟩ := Option.map_eq_some_iff.1 took
    exact ⟨met, after, between, by rw [found]; rfl, later⟩
  · rintro ⟨met, left, between, found, later⟩
    exact ⟨met, left, between, congrArg (Option.map Prod.snd) found,
      congrArg (fun entry => entry.elim absent Prod.fst) found.symm, later⟩

/-- A section takes place in a state that others have led to. -/
theorem plays_atomically {f : σ → α × σ} {final : α} :
    (atomically f : Program σ τ ρ α).Plays others s final t ↔
      ∃ met, others s met ∧ final = (f met).1 ∧ others (f met).2 t := by
  constructor
  · rintro ⟨met, left, between, took, same, later⟩
    cases took
    exact ⟨met, between, same, later⟩
  · rintro ⟨met, between, same, later⟩
    exact ⟨met, _, between, rfl, same, later⟩

/-- A change takes place in a state that others have led to. -/
theorem plays_change {f : σ → σ} {final : Unit} :
    (change f : Program σ τ ρ Unit).Plays others s final t ↔ ∃ met, others s met ∧ others (f met) t := by
  constructor
  · rintro ⟨met, left, between, took, same, later⟩
    cases took
    exact ⟨met, between, later⟩
  · rintro ⟨met, between, later⟩
    exact ⟨met, _, between, rfl, rfl, later⟩

/-- A program whose sections stay within the relation stays within it with all others. -/
theorem Sections.plays (time : OverTime others) {program : Program σ τ ρ α} (sections : program.Sections others)
    {final : α} (plays : program.Plays others s final t) : others s t := by
  induction program generalizing s with
  | done result => exact plays.2
  | act update next ih =>
    obtain ⟨met, left, between, took, later⟩ := plays
    exact time.trans between (time.trans (sections.1 met left took) (ih met (sections.2 met) later))
  | call task next ih =>
    obtain ⟨answer, met, between, later⟩ := plays
    exact time.trans between (ih answer (sections answer) later)

end Program

/-! ## Side by side -/

namespace Interleaving

variable {others : σ → σ → Prop} {first now : Interleaving σ τ ρ α} {sections : List (Passage σ)}

/-- A program stands somewhere while all others stay within a relation. -/
structure Among (others : σ → σ → Prop) (now : Interleaving σ τ ρ α) (n : Nat) (program : Program σ τ ρ α) : Prop where
  /-- It stands before what is left of it. -/
  own : now.programs[n]? = some program
  /-- The sections of all others stay within the relation. -/
  beside : ∀ m other, m ≠ n → now.programs[m]? = some other → other.Sections others

/-- When another program goes on, the program stands where it did. -/
theorem Among.besideSet {n m : Nat} {program other : Program σ τ ρ α} (among : Among others now n program)
    (apart : m ≠ n) (fits : other.Sections others) (state : σ) (past : List (Nat × σ)) :
    Among others ⟨state, now.programs.set m other, past⟩ n program where
  own := (List.getElem?_set_ne apart).trans among.own
  beside k program different found := by
    rcases getElem?_of_set found with ⟨rfl, rfl⟩ | ⟨-, before⟩
    · exact fits
    · exact among.beside k program different before

/-- When the program goes on, it stands before what is left then. -/
theorem Among.ownSet {n : Nat} {program left : Program σ τ ρ α} (among : Among others now n program) (state : σ)
    (past : List (Nat × σ)) : Among others ⟨state, now.programs.set n left, past⟩ n left where
  own := List.getElem?_set_self (List.getElem?_eq_some_iff.1 among.own).1
  beside k program different found := by
    rcases getElem?_of_set found with ⟨same, -⟩ | ⟨-, before⟩
    · exact absurd same.symm different
    · exact among.beside k program different before

/-- When another program begins, the program stands where it did. -/
theorem Among.began {n : Nat} {program other : Program σ τ ρ α} (among : Among others now n program)
    (fits : other.Sections others) : Among others { now with programs := now.programs ++ [other] } n program where
  own := (List.getElem?_append_left (List.getElem?_eq_some_iff.1 among.own).1).trans among.own
  beside k program different found := by
    rcases getElem?_of_concat found with ⟨-, rfl⟩ | ⟨-, before⟩
    · exact fits
    · exact among.beside k program different before

/-- Whatever plays from where the program has come to plays from where it began. -/
theorem Among.runs (time : OverTime others) {n : Nat} {program : Program σ τ ρ α}
    (among : Among others first n program)
    (run : Runs (fun program => program.Sections others) others first sections now) :
    ∃ left, Among others now n left ∧
      ∀ final t, left.Plays others now.state final t → program.Plays others first.state final t := by
  induction run with
  | none => exact ⟨program, among, fun _ _ plays => plays⟩
  | @acted _ now m update next after _ turn took ih =>
    obtain ⟨left, among, plays⟩ := ih
    by_cases own : m = n
    · subst own
      obtain rfl : left = .act update next := Option.some.inj (among.own.symm.trans turn)
      exact ⟨next now.state, among.ownSet _ _, fun final t later =>
        plays final t ⟨now.state, after, time.refl _, took, later⟩⟩
    · obtain ⟨stays, rest⟩ := among.beside m _ own turn
      exact ⟨left, among.besideSet own (rest now.state) _ _, fun final t later =>
        plays final t (later.before time (stays _ _ took))⟩
  | @aside _ now later _ next quiet ih =>
    obtain ⟨left, among, plays⟩ := ih
    cases next with
    | began fits => exact ⟨left, among.began fits, plays⟩
    | acted => exact absurd quiet (List.cons_ne_self _ _)
    | @answered m task next turn answer =>
      by_cases own : m = n
      · subst own
        obtain rfl : left = .call task next := Option.some.inj (among.own.symm.trans turn)
        exact ⟨next answer, among.ownSet _ _, fun final t later => plays final t ⟨answer, _, time.refl _, later⟩⟩
      · exact ⟨left, among.besideSet own (among.beside m _ own turn answer) _ _, plays⟩
    | changed holds =>
      exact ⟨left, ⟨among.own, among.beside⟩, fun final t later => plays final t (later.before time holds)⟩

/-- A program that has come to its end beside others has played to it among them. -/
theorem Among.plays (time : OverTime others) {n : Nat} {program : Program σ τ ρ α}
    (among : Among others first n program)
    (run : Runs (fun program => program.Sections others) others first sections now) {result : α}
    (ended : now.programs[n]? = some (.done result)) : program.Plays others first.state result now.state := by
  obtain ⟨left, among, plays⟩ := among.runs time run
  obtain rfl : left = .done result := Option.some.inj (among.own.symm.trans ended)
  exact plays result now.state ⟨rfl, time.refl _⟩

end Interleaving

namespace Program

variable {others : σ → σ → Prop} {s t : σ}

/-- A program that began in a state has come to its end, with a result and in a state, while the sections of all
programs beside it and all else stayed within a relation. -/
def EndsAmong (others : σ → σ → Prop) (program : Program σ τ ρ α) (s : σ) (result : α) (t : σ) : Prop :=
  ∃ sections now, Interleaving.Runs (fun beside => beside.Sections others) others ⟨s, [program], []⟩ sections now ∧
    now.programs[0]? = some (.done result) ∧ now.state = t

/-- A program that has come to its end among others has played to it. -/
theorem EndsAmong.plays (time : OverTime others) {program : Program σ τ ρ α} {result : α}
    (ends : program.EndsAmong others s result t) : program.Plays others s result t := by
  obtain ⟨sections, now, run, ended, rfl⟩ := ends
  have among : Interleaving.Among others ⟨s, [program], []⟩ 0 program := by
    refine ⟨rfl, fun m other apart found => ?_⟩
    cases m with
    | zero => exact absurd rfl apart
    | succ m => contradiction
  exact among.plays time run ended

/-- A program that runs alone has come to its end among others, if its tasks do nothing that others may not do. -/
theorem endsAmong_of_runWith {answer : τ → σ → Option (ρ × σ)} {program : Program σ τ ρ α} {result : α}
    (within : ∀ task s r t, answer task s = some (r, t) → others s t)
    (ran : program.runWith answer s = some (result, t)) : program.EndsAmong others s result t := by
  suffices goesOn : ∀ first sections past,
      Interleaving.Runs (fun beside => beside.Sections others) others first sections ⟨s, [program], past⟩ →
        ∃ sections now, Interleaving.Runs (fun beside => beside.Sections others) others first sections now ∧
          now.programs[0]? = some (.done result) ∧ now.state = t from goesOn _ _ _ .none
  intro first
  induction program generalizing s with
  | done last =>
    intro sections past run
    obtain ⟨rfl, rfl⟩ := Prod.mk.inj (Option.some.inj ran)
    exact ⟨sections, _, run, rfl, rfl⟩
  | act update next ih =>
    intro sections past run
    simp only [runWith] at ran
    cases took : update s with
    | none => simp [took] at ran
    | some left =>
      rw [took] at ran
      have turn : [act update next][0]? = some (act update next) := rfl
      exact ih s ran _ _ (run.acted turn took)
  | call task next ih =>
    intro sections past run
    simp only [runWith] at ran
    cases answered : answer task s with
    | none => simp [answered] at ran
    | some ended =>
      obtain ⟨reply, left⟩ := ended
      rw [answered] at ran
      have turn : [call task next][0]? = some (call task next) := rfl
      have replied := run.aside (.answered turn reply) rfl
      exact ih reply ran _ _ (replied.aside (.changed (within task s reply left answered)) rfl)

end Program

end MessageRouting
