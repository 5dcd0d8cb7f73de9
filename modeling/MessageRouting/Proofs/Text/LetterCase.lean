import Mathlib.Data.List.Basic
import MessageRouting.Text.LetterCase

/-!
# Lowercase inside other texts

A text is lowercased one character after the other, and only the form of a capital sigma depends on what is around it:
it is the final one between a letter and something else, with marks and the like passed over. So a text is lowercased
inside another one as it is alone, if its own characters decide the form of each of its sigmas. If they do not, the text
becomes another one next to a letter, and is not found there any more: a sigma has changed its form, and none has changed
it in the other direction.
-/

namespace MessageRouting.Text

/-! ## Neighbours -/

/-- The first of the neighbours of a letter that is not passed over. -/
def nearest? (neighbours : List Char) : Option Char := (neighbours.dropWhile isCaseIgnorable).head?

/-- What is next to the neighbours counts if all of them are passed over. -/
theorem nearest?_append (neighbours beyond : List Char) :
    nearest? (neighbours ++ beyond) = (nearest? neighbours).or (nearest? beyond) := by
  unfold nearest?
  rw [List.dropWhile_append]
  cases neighbours.dropWhile isCaseIgnorable <;> rfl

/-- Whether a letter is met is told by the first neighbour that is not passed over. -/
theorem meetsCased_eq (neighbours : List Char) : meetsCased neighbours = (nearest? neighbours).any isCased := by
  unfold meetsCased nearest?
  cases neighbours.dropWhile isCaseIgnorable <;> rfl

/-- A letter of the alphabet is not passed over. -/
theorem nearest?_letter : nearest? ['A'] = some 'A' := by decide +kernel

theorem isCased_letter : isCased 'A' = true := by decide +kernel

/-! ## Forms of the sigma -/

/-- A sigma between such neighbours is a final one. -/
def isFinal (before rest : List Char) : Bool := meetsCased before && !meetsCased rest

/-- The small letter for a capital sigma. -/
def smallSigma (final : Bool) : List Char := if final then ['ς'] else ['σ']

/-- The form of a sigma is decided by these neighbours, whatever comes beyond them: no letter comes before it, or one
comes after it, or it is known what comes on both sides. -/
def Settled (before rest : List Char) : Prop :=
  (nearest? before).any (!isCased ·) = true ∨ (nearest? rest).any isCased = true ∨
    (nearest? before).isSome = true ∧ (nearest? rest).isSome = true

instance (before rest : List Char) : Decidable (Settled before rest) := inferInstanceAs (Decidable (_ ∨ _ ∨ _ ∧ _))

/-- A form that is decided stays the same among further neighbours. -/
theorem isFinal_append_of_settled {before rest : List Char} (settled : Settled before rest)
    (earlier later : List Char) :
    isFinal (before ++ earlier) (rest ++ later) = isFinal before rest := by
  unfold Settled at settled
  simp only [isFinal, meetsCased_eq, nearest?_append]
  generalize nearest? before = near at settled ⊢
  generalize nearest? rest = next at settled ⊢
  cases near <;> cases next <;> simp_all

/-- A form that is not decided would be another one after a letter, or before one. -/
theorem isFinal_of_not_settled {before rest : List Char} (unsettled : ¬Settled before rest) :
    isFinal before rest = false ∧ isFinal (before ++ ['A']) rest = true ∨
      isFinal before rest = true ∧ isFinal before (rest ++ ['A']) = false := by
  unfold Settled at unsettled
  simp only [isFinal, meetsCased_eq, nearest?_append, nearest?_letter]
  generalize nearest? before = near at unsettled ⊢
  generalize nearest? rest = next at unsettled ⊢
  cases near <;> cases next <;> simp_all [isCased_letter]

/-- After a letter, a sigma is final if it is without it. -/
theorem isFinal_after_letter {before rest : List Char} (final : isFinal before rest = true) :
    isFinal (before ++ ['A']) rest = true := by
  simp only [isFinal, meetsCased_eq, nearest?_append, nearest?_letter] at final ⊢
  generalize nearest? before = near at final ⊢
  cases near <;> simp_all

/-- Before a letter, a sigma is final only if it is without it. -/
theorem isFinal_before_letter {before rest : List Char} (final : isFinal before (rest ++ ['A']) = true) :
    isFinal before rest = true := by
  simp only [isFinal, meetsCased_eq, nearest?_append, nearest?_letter] at final ⊢
  generalize nearest? rest = next at final ⊢
  cases next <;> simp_all [isCased_letter]

/-! ## Texts between others -/

/-- What a character becomes between its neighbours. -/
def lowerHere (before : List Char) (c : Char) (rest : List Char) : List Char :=
  if c == 'Σ' then smallSigma (isFinal before rest) else lowerOf c

/-- Lowercases a text between others, given the characters before it, nearest first. -/
def lowerBetween : List Char → List Char → List Char → List Char
  | _, [], _ => []
  | before, c :: rest, after => lowerHere before c (rest ++ after) ++ lowerBetween (c :: before) rest after

/-- Of two texts that are lowercased together, each is lowercased beside the other one. -/
theorem lowerAfter_append (before text after : List Char) :
    lowerAfter before (text ++ after) =
      lowerBetween before text after ++ lowerAfter (text.reverse ++ before) after := by
  induction text generalizing before with
  | nil => rfl
  | cons c rest ih =>
    have first : lowerAfter before (c :: rest ++ after) =
        lowerHere before c (rest ++ after) ++ lowerAfter (c :: before) (rest ++ after) := rfl
    rw [first, ih, lowerBetween, List.append_assoc, List.reverse_cons, List.append_assoc, List.singleton_append]

/-- A text alone has nothing after it. -/
theorem lowerAfter_eq (before text : List Char) : lowerAfter before text = lowerBetween before text [] := by
  have whole := lowerAfter_append before text []
  rwa [List.append_nil, lowerAfter, List.append_nil] at whole

/-- The characters of a text decide the form of each of its sigmas. -/
def SigmasSettled (text : List Char) : Prop :=
  ∀ before rest, text = before ++ 'Σ' :: rest → Settled before.reverse rest

/-- What is decided for each sigma of a text is the same in other surroundings. -/
theorem lowerBetween_eq_of_settled {before : List Char} (text earlier later : List Char)
    (settled : ∀ first rest, text = first ++ 'Σ' :: rest → Settled (first.reverse ++ before) rest) :
    lowerBetween (before ++ earlier) text later = lowerBetween before text [] := by
  induction text generalizing before with
  | nil => rfl
  | cons c rest ih =>
    have others : lowerBetween (c :: before ++ earlier) rest later = lowerBetween (c :: before) rest [] := by
      refine ih fun first more split => ?_
      have moved := settled (c :: first) more (by rw [split, List.cons_append])
      rwa [List.reverse_cons, List.append_assoc, List.singleton_append] at moved
    have here : lowerHere (before ++ earlier) c (rest ++ later) = lowerHere before c rest := by
      unfold lowerHere
      split
      · rename_i sigma
        obtain rfl := eq_of_beq sigma
        have decided : Settled before rest := settled [] rest rfl
        rw [isFinal_append_of_settled decided]
      · rfl
    rw [lowerBetween, lowerBetween, here, List.append_nil]
    exact congrArg (lowerHere before c rest ++ ·) others

/-- A text whose sigmas are settled is found in lowercase wherever it was found. -/
theorem lowerAfter_infix_of_settled {text message : List Char} (settled : SigmasSettled text)
    (found : text <:+: message) : lowerAfter [] text <:+: lowerAfter [] message := by
  obtain ⟨earlier, later, rfl⟩ := found
  have same : lowerBetween ([] ++ earlier.reverse) text later = lowerAfter [] text := by
    rw [lowerAfter_eq]
    refine lowerBetween_eq_of_settled text earlier.reverse later fun first rest split => ?_
    rw [List.append_nil]
    exact settled first rest split
  rw [List.nil_append] at same
  rw [List.append_assoc, lowerAfter_append, lowerAfter_append, List.append_nil, same, ← List.append_assoc]
  exact List.infix_append ..

/-! ## Texts that are lost -/

section

variable {letter : Char} {earlier later : List Char}

/-- Between further neighbours no sigma becomes a letter that it was not before. -/
def NoMore (letter : Char) (earlier later : List Char) : Prop :=
  ∀ before rest, (smallSigma (isFinal (before ++ earlier) (rest ++ later))).count letter ≤
    (smallSigma (isFinal before rest)).count letter

/-- Then no character becomes it. -/
theorem NoMore.lowerHere (none : NoMore letter earlier later) (before : List Char) (c : Char) (rest : List Char) :
    (Text.lowerHere (before ++ earlier) c (rest ++ later)).count letter ≤
      (Text.lowerHere before c rest).count letter := by
  unfold Text.lowerHere
  split
  · exact none before rest
  · exact Nat.le_refl _

/-- Then a text has that letter as often at most. -/
theorem NoMore.lowerBetween (none : NoMore letter earlier later) (before text : List Char) :
    (Text.lowerBetween (before ++ earlier) text later).count letter ≤
      (Text.lowerBetween before text []).count letter := by
  induction text generalizing before with
  | nil => exact Nat.le_refl _
  | cons c rest ih =>
    rw [Text.lowerBetween, Text.lowerBetween, List.count_append, List.count_append, List.append_nil]
    exact Nat.add_le_add (none.lowerHere before c rest) (ih (c :: before))

/-- If, besides, one of its sigmas is that letter no more, the text has it less often. -/
theorem NoMore.lowerBetween_lt (none : NoMore letter earlier later) (before first rest : List Char)
    (less : (smallSigma (isFinal (first.reverse ++ before ++ earlier) (rest ++ later))).count letter <
      (smallSigma (isFinal (first.reverse ++ before) rest)).count letter) :
    (Text.lowerBetween (before ++ earlier) (first ++ 'Σ' :: rest) later).count letter <
      (Text.lowerBetween before (first ++ 'Σ' :: rest) []).count letter := by
  induction first generalizing before with
  | nil =>
    rw [List.nil_append, Text.lowerBetween, Text.lowerBetween, List.count_append, List.count_append, List.append_nil]
    exact Nat.add_lt_add_of_lt_of_le less (none.lowerBetween ('Σ' :: before) rest)
  | cons c more ih =>
    have moved : (c :: more).reverse ++ before = more.reverse ++ (c :: before) := by
      rw [List.reverse_cons, List.append_assoc, List.singleton_append]
    rw [moved] at less
    rw [List.cons_append, Text.lowerBetween, Text.lowerBetween, List.count_append, List.count_append, List.append_nil]
    exact Nat.add_lt_add_of_le_of_lt (none.lowerHere before c (more ++ 'Σ' :: rest)) (ih (c :: before) less)

end

/-- What has a letter more often is not found. -/
theorem not_infix_of_count_lt {text message : List Char} (letter : Char)
    (less : message.count letter < text.count letter) : ¬text <:+: message :=
  fun found => Nat.not_le_of_lt less (found.sublist.count_le letter)

/-- A text with a sigma that is not settled is lost in lowercase, after a letter or before one. -/
theorem exists_lost_of_not_settled {text : List Char} (unsettled : ¬SigmasSettled text) :
    ∃ message, text <:+: message ∧ ¬lowerAfter [] text <:+: lowerAfter [] message := by
  unfold SigmasSettled at unsettled
  push Not at unsettled
  obtain ⟨first, rest, rfl, unsettled⟩ := unsettled
  have alone : lowerAfter [] (first ++ 'Σ' :: rest) = lowerBetween [] (first ++ 'Σ' :: rest) [] := lowerAfter_eq ..
  rcases isFinal_of_not_settled unsettled with ⟨medial, final⟩ | ⟨final, medial⟩
  · -- After a letter the sigma becomes a final one, and no final one becomes another.
    refine ⟨'A' :: (first ++ 'Σ' :: rest), (List.suffix_cons ..).isInfix, not_infix_of_count_lt 'σ' ?_⟩
    have none : NoMore 'σ' ['A'] [] := by
      intro before rest
      rw [List.append_nil]
      cases known : isFinal before rest with
      | true => exact Nat.le_of_eq (by rw [isFinal_after_letter known])
      | false => cases isFinal (before ++ ['A']) rest <;> decide
    have joined : lowerAfter [] ('A' :: (first ++ 'Σ' :: rest)) =
        ['a'] ++ lowerBetween ([] ++ ['A']) (first ++ 'Σ' :: rest) [] := by
      rw [← List.singleton_append, lowerAfter_append, lowerAfter_eq]
      rfl
    rw [joined, List.count_append, alone, show ['a'].count 'σ' = 0 from rfl, Nat.zero_add]
    refine none.lowerBetween_lt [] first rest ?_
    rw [List.append_nil, List.append_nil, medial, final]
    decide
  · -- Before a letter the sigma is no final one any more, and no other one becomes final.
    refine ⟨first ++ 'Σ' :: rest ++ ['A'], (List.prefix_append ..).isInfix, not_infix_of_count_lt 'ς' ?_⟩
    have none : NoMore 'ς' [] ['A'] := by
      intro before rest
      rw [List.append_nil]
      cases known : isFinal before (rest ++ ['A']) with
      | true => exact Nat.le_of_eq (by rw [isFinal_before_letter known])
      | false => exact Nat.zero_le _
    have joined : lowerAfter [] (first ++ 'Σ' :: rest ++ ['A']) =
        lowerBetween ([] ++ []) (first ++ 'Σ' :: rest) ['A'] ++ ['a'] := by
      rw [lowerAfter_append]
      rfl
    rw [joined, List.count_append, alone, show ['a'].count 'ς' = 0 from rfl, Nat.add_zero]
    refine none.lowerBetween_lt [] first rest ?_
    rw [List.append_nil, List.append_nil, medial, final]
    decide

end MessageRouting.Text
