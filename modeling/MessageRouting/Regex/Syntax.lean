import MessageRouting.Text.LetterCase.Fold
import MessageRouting.Text.Property

/-!
# Patterns

A pattern describes texts: a character of a set, a condition on the place between two characters, one
pattern after another, a choice, or a repetition.
-/

namespace MessageRouting.Regex

open Text

/-- A condition on a place between two characters. -/
inductive Place where
  /-- The start of the text. -/
  | textStart
  /-- The end of the text. -/
  | textEnd
  /-- The start of a line. -/
  | lineStart
  /-- The end of a line. -/
  | lineEnd
  /-- The start of a line where a return and a line feed together end a line. -/
  | returnLineStart
  /-- The end of a line where a return and a line feed together end a line. -/
  | returnLineEnd
  /-- The start, the end or either of a word; `whole` asks for a word on the one side and none on the
  other, else only one side is looked at. Words may be of ASCII characters alone. -/
  | word (start ending whole ascii : Bool)
  /-- No word starts or ends here. -/
  | noBoundary (ascii : Bool)
  deriving Repr, DecidableEq

/-- A character that belongs to a word. -/
def inWord (ascii : Bool) (c : Char) : Bool :=
  if ascii then c.isAlphanum || c == '_' else isWordCharacter c

/-- The condition holds between the characters before and after a place. -/
def Place.holds (before after : Option Char) : Place → Bool
  | .textStart => before.isNone
  | .textEnd => after.isNone
  | .lineStart => before.all (· == '\n')
  | .lineEnd => after.all (· == '\n')
  | .returnLineStart => before.all (· == '\n') || (before == some '\r' && after != some '\n')
  | .returnLineEnd => after.all (· == '\r') || (after == some '\n' && before != some '\r')
  | .word start ending whole ascii =>
    let left := before.any (inWord ascii)
    let right := after.any (inWord ascii)
    if whole then (start && !left && right) || (ending && left && !right)
    else (start && !left) || (ending && !right)
  | .noBoundary ascii => before.any (inWord ascii) == after.any (inWord ascii)

/-- A set of characters. -/
inductive CharSet where
  /-- The characters from one code point to another. -/
  | range (first last : Nat)
  /-- The characters of ascending runs. -/
  | runs (list : List Run)
  /-- The characters of either set. -/
  | union (a b : CharSet)
  /-- The characters of both sets. -/
  | both (a b : CharSet)
  /-- The characters outside the set. -/
  | outside (a : CharSet)
  /-- The characters that differ from one of the set in case only. -/
  | anyCase (a : CharSet)
  deriving Repr, DecidableEq

/-- No character. -/
def CharSet.none : CharSet := .runs []

/-- A single character. -/
def CharSet.single (c : Char) : CharSet := .range c.toNat c.toNat

/-- The characters that become the given one when case is folded. -/
def unfold (code : Nat) : List Nat :=
  LetterCase.foldShifts.filterMap fun shift =>
    let source := ((code : Int) - shift.distance).toNat
    if shift.run.holds source then some source else Option.none

/-- The code points that differ from one in case only, itself among them. -/
def caseVariants (code : Nat) : List Nat :=
  let folded := (shifted? LetterCase.foldShifts code).getD code
  folded :: unfold folded

/-- Membership of a code point. -/
def CharSet.holds : CharSet → Nat → Bool
  | .range first last, code => first ≤ code && code ≤ last
  | .runs list, code => inRuns list code
  | .union a b, code => a.holds code || b.holds code
  | .both a b, code => a.holds code && b.holds code
  | .outside a, code => !a.holds code
  | .anyCase a, code => a.holds code || (caseVariants code).any a.holds

/-- A pattern. -/
inductive Node where
  /-- The empty text. -/
  | empty
  /-- One character of a set. -/
  | one (set : CharSet)
  /-- The empty text at a place. -/
  | at (place : Place)
  /-- One pattern after another. -/
  | seq (a b : Node)
  /-- Either of two patterns. -/
  | alt (a b : Node)
  /-- A pattern repeated at least `least` times and at most `most` times, without end if that is
  missing. -/
  | repeat (a : Node) (least : Nat) (most : Option Nat)
  deriving Repr, DecidableEq

end MessageRouting.Regex
