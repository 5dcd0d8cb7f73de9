import MessageRouting.Regex.Syntax

/-!
# Matching

A text is read once from the left, with the list of what may still have to follow. The rests of a pattern
after one character are its partial derivatives; there are only finitely many, and equal ones are kept
once.
-/

namespace MessageRouting.Regex

/-- The pattern matches the empty text at a place. -/
def Node.matchesEmpty (before after : Option Char) : Node → Bool
  | .empty => true
  | .one _ => false
  | .at place => place.holds before after
  | .seq a b => a.matchesEmpty before after && b.matchesEmpty before after
  | .alt a b => a.matchesEmpty before after || b.matchesEmpty before after
  | .repeat a least _ => least == 0 || a.matchesEmpty before after

/-- One pattern after another, without needless empty patterns. -/
def Node.andThen : Node → Node → Node
  | .empty, b => b
  | a, .empty => a
  | a, b => .seq a b

/-- A pattern with one repetition less to come. -/
def Node.remaining (a : Node) (least : Nat) (most : Option Nat) : Node :=
  if most == some 1 then .empty else .repeat a (least - 1) (most.map (· - 1))

/-- What may follow a character that stands after `before`, so that both together match. -/
def Node.after (before : Option Char) (c : Char) : Node → List Node
  | .empty => []
  | .one set => if set.holds c.toNat then [.empty] else []
  | .at _ => []
  | .seq a b =>
    (a.after before c).map (·.andThen b) ++
      (if a.matchesEmpty before (some c) then b.after before c else [])
  | .alt a b => a.after before c ++ b.after before c
  | .repeat a least most =>
    if most == some 0 then [] else (a.after before c).map (·.andThen (a.remaining least most))

/-- Each item of a list once. -/
def distinct {α : Type} [DecidableEq α] : List α → List α
  | [] => []
  | a :: rest => if a ∈ rest then distinct rest else a :: distinct rest

/-- Some part of the rest of a text is matched, by the pattern itself or by what is still open. -/
def Node.occursAfter (pattern : Node) : Option Char → List Node → List Char → Bool
  | before, opened, [] => (pattern :: opened).any (·.matchesEmpty before none)
  | before, opened, c :: rest =>
    let live := pattern :: opened
    live.any (·.matchesEmpty before (some c)) ||
      pattern.occursAfter (some c) (distinct (live.flatMap (·.after before c))) rest

/-- Some part of a text is matched. -/
def Node.occursIn (pattern : Node) (text : String) : Bool := pattern.occursAfter none [] text.toList

end MessageRouting.Regex
