import MessageRouting.Text.Property
import MessageRouting.Text.LetterCase.Upper
import MessageRouting.Text.LetterCase.Lower

/-!
# Upper and lower case of texts

A character may become several, and a capital sigma becomes a final sigma at the end of a word; so case
is a function on texts and does not respect their parts.
-/

namespace MessageRouting.Text

open LetterCase

/-- A character with the given code point. -/
def ofCode (code : Nat) : Char := Char.ofNat code

/-- The characters that a table of shifts and expansions gives for one character. -/
def mapped (shifts : List Shift) (expansions : List (Nat × List Nat)) (c : Char) : List Char :=
  match shifted? shifts c.toNat with
  | some code => [ofCode code]
  | none =>
    match expansions.lookup c.toNat with
    | some codes => codes.map ofCode
    | none => [c]

/-- The uppercase of a character. -/
def upperOf (c : Char) : List Char := mapped upperShifts upperExpansions c

/-- The lowercase of a character taken by itself. -/
def lowerOf (c : Char) : List Char := mapped lowerShifts lowerExpansions c

/-- Among the characters next to a letter, the first that is not passed over has case. -/
def meetsCased (neighbours : List Char) : Bool :=
  match neighbours.dropWhile isCaseIgnorable with
  | [] => false
  | c :: _ => isCased c

/-- Lowercases the rest of a text, given the characters before it, nearest first. -/
def lowerAfter : List Char → List Char → List Char
  | _, [] => []
  | before, c :: rest =>
    let lowered :=
      if c == 'Σ' then
        if meetsCased before && !meetsCased rest then ['ς'] else ['σ']
      else lowerOf c
    lowered ++ lowerAfter (c :: before) rest

/-- The uppercase of a text. -/
def toUpper (text : String) : String := String.ofList (text.toList.flatMap upperOf)

/-- The lowercase of a text, with a final sigma at the end of a word. -/
def toLower (text : String) : String := String.ofList (lowerAfter [] text.toList)

/-- The lowercase of the ASCII letters of a text; every other character stays. -/
def toAsciiLower (text : String) : String := text.map Char.toLower

end MessageRouting.Text
