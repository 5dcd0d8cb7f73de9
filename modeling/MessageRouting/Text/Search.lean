/-!
# Finding one text in another

A text starts with, ends with or contains another one when it can be split around it.
-/

namespace MessageRouting.Text

/-- The second list stands at some place of the first, all in one piece. -/
def hasPiece : List Char → List Char → Bool
  | [], piece => piece.isEmpty
  | c :: rest, piece => piece.isPrefixOf (c :: rest) || hasPiece rest piece

/-- A text contains another one. -/
def contains (text piece : String) : Bool := hasPiece text.toList piece.toList

/-- A text starts with another one. -/
def startsWith (text start : String) : Bool := start.toList.isPrefixOf text.toList

/-- A text ends with another one. -/
def endsWith (text ending : String) : Bool :=
  ending.toList.reverse.isPrefixOf text.toList.reverse

/-- The pieces of a list between the places where the separator stands, taken from the left; the
separator is not empty. The first argument bounds the number of pieces. -/
def splitPieces (separator : List Char) : Nat → List Char → List Char → List (List Char)
  | 0, seen, rest => [seen.reverse ++ rest]
  | _ + 1, seen, [] => [seen.reverse]
  | fuel + 1, seen, c :: rest =>
    if separator.isPrefixOf (c :: rest) then
      seen.reverse :: splitPieces separator fuel [] ((c :: rest).drop separator.length)
    else splitPieces separator fuel (c :: seen) rest

/-- The parts of a text between the places where a separator stands. An empty separator stands before,
between and after all characters. -/
def split (text separator : String) : List String :=
  if separator.isEmpty then [""] ++ text.toList.map (fun c => String.ofList [c]) ++ [""]
  else
    (splitPieces separator.toList (text.toList.length + 1) [] text.toList).map String.ofList

end MessageRouting.Text
