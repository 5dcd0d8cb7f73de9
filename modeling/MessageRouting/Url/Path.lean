import MessageRouting.Url.Percent

/-!
# Paths

A path in a hierarchy is a list of segments from which the segments for "here" and "one up" have been
worked out. In a file path the letter of a drive is never left by going up.
-/

namespace MessageRouting.Url

/-- How a scheme treats hosts and paths. -/
inductive SchemeClass where
  /-- Files. -/
  | file
  /-- The other schemes with domain names; a backslash is a slash there. -/
  | special
  /-- All others. -/
  | plain
  deriving Repr, DecidableEq

/-- The schemes with domain names and the ports they use when none is given. -/
def defaultPorts : List (String × Nat) :=
  [("http", 80), ("https", 443), ("ws", 80), ("wss", 443), ("ftp", 21)]

/-- The class of a scheme. -/
def SchemeClass.of (scheme : String) : SchemeClass :=
  if scheme == "file" then .file
  else if (defaultPorts.lookup scheme).isSome then .special
  else .plain

/-- The character separates segments. -/
def SchemeClass.isSlash (schemeClass : SchemeClass) (c : Char) : Bool :=
  c == '/' || (c == '\\' && schemeClass != .plain)

/-- A percent-encoded point written out. -/
def pointsWritten : List Char → List Char
  | '%' :: '2' :: 'e' :: rest => '.' :: pointsWritten rest
  | '%' :: '2' :: 'E' :: rest => '.' :: pointsWritten rest
  | c :: rest => c :: pointsWritten rest
  | [] => []

/-- The segment stands for the one above. -/
def isUp (segment : List Char) : Bool := pointsWritten segment == ['.', '.']

/-- The segment stands for no step. -/
def isHere (segment : List Char) : Bool := pointsWritten segment == ['.']

/-- A letter and a colon or bar. -/
def isDrive : List Char → Bool
  | [letter, mark] => letter.isAlpha && (mark == ':' || mark == '|')
  | _ => false

/-- The segments without the last one, unless that is a drive. -/
def shorten (schemeClass : SchemeClass) (reversed : List (List Char)) : List (List Char) :=
  match reversed with
  | [only] => if schemeClass == .file && isDrive only then [only] else []
  | _ :: rest => rest
  | [] => []

/-- Adds a segment to a path whose segments are given backwards. The last segment of a text is left empty
when it stands for a place. -/
def addSegment (schemeClass : SchemeClass) (last : Bool) (reversed : List (List Char))
    (segment : List Char) : List (List Char) :=
  if isUp segment then
    let shortened := shorten schemeClass reversed
    if last then [] :: shortened else shortened
  else if isHere segment then if last then [] :: reversed else reversed
  else
    match schemeClass, reversed, segment with
    | .file, [], [letter, _] => if isDrive segment then [[letter, ':']] else [segment]
    | _, _, _ => segment :: reversed

/-- Adds all segments of a text, the last of which is known to be the last. -/
def addSegments (schemeClass : SchemeClass) :
    List (List Char) → List (List Char) → List (List Char)
  | reversed, [] => reversed
  | reversed, [segment] => addSegment schemeClass true reversed segment
  | reversed, segment :: rest => addSegments schemeClass (addSegment schemeClass false reversed segment) rest

/-- The segments of a path after its first slash, worked out. A file path has no empty segments in
front. -/
def pathSegments (schemeClass : SchemeClass) (text : List Char) : List (List Char) :=
  let slashed := text.map fun c => if schemeClass.isSlash c then '/' else c
  let segments :=
    (addSegments schemeClass [] ((piecesAt '/' slashed).map (escape isPathEscape))).reverse
  match schemeClass with
  | .file =>
    let front := segments.dropWhile List.isEmpty
    if front.isEmpty then [[]] else front
  | _ => segments

/-- The text of segments, each after a slash. -/
def pathText (segments : List (List Char)) : String :=
  String.ofList (segments.flatMap ('/' :: ·))

end MessageRouting.Url
