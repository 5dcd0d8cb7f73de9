import MessageRouting.Number.Digit
import MessageRouting.Text.Utf8

/-!
# Percent encoding

Characters that may not stand in a part of a URL are written as the octets of their UTF-8 form, each as a
percent sign and two hexadecimal digits. Query strings also write a blank as a plus sign.
-/

namespace MessageRouting.Url

/-- The ASCII control characters. -/
def isControl (c : Char) : Bool := c.toNat < 0x20 || c.toNat == 0x7F

/-- The characters that are encoded in a fragment, apart from those beyond ASCII. -/
def isFragmentEscape (c : Char) : Bool :=
  isControl c || c == ' ' || c == '"' || c == '<' || c == '>' || c == '\x60'

/-- The characters that are encoded in a path, apart from those beyond ASCII. -/
def isPathEscape (c : Char) : Bool :=
  isFragmentEscape c || c == '#' || c == '?' || c == '\x7b' || c == '\x7d'

/-- The characters that are encoded in a user name or password, apart from those beyond ASCII. -/
def isUserEscape (c : Char) : Bool :=
  isPathEscape c || c == '/' || c == ':' || c == ';' || c == '=' || c == '@' || c == '[' ||
    c == '\\' || c == ']' || c == '^' || c == '|'

/-- An octet as a percent sign and two digits in capital letters. -/
def escapeOctet (octet : UInt8) : List Char := '%' :: (Number.hexPair octet).map Char.toUpper

/-- A character in a part where some ASCII characters are encoded. -/
def escapeChar (escaped : Char → Bool) (c : Char) : List Char :=
  if c.toNat ≥ 0x80 || escaped c then (String.ofList [c]).toUTF8.toList.flatMap escapeOctet else [c]

/-- A text in a part where some ASCII characters are encoded. -/
def escape (escaped : Char → Bool) (text : List Char) : List Char := text.flatMap (escapeChar escaped)

/-- Octets with percent signs and their digits replaced by what they stand for; a percent sign without
two digits stands for itself. -/
def unescape : List UInt8 → List UInt8
  | 0x25 :: high :: low :: rest =>
    match Number.octetOf? (Char.ofNat high.toNat) (Char.ofNat low.toNat) with
    | some octet => octet :: unescape rest
    | none => 0x25 :: unescape (high :: low :: rest)
  | octet :: rest => octet :: unescape rest
  | [] => []

/-- The octets that a text with percent signs stands for. -/
def unescapeText (text : List Char) : ByteArray :=
  ⟨(unescape (String.ofList text).toUTF8.toList).toArray⟩

/-- A name or value of a query string: plus signs are blanks. -/
def formText (text : List Char) : String :=
  Text.Utf8.lossy (unescapeText (text.map fun c => if c == '+' then ' ' else c))

/-- The characters before a separator, and those after it if it occurs. -/
def cutAt (separator : Char) (text : List Char) : List Char × Option (List Char) :=
  let before := text.takeWhile (· != separator)
  (before, (text.drop before.length).head?.map fun _ => text.drop (before.length + 1))

/-- The pieces between separators. -/
def piecesAt (separator : Char) : List Char → List (List Char)
  | [] => [[]]
  | c :: rest =>
    if c == separator then [] :: piecesAt separator rest
    else
      match piecesAt separator rest with
      | piece :: pieces => (c :: piece) :: pieces
      | [] => [[c]]

/-- The names and values of a query string, in order. -/
def queryPairs (query : List Char) : List (String × String) :=
  ((piecesAt '&' query).filter (!·.isEmpty)).map fun piece =>
    let (name, value) := cutAt '=' piece
    (formText name, formText (value.getD []))

end MessageRouting.Url
