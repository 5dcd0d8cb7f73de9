import MessageRouting.Text.LetterCase
import MessageRouting.Url.Percent
import MessageRouting.Url.Punycode

/-!
# Hosts

The host of a URL is a name, an address of four octets or an address of eight groups in brackets. Schemes
with rules of their own for hosts take names as domain names, in lower case and in ASCII, and names that end
in a number as addresses; all others keep names as they are.
-/

namespace MessageRouting.Url

/-- Why a text is no URL. -/
inductive UrlFault where
  /-- There is no scheme. -/
  | relative
  /-- The host is empty where there has to be one. -/
  | emptyHost
  /-- The host is no domain name. -/
  | invalidDomain
  /-- The host has a character that no host may have. -/
  | invalidHostCharacter
  /-- The host ends in a number and is no address of four octets. -/
  | invalidIpv4
  /-- The host is in brackets and is no address of eight groups. -/
  | invalidIpv6
  /-- The port is no number below 65536. -/
  | invalidPort
  deriving Repr, DecidableEq

/-- The wording of a fault. -/
def UrlFault.message : UrlFault → String
  | .relative => "relative URL without a base"
  | .emptyHost => "empty host"
  | .invalidDomain => "invalid international domain name"
  | .invalidHostCharacter => "invalid domain character"
  | .invalidIpv4 => "invalid IPv4 address"
  | .invalidIpv6 => "invalid IPv6 address"
  | .invalidPort => "invalid port number"

/-! ## Addresses of four octets -/

/-- A part of an address: decimal, octal after `0`, or hexadecimal after `0x`. -/
def ipv4Number? : List Char → Option Nat
  | [] => none
  | '0' :: 'x' :: digits => Number.numberIn? 16 digits
  | '0' :: 'X' :: digits => Number.numberIn? 16 digits
  | '0' :: c :: digits => Number.numberIn? 8 (c :: digits)
  | digits => Number.numberIn? 10 digits

/-- The labels of a domain name without the empty one at its end. -/
def labelsOf (domain : List Char) : List (List Char) :=
  let labels := piecesAt '.' domain
  if labels.length > 1 && labels.getLast? == some [] then labels.dropLast else labels

/-- The last label of a domain name is a number. -/
def endsInNumber (domain : List Char) : Bool :=
  match (labelsOf domain).getLast? with
  | some label =>
    (!label.isEmpty && label.all fun c => (Number.digitIn? 10 c).isSome) || (ipv4Number? label).isSome
  | none => false

/-- The value of the parts of an address; the last part fills all octets that are left. -/
def ipv4Value? (parts : List Nat) : Option Nat :=
  match parts.reverse with
  | [] => none
  | last :: front =>
    if parts.length ≤ 4 ∧ last < Nat.pow 256 (4 - front.length) ∧ front.all (· < 256) then
      some (front.reverse.foldl (fun n part => n * 256 + part) 0 * Nat.pow 256 (4 - front.length) + last)
    else none

/-- The text of an address of four octets. -/
def ipv4Text (address : Nat) : String :=
  s!"{address / 16777216}.{address / 65536 % 256}.{address / 256 % 256}.{address % 256}"

/-- Reads a domain name that ends in a number. -/
def readIpv4 (domain : List Char) : Except UrlFault String :=
  match ((labelsOf domain).mapM ipv4Number?).bind ipv4Value? with
  | some address => .ok (ipv4Text address)
  | none => .error .invalidIpv4

/-! ## Addresses of eight groups -/

/-- The octets of four decimal numbers between points, none with a leading zero. -/
def ipv4Tail? (text : List Char) : Option (List Nat) :=
  let octets := (piecesAt '.' text).mapM fun part =>
    match part with
    | [] => none
    | '0' :: _ :: _ => none
    | _ => (Number.numberIn? 10 part).bind fun n => if n < 256 then some n else none
  octets.bind fun list => if list.length = 4 then some list else none

/-- A group of one to four hexadecimal digits. -/
def groupOf? (text : List Char) : Option Nat :=
  if 1 ≤ text.length ∧ text.length ≤ 4 then Number.numberIn? 16 text else none

/-- Groups between colons, the last two of which may be an address of four octets. -/
def groupsOf? : List (List Char) → Option (List Nat)
  | [] => some []
  | [last] =>
    if last.contains '.' then
      (ipv4Tail? last).bind fun octets =>
        match octets with
        | [a, b, c, d] => some [a * 256 + b, c * 256 + d]
        | _ => none
    else (groupOf? last).map ([·])
  | group :: rest => (groupOf? group).bind fun n => (groupsOf? rest).map (n :: ·)

/-- Groups in a text that may be empty. -/
def groupsIn? (text : List Char) : Option (List Nat) :=
  if text.isEmpty then some [] else groupsOf? (piecesAt ':' text)

/-- The text before two colons in a row, and the text after them if they occur. -/
def cutAtGap : List Char → List Char × Option (List Char)
  | ':' :: ':' :: rest => ([], some rest)
  | c :: rest => let (before, after) := cutAtGap rest; (c :: before, after)
  | [] => ([], none)

/-- The eight groups of an address; two colons stand for groups of zero. -/
def ipv6Groups? (text : List Char) : Option (List Nat) :=
  match cutAtGap text with
  | (all, none) => (groupsIn? all).bind fun groups => if groups.length = 8 then some groups else none
  | (before, some after) =>
    if before.contains '.' then none
    else
      (groupsIn? before).bind fun left =>
        (groupsIn? after).bind fun right =>
          if left.length + right.length < 8 then
            some (left ++ List.replicate (8 - left.length - right.length) 0 ++ right)
          else none

/-- The length of the run of zeros at the start of a list. -/
def zerosAt (groups : List Nat) : Nat := (groups.takeWhile (· == 0)).length

/-- The start of the first longest run of zeros, and its length. -/
def longestZeros (groups : List Nat) : Nat × Nat :=
  (List.range groups.length).foldl
    (fun best start =>
      let length := zerosAt (groups.drop start)
      if length > best.2 then (start, length) else best)
    (0, 0)

/-- Groups in hexadecimal digits with colons between them. -/
def groupsText (groups : List Nat) : String :=
  ":".intercalate (groups.map fun n => String.ofList (Nat.toDigits 16 n))

/-- The text of an address; its first longest run of at least two groups of zero is left out. -/
def ipv6Text (groups : List Nat) : String :=
  let (start, length) := longestZeros groups
  if length < 2 then groupsText groups
  else groupsText (groups.take start) ++ "::" ++ groupsText (groups.drop (start + length))

/-- Reads an address between brackets. -/
def readIpv6 (text : List Char) : Except UrlFault String :=
  if text.getLast? == some ']' then
    match ipv6Groups? (text.drop 1).dropLast with
    | some groups => .ok ("[" ++ ipv6Text groups ++ "]")
    | none => .error .invalidIpv6
  else .error .invalidIpv6

/-! ## Names -/

/-- The characters that may not stand in any host. -/
def isForbiddenInHost (c : Char) : Bool :=
  "\x00\t\n\r #/:<>?@[\\]^|".contains c

/-- The characters that may not stand in a domain name. -/
def isForbiddenInDomain (c : Char) : Bool :=
  isForbiddenInHost c || isControl c || c == '%' ||
    (c.toNat ≥ 0x80 && !Text.isPrintable c) || c == '\uFFFD'

/-- A label of a domain name in ASCII. -/
def asciiLabel (label : List Char) : List Char :=
  if label.all (·.toNat < 0x80) then label else "xn--".toList ++ Punycode.encode label

/-- The full stops of other scripts count as points. -/
def plainPoint (c : Char) : Char :=
  if c == '\u3002' || c == '\uFF0E' || c == '\uFF61' then '.' else c

/-- A domain name in lower case and in ASCII. -/
def asciiDomain? (text : String) : Option (List Char) :=
  let lowered := (Text.toLower text).toList.map plainPoint
  if lowered.any isForbiddenInDomain then none
  else some (['.'].intercalate ((piecesAt '.' lowered).map asciiLabel))

/-- Reads the host of a scheme that has domain names. -/
def readDomain (text : List Char) : Except UrlFault String :=
  if text.head? == some '[' then readIpv6 text
  else
    match asciiDomain? (Text.Utf8.lossy (unescapeText text)) with
    | none => .error .invalidDomain
    | some [] => .error .emptyHost
    | some domain => if endsInNumber domain then readIpv4 domain else .ok (String.ofList domain)

/-- Reads the host of any other scheme. -/
def readPlainHost (text : List Char) : Except UrlFault String :=
  if text.head? == some '[' then readIpv6 text
  else if text.any isForbiddenInHost then .error .invalidHostCharacter
  else .ok (String.ofList (escape isControl text))

end MessageRouting.Url
