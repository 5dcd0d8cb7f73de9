import MessageRouting.Url.Host
import MessageRouting.Url.Path

/-!
# URLs

A URL is read in one pass: the scheme up to the first colon, then, where two slashes follow or the scheme
demands it, user, host and port, then the path, the query and the fragment. Parts that the text leaves out
are absent, and each part is encoded as its place demands.
-/

namespace MessageRouting

open Url

/-- A URL in its parts. -/
structure Url where
  /-- The scheme in lower case. -/
  scheme : String
  /-- The user; empty when absent. -/
  user : String
  /-- The password, if it is not empty. -/
  password : Option String
  /-- The host, if it is not empty. -/
  host : Option String
  /-- The port, if it is given and not the one the scheme has anyway. -/
  port : Option Nat
  /-- The path. -/
  path : String
  /-- The query as it was written. -/
  query : Option (List Char)
  /-- The fragment. -/
  fragment : Option String
  deriving Repr, DecidableEq

namespace Url

/-- Leaves out what may stand anywhere in a text without being part of the URL. -/
def bare (text : String) : List Char :=
  let margin (c : Char) : Bool := c.toNat ≤ 0x20
  let inner := ((text.toList.dropWhile margin).reverse.dropWhile margin).reverse
  inner.filter fun c => c != '\t' && c != '\n' && c != '\r'

/-- The characters of a scheme after its first letter. -/
def isSchemeChar (c : Char) : Bool := c.isAlphanum || c == '+' || c == '-' || c == '.'

/-- The scheme in lower case and what follows its colon. -/
def schemeOf? (text : List Char) : Option (String × List Char) :=
  let name := text.takeWhile isSchemeChar
  match name.head?, text.drop name.length with
  | some first, ':' :: rest =>
    if first.isAlpha then some (String.ofList (name.map Char.toLower), rest) else none
  | _, _ => none

/-- What stands before the last at sign, and what stands after it. -/
def cutAtLastAt (authority : List Char) : Option (List Char × List Char) :=
  if authority.contains '@' then
    let after := (authority.reverse.takeWhile (· != '@')).reverse
    some (authority.take (authority.length - after.length - 1), after)
  else none

/-- Splits a host from what follows it: a colon outside brackets ends it. -/
def cutHost : Bool → List Char → List Char × List Char
  | _, [] => ([], [])
  | inside, c :: rest =>
    if c == ':' && !inside then ([], c :: rest)
    else
      let (host, after) := cutHost (if c == '[' then true else if c == ']' then false else inside) rest
      (c :: host, after)

/-- An authority up to its port: a backslash that follows the port is not part of it. -/
def untilPort (authority : List Char) : List Char :=
  let named := ((cutAtLastAt authority).map Prod.snd).getD authority
  let beyond := ((cutHost false named).2.drop 1).dropWhile (Number.digitIn? 10 · |>.isSome)
  if beyond.head? == some '\\' then authority.take (authority.length - beyond.length) else authority

/-- Reads digits onto a port. -/
def readPort : Nat → List Char → Except UrlFault Nat
  | port, [] => .ok port
  | port, c :: rest =>
    match Number.digitIn? 10 c with
    | some d => if port * 10 + d ≤ 65535 then readPort (port * 10 + d) rest else .error .invalidPort
    | none => .error .invalidPort

/-- User, password, host and port. -/
structure Authority where
  /-- The user; empty when absent. -/
  user : String
  /-- The password, if it is not empty. -/
  password : Option String
  /-- The host, if it is not empty. -/
  host : Option String
  /-- The port, if it is given and not the one the scheme has anyway. -/
  port : Option Nat

/-- No user, host or port. -/
def Authority.none : Authority := ⟨"", .none, .none, .none⟩

/-- Reads the host and port of an authority; `trusted` tells that a user or password stands before. -/
def readHostPort (scheme : String) (trusted : Bool) (text : List Char) :
    Except UrlFault (Option String × Option Nat) := do
  let (hostText, after) := cutHost false text
  let host ←
    match SchemeClass.of scheme with
    | .plain => readPlainHost hostText
    | _ => if hostText.isEmpty then .error .emptyHost else readDomain hostText
  if host.isEmpty && !after.isEmpty then .error .emptyHost
  else
    let digits := after.drop 1
    let port ← readPort 0 digits
    if host.isEmpty && trusted then .error .emptyHost
    else
      let shown := !digits.isEmpty && defaultPorts.lookup scheme != some port
      .ok (if host.isEmpty then none else some host, if shown then some port else none)

/-- Reads user, host and port. -/
def readAuthority (scheme : String) (text : List Char) (atEnd : Bool) : Except UrlFault Authority :=
  match cutAtLastAt text with
  | none => (readHostPort scheme false text).map fun (host, port) => ⟨"", none, host, port⟩
  | some (trust, rest) =>
    if trust.isEmpty && rest.isEmpty && !atEnd then .error .emptyHost
    else
      let (user, password) := cutAt ':' trust
      let password := if password == some [] then none else password
      (readHostPort scheme (!user.isEmpty || password.isSome) rest).map fun (host, port) =>
        ⟨String.ofList (escape isUserEscape user),
          password.map fun text => String.ofList (escape isUserEscape text), host, port⟩

/-- Splits the query and the fragment from what stands before them. -/
def cutTail (text : List Char) : List Char × Option (List Char) × Option String :=
  let (front, fragment) := cutAt '#' text
  let (before, query) := cutAt '?' front
  (before, query, fragment.map fun f => String.ofList (escape isFragmentEscape f))

/-- The path after a host; where there is a hierarchy of names there is at least the root. -/
def hostedPath (schemeClass : SchemeClass) (text : List Char) : String :=
  match schemeClass, text with
  | .plain, [] => ""
  | _, c :: rest =>
    pathText (pathSegments schemeClass (if schemeClass.isSlash c then rest else c :: rest))
  | _, [] => "/"

/-- The host and path of a file: a drive in the place of the host belongs to the path, the name of the
machine itself counts as no host, and a path with a drive has no host. -/
def readFile (text : List Char) : Except UrlFault (Option String × String) :=
  let isSlash := SchemeClass.file.isSlash
  match text with
  | first :: second :: rest =>
    if isSlash first && isSlash second then
      let hostText := rest.takeWhile (!isSlash ·)
      if isDrive hostText then .ok (none, pathText (pathSegments .file rest))
      else
        let after := rest.drop hostText.length
        let host : Except UrlFault String := if hostText.isEmpty then .ok "" else readDomain hostText
        host.map fun host =>
          let segments := pathSegments .file (after.drop 1)
          let absent := host.isEmpty || host == "localhost" || isDrive (segments.headD [])
          (if absent then none else some host, pathText segments)
    else .ok (none, pathText (pathSegments .file (if isSlash first then second :: rest else text)))
  | _ => .ok (none, pathText (pathSegments .file (text.dropWhile isSlash)))

/-- Reads what follows the scheme. -/
def readRest (scheme : String) (text : List Char) : Except UrlFault Url := do
  let schemeClass := SchemeClass.of scheme
  let (front, query, fragment) := cutTail text
  match schemeClass, front with
  | .file, _ =>
    let (host, path) ← readFile front
    .ok ⟨scheme, "", none, host, none, path, query, fragment⟩
  | .special, _ => hosted schemeClass (front.dropWhile schemeClass.isSlash) query fragment
  | .plain, '/' :: '/' :: rest => hosted schemeClass rest query fragment
  | .plain, '/' :: rest =>
    .ok ⟨scheme, "", none, none, none, pathText (pathSegments .plain rest), query, fragment⟩
  | .plain, _ =>
    .ok ⟨scheme, "", none, none, none, String.ofList (escape isControl front), query, fragment⟩
where
  /-- Reads the authority and the path of a URL that has a host. -/
  hosted (schemeClass : SchemeClass) (front : List Char) (query : Option (List Char))
      (fragment : Option String) : Except UrlFault Url := do
    let authority := untilPort (front.takeWhile (!schemeClass.isSlash ·))
    let rest := front.drop authority.length
    let a ← readAuthority scheme authority (rest.isEmpty && query.isNone && fragment.isNone)
    .ok ⟨scheme, a.user, a.password, a.host, a.port, hostedPath schemeClass rest, query, fragment⟩

/-- Reads a URL. -/
def parse (text : String) : Except UrlFault Url :=
  match schemeOf? (bare text) with
  | some (scheme, rest) => readRest scheme rest
  | none => .error .relative

/-- The names and values of the query, in order. -/
def pairs (url : Url) : List (String × String) := queryPairs (url.query.getD [])

end Url

end MessageRouting
