import MessageRouting.Number.Digit
import MessageRouting.Number.IntegerText
import MessageRouting.Regex.Syntax

/-!
# Reading patterns

Patterns are read from the left. Flags set inside a group hold up to its end. What is not well formed has
no reading.
-/

namespace MessageRouting.Regex

open Text Text.Category

/-- The flags in force. -/
structure Flags where
  /-- Letters stand for both cases. -/
  ignoreCase : Bool := false
  /-- The anchors hold at lines. -/
  multiLine : Bool := false
  /-- The dot stands for line feeds, too. -/
  dotAll : Bool := false
  /-- Repetitions are lazy unless marked. -/
  swapGreed : Bool := false
  /-- Classes are those of all scripts. -/
  unicode : Bool := true
  /-- Blanks and comments in the pattern are passed over. -/
  extended : Bool := false
  /-- A return and a line feed end a line together. -/
  returns : Bool := false
  deriving Repr, DecidableEq

/-- Sets one flag. -/
def Flags.set? (flags : Flags) (value : Bool) : Char → Option Flags
  | 'i' => some { flags with ignoreCase := value }
  | 'm' => some { flags with multiLine := value }
  | 's' => some { flags with dotAll := value }
  | 'U' => some { flags with swapGreed := value }
  | 'u' => some { flags with unicode := value }
  | 'x' => some { flags with extended := value }
  | 'R' => some { flags with returns := value }
  | _ => none

/-- The greatest depth of groups and classes. -/
def depthLimit : Nat := 250

/-- The greatest code point. -/
def greatestCode : Nat := 0x10FFFF

/-- Passes over blanks and comments where the flags say so. -/
def skipIgnored (flags : Flags) : Nat → List Char → List Char
  | 0, text => text
  | fuel + 1, text =>
    if !flags.extended then text
    else
      match text with
      | [] => []
      | c :: rest =>
        if isBlank c then skipIgnored flags fuel rest
        else if c == '#' then skipIgnored flags fuel (rest.dropWhile (· != '\n'))
        else text

/-- The set of a class that one small letter stands for. -/
def smallClass? (ascii : Bool) : Char → Option CharSet
  | 'd' => some (if ascii then .range 0x30 0x39 else .runs decimalDigits)
  | 's' => some (if ascii then .union (.range 9 13) (.range 0x20 0x20) else .runs blanks)
  | 'w' =>
    some (if ascii then
        .union (.union (.range 0x30 0x39) (.range 0x41 0x5A)) (.union (.range 0x61 0x7A) (.single '_'))
      else
        [uppercaseLetters, lowercaseLetters, titlecaseLetters, modifierLetters, otherLetters,
          letterNumbers, otherAlphabetic, nonspacingMarks, spacingMarks, enclosingMarks,
          decimalDigits, connectors].foldl (fun set list => .union set (.runs list))
          (.range 0x200C 0x200D))
  | _ => none

/-- The set of a class that one letter stands for; a capital stands for all other characters. -/
def letterClass? (ascii : Bool) (c : Char) : Option CharSet :=
  if c.isUpper then (smallClass? ascii c.toLower).map .outside else smallClass? ascii c

/-- The general categories by their short and long names. -/
def categories : List (List String × List (List Run)) :=
  [(["lu", "uppercaseletter"], [uppercaseLetters]), (["ll", "lowercaseletter"], [lowercaseLetters]),
   (["lt", "titlecaseletter"], [titlecaseLetters]), (["lm", "modifierletter"], [modifierLetters]),
   (["lo", "otherletter"], [otherLetters]),
   (["lc", "casedletter"], [uppercaseLetters, lowercaseLetters, titlecaseLetters]),
   (["l", "letter"],
     [uppercaseLetters, lowercaseLetters, titlecaseLetters, modifierLetters, otherLetters]),
   (["mn", "nonspacingmark"], [nonspacingMarks]), (["mc", "spacingmark"], [spacingMarks]),
   (["me", "enclosingmark"], [enclosingMarks]),
   (["m", "mark", "combiningmark"], [nonspacingMarks, spacingMarks, enclosingMarks]),
   (["nd", "decimalnumber", "digit"], [decimalDigits]), (["nl", "letternumber"], [letterNumbers]),
   (["no", "othernumber"], [otherNumbers]),
   (["n", "number"], [decimalDigits, letterNumbers, otherNumbers]),
   (["pc", "connectorpunctuation"], [connectors]), (["pd", "dashpunctuation"], [dashes]),
   (["ps", "openpunctuation"], [openers]), (["pe", "closepunctuation"], [closers]),
   (["pi", "initialpunctuation"], [initialQuotes]), (["pf", "finalpunctuation"], [finalQuotes]),
   (["po", "otherpunctuation"], [otherPunctuation]),
   (["p", "punctuation", "punct"],
     [connectors, dashes, openers, closers, initialQuotes, finalQuotes, otherPunctuation]),
   (["sm", "mathsymbol"], [mathSymbols]), (["sc", "currencysymbol"], [currencySymbols]),
   (["sk", "modifiersymbol"], [modifierSymbols]), (["so", "othersymbol"], [otherSymbols]),
   (["s", "symbol"], [mathSymbols, currencySymbols, modifierSymbols, otherSymbols]),
   (["zs", "spaceseparator"], [spaceSeparators]), (["zl", "lineseparator"], [lineSeparators]),
   (["zp", "paragraphseparator"], [paragraphSeparators]),
   (["z", "separator"], [spaceSeparators, lineSeparators, paragraphSeparators]),
   (["cc", "control", "cntrl"], [controls]), (["cf", "format"], [formats]),
   (["co", "privateuse"], [privateUse]),
   (["whitespace", "wspace", "space"], [blanks]),
   (["alphabetic", "alpha"],
     [uppercaseLetters, lowercaseLetters, titlecaseLetters, modifierLetters, otherLetters,
       letterNumbers, otherAlphabetic]),
   (["cased"], [uppercaseLetters, lowercaseLetters, titlecaseLetters, otherCased]),
   (["any"], [[⟨0, greatestCode, 1⟩]]), (["ascii"], [[⟨0, 0x7F, 1⟩]])]

/-- The set of a named property; blanks, hyphens, underscores and case in the name do not count. -/
def property? (name : List Char) : Option CharSet :=
  let plain := String.ofList
    ((name.filter fun c => !(c == ' ' || c == '-' || c == '_')).map Char.toLower)
  (categories.find? (·.1.contains plain)).map fun (_, lists) =>
    lists.foldl (fun set list => .union set (.runs list)) .none

/-- The ASCII classes by name. -/
def asciiClass? (name : String) : Option CharSet :=
  match name with
  | "alnum" => some (.union (.range 0x30 0x39) (.union (.range 0x41 0x5A) (.range 0x61 0x7A)))
  | "alpha" => some (.union (.range 0x41 0x5A) (.range 0x61 0x7A))
  | "ascii" => some (.range 0 0x7F)
  | "blank" => some (.union (.range 9 9) (.range 0x20 0x20))
  | "cntrl" => some (.union (.range 0 0x1F) (.range 0x7F 0x7F))
  | "digit" => some (.range 0x30 0x39)
  | "graph" => some (.range 0x21 0x7E)
  | "lower" => some (.range 0x61 0x7A)
  | "print" => some (.range 0x20 0x7E)
  | "punct" =>
    some (.union (.union (.range 0x21 0x2F) (.range 0x3A 0x40))
      (.union (.range 0x5B 0x60) (.range 0x7B 0x7E)))
  | "space" => some (.union (.range 9 13) (.range 0x20 0x20))
  | "upper" => some (.range 0x41 0x5A)
  | "word" => letterClass? true 'w'
  | "xdigit" => some (.union (.range 0x30 0x39) (.union (.range 0x41 0x46) (.range 0x61 0x66)))
  | _ => none

/-- The value of hexadecimal digits, at least one of them. -/
def hexValue? (digits : List Char) : Option Nat :=
  if digits.isEmpty then none else Number.numberIn? 16 digits

/-- The character of a code point that is one. -/
def scalar? (code : Nat) : Option Char :=
  if code < 0xD800 || (0xDFFF < code && code ≤ greatestCode) then some (Char.ofNat code) else none

/-- Reads a code point in hexadecimal digits: a fixed number of them, or any number between braces. -/
def readHex (count : Nat) (text : List Char) : Option (Char × List Char) :=
  match text with
  | '\x7b' :: rest => do
    let digits := rest.takeWhile (· != '\x7d')
    let tail := rest.dropWhile (· != '\x7d')
    if tail.isEmpty then none else pure (← scalar? (← hexValue? digits), tail.drop 1)
  | _ => do
    if text.length < count then none
    else pure (← scalar? (← hexValue? (text.take count)), text.drop count)

/-- What an escape stands for. -/
inductive Escape where
  | char (c : Char)
  | set (s : CharSet)
  | place (p : Place)

/-- The characters that have a meaning of their own and may be escaped. -/
def isEscapable (c : Char) : Bool :=
  c.toNat < 0x80 && !c.isAlphanum && c != '<' && c != '>'

/-- Reads a property after its letter. -/
def readProperty (outside : Bool) (text : List Char) : Option (CharSet × List Char) :=
  match text with
  | '\x7b' :: rest =>
    let name := rest.takeWhile (· != '\x7d')
    let tail := rest.dropWhile (· != '\x7d')
    if tail.isEmpty then none
    else
      let (outside, name) := match name with
        | '^' :: more => (!outside, more)
        | more => (outside, more)
      let value := match name.dropWhile (fun c => c != '=' && c != ':') with
        | [] => name
        | _ :: more => more
      (property? value).map fun set => (if outside then .outside set else set, tail.drop 1)
  | c :: rest => (property? [c]).map fun set => (if outside then .outside set else set, rest)
  | [] => none

/-- Reads the name of a word place in braces after its letter. -/
def readWordPlace (ascii : Bool) (text : List Char) : Option (Place × List Char) :=
  let boundary : Place := .word true true true ascii
  match text with
  | '\x7b' :: rest =>
    let name := String.ofList (rest.takeWhile (· != '\x7d'))
    let tail := (rest.dropWhile (· != '\x7d')).drop 1
    match name with
    | "start" => some (.word true false true ascii, tail)
    | "end" => some (.word false true true ascii, tail)
    | "start-half" => some (.word true false false ascii, tail)
    | "end-half" => some (.word false true false ascii, tail)
    | _ =>
      if name.toList.all (fun c => c.isAlpha || c == '-') && !name.isEmpty then none
      else some (boundary, text)
  | _ => some (boundary, text)

/-- Reads an escape after its backslash. -/
def readEscape (flags : Flags) : List Char → Option (Escape × List Char)
  | [] => none
  | c :: rest =>
    let ascii := !flags.unicode
    match c with
    | 'a' => some (.char '\x07', rest)
    | 'f' => some (.char '\x0c', rest)
    | 't' => some (.char '\t', rest)
    | 'n' => some (.char '\n', rest)
    | 'r' => some (.char '\r', rest)
    | 'v' => some (.char '\x0b', rest)
    | 'A' => some (.place .textStart, rest)
    | 'z' => some (.place .textEnd, rest)
    | 'B' => some (.place (.noBoundary ascii), rest)
    | '<' => some (.place (.word true false true ascii), rest)
    | '>' => some (.place (.word false true true ascii), rest)
    | 'b' => (readWordPlace ascii rest).map fun (place, tail) => (.place place, tail)
    | 'x' => (readHex 2 rest).map fun (d, tail) => (.char d, tail)
    | 'u' => (readHex 4 rest).map fun (d, tail) => (.char d, tail)
    | 'U' => (readHex 8 rest).map fun (d, tail) => (.char d, tail)
    | 'p' => (readProperty false rest).map fun (set, tail) => (.set set, tail)
    | 'P' => (readProperty true rest).map fun (set, tail) => (.set set, tail)
    | _ =>
      match letterClass? ascii c with
      | some set => if ascii && c.isUpper then none else some (.set set, rest)
      | none => if isEscapable c then some (.char c, rest) else none

/-- A set in the case the flags ask for. -/
def Flags.cased (flags : Flags) (set : CharSet) : CharSet :=
  if flags.ignoreCase then .anyCase set else set

/-! ## Classes in brackets -/

/-- Reads a named ASCII class, without its first bracket. -/
def readNamedClass (text : List Char) : Option (CharSet × List Char) :=
  match text with
  | ':' :: rest =>
    let (outside, rest) := match rest with
      | '^' :: more => (true, more)
      | more => (false, more)
    let name := String.ofList (rest.takeWhile (· != ':'))
    match rest.dropWhile (· != ':') with
    | ':' :: ']' :: tail =>
      (asciiClass? name).map fun set => (if outside then .outside set else set, tail)
    | _ => none
  | _ => none

/-- How two parts of a class are joined. -/
inductive ClassOperator where
  | both
  | without
  | either

/-- Joins two parts of a class. -/
def ClassOperator.join (a b : CharSet) : ClassOperator → CharSet
  | .both => .both a b
  | .without => .both a (.outside b)
  | .either => .union (.both a (.outside b)) (.both b (.outside a))

/-- The operator at the start of a text. -/
def operatorAt : List Char → Option (ClassOperator × List Char)
  | '&' :: '&' :: rest => some (.both, rest)
  | '-' :: '-' :: rest => some (.without, rest)
  | '~' :: '~' :: rest => some (.either, rest)
  | _ => none

/-- Reads one end of a range: a character or an escape. -/
def readClassItem (flags : Flags) : List Char → Option (Escape × List Char)
  | [] => none
  | '\\' :: rest => do
    match ← readEscape flags rest with
    | (.place _, _) => none
    | found => pure found
  | c :: rest => some (.char c, rest)

/-- Reads a class after its opening bracket, up to its closing one. -/
def readClass (flags : Flags) : Nat → Nat → List Char → Option (CharSet × List Char)
  | 0, _, _ => none
  | fuel + 1, depth, text => do
    if depthLimit < depth then none
    let text := skipIgnored flags fuel text
    let (outside, text) := match text with
      | '^' :: rest => (true, skipIgnored flags fuel rest)
      | rest => (false, rest)
    let hyphens := text.takeWhile (· == '-')
    let text := text.dropWhile (· == '-')
    let start : CharSet := if hyphens.isEmpty then .none else .single '-'
    let (start, text) := match hyphens, text with
      | [], ']' :: rest => (CharSet.single ']', rest)
      | _, rest => (start, rest)
    let (set, rest) ← items fuel depth none start text
    pure (if outside then .outside (flags.cased set) else flags.cased set, rest)
where
  /-- Reads the items of a class onto a set; `joined` is what an operator joins it to. -/
  items : Nat → Nat → Option (CharSet × ClassOperator) → CharSet → List Char →
      Option (CharSet × List Char)
    | 0, _, _, _, _ => none
    | fuel + 1, depth, joined, set, text =>
      let finished (s : CharSet) : CharSet := match joined with
        | none => s
        | some (left, operator) => operator.join left s
      match skipIgnored flags fuel text with
      | [] => none
      | ']' :: rest => some (finished set, rest)
      | '[' :: rest =>
        match readNamedClass rest with
        | some (named, tail) => items fuel depth joined (.union set named) tail
        | none => do
          let (inner, tail) ← readClass flags fuel (depth + 1) rest
          items fuel depth joined (.union set inner) tail
      | text =>
        match operatorAt text with
        | some (operator, rest) => items fuel depth (some (finished set, operator)) .none rest
        | none => do
          let (first, rest) ← readClassItem flags text
          let rest := skipIgnored flags fuel rest
          match rest with
          | '-' :: tail =>
            let single ← match tail with
              | [] => none
              | ']' :: _ => pure true
              | '-' :: _ => pure true
              | _ => pure false
            if single then items fuel depth joined (.union set (asSet first)) rest
            else do
              let (last, tail) ← readClassItem flags (skipIgnored flags fuel tail)
              match first, last with
              | .char a, .char b =>
                if a.toNat ≤ b.toNat then
                  items fuel depth joined (.union set (.range a.toNat b.toNat)) tail
                else none
              | _, _ => none
          | _ => items fuel depth joined (.union set (asSet first)) rest
  /-- The set of an escape. -/
  asSet : Escape → CharSet
    | .char c => .single c
    | .set s => s
    | .place _ => .none

/-! ## Repetitions -/

/-- Reads a decimal number below 2^32 with blanks around it. -/
def readCount (text : List Char) : Option (Nat × List Char) :=
  let text := text.dropWhile isBlank
  let digits := text.takeWhile Char.isDigit
  let value := digits.foldl (fun value c => value * 10 + (c.toNat - '0'.toNat)) 0
  if digits.isEmpty || 4294967296 ≤ value then none
  else some (value, (text.dropWhile Char.isDigit).dropWhile isBlank)

/-- Reads the bounds of a counted repetition after its brace. -/
def readBounds (text : List Char) : Option (Nat × Option Nat × List Char) := do
  let (least, rest) ← readCount text
  match rest with
  | '\x7d' :: tail => pure (least, some least, tail)
  | ',' :: '\x7d' :: tail => pure (least, none, tail)
  | ',' :: tail =>
    let (most, rest) ← readCount tail
    match rest with
    | '\x7d' :: tail => if least ≤ most then pure (least, some most, tail) else none
    | _ => none
  | _ => none

/-- Reads the mark of a repetition. -/
def readRepetition : List Char → Option (Option (Nat × Option Nat × List Char))
  | '*' :: rest => some (some (0, none, rest))
  | '+' :: rest => some (some (1, none, rest))
  | '?' :: rest => some (some (0, some 1, rest))
  | '\x7b' :: rest => (readBounds rest).map some
  | _ => some none

/-! ## Groups -/

/-- Reads flags up to a closing parenthesis or a colon; the result says whether a colon ended them. -/
def readFlags : Flags → List Char → Bool → Bool → List Char → Option (Flags × Bool × List Char)
  | _, _, _, _, [] => none
  | flags, seen, off, fresh, c :: rest =>
    match c with
    | ')' => if (off && fresh) || (seen.isEmpty && !off) then none else some (flags, false, rest)
    | ':' => if off && fresh then none else some (flags, true, rest)
    | '-' => if off then none else readFlags flags seen true true rest
    | _ =>
      if seen.contains c then none
      else
        match flags.set? (!off) c with
        | none => none
        | some flags => readFlags flags (c :: seen) off false rest

/-- Reads the name of a group up to its closing bracket. -/
def readName (text : List Char) : Option (List Char × List Char) :=
  let name := text.takeWhile (· != '>')
  match text.dropWhile (· != '>') with
  | [] => none
  | _ :: rest =>
    match name with
    | [] => none
    | first :: more =>
      if (first == '_' || isAlphabetic first) &&
        more.all (fun c => c == '_' || c == '.' || c == '[' || c == ']' || isAlphanumeric c)
      then some (name, rest) else none

/-- The anchor or dot of a character. -/
def special? (flags : Flags) : Char → Option (Option Node)
  | '.' =>
    some (if !flags.unicode then none
      else if flags.dotAll then some (.one (.range 0 greatestCode))
      else if flags.returns then some (.one (.outside (.union (.single '\n') (.single '\r'))))
      else some (.one (.outside (.single '\n'))))
  | '^' =>
    some (some (.at (if !flags.multiLine then .textStart
      else if flags.returns then .returnLineStart else .lineStart)))
  | '$' =>
    some (some (.at (if !flags.multiLine then .textEnd
      else if flags.returns then .returnLineEnd else .lineEnd)))
  | _ => none

/-- What the reading of a group carries along: the flags, the names given so far, the alternatives so far
and the parts of the last one, newest first. A part is missing where only flags stand. -/
structure Progress where
  flags : Flags
  names : List (List Char)
  choices : Option Node := none
  parts : List (Option Node) := []

/-- The last alternative as one pattern. -/
def Progress.sequence (p : Progress) : Node :=
  p.parts.foldl (fun node part => match part with
    | none => node
    | some a => if node = .empty then a else .seq a node) .empty

/-- All alternatives as one pattern. -/
def Progress.node (p : Progress) : Node :=
  match p.choices with
  | none => p.sequence
  | some earlier => .alt earlier p.sequence

/-- Adds a part. -/
def Progress.push (p : Progress) (part : Node) : Progress := { p with parts := some part :: p.parts }

/-- Reads the inside of a group; an open group ends with a parenthesis, the whole pattern with the text.
The names given in the group are returned. -/
def readGroup : Nat → Nat → Progress → List Char → Option (Node × List (List Char) × List Char)
  | 0, _, _, _ => none
  | fuel + 1, depth, p, text =>
    let text := skipIgnored p.flags fuel text
    match text with
    | [] => if depth == 0 then some (p.node, p.names, []) else none
    | ')' :: rest => if depth == 0 then none else some (p.node, p.names, rest)
    | '|' :: rest => readGroup fuel depth { p with choices := some p.node, parts := [] } rest
    | '[' :: rest => do
      let (set, rest) ← readClass p.flags fuel 1 rest
      readGroup fuel depth (p.push (.one set)) rest
    | '\\' :: rest => do
      let (escape, rest) ← readEscape p.flags rest
      let part : Node := match escape with
        | .char c => .one (p.flags.cased (.single c))
        | .set s => .one (p.flags.cased s)
        | .place place => .at place
      readGroup fuel depth (p.push part) rest
    | '(' :: rest => do
      if depthLimit ≤ depth then none
      let inner (flags : Flags) (names : List (List Char)) (rest : List Char) :=
        readGroup fuel (depth + 1) { flags, names } rest
      let continued (found : Node × List (List Char) × List Char) :=
        readGroup fuel depth { p.push found.1 with names := found.2.1 } found.2.2
      let named (rest : List Char) := do
        let (name, rest) ← readName rest
        if p.names.contains name then none
        continued (← inner p.flags (name :: p.names) rest)
      match rest with
      | '?' :: '<' :: '=' :: _ => none
      | '?' :: '<' :: '!' :: _ => none
      | '?' :: '=' :: _ => none
      | '?' :: '!' :: _ => none
      | '?' :: 'P' :: '<' :: rest => named rest
      | '?' :: '<' :: rest => named rest
      | '?' :: rest => do
        let (flags, colon, rest) ← readFlags p.flags [] false false rest
        if colon then continued (← inner flags p.names rest)
        else readGroup fuel depth { p with flags, parts := none :: p.parts } rest
      | rest => continued (← inner p.flags p.names rest)
    | c :: rest => do
      match ← readRepetition text with
      | some (least, most, rest) =>
        let rest := match rest with
          | '?' :: tail => tail
          | tail => tail
        match p.parts with
        | some part :: earlier =>
          readGroup fuel depth { p with parts := some (.repeat part least most) :: earlier } rest
        | _ => none
      | none =>
        match special? p.flags c with
        | some none => none
        | some (some part) => readGroup fuel depth (p.push part) rest
        | none => readGroup fuel depth (p.push (.one (p.flags.cased (.single c)))) rest

/-- Reads a pattern. -/
def parse (source : String) : Option Node :=
  (readGroup (source.toList.length + 1) 0 { flags := {}, names := [] } source.toList).map (·.1)

end MessageRouting.Regex
