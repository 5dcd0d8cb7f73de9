import MessageRouting.Json.Number
import MessageRouting.Json.Text
import MessageRouting.Table

/-!
# Reading JSON

The octets of a document are read from the left. Lists and objects may be nested 127 deep. The place of a
problem is given by its line and by the octets of that line before it.
-/

namespace MessageRouting.Json

/-- The octet is a blank between parts. -/
def isBlank (octet : UInt8) : Bool := octet == 0x20 || octet == 0x09 || octet == 0x0A || octet == 0x0D

/-- Leaves out blanks. -/
def skipBlanks (octets : List UInt8) : List UInt8 := octets.dropWhile isBlank

/-- A problem with the octet that comes next. -/
def atNext (problem : Problem) (octets : List UInt8) : Fault := ⟨problem, octets.length - 1⟩

/-- Reads the rest of a word. -/
def readWord (result : Json) : List UInt8 → List UInt8 → Except Fault (Json × List UInt8)
  | [], octets => .ok (result, octets)
  | _ :: _, [] => .error ⟨.endInValue, 0⟩
  | wanted :: word, octet :: rest =>
    if octet == wanted then readWord result word rest else .error ⟨.expectedWord, rest.length⟩

/-- Reads the colon after the name of a member. -/
def readColon (octets : List UInt8) : Except Fault (List UInt8) :=
  match skipBlanks octets with
  | [] => .error ⟨.endInObject, 0⟩
  | octet :: rest => if octet == 0x3A then .ok rest else .error (atNext .expectedColon (octet :: rest))

/-- Goes to the next item of a list: the octets where it starts, or what follows the list. -/
def nextItem (first : Bool) (octets : List UInt8) : Except Fault (List UInt8 ⊕ List UInt8) :=
  match skipBlanks octets with
  | [] => .error ⟨.endInList, 0⟩
  | octet :: rest =>
    if octet == 0x5D then .ok (.inr rest)
    else if first then .ok (.inl (octet :: rest))
    else if octet == 0x2C then
      match skipBlanks rest with
      | [] => .error ⟨.endInValue, 0⟩
      | next :: more =>
        if next == 0x5D then .error (atNext .trailingComma (next :: more)) else .ok (.inl (next :: more))
    else .error (atNext .expectedListEnd (octet :: rest))

/-- Goes to the next member of an object: the octets after the opening quote of its name, or what follows
the object. -/
def nextMember (first : Bool) (octets : List UInt8) : Except Fault (List UInt8 ⊕ List UInt8) :=
  match skipBlanks octets with
  | [] => .error ⟨.endInObject, 0⟩
  | octet :: rest =>
    if octet == 0x7D then .ok (.inr rest)
    else if first then
      if octet == 0x22 then .ok (.inl rest) else .error (atNext .keyWanted (octet :: rest))
    else if octet == 0x2C then
      match skipBlanks rest with
      | [] => .error ⟨.endInValue, 0⟩
      | next :: more =>
        if next == 0x22 then .ok (.inl more)
        else if next == 0x7D then .error (atNext .trailingComma (next :: more))
        else .error (atNext .keyWanted (next :: more))
    else .error (atNext .expectedObjectEnd (octet :: rest))

mutual

/-- Reads a value inside `depth` further levels; the fuel bounds the number of steps. -/
def readValue : Nat → Nat → List UInt8 → Except Fault (Json × List UInt8)
  | 0, _, octets => .error (atNext .tooDeep octets)
  | fuel + 1, depth, octets =>
    match skipBlanks octets with
    | [] => .error ⟨.endInValue, 0⟩
    | octet :: rest =>
      if octet == 0x6E then readWord null [0x75, 0x6C, 0x6C] rest
      else if octet == 0x74 then readWord (bool true) [0x72, 0x75, 0x65] rest
      else if octet == 0x66 then readWord (bool false) [0x61, 0x6C, 0x73, 0x65] rest
      else if octet == 0x2D then readNumber true rest
      else if (decimal? octet).isSome then readNumber false (octet :: rest)
      else if octet == 0x22 then (readString rest).map fun (text, after) => (string text, after)
      else if octet == 0x5B then
        match depth with
        | 0 => .error (atNext .tooDeep (octet :: rest))
        | depth + 1 => (readItems fuel depth true rest).map fun (items, after) => (array items, after)
      else if octet == 0x7B then
        match depth with
        | 0 => .error (atNext .tooDeep (octet :: rest))
        | depth + 1 =>
          (readMembers fuel depth true rest).map fun (members, after) =>
            (object (Table.ofList members), after)
      else .error (atNext .expectedValue (octet :: rest))

/-- Reads the items of a list that are left. -/
def readItems : Nat → Nat → Bool → List UInt8 → Except Fault (List Json × List UInt8)
  | 0, _, _, octets => .error (atNext .tooDeep octets)
  | fuel + 1, depth, first, octets =>
    match nextItem first octets with
    | .error fault => .error fault
    | .ok (.inr after) => .ok ([], after)
    | .ok (.inl start) =>
      match readValue fuel depth start with
      | .error fault => .error fault
      | .ok (item, rest) =>
        (readItems fuel depth false rest).map fun (items, after) => (item :: items, after)

/-- Reads the members of an object that are left. -/
def readMembers : Nat → Nat → Bool → List UInt8 → Except Fault (List (String × Json) × List UInt8)
  | 0, _, _, octets => .error (atNext .tooDeep octets)
  | fuel + 1, depth, first, octets =>
    match nextMember first octets with
    | .error fault => .error fault
    | .ok (.inr after) => .ok ([], after)
    | .ok (.inl start) =>
      match readString start with
      | .error fault => .error fault
      | .ok (name, afterName) =>
        match readColon afterName with
        | .error fault => .error fault
        | .ok valueStart =>
          match readValue fuel depth valueStart with
          | .error fault => .error fault
          | .ok (item, rest) =>
            (readMembers fuel depth false rest).map fun (members, after) =>
              ((name, item) :: members, after)

end

/-- How deep lists and objects may be nested. -/
def greatestDepth : Nat := 127

/-- Reads a whole document. -/
def readDocument (octets : List UInt8) : Except Fault Json :=
  match readValue (2 * octets.length + 2) greatestDepth octets with
  | .error fault => .error fault
  | .ok (json, rest) =>
    match skipBlanks rest with
    | [] => .ok json
    | more => .error (atNext .trailingCharacters more)

/-- The wording of a fault in the given octets. -/
def Fault.message (octets : List UInt8) (fault : Fault) : String :=
  let before := octets.take (octets.length - fault.left)
  let line := before.count 0x0A + 1
  let column := (before.reverse.takeWhile (· != 0x0A)).length
  s!"{fault.problem.message} at line {line} column {column}"

end MessageRouting.Json
