import MessageRouting.Json.Basic
import MessageRouting.Number.Digit
import MessageRouting.Text.Utf8

/-!
# Strings in JSON

A string ends at the first quote that is not escaped. Escapes by number stand for code units of 16 bits, so a
character beyond them takes two. Only when the end is found are the octets read as characters.
-/

namespace MessageRouting.Json

/-- The octets of a code point. -/
def octetsOf (code : Nat) : List UInt8 := (String.singleton (Char.ofNat code)).toUTF8.toList

/-- A code unit of four hexadecimal digits; too few octets are the end of the string. -/
def codeUnit : List UInt8 → Except Fault Nat
  | a :: b :: c :: d :: rest =>
    match Number.numberIn? 16 ([a, b, c, d].map fun octet => Char.ofNat octet.toNat) with
    | some unit => .ok unit
    | none => .error ⟨.invalidEscape, rest.length⟩
  | _ => .error ⟨.endInString, 0⟩

/-- The second half of a character that takes two code units, after the digits of the first half. -/
def secondHalf : List UInt8 → Except Fault Nat
  | 0x5C :: 0x75 :: rest =>
    match codeUnit rest with
    | .error fault => .error fault
    | .ok unit =>
      if 0xDC00 ≤ unit ∧ unit ≤ 0xDFFF then .ok unit
      else .error ⟨.loneSurrogate, rest.length - 4⟩
  | 0x5C :: _ :: rest => .error ⟨.cutSurrogate, rest.length⟩
  | [0x5C] => .error ⟨.endInString, 0⟩
  | _ :: rest => .error ⟨.cutSurrogate, rest.length⟩
  | [] => .error ⟨.endInString, 0⟩

/-- An escape after its backslash: the octets it stands for and its own length. -/
def readEscape : List UInt8 → Except Fault (List UInt8 × Nat)
  | [] => .error ⟨.endInString, 0⟩
  | 0x22 :: _ => .ok ([0x22], 1)
  | 0x5C :: _ => .ok ([0x5C], 1)
  | 0x2F :: _ => .ok ([0x2F], 1)
  | 0x62 :: _ => .ok ([0x08], 1)
  | 0x66 :: _ => .ok ([0x0C], 1)
  | 0x6E :: _ => .ok ([0x0A], 1)
  | 0x72 :: _ => .ok ([0x0D], 1)
  | 0x74 :: _ => .ok ([0x09], 1)
  | 0x75 :: rest =>
    match codeUnit rest with
    | .error fault => .error fault
    | .ok unit =>
      if 0xDC00 ≤ unit ∧ unit ≤ 0xDFFF then .error ⟨.loneSurrogate, rest.length - 4⟩
      else if 0xD800 ≤ unit ∧ unit ≤ 0xDBFF then
        (secondHalf (rest.drop 4)).map fun low =>
          (octetsOf ((unit - 0xD800) * 0x400 + (low - 0xDC00) + 0x10000), 11)
      else .ok (octetsOf unit, 5)
  | _ :: rest => .error ⟨.invalidEscape, rest.length⟩

/-- The octets a string stands for, backwards, and what follows its closing quote. The first argument
counts the octets of an escape that was read already. -/
def scanString : Nat → List UInt8 → List UInt8 → Except Fault (List UInt8 × List UInt8)
  | _, _, [] => .error ⟨.endInString, 0⟩
  | inside + 1, reversed, _ :: rest => scanString inside reversed rest
  | 0, reversed, octet :: rest =>
    if octet == 0x22 then .ok (reversed, rest)
    else if octet == 0x5C then
      match readEscape rest with
      | .error fault => .error fault
      | .ok (octets, width) => scanString width (octets.reverse ++ reversed) rest
    else if octet < 0x20 then .error ⟨.controlCharacter, rest.length⟩
    else scanString 0 (octet :: reversed) rest

/-- How many octets of a string were read for the first so many octets it stands for. -/
def sourceOffset : Nat → Nat → List UInt8 → Nat
  | inside + 1, wanted, _ :: rest => 1 + sourceOffset inside wanted rest
  | 0, wanted + 1, octet :: rest =>
    match octet == 0x5C, readEscape rest with
    | true, .ok (octets, width) => 1 + sourceOffset width (wanted + 1 - octets.length) rest
    | _, _ => 1 + sourceOffset 0 wanted rest
  | _, _, _ => 0

/-- Reads a string after its opening quote. -/
def readString (octets : List UInt8) : Except Fault (String × List UInt8) :=
  match scanString 0 [] octets with
  | .error fault => .error fault
  | .ok (reversed, rest) =>
    match Text.Utf8.decode ⟨reversed.reverse.toArray⟩ with
    | .ok text => .ok (text, rest)
    | .error fault =>
      .error ⟨.invalidCodePoint, octets.length - (sourceOffset 0 fault.position octets + 1)⟩

end MessageRouting.Json
