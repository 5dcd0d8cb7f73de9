import MessageRouting.Json.Basic
import MessageRouting.Number.Binary

/-!
# Numbers in JSON

A number is read as digits and a power of ten. Up to 2^64 - 1 the digits are kept; the digits that no longer
fit count as powers of ten before the point and as nothing behind it. A float is the digits as a float, times
or over the power as a float, each rounded on its own.
-/

namespace MessageRouting.Json

/-- The value of an octet as a decimal digit in ASCII. -/
def decimal? (octet : UInt8) : Option Nat :=
  if 0x30 ≤ octet && octet ≤ 0x39 then some (octet.toNat - 0x30) else none

/-- The digits at the start of octets, and what follows them. -/
def cutDigits (octets : List UInt8) : List Nat × List UInt8 :=
  ((octets.takeWhile (decimal? · |>.isSome)).filterMap decimal?,
    octets.dropWhile (decimal? · |>.isSome))

/-- Takes digits onto a value as long as it stays below 2^64, and counts the digits that are left. -/
def gather : Nat → List Nat → Nat × Nat
  | value, [] => (value, 0)
  | value, d :: rest =>
    if value * 10 + d < 18446744073709551616 then gather (value * 10 + d) rest else (value, rest.length + 1)

/-- A power of ten as a float. -/
def powerOfTen (n : Nat) : Float := Float.ofScientific 1 false n

/-- Digits times a power of ten; the first argument bounds the number of divisions. -/
def scaled? : Nat → Float → Int → Option Float
  | 0, x, _ => some x
  | steps + 1, x, exponent =>
    if exponent.natAbs ≤ 308 then
      if exponent < 0 then some (x / powerOfTen exponent.natAbs)
      else
        let product := x * powerOfTen exponent.natAbs
        if product.isInf then none else some product
    else if x == 0 then some x
    else if exponent ≥ 0 then none
    else scaled? steps (x / powerOfTen 308) (exponent + 308)

/-- A float of digits and a power of ten, read up to the given rest. -/
def floatOf (negative : Bool) (digits : Nat) (exponent : Int) (rest : List UInt8) :
    Except Fault (Json × List UInt8) :=
  match scaled? 4 (Float.ofNat digits) exponent with
  | some x => .ok (float (if negative then -x else x), rest)
  | none => .error ⟨.numberOutOfRange, rest.length⟩

/-- How many digits it takes to come above the greatest exponent; `none` if they stay below. -/
def digitsToOverflow? : Nat → List Nat → Option Nat
  | _, [] => none
  | value, d :: rest =>
    if value * 10 + d > 2147483647 then some 1
    else (digitsToOverflow? (value * 10 + d) rest).map (· + 1)

/-- The sign of an exponent, and what follows it. -/
def cutSign : List UInt8 → Bool × List UInt8
  | 0x2B :: rest => (false, rest)
  | 0x2D :: rest => (true, rest)
  | rest => (false, rest)

/-- Reads an exponent after its letter. -/
def readExponent (negative : Bool) (digits : Nat) (start : Int) (octets : List UInt8) :
    Except Fault (Json × List UInt8) :=
  let (below, tail) := cutSign octets
  match cutDigits tail with
  | ([], []) => .error ⟨.endInValue, 0⟩
  | ([], _ :: rest) => .error ⟨.invalidNumber, rest.length⟩
  | (exponent, rest) =>
    match digitsToOverflow? 0 exponent with
    | some taken =>
      if digits != 0 && !below then .error ⟨.numberOutOfRange, tail.length - taken⟩
      else .ok (float (if negative then -0.0 else 0.0), rest)
    | none =>
      let value : Nat := exponent.foldl (fun n d => n * 10 + d) 0
      floatOf negative digits (if below then start - value else start + value) rest

/-- Reads what may follow the digits of a float: an exponent or nothing. -/
def readScale (negative : Bool) (digits : Nat) (start : Int) (octets : List UInt8) :
    Except Fault (Json × List UInt8) :=
  match octets with
  | 0x65 :: rest => readExponent negative digits start rest
  | 0x45 :: rest => readExponent negative digits start rest
  | rest => floatOf negative digits start rest

/-- Reads the digits after a point. -/
def readFraction (negative : Bool) (digits : Nat) (start : Int) (octets : List UInt8) :
    Except Fault (Json × List UInt8) :=
  match cutDigits octets with
  | ([], []) => .error ⟨.endInValue, 0⟩
  | ([], _ :: rest) => .error ⟨.invalidNumber, rest.length⟩
  | (fraction, rest) =>
    let (kept, dropped) := gather digits fraction
    readScale negative kept (start - (fraction.length - dropped : Nat)) rest

/-- A whole number; beyond the bounds and for a negative zero it is a float. -/
def wholeNumber (negative : Bool) (digits : Nat) : Json :=
  if !negative then integer digits
  else if 0 < digits ∧ digits ≤ 9223372036854775808 then integer (-digits)
  else float (-Float.ofNat digits)

/-- Reads what follows the whole digits of a number; `extra` of them did not fit. -/
def readTail (negative : Bool) (digits extra : Nat) (octets : List UInt8) :
    Except Fault (Json × List UInt8) :=
  match octets with
  | 0x2E :: rest => readFraction negative digits extra rest
  | 0x65 :: rest => readExponent negative digits extra rest
  | 0x45 :: rest => readExponent negative digits extra rest
  | rest =>
    if extra == 0 then .ok (wholeNumber negative digits, rest) else floatOf negative digits extra rest

/-- Reads a number after its sign. A zero is not followed by a digit. -/
def readNumber (negative : Bool) (octets : List UInt8) : Except Fault (Json × List UInt8) :=
  match cutDigits octets, octets with
  | ([], _), [] => .error ⟨.endInValue, 0⟩
  | ([], _), _ :: rest => .error ⟨.invalidNumber, rest.length⟩
  | (0 :: _ :: _, _), _ => .error ⟨.invalidNumber, octets.length - 2⟩
  | (digits, rest), _ =>
    let (kept, extra) := gather 0 digits
    readTail negative kept extra rest

end MessageRouting.Json
