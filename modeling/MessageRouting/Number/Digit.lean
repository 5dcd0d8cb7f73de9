/-!
# Digits

Single digits in bases up to sixteen, and octets as pairs of hexadecimal digits. Letters are read in either case
and written in lower case.
-/

namespace MessageRouting.Number

/-- The digit a character is in a base up to 16. -/
def digitIn? (base : Nat) (c : Char) : Option Nat :=
  let value :=
    if '0' ≤ c ∧ c ≤ '9' then c.toNat - 0x30
    else if 'a' ≤ c ∧ c ≤ 'f' then c.toNat - 0x57
    else if 'A' ≤ c ∧ c ≤ 'F' then c.toNat - 0x37
    else 16
  if value < base then some value else none

/-- The number that digits are in a base. -/
def numberIn? (base : Nat) (digits : List Char) : Option Nat :=
  (digits.mapM (digitIn? base)).map fun values => values.foldl (fun n d => n * base + d) 0

/-- The hexadecimal digit of a number below 16. -/
def hexDigit (n : Nat) : Char := if n < 10 then Char.ofNat (0x30 + n) else Char.ofNat (0x57 + n)

/-- The two hexadecimal digits of an octet. -/
def hexPair (octet : UInt8) : List Char := [hexDigit (octet.toNat / 16), hexDigit (octet.toNat % 16)]

/-- Octets as hexadecimal digits. -/
def hexText (octets : ByteArray) : String := String.ofList (octets.toList.flatMap hexPair)

/-- The octet of two hexadecimal digits. -/
def octetOf? (high low : Char) : Option UInt8 := (numberIn? 16 [high, low]).map UInt8.ofNat

/-- The octets of pairs of hexadecimal digits. -/
def octetsOf? : List Char → Option (List UInt8)
  | [] => some []
  | [_] => none
  | high :: low :: rest =>
    match octetOf? high low with
    | some octet => (octetsOf? rest).map (octet :: ·)
    | none => none

/-- Reads octets from hexadecimal digits. -/
def readHex? (text : String) : Option ByteArray :=
  (octetsOf? text.toList).map fun octets => ⟨octets.toArray⟩

end MessageRouting.Number
