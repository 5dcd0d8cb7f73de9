/-!
# Floats as exact numbers

A float is no number, an infinity, or a sign with a natural number times a power of two. What needs an
exact answer (remainders, the digits of a float) is computed on that form.
-/

namespace MessageRouting.Number

/-- A finite magnitude, `mantissa * 2 ^ exponent`. -/
structure Magnitude where
  /-- The whole factor. -/
  mantissa : Nat
  /-- The power of two. -/
  exponent : Int
  /-- The gap to the float below is half the gap to the float above. -/
  narrowBelow : Bool
  deriving Repr, DecidableEq

/-- What the bits of a float stand for. -/
inductive Decoded where
  /-- No number. -/
  | nan
  /-- An infinity, negative or not. -/
  | infinite (negative : Bool)
  /-- A finite number with its sign; zero has a sign too. -/
  | finite (negative : Bool) (magnitude : Magnitude)
  deriving Repr, DecidableEq

/-- The magnitude of finite bits. -/
def Magnitude.ofBits (bits : UInt64) : Magnitude :=
  let exponent := ((bits >>> 52) &&& 0x7FF).toNat
  let fraction := (bits &&& 0xFFFFFFFFFFFFF).toNat
  if exponent == 0 then ⟨fraction, -1074, false⟩
  else ⟨4503599627370496 + fraction, (exponent : Int) - 1075, fraction == 0 && exponent > 1⟩

/-- Reads a float's bits. -/
def decode (x : Float) : Decoded :=
  let bits := x.toBits
  let negative := bits >>> 63 == 1
  if (bits >>> 52) &&& 0x7FF == 0x7FF then
    if bits &&& 0xFFFFFFFFFFFFF == 0 then .infinite negative else .nan
  else .finite negative (Magnitude.ofBits bits)

/-- The float with a sign and an exact magnitude, for a magnitude that a float can hold. -/
def encode (negative : Bool) (mantissa : Nat) (exponent : Int) : Float :=
  let sign : Nat := if negative then 9223372036854775808 else 0
  if mantissa == 0 then Float.ofBits (UInt64.ofNat sign)
  else
    let width : Int := mantissa.log2 + 1
    let unit : Int := max (exponent + width - 53) (-1074)
    let whole :=
      if unit ≤ exponent then mantissa * Nat.pow 2 (exponent - unit).toNat
      else mantissa / Nat.pow 2 (unit - exponent).toNat
    let bits :=
      if whole < 4503599627370496 then whole
      else (unit + 1075).toNat * 4503599627370496 + (whole - 4503599627370496)
    Float.ofBits (UInt64.ofNat (sign + bits))

/-- A finite number: neither an infinity nor no number. -/
def isFinite (x : Float) : Bool :=
  match decode x with
  | .finite _ _ => true
  | _ => false

/-- The remainder of a division whose quotient is cut off towards zero; it has the dividend's sign. -/
def remainder (x y : Float) : Float :=
  match decode x, decode y with
  | .finite negative a, .finite _ b =>
    let unit := min a.exponent b.exponent
    let whole := a.mantissa * Nat.pow 2 (a.exponent - unit).toNat
    let divisor := b.mantissa * Nat.pow 2 (b.exponent - unit).toNat
    if divisor == 0 then Float.ofBits 0x7FF8000000000000 else encode negative (whole % divisor) unit
  | .finite _ _, .infinite _ => x
  | _, _ => Float.ofBits 0x7FF8000000000000

/-- The whole part of a float as a 64-bit integer, clamped to the range; no number gives zero. -/
def truncate (x : Float) : Int64 :=
  if x < 0 then Int64.ofInt (-(min (-x).toUInt64.toNat 9223372036854775808 : Nat))
  else Int64.ofInt (min x.toUInt64.toNat 9223372036854775807 : Nat)

/-- The float nearest to a 64-bit integer. -/
def ofInt64 (n : Int64) : Float :=
  if n < 0 then -(UInt64.ofNat n.toInt.natAbs).toFloat else (UInt64.ofNat n.toInt.natAbs).toFloat

/-- A float without a fractional part; infinities and no number have one. -/
def isWhole (x : Float) : Bool :=
  match decode x with
  | .finite _ m => m.mantissa % Nat.pow 2 (-m.exponent).toNat == 0
  | _ => false

end MessageRouting.Number
