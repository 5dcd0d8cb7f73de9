import MessageRouting.Number.IntegerText
import MessageRouting.Number.Shortest

/-!
# Floats as text

Writing chooses the shortest digits and lays them out by a record of decisions. Reading accepts a sign,
digits with at most one point, an exponent, and the names of the infinities and of no number.
-/

namespace MessageRouting.Number

/-- The decisions of a float format. -/
structure FloatLayout where
  /-- The least exponent of the leading digit that is written positionally; `none` is no limit. -/
  plainFrom : Option Int
  /-- The least exponent of the leading digit that is no longer written positionally. -/
  plainBelow : Option Int
  /-- A whole number ends in `.0` when it is written positionally. -/
  pointZero : Bool
  /-- A positive exponent has a plus sign. -/
  exponentPlus : Bool
  /-- Which of two equally near decimals is taken. -/
  tie : Tie
  deriving Repr, DecidableEq

/-- The layout of a float inside a text: always positional, a whole number without a point. -/
def FloatLayout.plain : FloatLayout := ⟨none, none, false, false, .up⟩

/-- The layout of a float in a structured description: positional from `1e-4` up to below `1e16`. -/
def FloatLayout.described : FloatLayout := ⟨some (-4), some 16, true, false, .up⟩

/-- The layout of a float in a JSON document: positional from `1e-5` up to below `1e16`, with a plus sign
on positive exponents. -/
def FloatLayout.json : FloatLayout := ⟨some (-5), some 16, true, true, .toEven⟩

/-- The decimal digits of a natural number. -/
def digitsOf (n : Nat) : List Char := Nat.toDigits 10 n

/-- Digits with a point after the first `whole` of them; zeros fill what is missing. -/
def placePoint (pointZero : Bool) (digits : List Char) (whole : Int) : List Char :=
  if whole ≤ 0 then '0' :: '.' :: List.replicate (-whole).toNat '0' ++ digits
  else if digits.length ≤ whole.toNat then
    digits ++ List.replicate (whole.toNat - digits.length) '0' ++ (if pointZero then ['.', '0'] else [])
  else digits.take whole.toNat ++ '.' :: digits.drop whole.toNat

/-- Digits in exponent form: one before the point. -/
def placeExponent (plus : Bool) (digits : List Char) (exponent : Int) : List Char :=
  let mantissa := match digits with
    | [] => ['0']
    | [d] => [d]
    | d :: rest => d :: '.' :: rest
  let sign := if exponent < 0 then ['-'] else if plus then ['+'] else []
  mantissa ++ 'e' :: sign ++ digitsOf exponent.natAbs

/-- Lays out a decimal. -/
def Decimal.layout (layout : FloatLayout) (d : Decimal) : List Char :=
  let digits := digitsOf d.digits
  if d.digits == 0 then (if layout.pointZero then ['0', '.', '0'] else ['0'])
  else
    let leading := d.exponent + digits.length - 1
    let plain := layout.plainFrom.all (· ≤ leading) && layout.plainBelow.all (leading < ·)
    if plain then placePoint layout.pointZero digits (leading + 1)
    else placeExponent layout.exponentPlus digits leading

/-- The text of a float. -/
def writeFloat (layout : FloatLayout) (x : Float) : String :=
  match decode x with
  | .nan => "NaN"
  | .infinite negative => if negative then "-inf" else "inf"
  | .finite negative m =>
    let text := String.ofList ((m.shortest layout.tie).layout layout)
    if negative then "-" ++ text else text

/-- Why a text is no float. -/
inductive FloatFault where
  /-- The text is empty. -/
  | empty
  /-- The text does not follow the grammar. -/
  | invalid
  deriving Repr, DecidableEq

/-- The wording of a fault. -/
def FloatFault.message : FloatFault → String
  | .empty => "cannot parse float from empty string"
  | .invalid => "invalid float literal"

/-- Splits off the ASCII digits at the start of a text. -/
def splitDigits (text : List Char) : List Nat × List Char :=
  ((text.takeWhile (digit? · |>.isSome)).filterMap digit?, text.dropWhile (digit? · |>.isSome))

/-- The value of decimal digits. -/
def valueOf (digits : List Nat) : Nat := digits.foldl (fun value d => value * 10 + d) 0

/-- The float nearest to `digits * 10 ^ exponent`; exponents far outside the range of floats are cut
short before the power is computed. -/
def ofDecimal (digits : Nat) (exponent : Int) : Float :=
  let leading := exponent + (digitsOf digits).length
  if digits == 0 then 0
  else if leading > 400 then Float.ofBits 0x7FF0000000000000
  else if leading < -400 then 0
  else Float.ofScientific digits (exponent < 0) exponent.natAbs

/-- Reads an exponent: `e` or `E`, an optional sign and at least one digit, or nothing at all. -/
def readExponent? : List Char → Option Int
  | [] => some 0
  | c :: rest =>
    if c == 'e' || c == 'E' then
      let (negative, tail) := match rest with
        | '-' :: tail => (true, tail)
        | '+' :: tail => (false, tail)
        | tail => (false, tail)
      match splitDigits tail with
      | ([], _) => none
      | (digits, []) => some (if negative then -(valueOf digits : Int) else valueOf digits)
      | (_, _ :: _) => none
    else none

/-- Reads a float without its sign. -/
def readMagnitude? (text : List Char) : Option Float :=
  let lowered := String.ofList (text.map Char.toLower)
  if lowered == "inf" || lowered == "infinity" then some (Float.ofBits 0x7FF0000000000000)
  else if lowered == "nan" then some (Float.ofBits 0x7FF8000000000000)
  else
    let (whole, rest) := splitDigits text
    let (fraction, tail) := match rest with
      | '.' :: tail => splitDigits tail
      | tail => ([], tail)
    if whole.isEmpty && fraction.isEmpty then none
    else (readExponent? tail).map fun exponent =>
      ofDecimal (valueOf (whole ++ fraction)) (exponent - fraction.length)

/-- Reads a float. -/
def readFloat (text : String) : Except FloatFault Float :=
  match text.toList with
  | [] => .error .empty
  | '-' :: rest => (readMagnitude? rest).elim (.error .invalid) fun x => .ok (-x)
  | '+' :: rest => (readMagnitude? rest).elim (.error .invalid) .ok
  | all => (readMagnitude? all).elim (.error .invalid) .ok

end MessageRouting.Number
