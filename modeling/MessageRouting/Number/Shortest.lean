import MessageRouting.Number.Binary

/-!
# The fewest digits that read back

Among the decimals that round to a float, the shortest is chosen, of those the nearest, and a tie goes by
the rule the format asks for. The search compares exact naturals only.
-/

namespace MessageRouting.Number

/-- A decimal, `digits * 10 ^ exponent`. -/
structure Decimal where
  /-- The whole factor. -/
  digits : Nat
  /-- The power of ten. -/
  exponent : Int
  deriving Repr, DecidableEq

/-- Which of two equally near decimals is taken. -/
inductive Tie where
  /-- The one whose last digit is even. -/
  | toEven
  /-- The greater one. -/
  | up
  deriving Repr, DecidableEq

/-- Compares `a * 10 ^ i` with `b * 2 ^ j` exactly. -/
def compareScaled (a : Nat) (i : Int) (b : Nat) (j : Int) : Ordering :=
  compare (a * Nat.pow 10 i.toNat * Nat.pow 2 (-j).toNat) (b * Nat.pow 2 j.toNat * Nat.pow 10 (-i).toNat)

/-- The decimal lies among the reals that round to the magnitude, to nearest and ties to even. -/
def Magnitude.readsBack (x : Magnitude) (d : Decimal) : Bool :=
  let low := if x.narrowBelow then 4 * x.mantissa - 1 else 4 * x.mantissa - 2
  let high := 4 * x.mantissa + 2
  let closed := x.mantissa % 2 == 0
  let atLow := compareScaled d.digits d.exponent low (x.exponent - 2)
  let atHigh := compareScaled d.digits d.exponent high (x.exponent - 2)
  (atLow == .gt || (closed && atLow == .eq)) && (atHigh == .lt || (closed && atHigh == .eq))

/-- The least power of ten above a magnitude that is not zero. -/
def Magnitude.scale (x : Magnitude) : Int :=
  let estimate := ((x.mantissa.log2 : Int) + x.exponent) * 1233 / 4096
  let above (k : Int) := compareScaled 1 k x.mantissa x.exponent == .gt
  ([estimate - 1, estimate, estimate + 1].find? above).getD (estimate + 2)

/-- The whole part of a magnitude counted in units of `10 ^ exponent`. -/
def Magnitude.floorAt (x : Magnitude) (exponent : Int) : Nat :=
  (x.mantissa * Nat.pow 2 x.exponent.toNat * Nat.pow 10 (-exponent).toNat) /
    (Nat.pow 2 (-x.exponent).toNat * Nat.pow 10 exponent.toNat)

/-- The decimal with the given power of ten that reads back, if there is one: the nearer neighbour. -/
def Magnitude.onGrid? (tie : Tie) (x : Magnitude) (exponent : Int) : Option Decimal :=
  let below := x.floorAt exponent
  let lower : Decimal := ⟨below, exponent⟩
  let upper : Decimal := ⟨below + 1, exponent⟩
  match x.readsBack lower, x.readsBack upper with
  | false, false => none
  | true, false => some lower
  | false, true => some upper
  | true, true =>
    match compareScaled (2 * below + 1) exponent (2 * x.mantissa) x.exponent with
    | .gt => some lower
    | .lt => some upper
    | .eq =>
      match tie with
      | .up => some upper
      | .toEven => some (if below % 2 == 0 then lower else upper)

/-- Moves the zeros at the end of the digits into the power of ten. -/
def Decimal.strip : Nat → Decimal → Decimal
  | 0, d => d
  | fuel + 1, d =>
    if d.digits != 0 && d.digits % 10 == 0 then strip fuel ⟨d.digits / 10, d.exponent + 1⟩ else d

/-- The exact value of a magnitude as a decimal. -/
def Magnitude.exact (x : Magnitude) : Decimal :=
  ⟨x.mantissa * Nat.pow 2 x.exponent.toNat * Nat.pow 5 (-x.exponent).toNat, -((-x.exponent).toNat : Int)⟩

/-- The shortest decimal that reads back as a magnitude; seventeen digits are enough. -/
def Magnitude.shortest (tie : Tie) (x : Magnitude) : Decimal :=
  if x.mantissa == 0 then ⟨0, 0⟩
  else
    let scale := x.scale
    let found := (List.range 17).findSome? fun n => x.onGrid? tie (scale - (n + 1 : Nat))
    (found.getD x.exact).strip 800

end MessageRouting.Number
