/-!
# Names beyond ASCII in ASCII

A label of a domain name that has characters beyond ASCII is written as its ASCII characters, a hyphen, and
the places and code points of the others as differences in a base of 36 digits with moving thresholds.
-/

namespace MessageRouting.Url.Punycode

/-- The character of a digit: letters, then decimal digits. -/
def digit (d : Nat) : Char := if d < 26 then Char.ofNat (0x61 + d) else Char.ofNat (0x16 + d)

/-- The threshold of a digit at a position under a bias. -/
def threshold (position bias : Nat) : Nat :=
  if position ≤ bias then 1 else if position ≥ bias + 26 then 26 else position - bias

/-- A difference as digits, the lowest first; the fuel bounds their number. -/
def differenceDigits (bias : Nat) : Nat → Nat → Nat → List Char
  | 0, _, _ => []
  | fuel + 1, position, q =>
    let t := threshold position bias
    if q < t then [digit q]
    else
      digit (t + (q - t) % (36 - t)) ::
        differenceDigits bias fuel (position + 36) ((q - t) / (36 - t))

/-- Scales a difference down to the range of a bias; the fuel bounds the number of steps. -/
def scale : Nat → Nat → Nat → Nat
  | 0, _, k => k
  | fuel + 1, delta, k =>
    if delta > 455 then scale fuel (delta / 35) (k + 36) else k + 36 * delta / (delta + 38)

/-- The bias after a difference. -/
def adapt (delta points : Nat) (first : Bool) : Nat :=
  let start := if first then delta / 700 else delta / 2
  scale 64 (start + start / points) 0

/-- Where the encoding of a label stands. -/
structure Progress where
  /-- The difference so far. -/
  delta : Nat
  /-- The bias. -/
  bias : Nat
  /-- The number of characters written. -/
  written : Nat
  /-- The characters beyond the hyphen, backwards. -/
  reversed : List Char

/-- Passes a character of the label while the code point `point` is being written. -/
def Progress.pass (basic point : Nat) (p : Progress) (c : Char) : Progress :=
  if c.toNat < point then { p with delta := p.delta + 1 }
  else if c.toNat == point then
    ⟨0, adapt p.delta (p.written + 1) (p.written == basic), p.written + 1,
      (differenceDigits p.bias 64 36 p.delta).reverse ++ p.reversed⟩
  else p

/-- Writes one code point beyond ASCII after all code points below `next`. -/
def Progress.write (label : List Char) (basic : Nat) (state : Nat × Progress) (point : Nat) :
    Nat × Progress :=
  let (next, p) := state
  let started := { p with delta := p.delta + (point - next) * (p.written + 1) }
  let passed := label.foldl (Progress.pass basic point) started
  (point + 1, { passed with delta := passed.delta + 1 })

/-- A label in ASCII. -/
def encode (label : List Char) : List Char :=
  let ascii := label.filter (·.toNat < 0x80)
  let others := ((label.filter (·.toNat ≥ 0x80)).map Char.toNat).mergeSort.eraseDups
  let start : Progress := ⟨0, 72, ascii.length, []⟩
  let finished := (others.foldl (Progress.write label ascii.length) (0x80, start)).2
  ascii ++ (if ascii.isEmpty then [] else ['-']) ++ finished.reversed.reverse

end MessageRouting.Url.Punycode
