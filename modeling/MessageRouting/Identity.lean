/-!
# Identities

Things that are told apart by identity get theirs from what they are made from: the n-th thing made from an
owner is named by n in front of the name of the owner. What has no owner is numbered. So no two things are
given one identity, and which identity a thing gets does not depend on what happens elsewhere.
-/

namespace MessageRouting

/-- A name in the tree of makers, the last step first. -/
abbrev Identity : Type := List Nat

namespace Identity

/-- The identity of a thing without an owner. -/
def root (number : Nat) : Identity := [number]

/-- The identity of the n-th thing made from an owner. -/
def made (owner : Identity) (n : Nat) : Identity := n :: owner

/-- Different owners make different things, and so does one owner each time. -/
@[simp] theorem made_inj {owner other : Identity} {n m : Nat} :
    owner.made n = other.made m ↔ n = m ∧ owner = other := by simp [made]

/-- No thing is its own owner. -/
theorem made_ne (owner : Identity) (n : Nat) : owner.made n ≠ owner := List.cons_ne_self n owner

/-- The number behind the text of an identity, below 2^122. -/
def code (identity : Identity) : Nat :=
  identity.foldr (fun n code => (code * 1000000000000000003 + n + 1) % Nat.pow 2 122) 7

/-- The lowest hexadecimal digits of a number, so many of them. -/
def lowDigits (width n : Nat) : String :=
  let digits := Nat.toDigits 16 (n % Nat.pow 16 width)
  String.ofList (List.replicate (width - digits.length) '0' ++ digits)

/-- An identity as a text of 32 hexadecimal digits in five groups. -/
def text (identity : Identity) : String :=
  let n := identity.code
  let variant := lowDigits 1 (8 + (n >>> 60) % 4)
  s!"{lowDigits 8 (n >>> 90)}-{lowDigits 4 (n >>> 74)}-4{lowDigits 3 (n >>> 62)}-" ++
    s!"{variant}{lowDigits 3 (n >>> 48)}-{lowDigits 12 n}"

/-- The characters begin with a text of the form that identities have. -/
def beginsText (characters : List Char) : Bool :=
  let head := characters.take 36
  head.length == 36 && head.zipIdx.all fun (c, place) =>
    if [8, 13, 18, 23].contains place then c == '-'
    else if place == 14 then c == '4'
    else if place == 19 then ['8', '9', 'a', 'b'].contains c
    else c.isDigit || ('a' ≤ c && c ≤ 'f')

end Identity

end MessageRouting
