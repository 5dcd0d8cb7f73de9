/-!
# Reading octets as UTF-8

Octets are read from the left as characters and broken pieces. A broken piece is the longest start of a
character that the next octet does not continue; it is reported with its length, and replaced by one
replacement character where a text is wanted in any case.
-/

namespace MessageRouting.Text.Utf8

/-- What reading finds in a sequence of octets. -/
inductive Piece where
  /-- A character. -/
  | char (c : Char)
  /-- Octets that are the start of no character. -/
  | broken (octets : Nat)
  /-- The start of a character that the end of the input cuts off. -/
  | cut (octets : Nat)
  deriving Repr, DecidableEq

/-- A character whose first octets have been read. -/
structure Started where
  /-- The bits read so far. -/
  bits : Nat
  /-- How many octets have been read. -/
  seen : Nat
  /-- How many octets are missing. -/
  missing : Nat
  /-- The least next octet that continues the character. -/
  least : UInt8
  /-- The greatest next octet that continues the character. -/
  greatest : UInt8
  deriving Repr, DecidableEq

/-- Begins a character: either it is complete or broken at once, or it needs further octets. -/
def start (octet : UInt8) : Piece ⊕ Started :=
  let n := octet.toNat
  if n < 0x80 then .inl (.char (Char.ofNat n))
  else if n < 0xC2 then .inl (.broken 1)
  else if n < 0xE0 then .inr ⟨n - 0xC0, 1, 1, 0x80, 0xBF⟩
  else if n < 0xF0 then
    .inr ⟨n - 0xE0, 1, 2, if n == 0xE0 then 0xA0 else 0x80, if n == 0xED then 0x9F else 0xBF⟩
  else if n < 0xF5 then
    .inr ⟨n - 0xF0, 1, 3, if n == 0xF0 then 0x90 else 0x80, if n == 0xF4 then 0x8F else 0xBF⟩
  else .inl (.broken 1)

/-- Reads on from a started character, if there is one. -/
def scan : Option Started → List UInt8 → List Piece
  | none, [] => []
  | some s, [] => [.cut s.seen]
  | none, octet :: rest =>
    match start octet with
    | .inl piece => piece :: scan none rest
    | .inr s => scan (some s) rest
  | some s, octet :: rest =>
    if s.least ≤ octet && octet ≤ s.greatest then
      let bits := s.bits * 64 + (octet.toNat - 0x80)
      if s.missing ≤ 1 then .char (Char.ofNat bits) :: scan none rest
      else scan (some ⟨bits, s.seen + 1, s.missing - 1, 0x80, 0xBF⟩) rest
    else
      .broken s.seen ::
        match start octet with
        | .inl piece => piece :: scan none rest
        | .inr next => scan (some next) rest

/-- The characters and broken pieces of octets. -/
def pieces (octets : ByteArray) : List Piece := scan none octets.toList

/-- The character shown for a piece. -/
def Piece.shown : Piece → Char
  | .char c => c
  | .broken _ => '\uFFFD'
  | .cut _ => '\uFFFD'

/-- The text of octets, with a replacement character for each broken piece. -/
def lossy (octets : ByteArray) : String := String.ofList ((pieces octets).map Piece.shown)

/-- The first place where octets are no UTF-8. -/
structure Fault where
  /-- How many octets stand before it. -/
  position : Nat
  /-- The length of the broken piece; `none` where the end of the input cuts a character off. -/
  length : Option Nat
  deriving Repr, DecidableEq

/-- Collects the characters of pieces up to the first fault. -/
def collect : Nat → List Piece → Except Fault (List Char)
  | _, [] => .ok []
  | position, .char c :: rest => (collect (position + c.utf8Size) rest).map (c :: ·)
  | position, .broken n :: _ => .error ⟨position, some n⟩
  | position, .cut _ :: _ => .error ⟨position, none⟩

/-- The text of octets, or the first fault. -/
def decode (octets : ByteArray) : Except Fault String :=
  (collect 0 (pieces octets)).map String.ofList

/-- The wording of a fault. -/
def Fault.message (fault : Fault) : String :=
  match fault.length with
  | some n => s!"invalid utf-8 sequence of {n} bytes from index {fault.position}"
  | none => s!"incomplete utf-8 byte sequence from index {fault.position}"

end MessageRouting.Text.Utf8
