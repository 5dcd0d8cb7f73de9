/-!
# Durations

A duration is a count of nanoseconds, never negative and less than 2^64 seconds. Sums and differences
that leave these bounds are refused.
-/

namespace MessageRouting.Time

/-- Nanoseconds per second. -/
def nanosPerSecond : Nat := 1000000000

/-- A length of time. -/
structure Duration where
  /-- The whole length in nanoseconds. -/
  nanos : Nat
  /-- The length is less than 2^64 seconds. -/
  bounded : nanos < 18446744073709551616 * nanosPerSecond
  deriving Repr, DecidableEq

namespace Duration

/-- A duration of so many nanoseconds, if it is within bounds. -/
def ofNanos? (nanos : Nat) : Option Duration :=
  if h : nanos < 18446744073709551616 * nanosPerSecond then some ⟨nanos, h⟩ else none

/-- No time at all. -/
def zero : Duration := ⟨0, by decide⟩

/-- The greatest duration. -/
def greatest : Duration := ⟨18446744073709551616 * nanosPerSecond - 1, by decide⟩

/-- A duration of milliseconds; a count beyond the bounds stands for the greatest duration. -/
def ofMillis (millis : Nat) : Duration := (ofNanos? (millis * 1000000)).getD greatest

instance : Inhabited Duration := ⟨zero⟩

/-- The whole seconds. -/
def seconds (d : Duration) : Nat := d.nanos / nanosPerSecond

/-- The nanoseconds beyond the whole seconds. -/
def fraction (d : Duration) : Nat := d.nanos % nanosPerSecond

/-- The whole milliseconds. -/
def millis (d : Duration) : Nat := d.nanos / 1000000

/-- The sum of two durations, unless it is out of bounds. -/
def add? (a b : Duration) : Option Duration := ofNanos? (a.nanos + b.nanos)

/-- The difference of two durations, unless it is negative. -/
def sub? (a b : Duration) : Option Duration :=
  if b.nanos ≤ a.nanos then ofNanos? (a.nanos - b.nanos) else none

/-- Decimal digits after a point, without the zeros at their end; nothing for zero. -/
def decimals (width value : Nat) : String :=
  let digits := (Nat.toDigits 10 value)
  let padded := List.replicate (width - digits.length) '0' ++ digits
  let shown := (padded.reverse.dropWhile (· == '0')).reverse
  if shown.isEmpty then "" else "." ++ String.ofList shown

/-- The text of a duration: in the greatest of the units s, ms, µs and ns that is not above it, with all
its decimals. -/
def text (d : Duration) : String :=
  if d.nanos ≥ 1000000000 then s!"{d.nanos / 1000000000}{decimals 9 (d.nanos % 1000000000)}s"
  else if d.nanos ≥ 1000000 then s!"{d.nanos / 1000000}{decimals 6 (d.nanos % 1000000)}ms"
  else if d.nanos ≥ 1000 then s!"{d.nanos / 1000}{decimals 3 (d.nanos % 1000)}µs"
  else s!"{d.nanos}ns"

end Duration

end MessageRouting.Time
