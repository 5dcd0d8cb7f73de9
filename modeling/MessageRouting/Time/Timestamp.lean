import MessageRouting.Time.Calendar
import MessageRouting.Time.Duration

/-!
# Points in time

A timestamp counts seconds from 1970 and nanoseconds within a second, over the years -262143 to 262142.
A leap second keeps the number of the second before it and has 10^9 nanoseconds or more; arithmetic
treats it as the moment before the next second.
-/

namespace MessageRouting.Time

/-- Seconds per day. -/
def secondsPerDay : Int := 86400

/-- The first second of the range. -/
def leastSecond : Int := -8334601228800

/-- The last second of the range. -/
def greatestSecond : Int := 8210266876799

/-- A point in time. -/
structure Timestamp where
  /-- Seconds since the start of 1970. -/
  seconds : Int
  /-- Nanoseconds within the second; from 10^9 in a leap second. -/
  nanos : Nat
  /-- The second is within the range. -/
  inRange : leastSecond ≤ seconds ∧ seconds ≤ greatestSecond
  /-- There are less than two seconds of nanoseconds. -/
  nanosBounded : nanos < 2000000000
  deriving Repr, DecidableEq

namespace Timestamp

/-- The timestamp with the given seconds and nanoseconds, if it is within the range. -/
def ofParts? (seconds : Int) (nanos : Nat) : Option Timestamp :=
  if h : (leastSecond ≤ seconds ∧ seconds ≤ greatestSecond) ∧ nanos < 2000000000 then
    some ⟨seconds, nanos, h.1, h.2⟩
  else none

/-- The start of 1970. -/
def epoch : Timestamp := ⟨0, 0, by decide, by decide⟩

instance : Inhabited Timestamp := ⟨epoch⟩

/-- The timestamp so many milliseconds after the start of 1970, if it is within the range. -/
def ofMillis? (millis : Int) : Option Timestamp :=
  ofParts? (millis.fdiv 1000) (millis.fmod 1000 * 1000000).toNat

/-- Whole milliseconds since the start of 1970. -/
def millis (t : Timestamp) : Int := t.seconds * 1000 + t.nanos / 1000000

/-- The date. -/
def date (t : Timestamp) : Date := Date.ofNumber (t.seconds.fdiv secondsPerDay)

/-- The second of the day. -/
def secondOfDay (t : Timestamp) : Nat := (t.seconds.fmod secondsPerDay).toNat

/-- The hour, 0 to 23. -/
def hour (t : Timestamp) : Nat := t.secondOfDay / 3600

/-- The minute, 0 to 59. -/
def minute (t : Timestamp) : Nat := t.secondOfDay / 60 % 60

/-- The second, 0 to 59, or 60 in a leap second after a 59th second. -/
def second (t : Timestamp) : Nat := t.secondOfDay % 60 + t.nanos / 1000000000

/-- The nanoseconds shown beside the second. -/
def fraction (t : Timestamp) : Nat := t.nanos % 1000000000

/-- Adds seconds and nanoseconds that have one sign. A leap second is left as soon as the sum goes
beyond it, and stands for the start of the next second when the sum goes back. -/
def shift? (t : Timestamp) (seconds nanos : Int) : Option Timestamp :=
  let carry (base : Int) (total : Int) : Option Timestamp :=
    ofParts? (base + seconds + total.fdiv 1000000000) (total.fmod 1000000000).toNat
  if t.nanos < 1000000000 then carry t.seconds (t.nanos + nanos)
  else if 0 < seconds || (0 < nanos && 2000000000 ≤ t.nanos + nanos) then
    carry t.seconds (t.nanos - 1000000000 + nanos)
  else if seconds < 0 then carry (t.seconds + 1) (t.nanos - 1000000000 + nanos)
  else ofParts? t.seconds (t.nanos + nanos).toNat

/-- The point in time a duration later. -/
def add? (t : Timestamp) (d : Duration) : Option Timestamp := t.shift? d.seconds d.fraction

/-- The point in time a duration earlier. -/
def sub? (t : Timestamp) (d : Duration) : Option Timestamp := t.shift? (-d.seconds) (-d.fraction)

/-- The nanoseconds from one point in time to another. A leap second within the day between them
counts. -/
def nanosSince (later earlier : Timestamp) : Int :=
  let leap (t : Timestamp) : Int := if 1000000000 ≤ t.nanos then 1 else 0
  let adjust : Int :=
    if earlier.secondOfDay < later.secondOfDay then leap earlier
    else if later.secondOfDay < earlier.secondOfDay then -leap later
    else 0
  (later.seconds - earlier.seconds + adjust) * 1000000000 + ((later.nanos : Int) - earlier.nanos)

/-- The duration from one point in time to a later one, unless it is negative. -/
def since? (later earlier : Timestamp) : Option Duration :=
  let nanos := later.nanosSince earlier
  if nanos < 0 then none else Duration.ofNanos? nanos.toNat

/-- The order of points in time: by second, then by nanosecond. -/
def compare (a b : Timestamp) : Ordering :=
  (Ord.compare a.seconds b.seconds).then (Ord.compare a.nanos b.nanos)

end Timestamp

end MessageRouting.Time
