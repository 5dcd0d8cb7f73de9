/-!
# Runs of code points

A property of characters is held as an ascending list of runs: code points at one distance from each
other. Membership stops at the first run that begins beyond the code point asked for.
-/

namespace MessageRouting.Text

/-- The code points from `first` to `last`, each `step` above the one before. -/
structure Run where
  /-- The least code point. -/
  first : Nat
  /-- The greatest code point. -/
  last : Nat
  /-- The distance between neighbours; it is 1 for a plain range. -/
  step : Nat
  deriving Repr, DecidableEq

/-- A run holds the code points at a whole number of steps above its first. -/
def Run.holds (run : Run) (code : Nat) : Bool :=
  run.first ≤ code && code ≤ run.last && (code - run.first) % run.step == 0

/-- Membership in an ascending list of runs. -/
def inRuns : List Run → Nat → Bool
  | [], _ => false
  | run :: rest, code =>
    if code < run.first then false else run.holds code || inRuns rest code

/-- A run of code points that are all carried the same distance. -/
structure Shift where
  /-- The code points that move. -/
  run : Run
  /-- How far they move. -/
  distance : Int
  deriving Repr, DecidableEq

/-- Where the shifts carry a code point, if they move it. -/
def shifted? : List Shift → Nat → Option Nat
  | [], _ => none
  | shift :: rest, code =>
    if code < shift.run.first then none
    else if shift.run.holds code then some ((code : Int) + shift.distance).toNat
    else shifted? rest code

end MessageRouting.Text
