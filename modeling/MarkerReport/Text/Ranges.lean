/-! # Sets and maps of code points

Character properties are tables of stretches of code points in increasing order. Three shapes are
enough: plain ranges, runs that take every second code point, and shifts that carry a run to another
run. A look-up walks the table and stops as soon as the table has passed the code point sought.
-/

namespace MarkerReport.Text

/-- Stretches of code points in increasing order, both ends of each included. -/
abbrev Ranges := List (Nat × Nat)

/-- Whether a code point lies in one of the stretches. -/
def Ranges.contains : Ranges → Nat → Bool
  | [], _ => false
  | (first, last) :: rest, code =>
      if code < first then false
      else if code ≤ last then true
      else Ranges.contains rest code

/-- The code points `first, first + step, …` up to `last`. -/
structure Run where
  first : Nat
  last : Nat
  step : Nat
deriving Repr, DecidableEq

/-- Whether one of the runs, which are in increasing order, takes the code point. -/
def Run.anyContains : List Run → Nat → Bool
  | [], _ => false
  | run :: rest, code =>
      if code < run.first then false
      else if code ≤ run.last then (code - run.first) % run.step = 0
      else Run.anyContains rest code

/-- A run of code points carried, distance for distance, to the code points from `target` on. -/
structure Shift where
  first : Nat
  last : Nat
  step : Nat
  target : Nat
deriving Repr, DecidableEq

/-- Where the shifts, which are in increasing order, carry a code point that one of them takes. -/
def Shift.find? : List Shift → Nat → Option Nat
  | [], _ => none
  | shift :: rest, code =>
      if code < shift.first then none
      else if code ≤ shift.last then
        if (code - shift.first) % shift.step = 0 then some (shift.target + (code - shift.first))
        else none
      else Shift.find? rest code

end MarkerReport.Text
