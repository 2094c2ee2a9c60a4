/-
# Sets of characters given by their runs

A property of characters that a standard fixes by a table is stored as the sorted list of the
places where it changes: the property holds from the first bound up to the second, from the
third up to the fourth, and so on.  A character has the property exactly when the number of
bounds at or below it is odd.
-/

namespace Conformance.Text

/-- A set of characters, as the sorted bounds of its half-open runs of code points. -/
structure Ranges where
  /-- Start and end of the runs, alternating. -/
  bounds : Array Nat

namespace Ranges

/-- How many bounds lie at or below a code point. -/
def rank (r : Ranges) (n : Nat) : Nat :=
  r.bounds.foldl (fun k b => if b ≤ n then k + 1 else k) 0

/-- Whether a character lies in one of the runs. -/
def contains (r : Ranges) (c : Char) : Bool :=
  r.rank c.toNat % 2 == 1

/-- The distance of a character from the start of its run, if it lies in one. -/
def offset? (r : Ranges) (c : Char) : Option Nat :=
  let k := r.rank c.toNat
  if k % 2 == 1 then r.bounds[k - 1]?.map (c.toNat - ·) else none

end Ranges
end Conformance.Text
