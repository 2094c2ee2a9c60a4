/-
# Numbers as they are written

A number is written as a whole or as a real one.  Both stand for an amount; only the way of showing
them differs.
-/
import Conformance.Number.Decimal

namespace Conformance

/-- A number, whole or real. -/
inductive Number where
  /-- A whole number. -/
  | whole (i : Int)
  /-- A real number. -/
  | fractional (x : Binary64)
  deriving DecidableEq, Repr, Inhabited

namespace Number

/-- The amount, rounded to the format. -/
def real : Number → Binary64
  | .whole i => Binary64.ofInt i
  | .fractional x => x

/-- Whether a natural number is greater. -/
def isExceededBy (n : Nat) : Number → Bool
  | .whole i => i < n
  | .fractional x => x.lt (Binary64.ofInt n)

/-- The number as it is shown. -/
def text : Number → String
  | .whole i => intText i
  | .fractional x => x.text

end Number
end Conformance
