/-
# Letters that differ in case alone

A comparison may take letters for the same that differ in case alone, either all of them or only
those below code point 128.  Two letters have the same small letter, or small letters that share
a capital; a reference to text matched before looks at the small letters alone.
-/
import Conformance.Text.LowerCase

namespace Conformance

/-- Which letters a comparison takes for the same. -/
inductive CaseRule where
  /-- No two different ones. -/
  | exact
  /-- Letters below code point 128 that differ in case alone. -/
  | ascii
  /-- All letters that differ in case alone. -/
  | full
  deriving DecidableEq, Repr, Inhabited

/-- Small letters that have the same capital, beyond those that lower case relates. -/
def sharedCapital : List (List Nat) :=
  [[0x69, 0x131], [0x73, 0x17F], [0xB5, 0x3BC], [0x345, 0x3B9, 0x1FBE], [0x390, 0x1FD3],
   [0x3B0, 0x1FE3], [0x3B2, 0x3D0], [0x3B5, 0x3F5], [0x3B8, 0x3D1], [0x3BA, 0x3F0],
   [0x3C0, 0x3D6], [0x3C1, 0x3F1], [0x3C2, 0x3C3], [0x3C6, 0x3D5], [0x432, 0x1C80],
   [0x434, 0x1C81], [0x43E, 0x1C82], [0x441, 0x1C83], [0x442, 0x1C84, 0x1C85], [0x44A, 0x1C86],
   [0x463, 0x1C87], [0x1C88, 0xA64B], [0x1E61, 0x1E9B], [0xFB05, 0xFB06]]

/-- The small letters that stand for the same letter as the given small letter. -/
def smallVariants (c : Char) : List Char :=
  match sharedCapital.find? (·.contains c.toNat) with
  | some group => group.map Char.ofNat
  | none => [c]

/-- The capitals of a small letter. -/
def capitalsOf (c : Char) : List Char :=
  let ascii := if c.isLower then [c.toUpper] else []
  ascii ++ Text.capitalRuns.toList.filterMap fun r =>
    let n : Int := c.toNat - r.shift
    if 0 ≤ n && r.lower? n.toNat == some c.toNat then some (Char.ofNat n.toNat) else none

namespace CaseRule

/-- The small letter that stands for a letter in comparisons of two texts. -/
def small : CaseRule → Char → Char
  | .exact, c => c
  | .ascii, c => c.toLower
  | .full, c => Text.lowerChar c

/-- Whether two characters have the same small letter. -/
def same (rule : CaseRule) (a b : Char) : Bool :=
  rule.small a == rule.small b

/-- The characters that differ from the given one in case alone, itself included. -/
def variants : CaseRule → Char → List Char
  | .exact, c => [c]
  | .ascii, c => [c.toLower, c.toUpper]
  | .full, c =>
    let small := smallVariants (Text.lowerChar c)
    small ++ small.flatMap capitalsOf

end CaseRule
end Conformance
