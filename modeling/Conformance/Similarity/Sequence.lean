/-
# Common runs of two texts

How many characters of two texts match: the longest common run is taken, and then the texts before
it and after it are compared in the same way.  In a long second text frequent characters do not
start a run; they only extend one.  Of several longest runs the one that comes first in the first
text is taken, and then first in the second.
-/
import Conformance.Number.Binary64

namespace Conformance.Sequence

/-- A common run: where it starts in the first text and in the second, and its length. -/
structure Run where
  /-- Its start in the first text. -/
  left : Nat
  /-- Its start in the second text. -/
  right : Nat
  /-- Its length. -/
  size : Nat
  deriving DecidableEq, Repr, Inhabited

/-- The length of the common beginning of two texts. -/
def commonStart : List Char → List Char → Nat
  | x :: xs, y :: ys => if x == y then commonStart xs ys + 1 else 0
  | _, _ => 0

/-- For every place of the second text, the length of the common run that ends there and at the
character `x` of the first; `before` holds these lengths for the character before `x`, and
`diagonal` the one of the place before the first. -/
def runsEndingAt (seeds : Char → Bool) (x : Char) :
    (diagonal : Nat) → List Char → (before : List Nat) → List Nat
  | _, [], _ => []
  | diagonal, y :: ys, before =>
    (if x == y && seeds y then diagonal + 1 else 0) ::
      runsEndingAt seeds x (before.headD 0) ys before.tail

/-- The best run so far and those that end at one character of the first text: a longer one
replaces it. -/
def improve (i : Nat) : (j : Nat) → (best : Run) → List Nat → Run
  | _, best, [] => best
  | j, best, k :: ks =>
    improve i (j + 1) (if best.size < k then ⟨i + 1 - k, j + 1 - k, k⟩ else best) ks

/-- The longest run of characters that start runs, from the character `i` of the first text on. -/
def seedFrom (seeds : Char → Bool) (b : List Char) :
    (i : Nat) → (before : List Nat) → (best : Run) → List Char → Run
  | _, _, best, [] => best
  | i, before, best, x :: xs =>
    let row := runsEndingAt seeds x 0 b before
    seedFrom seeds b (i + 1) row (improve i 0 best row) xs

/-- A run made longer on both sides as far as the texts agree. -/
def extend (a b : List Char) (r : Run) : Run :=
  let back := commonStart (a.take r.left).reverse (b.take r.right).reverse
  let on := commonStart (a.drop (r.left + r.size)) (b.drop (r.right + r.size))
  ⟨r.left - back, r.right - back, r.size + back + on⟩

/-- The longest common run of two texts. -/
def longest (seeds : Char → Bool) (a b : List Char) : Run :=
  extend a b (seedFrom seeds b 0 [] ⟨0, 0, 0⟩ a)

/-- The number of characters that match.  The first text gets shorter with every run that is taken
out, so its length bounds the depth. -/
def matchesFrom (seeds : Char → Bool) : (fuel : Nat) → List Char → List Char → Nat
  | 0, _, _ => 0
  | fuel + 1, a, b =>
    let r := longest seeds a b
    if r.size == 0 then 0
    else r.size + matchesFrom seeds fuel (a.take r.left) (b.take r.right) +
      matchesFrom seeds fuel (a.drop (r.left + r.size)) (b.drop (r.right + r.size))

/-- The length from which on frequent characters start no run. -/
def longText : Nat := 200

/-- Whether a character starts a run in a given second text: in a long one it may make up at most
a hundredth of it, and one more. -/
def seedsIn (b : List Char) (c : Char) : Bool :=
  b.length < longText || b.count c ≤ b.length / 100 + 1

/-- The characters of a text that start no run. -/
def frequent (b : List Char) : List Char :=
  b.eraseDups.filter fun c => !seedsIn b c

/-- The number of matching characters of two texts. -/
def matchCount (a b : List Char) : Nat :=
  let dull := frequent b
  matchesFrom (fun c => !dull.contains c) a.length a b

/-- Twice the number of matching characters divided by the number of all; one if there are none.
Both numbers are rounded before they are divided. -/
def ratio (a b : List Char) : Binary64 :=
  if a.length + b.length == 0 then Binary64.ofInt 1
  else Binary64.ofRounded (2 * matchCount a b : Nat) (a.length + b.length : Nat)

end Conformance.Sequence
