/-
# Tests on single characters

What one place of a pattern accepts: a given character, a range, a class such as the word
characters, and combinations of these.  A test may disregard case; it then accepts a character
if it accepts one of the letters that differ from it in case alone.
-/
import Conformance.Pattern.CaseRule
import Conformance.Text.Blank
import Conformance.Text.Letters

namespace Conformance

/-- A test on a character. -/
inductive CharTest where
  /-- Every character. -/
  | any
  /-- No character. -/
  | never
  /-- One character. -/
  | char (c : Char)
  /-- The characters between two code points, both included. -/
  | range (lo hi : Nat)
  /-- Decimal digits; of any script unless `ascii` is set. -/
  | digit (ascii : Bool)
  /-- Blanks; only those below code point 128 if `ascii` is set. -/
  | blank (ascii : Bool)
  /-- Word characters; only those below code point 128 if `ascii` is set. -/
  | word (ascii : Bool)
  /-- What one of two tests accepts. -/
  | either (a b : CharTest)
  /-- What a test refuses. -/
  | except (a : CharTest)
  /-- What a test accepts of a letter that a rule takes for the same. -/
  | folded (rule : CaseRule) (a : CharTest)
  deriving DecidableEq, Repr, Inhabited

namespace CharTest

/-- Whether a test accepts a character. -/
def accepts : CharTest → Char → Bool
  | .any, _ => true
  | .never, _ => false
  | .char d, c => c == d
  | .range lo hi, c => lo ≤ c.toNat && c.toNat ≤ hi
  | .digit ascii, c => if ascii then c.isDigit else Text.isDecimalDigit c
  | .blank ascii, c =>
    if ascii then c == ' ' || (0x09 ≤ c.toNat && c.toNat ≤ 0x0D) else Text.isBlank c
  | .word ascii, c => if ascii then c == '_' || c.isAlphanum else Text.isWord c
  | .either a b, c => a.accepts c || b.accepts c
  | .except a, c => !a.accepts c
  | .folded rule a, c => (rule.variants c).any a.accepts

/-- The character of a code point, and nothing if no character has it. -/
def point (n : Nat) : CharTest :=
  if n.isValidChar then .char (Char.ofNat n) else .never

/-- The characters between two characters, both included. -/
def between (lo hi : Char) : CharTest :=
  .range lo.toNat hi.toNat

/-- What one of several tests accepts. -/
def oneOf : List CharTest → CharTest
  | [] => .never
  | [t] => t
  | t :: ts => .either t (oneOf ts)

/-- One of the given characters. -/
def chars (cs : List Char) : CharTest :=
  oneOf (cs.map .char)

/-- None of the given characters. -/
def noneOf (cs : List Char) : CharTest :=
  .except (chars cs)

/-- A test under a rule for case. -/
def under (rule : CaseRule) (t : CharTest) : CharTest :=
  if rule == .exact then t else .folded rule t

/-- Whether a rule for case changes what a character or a range accepts.  A range may hold letters,
so every rule but the exact one counts for it. -/
def dependsOn (rule : CaseRule) : CharTest → Bool
  | .char c => (rule.variants c).any (· != c)
  | .range _ _ => rule != .exact
  | _ => false

/-- The same test with classes that are limited to code points below 128, or not. -/
def reading (ascii : Bool) : CharTest → CharTest
  | .digit _ => .digit ascii
  | .blank _ => .blank ascii
  | .word _ => .word ascii
  | .either a b => .either (a.reading ascii) (b.reading ascii)
  | .except a => .except (a.reading ascii)
  | t => t

end CharTest
end Conformance
