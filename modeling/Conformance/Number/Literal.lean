/-
# Numbers read from free text

Numbers in environment variables and arguments are read leniently: blanks around the number, a
sign, decimal digits of any script and single underscores between digits are accepted.  The
words for infinity and for no number are accepted where a real number is wanted.
-/
import Conformance.Number.Binary64
import Conformance.Text.Blank
import Conformance.Text.Letters

namespace Conformance.Literal

/-- Blanks that may surround a number: the usual control blanks, the space, and any blank beyond
code point 127. -/
def isGap (c : Char) : Bool :=
  if c.toNat < 128 then c == ' ' || (0x09 ≤ c.toNat && c.toNat ≤ 0x0D) else Text.isBlank c

/-- A text without the blanks around it. -/
def trimGaps (cs : List Char) : List Char :=
  ((cs.dropWhile isGap).reverse.dropWhile isGap).reverse

/-- The sign at the start of a number, true for minus, and what follows. -/
def takeSign : List Char → Bool × List Char
  | '-' :: cs => (true, cs)
  | '+' :: cs => (false, cs)
  | cs => (false, cs)

/-- Whether a text starts with a decimal digit. -/
def startsWithDigit : List Char → Bool
  | [] => false
  | c :: _ => Text.isDecimalDigit c

/-- Digits in a row, with single underscores between them, as values; then the rest.  `inside`
tells that a digit has just been read. -/
def takeDigitsFrom (inside : Bool) : List Char → List Nat × List Char
  | [] => ([], [])
  | c :: cs =>
    match Text.digitValue? c with
    | some d => let (ds, rest) := takeDigitsFrom true cs; (d :: ds, rest)
    | none =>
      if inside && c == '_' && startsWithDigit cs then takeDigitsFrom false cs
      else ([], c :: cs)

/-- Digits in a row, with single underscores between them, as values; then the rest. -/
def takeDigits (cs : List Char) : List Nat × List Char :=
  takeDigitsFrom false cs

/-- The natural number with the given digits. -/
def ofDigits (ds : List Nat) : Nat :=
  ds.foldl (fun n d => 10 * n + d) 0

/-- An integer with its sign. -/
def withSign (negative : Bool) (n : Nat) : Int :=
  if negative then -(n : Int) else n

/-- The greatest number of digits that a whole number may be written with. -/
def digitLimit : Nat := 4300

/-- The message that a whole number is written with too many digits. -/
def tooManyDigits (count : Nat) : String :=
  "Exceeds the limit (" ++ toString digitLimit ++
    " digits) for integer string conversion: value has " ++ toString count ++
    " digits; use sys.set_int_max_str_digits() to increase the limit"

/-- The message that a whole number would be written with too many digits. -/
def tooLong : String :=
  "Exceeds the limit (" ++ toString digitLimit ++
    " digits) for integer string conversion; use sys.set_int_max_str_digits() to increase the limit"

/-- Why a text is not read as a whole number. -/
inductive WholeFault where
  /-- It is not written like one. -/
  | malformed
  /-- It has too many digits. -/
  | tooManyDigits (count : Nat)
  deriving DecidableEq, Repr, Inhabited

/-- Reads a whole number.  Its digits are counted before what follows them is looked at, unless an
underscore is out of place there. -/
def readWhole (s : String) : Except WholeFault Int :=
  let (negative, cs) := takeSign (trimGaps s.toList)
  let (ds, rest) := takeDigits cs
  if ds.isEmpty || rest.head? == some '_' then .error .malformed
  else if digitLimit < ds.length then .error (.tooManyDigits ds.length)
  else if rest.isEmpty then .ok (withSign negative (ofDigits ds))
  else .error .malformed

/-- The whole number that a text is read as, if it is one. -/
def readInt? (s : String) : Option Int :=
  (readWhole s).toOption

/-- Reads the exponent part of a real number: nothing, or a mark, a sign and digits. -/
def readExponent? : List Char → Option Int
  | [] => some 0
  | c :: cs =>
    if c == 'e' || c == 'E' then
      let (negative, cs) := takeSign cs
      match takeDigits cs with
      | ([], _) => none
      | (ds, []) => some (withSign negative (ofDigits ds))
      | _ => none
    else none

/-- Reads digits with an optional fraction part and exponent. -/
def readDecimal? (negative : Bool) (cs : List Char) : Option Binary64 :=
  let (whole, rest) := takeDigits cs
  let (frac, rest) := match rest with
    | '.' :: rest => takeDigits rest
    | rest => ([], rest)
  if whole.isEmpty && frac.isEmpty then none
  else (readExponent? rest).map fun e =>
    Binary64.ofDecimal negative (ofDigits (whole ++ frac)) (e - frac.length)

/-- Reads a real number. -/
def readReal? (s : String) : Option Binary64 :=
  let (negative, cs) := takeSign (trimGaps s.toList)
  let word := String.ofList (cs.map Char.toLower)
  if word == "inf" || word == "infinity" then some (.infinite negative)
  else if word == "nan" then some .nan
  else readDecimal? negative cs

end Conformance.Literal
