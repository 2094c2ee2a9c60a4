/-
# Binary floating-point numbers of 64 bits

Ratios, thresholds and size limits are numbers of the binary64 format.  They are kept as sign,
mantissa and exponent, so that rounding, order and printing are statements about natural numbers.
Every operation computes the exact result as a fraction and rounds it once, to the nearest
number of the format, a half going to the even neighbour.
-/

namespace Conformance

/-- The nearest natural number to a quotient; a half goes to the even neighbour. -/
def roundHalfEven (num den : Nat) : Nat :=
  let q := num / den
  let r := 2 * (num % den)
  if r < den then q else if den < r then q + 1 else if q % 2 == 0 then q else q + 1

/-- A number of the binary64 format.  A finite one stands for `± mantissa * 2 ^ exponent`. -/
inductive Binary64 where
  /-- No number. -/
  | nan
  /-- An infinity of the given sign. -/
  | infinite (negative : Bool)
  /-- A finite number. -/
  | finite (negative : Bool) (mantissa : Nat) (exponent : Int)
  deriving DecidableEq, Repr, Inhabited

namespace Binary64

/-- The least exponent of the format. -/
def minExponent : Int := -1074

/-- The greatest exponent of the format. -/
def maxExponent : Int := 971

/-- One more than the greatest mantissa. -/
def mantissaBound : Nat := Nat.pow 2 53

/-- Zero with the given sign. -/
def zero (negative : Bool := false) : Binary64 := .finite negative 0 minExponent

/-- A fraction multiplied by a power of two, as numerator and denominator. -/
def scale (num den : Nat) (e : Int) : Nat × Nat :=
  if 0 ≤ e then (num * Nat.pow 2 e.toNat, den) else (num, den * Nat.pow 2 (-e).toNat)

/-- The exponent at which a positive fraction has a mantissa of 53 bits, or the least one. -/
def exponentOf (num den : Nat) : Int :=
  let guess : Int := (Nat.log2 num : Int) - (Nat.log2 den : Int) - 52
  let (n, d) := scale num den (-guess)
  let e := if n < Nat.pow 2 52 * d then guess - 1 else guess
  max e minExponent

/-- The fraction `num / den` with the given sign, rounded to the format. -/
def ofFraction (negative : Bool) (num den : Nat) : Binary64 :=
  if num == 0 || den == 0 then zero negative
  else
    let e := exponentOf num den
    let (n, d) := scale num den (-e)
    let m := roundHalfEven n d
    let (m, e) := if m == mantissaBound then (Nat.pow 2 52, e + 1) else (m, e)
    if maxExponent < e then .infinite negative else .finite negative m e

/-- The quotient of two counts; nothing divided by nothing is no number. -/
def ofRatio (num den : Nat) : Binary64 :=
  if den == 0 then (if num == 0 then .nan else .infinite false) else ofFraction false num den

/-- An integer, rounded to the format. -/
def ofInt (i : Int) : Binary64 :=
  ofFraction (decide (i < 0)) i.natAbs 1

/-- A decimal number `± digits * 10 ^ exponent`, rounded to the format.  Exponents far outside
the range of the format are decided without computing the power. -/
def ofDecimal (negative : Bool) (digits : Nat) (exponent : Int) : Binary64 :=
  if digits == 0 then zero negative
  else
    let size : Int := (Nat.log2 digits : Int) / 3 + 1 + exponent
    if 400 < (exponent : Int) && 0 < size then .infinite negative
    else if size < -400 then zero negative
    else if 0 ≤ exponent then ofFraction negative (digits * Nat.pow 10 exponent.toNat) 1
    else ofFraction negative digits (Nat.pow 10 (-exponent).toNat)

/-- The magnitude of a finite number as a fraction. -/
def fraction (mantissa : Nat) (exponent : Int) : Nat × Nat :=
  scale mantissa 1 exponent

/-- The quotient of two numbers, rounded; nothing divided by nothing is no number. -/
def divide : Binary64 → Binary64 → Binary64
  | .nan, _ => .nan
  | _, .nan => .nan
  | .infinite _, .infinite _ => .nan
  | .infinite s, .finite t _ _ => .infinite (s != t)
  | .finite s _ _, .infinite t => zero (s != t)
  | .finite s m e, .finite t n f =>
    if n == 0 then (if m == 0 then .nan else .infinite (s != t))
    else
      let (a, b) := fraction m e
      let (c, d) := fraction n f
      ofFraction (s != t) (a * d) (b * c)

/-- The quotient of two integers that are rounded to the format first. -/
def ofRounded (num den : Int) : Binary64 :=
  (ofInt num).divide (ofInt den)

/-- A mantissa with its sign. -/
def signed (negative : Bool) (mantissa : Nat) : Int :=
  if negative then -(mantissa : Int) else mantissa

/-- Order of finite numbers, by their mantissas at a common exponent. -/
def ltFinite (m₁ : Int) (e₁ : Int) (m₂ : Int) (e₂ : Int) : Bool :=
  let e := min e₁ e₂
  decide (m₁ * (Nat.pow 2 (e₁ - e).toNat : Nat) < m₂ * (Nat.pow 2 (e₂ - e).toNat : Nat))

/-- Strict order; false when one side is no number. -/
def lt : Binary64 → Binary64 → Bool
  | .nan, _ => false
  | _, .nan => false
  | .infinite s, .infinite t => s && !t
  | .infinite s, .finite .. => s
  | .finite .., .infinite t => !t
  | .finite s m e, .finite t n f => ltFinite (signed s m) e (signed t n) f

/-- Equality as numbers: both zeros are equal, and no number equals nothing. -/
def eq : Binary64 → Binary64 → Bool
  | .nan, _ => false
  | _, .nan => false
  | x, y => !lt x y && !lt y x

/-- Order; false when one side is no number. -/
def le (x y : Binary64) : Bool :=
  lt x y || eq x y

/-- The number times a natural number, rounded. -/
def timesNat (k : Nat) : Binary64 → Binary64
  | .nan => .nan
  | .infinite s => .infinite s
  | .finite s m e =>
    let (n, d) := fraction m e
    ofFraction s (n * k) d

/-- The integer part of a finite number. -/
def truncate (negative : Bool) (mantissa : Nat) (exponent : Int) : Int :=
  let (n, d) := fraction mantissa exponent
  signed negative (n / d)

/-- Whether the sign bit is set. -/
def isNegative : Binary64 → Bool
  | .nan => false
  | .infinite s => s
  | .finite s _ _ => s

end Binary64
end Conformance
