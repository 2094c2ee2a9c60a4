/-
# Decimal text of numbers

Four ways to write a binary64 number: with the fewest digits that read back, with a fixed number
of places, in scientific form, and in general form.  Each computes exact decimal digits first;
the notations only place the point, the sign and the exponent.
-/
import Conformance.Number.Binary64

namespace Conformance

/-- The decimal digits of a natural number. -/
def decimalDigits (n : Nat) : List Char :=
  Nat.toDigits 10 n

/-- Decimal digits `d₁ d₂ …` that stand for `0.d₁d₂… * 10 ^ point`. -/
structure Expansion where
  /-- The digits, the first one not zero unless it is the only one. -/
  digits : List Char
  /-- The number of digits before the point. -/
  point : Int
  deriving DecidableEq, Repr

namespace Expansion

/-- The expansion without the zeros at its end; one digit stays. -/
def trimZeros (x : Expansion) : Expansion :=
  match (x.digits.reverse.dropWhile (· == '0')).reverse with
  | [] => { x with digits := ['0'] }
  | ds => { x with digits := ds }

/-- The power of ten of the first digit of a positive fraction: the greatest `k` with
`10 ^ k ≤ num / den`, searched downwards from a bound above it. -/
def leadingPower (num den : Nat) : (fuel : Nat) → Int → Int
  | 0, k => k
  | fuel + 1, k =>
    let reached :=
      if 0 ≤ k then den * Nat.pow 10 k.toNat ≤ num else den ≤ num * Nat.pow 10 (-k).toNat
    if reached then k else leadingPower num den fuel (k - 1)

/-- The power of ten of the first digit of a positive fraction. -/
def powerOf (num den : Nat) : Int :=
  let bits : Int := (Nat.log2 num : Int) - (Nat.log2 den : Int) + 1
  leadingPower num den 8 (bits * 30103 / 100000 + 2)

/-- A positive fraction in units of `10 ^ unit`, as numerator and denominator. -/
def inUnits (num den : Nat) (unit : Int) : Nat × Nat :=
  if 0 ≤ unit then (num, den * Nat.pow 10 unit.toNat)
  else (num * Nat.pow 10 (-unit).toNat, den)

/-- The expansion of `count` units of `10 ^ unit`. -/
def ofUnits (count : Nat) (unit : Int) : Expansion :=
  let ds := decimalDigits count
  ⟨ds, ds.length + unit⟩

/-- A positive fraction rounded to `n` significant digits, a half to the even digit. -/
def significant (num den n : Nat) : Expansion :=
  let unit := powerOf num den - n + 1
  let (a, b) := inUnits num den unit
  let x := ofUnits (roundHalfEven a b) unit
  { x with digits := x.digits.take n }

/-- The expansion read back as a binary64 number. -/
def readBack (count : Nat) (unit : Int) : Binary64 :=
  Binary64.ofDecimal false count unit

/-- With `n` digits: the neighbour of the fraction on that grid that reads back as `x`, the
nearer one if both do. -/
def neighbour? (x : Binary64) (num den n : Nat) : Option Expansion :=
  let unit := powerOf num den - n + 1
  let (a, b) := inUnits num den unit
  let below := a / b
  let nearest := roundHalfEven a b
  let other := if nearest == below then below + 1 else below
  if readBack nearest unit == x then some (ofUnits nearest unit)
  else if readBack other unit == x then some (ofUnits other unit)
  else none

/-- The fewest digits that read back, trying one digit, then two, up to seventeen. -/
def shortest (mantissa : Nat) (exponent : Int) : Expansion :=
  if mantissa == 0 then ⟨['0'], 1⟩
  else
    let (num, den) := Binary64.fraction mantissa exponent
    let x := Binary64.finite false mantissa exponent
    match (List.range 17).findSome? fun i => neighbour? x num den (i + 1) with
    | some e => e.trimZeros
    | none => significant num den 17

end Expansion

namespace Decimal

/-- The sign of a number in front of its digits. -/
def sign (negative : Bool) : List Char :=
  if negative then ['-'] else []

/-- The exponent of scientific notation: a sign and at least two digits. -/
def exponentText (e : Int) : List Char :=
  let ds := decimalDigits e.natAbs
  let ds := if ds.length < 2 then '0' :: ds else ds
  'e' :: (if e < 0 then '-' else '+') :: ds

/-- Digits with the point in its place, padded with zeros; no point if there is no fraction
part. -/
def positional (x : Expansion) : List Char :=
  if x.point ≤ 0 then
    '0' :: '.' :: List.replicate (-x.point).toNat '0' ++ x.digits
  else
    let p := x.point.toNat
    let whole := x.digits.take p ++ List.replicate (p - x.digits.length) '0'
    match x.digits.drop p with
    | [] => whole
    | frac => whole ++ '.' :: frac

/-- Digits in scientific notation; no point if there is one digit. -/
def scientific (x : Expansion) : List Char :=
  match x.digits with
  | [] => ['0']
  | [d] => d :: exponentText (x.point - 1)
  | d :: ds => d :: '.' :: ds ++ exponentText (x.point - 1)

/-- Text of infinities and of no number. -/
def special : Binary64 → List Char
  | .nan => "nan".toList
  | .infinite s => sign s ++ "inf".toList
  | .finite .. => []

/-- The text with a fraction part added if it has none. -/
def withFraction (cs : List Char) : List Char :=
  if cs.contains '.' then cs else cs ++ ['.', '0']

/-- The number with the fewest digits that read back; positional from `0.0001` up to below
`10 ^ 16`, and then with at least one digit after the point. -/
def shortest : Binary64 → List Char
  | .finite s m e =>
    let x := Expansion.shortest m e
    sign s ++ if -4 < x.point && x.point ≤ 16 then withFraction (positional x) else scientific x
  | x => special x

/-- A finite magnitude with `places` digits after the point. -/
def fixedMagnitude (mantissa : Nat) (exponent : Int) (places : Nat) (keepPoint : Bool) :
    List Char :=
  let (num, den) := Binary64.fraction mantissa exponent
  let units := roundHalfEven (num * Nat.pow 10 places) den
  let ds := decimalDigits units
  let ds := List.replicate (places + 1 - ds.length) '0' ++ ds
  let whole := ds.take (ds.length - places)
  if places == 0 then (if keepPoint then whole ++ ['.'] else whole)
  else whole ++ '.' :: ds.drop (ds.length - places)

/-- The number with a fixed number of places. -/
def fixed (places : Nat) (keepPoint : Bool) : Binary64 → List Char
  | .finite s m e => sign s ++ fixedMagnitude m e places keepPoint
  | x => special x

/-- The first `n` digits of a finite magnitude. -/
def leading (mantissa : Nat) (exponent : Int) (n : Nat) : Expansion :=
  if mantissa == 0 then ⟨List.replicate n '0', 1⟩
  else
    let (num, den) := Binary64.fraction mantissa exponent
    Expansion.significant num den n

/-- The number in scientific form with `places` digits after the point. -/
def exponential (places : Nat) (keepPoint : Bool) : Binary64 → List Char
  | .finite s m e =>
    let x := leading m e (places + 1)
    let text := match x.digits with
      | [d] => d :: (if keepPoint then ['.'] else []) ++ exponentText (x.point - 1)
      | _ => scientific x
    sign s ++ text
  | x => special x

/-- The number with `precision` significant digits, positional unless the point lies far from
the digits.  `keepZeros` keeps the zeros at the end, `addFraction` asks for a digit after the
point. -/
def general (precision : Nat) (keepZeros addFraction : Bool) : Binary64 → List Char
  | .finite s m e =>
    let p := max precision 1
    let x := leading m e p
    let y := if keepZeros then x else x.trimZeros
    let limit : Int := if addFraction then p - 1 else p
    let text :=
      if x.point ≤ -4 || limit < x.point then
        match y.digits with
        | [d] => d :: (if keepZeros then ['.'] else []) ++ exponentText (x.point - 1)
        | _ => scientific y
      else
        let t := positional y
        if addFraction then withFraction t
        else if keepZeros && !t.contains '.' then t ++ ['.'] else t
    sign s ++ text
  | x => special x

/-- The number times one hundred with `places` digits and a percent sign. -/
def percent (places : Nat) (keepPoint : Bool) (x : Binary64) : List Char :=
  fixed places keepPoint (x.timesNat 100) ++ ['%']

end Decimal

/-- The fewest digits that read back, as a string. -/
def Binary64.text (x : Binary64) : String :=
  String.ofList (Decimal.shortest x)

/-- The number as a whole percentage. -/
def Binary64.percentText (x : Binary64) : String :=
  String.ofList (Decimal.percent 0 false x)

/-- The decimal text of an integer. -/
def intText (i : Int) : String :=
  String.ofList (if i < 0 then '-' :: decimalDigits i.natAbs else decimalDigits i.natAbs)

end Conformance
