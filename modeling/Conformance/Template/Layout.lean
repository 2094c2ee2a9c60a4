/-
# Layouts

The layout of a field says how its value is written: fill and alignment, sign, width, separators
of thousands, precision and presentation.  Texts and numbers understand different parts of it and
refuse the rest.
-/
import Conformance.Template.Fault
import Conformance.Text.Letters

namespace Conformance

/-- The layout of a field, as read. -/
structure Layout where
  /-- The character that fills the width. -/
  fill : Char
  /-- Where the value stands: left, right, centre, or right with the sign left. -/
  align : Char
  /-- What to write for a sign. -/
  sign : Option Char
  /-- Whether a zero loses its sign. -/
  coerceZero : Bool
  /-- Whether the alternate form is wanted. -/
  alternate : Bool
  /-- The least width. -/
  width : Option Nat
  /-- The separator of thousands. -/
  separator : Option Char
  /-- The precision. -/
  precision : Option Nat
  /-- The presentation. -/
  presentation : Option Char
  deriving DecidableEq, Repr, Inhabited

namespace Layout

/-! ## Reading -/

/-- Whether a character is an alignment. -/
def isAlign (c : Char) : Bool :=
  c == '<' || c == '>' || c == '=' || c == '^'

/-- Fill and alignment at the start of a layout. -/
def takeAlign : List Char → Option (Option Char × Char) × List Char
  | f :: a :: rest =>
    if isAlign a then (some (some f, a), rest)
    else if isAlign f then (some (none, f), a :: rest)
    else (none, f :: a :: rest)
  | [a] => if isAlign a then (some (none, a), []) else (none, [a])
  | [] => (none, [])

/-- Takes a character if a test accepts it. -/
def takeIf (test : Char → Bool) : List Char → Option Char × List Char
  | c :: rest => if test c then (some c, rest) else (none, c :: rest)
  | [] => (none, [])

/-- The greatest number a layout can hold. -/
def numberLimit : Nat := Nat.pow 2 63 - 1

/-- Takes decimal digits of any script as a number. -/
def takeNumber (cs : List Char) : Except TemplateFault (Option Nat × List Char) :=
  let ds := cs.takeWhile Text.isDecimalDigit
  let n := ds.foldl (fun n c => 10 * n + (Text.digitValue? c).getD 0) 0
  if ds.isEmpty then .ok (none, cs)
  else if numberLimit < n then .error .tooManyDigits
  else .ok (some n, cs.drop ds.length)

/-- Takes the separator of thousands. -/
def takeSeparator (cs : List Char) : Except TemplateFault (Option Char × List Char) :=
  let (comma, cs) := takeIf (· == ',') cs
  let (line, cs) := takeIf (· == '_') cs
  match comma, line with
  | some _, some _ => .error .bothSeparators
  | none, some _ => if cs.head? == some ',' then .error .bothSeparators else .ok (line, cs)
  | _, none => .ok (comma, cs)

/-- Takes the precision after a point. -/
def takePrecision : List Char → Except TemplateFault (Option Nat × List Char)
  | '.' :: cs =>
    match takeNumber cs with
    | .error e => .error e
    | .ok (none, _) => .error .missingPrecision
    | .ok (some n, rest) => .ok (some n, rest)
  | cs => .ok (none, cs)

/-- Refuses a separator of thousands that does not go with the presentation. -/
def checkSeparator (separator : Option Char) (presentation : Option Char) :
    Except TemplateFault Unit :=
  match separator, presentation with
  | none, _ => .ok ()
  | some _, none => .ok ()
  | some s, some p =>
    if ['d', 'e', 'f', 'g', 'E', 'G', '%', 'F'].contains p then .ok ()
    else if s == '_' && ['b', 'o', 'x', 'X'].contains p then .ok ()
    else .error (.separatorWith s p)

/-- Reads a layout for a value of the named type.  Numbers stand right by default and are written
with a default presentation. -/
def read (typeName : String) (defaultAlign : Char) (defaultPresentation : Option Char)
    (text : List Char) : Except TemplateFault Layout := do
  let (aligned, cs) := takeAlign text
  let fillGiven := (aligned.bind (·.1)).isSome
  let (sign, cs) := takeIf (fun c => c == ' ' || c == '+' || c == '-') cs
  let (z, cs) := takeIf (· == 'z') cs
  let (alternate, cs) := takeIf (· == '#') cs
  let (zero, cs) := takeIf (fun c => !fillGiven && c == '0') cs
  let fill := if zero.isSome then '0' else (aligned.bind (·.1)).getD ' '
  let align :=
    if zero.isSome && aligned.isNone && defaultAlign == '>' then '='
    else (aligned.map (·.2)).getD defaultAlign
  let (width, cs) ← takeNumber cs
  let (separator, cs) ← takeSeparator cs
  let (precision, cs) ← takePrecision cs
  let presentation ← match cs with
    | [] => pure defaultPresentation
    | [p] => pure (some p)
    | _ => throw (.badLayout (String.ofList text) typeName)
  checkSeparator separator presentation
  return { fill, align, sign, coerceZero := z.isSome, alternate := alternate.isSome, width,
           separator, precision, presentation }

/-! ## Writing -/

/-- The greatest number of characters that a layout asks for by itself. -/
def demand (l : Layout) : Nat :=
  max (l.width.getD 0) (l.precision.getD 0)

/-- Fills on the left and on the right of a content of `length` characters. -/
def padding (l : Layout) (length : Nat) : List Char × List Char :=
  let missing := l.width.getD 0 - length
  let left :=
    if l.align == '>' then missing
    else if l.align == '^' then missing / 2
    else 0
  (List.replicate left l.fill, List.replicate (missing - left) l.fill)

/-- A text in a layout, if there is room for its width. -/
def text (room : Nat) (l : Layout) (cs : List Char) : Except TemplateFault (List Char) :=
  if l.presentation != some 's' then
    .error (.unknownPresentation (l.presentation.getD 's') "str")
  else if l.sign == some ' ' then .error .spaceOnText
  else if l.sign.isSome then .error .signOnText
  else if l.coerceZero then .error (.zeroCoercion "string")
  else if l.alternate then .error .alternateOnText
  else if l.align == '=' then .error .signPaddingOnText
  else if room < l.width.getD 0 then .error .outOfMemory
  else
    let cs := match l.precision with
      | some p => cs.take p
      | none => cs
    let (left, right) := l.padding cs.length
    .ok (left ++ cs ++ right)

/-- Digits in groups from the right, with separators between groups, at least `least` characters
long; missing digits are zeros.  Works on the digits in reverse. -/
def groupDigits (size : Nat) (separator : List Char) : (fuel : Nat) → (least : Nat) →
    List Char → List Char
  | 0, _, ds => ds
  | fuel + 1, least, ds =>
    let len := min size (max (max ds.length least) 1)
    let group := ds.take len ++ List.replicate (len - ds.length) '0'
    let rest := ds.drop len
    if rest.isEmpty && least ≤ len then group
    else group ++ separator ++ groupDigits size separator fuel (least - len - separator.length) rest

/-- A number in a layout: its sign, a prefix, its whole digits, and what follows them. -/
def number (l : Layout) (negative : Bool) (leading digits trailing : List Char) (groupSize : Nat) :
    List Char :=
  let sign :=
    if negative then ['-']
    else match l.sign with
      | some '+' => ['+']
      | some ' ' => [' ']
      | _ => []
  let fixed := sign.length + leading.length + trailing.length
  let least := if l.fill == '0' && l.align == '=' then l.width.getD 0 - fixed else 0
  let digits :=
    if digits.isEmpty then []
    else match l.separator with
      | none => digits
      | some s =>
        (groupDigits groupSize [s] (least + digits.length + 1) least digits.reverse).reverse
  let missing := l.width.getD 0 - (fixed + digits.length)
  let (left, right) := l.padding (fixed + digits.length)
  if l.align == '=' then
    sign ++ leading ++ List.replicate missing l.fill ++ digits ++ trailing
  else left ++ sign ++ leading ++ digits ++ trailing ++ right

/-- The presentations of real numbers. -/
def isRealPresentation (c : Char) : Bool :=
  ['e', 'E', 'f', 'F', 'g', 'G', 'n', '%'].contains c

/-- The unsigned text of a real number under a presentation. -/
def realText (l : Layout) (x : Binary64) : List Char :=
  let p := l.precision.getD 6
  let magnitude : Binary64 := match x with
    | .finite _ m e => .finite false m e
    | .infinite _ => .infinite false
    | .nan => .nan
  match l.presentation with
  | none =>
    match l.precision with
    | none => Decimal.shortest magnitude
    | some p => Decimal.general p l.alternate true magnitude
  | some 'e' => Decimal.exponential p l.alternate magnitude
  | some 'E' => (Decimal.exponential p l.alternate magnitude).map Char.toUpper
  | some 'f' => Decimal.fixed p l.alternate magnitude
  | some 'F' => (Decimal.fixed p l.alternate magnitude).map Char.toUpper
  | some 'G' => (Decimal.general p l.alternate false magnitude).map Char.toUpper
  | some '%' => Decimal.percent p l.alternate magnitude
  | some _ => Decimal.general p l.alternate false magnitude

/-- Whether a text of digits stands for zero. -/
def isZeroText (cs : List Char) : Bool :=
  cs.all fun c => c == '0' || c == '.' || c == '%'

/-- The greatest precision of a real number. -/
def precisionLimit : Nat := Nat.pow 2 31 - 1

/-- The number of characters that a layout asks for with a real number: an infinity has no digits
behind its point. -/
def realDemand (l : Layout) : Binary64 → Nat
  | .finite .. => l.demand
  | _ => l.width.getD 0

/-- A real number in a layout, if there is room for its width and its digits. -/
def real (room : Nat) (l : Layout) (typeName : String) (x : Binary64) :
    Except TemplateFault (List Char) :=
  match l.presentation.filter fun p => !isRealPresentation p with
  | some p => .error (.unknownPresentation p typeName)
  | none =>
    if precisionLimit < l.precision.getD 0 then .error .precisionTooBig
    else if room < l.realDemand x then .error .outOfMemory
    else .ok (write l)
where
  /-- The text, sign and padding included. -/
  write (l : Layout) : List Char :=
    let text := l.realText x
    let negative := x.isNegative && !(l.coerceZero && isZeroText text)
    l.number negative [] (text.takeWhile Char.isDigit) (text.dropWhile Char.isDigit) 3

/-- The base, the mark and the size of groups of a presentation of whole numbers. -/
def baseOf : Char → Nat × List Char × Nat
  | 'b' => (2, ['0', 'b'], 4)
  | 'o' => (8, ['0', 'o'], 4)
  | 'x' => (16, ['0', 'x'], 4)
  | 'X' => (16, ['0', 'X'], 4)
  | _ => (10, [], 3)

/-- A whole number as the character it numbers. -/
def character (room : Nat) (l : Layout) (i : Int) : Except TemplateFault (List Char) :=
  if l.sign.isSome then .error .signOnCharacter
  else if l.alternate then .error .alternateOnCharacter
  else if i < -(numberLimit + 1) || numberLimit < i then .error .tooLargeForCodePoint
  else if i < 0 || 0x10FFFF < i then .error .noCodePoint
  else if room < l.width.getD 0 then .error .outOfMemory
  else .ok (l.number false [] [] [Char.ofNat i.toNat] 3)

/-- A whole number in a layout; the name is that of its type. -/
def integer (room : Nat) (l : Layout) (typeName : String) (i : Int) :
    Except TemplateFault (List Char) :=
  let p := l.presentation.getD 'd'
  if ['b', 'c', 'd', 'o', 'x', 'X', 'n'].contains p then
    if l.precision.isSome then .error .precisionOnInteger
    else if l.coerceZero then .error (.zeroCoercion "integer")
    else if p == 'c' then l.character room i
    else if room < l.width.getD 0 then .error .outOfMemory
    else
      let (base, mark, size) := baseOf p
      let digits := Nat.toDigits base i.natAbs
      let digits := if p == 'X' then digits.map Char.toUpper else digits
      .ok (l.number (decide (i < 0)) (if l.alternate then mark else []) digits [] size)
  else if isRealPresentation p then
    match Binary64.ofInt i with
    | .infinite _ => .error .tooLargeForReal
    | x => l.real room typeName x
  else .error (.unknownPresentation p typeName)

end Layout
end Conformance
