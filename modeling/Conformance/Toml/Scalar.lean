/-
# Texts, numbers and comments of a document

A text stands between double quotes, with escapes, or between single quotes, as it is; three quotes
in a row start a text over several lines.  A number is whole, in one of four bases, or real.
Readers take the characters ahead and give what they read with the characters that remain.
-/
import Conformance.Number.Literal
import Conformance.Toml.Moment
import Conformance.Value.Basic

namespace Conformance.Toml

/-- Stops before the characters ahead. -/
def stop {α : Type} (cause : Cause) (ahead : List Char) : Except Stop α :=
  .error ⟨cause, ahead.length⟩

/-! ## Characters -/

/-- Whether a character is a blank inside a line. -/
def isSpace (c : Char) : Bool :=
  c == ' ' || c == '\t'

/-- Whether a character is a blank or a line feed. -/
def isGap (c : Char) : Bool :=
  isSpace c || c == '\n'

/-- Whether a character may not stand in a text of one line or in a comment. -/
def isControl (c : Char) : Bool :=
  (c.toNat < 32 || c.toNat == 127) && c != '\t'

/-- Whether a character may not stand in a text of several lines. -/
def isControlInLines (c : Char) : Bool :=
  isControl c && c != '\n'

/-- Whether a character may stand in a key without quotes. -/
def isBare (c : Char) : Bool :=
  c.isAlphanum || c == '-' || c == '_'

/-- The characters ahead without leading blanks. -/
def skipSpaces (cs : List Char) : List Char :=
  cs.dropWhile isSpace

/-! ## Comments -/

/-- Passes over a comment, if one starts here. -/
def skipComment : List Char → Except Stop (List Char)
  | '#' :: cs =>
    let (text, rest) := cs.span (· != '\n')
    match text.dropWhile fun c => !isControl c with
    | [] => .ok rest
    | c :: later => .error ⟨.invalid c, later.length + 1 + rest.length⟩
  | cs => .ok cs

/-- Passes over blanks, line feeds and comments; `inComment` tells that a comment has started. -/
def skipGapsFrom : (inComment : Bool) → List Char → Except Stop (List Char)
  | _, [] => .ok []
  | inComment, c :: cs =>
    if c == '\n' then skipGapsFrom false cs
    else if inComment then
      if isControl c then stop (.invalid c) (c :: cs) else skipGapsFrom true cs
    else if isSpace c then skipGapsFrom false cs
    else if c == '#' then skipGapsFrom true cs
    else .ok (c :: cs)

/-- Passes over blanks, line feeds and comments. -/
def skipGaps (cs : List Char) : Except Stop (List Char) :=
  skipGapsFrom false cs

/-! ## Texts between single quotes -/

/-- The characters before the first occurrence of a mark, and those from the mark on. -/
def splitAtMark? (mark : List Char) : List Char → Option (List Char × List Char)
  | [] => none
  | c :: cs =>
    if mark.isPrefixOf (c :: cs) then some ([], c :: cs)
    else (splitAtMark? mark cs).map fun (text, rest) => (c :: text, rest)

/-- Reads a text as it is, up to a closing mark. -/
def readPlain (mark : String) (refused : Char → Bool) (cs : List Char) :
    Except Stop (List Char × List Char) :=
  match splitAtMark? mark.toList cs with
  | none => stop (.missingClosing mark) []
  | some (text, rest) =>
    match text.dropWhile fun c => !refused c with
    | [] => .ok (text, rest.drop mark.length)
    | c :: later => .error ⟨.invalid c, later.length + 1 + rest.length⟩

/-! ## Texts between double quotes -/

/-- The value of a hexadecimal digit. -/
def hexValue? (c : Char) : Option Nat :=
  if '0' ≤ c && c ≤ '9' then some (c.toNat - '0'.toNat)
  else if 'a' ≤ c && c ≤ 'f' then some (c.toNat - 'a'.toNat + 10)
  else if 'A' ≤ c && c ≤ 'F' then some (c.toNat - 'A'.toNat + 10)
  else none

/-- The number with the given digits. -/
def numberOf (base : Nat) (digits : List Nat) : Nat :=
  digits.foldl (fun n d => base * n + d) 0

/-- Reads the digits of a numeric escape. -/
def readHexChar (width : Nat) (cs : List Char) : Except Stop (List Char × List Char) :=
  match (cs.take width).mapM hexValue? with
  | none => stop .badHex cs
  | some digits =>
    if digits.length != width then stop .badHex cs
    else
      let n := numberOf 16 digits
      let rest := cs.drop width
      if n < 0xD800 || (0xE000 ≤ n && n ≤ 0x10FFFF) then .ok ([Char.ofNat n], rest)
      else stop .notScalar rest

/-- The character that a letter after a backslash stands for. -/
def escaped? : Char → Option Char
  | 'b' => some '\x08'
  | 't' => some '\t'
  | 'n' => some '\n'
  | 'f' => some '\x0c'
  | 'r' => some '\r'
  | '"' => some '"'
  | '\\' => some '\\'
  | _ => none

/-- Reads what follows a backslash at the end of a line: the blanks up to the next text. -/
def readContinuation (cs : List Char) : Except Stop (List Char × List Char) :=
  match skipSpaces cs with
  | [] => .ok ([], [])
  | '\n' :: rest => .ok ([], rest.dropWhile isGap)
  | rest => stop .badEscape rest

/-- Reads an escape after its backslash. -/
def readEscape (multiline : Bool) : List Char → Except Stop (List Char × List Char)
  | [] => stop .badEscape []
  | c :: cs =>
    if multiline && isGap c then readContinuation (c :: cs)
    else if c == 'u' then readHexChar 4 cs
    else if c == 'U' then readHexChar 8 cs
    else match escaped? c with
      | some x => .ok ([x], cs)
      | none => stop .badEscape cs

/-- Reads a text up to its closing quotes; what is read so far is kept in reverse. -/
def readQuotedFrom (multiline : Bool) :
    (fuel : Nat) → (read : List Char) → List Char → Except Stop (List Char × List Char)
  | 0, _, cs => stop .unterminated cs
  | _ + 1, _, [] => stop .unterminated []
  | fuel + 1, read, c :: cs =>
    if c == '"' then
      if !multiline then .ok (read.reverse, cs)
      else match cs with
        | '"' :: '"' :: rest => .ok (read.reverse, rest)
        | _ => readQuotedFrom multiline fuel (c :: read) cs
    else if c == '\\' then do
      let (text, rest) ← readEscape multiline cs
      readQuotedFrom multiline fuel (text.reverse ++ read) rest
    else if (if multiline then isControlInLines c else isControl c) then
      stop (.illegal c) (c :: cs)
    else readQuotedFrom multiline fuel (c :: read) cs

/-- Reads a text after its opening double quotes. -/
def readQuoted (multiline : Bool) (cs : List Char) : Except Stop (List Char × List Char) :=
  readQuotedFrom multiline (cs.length + 1) [] cs

/-! ## Texts over several lines -/

/-- The characters ahead without a line feed right after the opening quotes. -/
def skipFirstBreak : List Char → List Char
  | '\n' :: cs => cs
  | cs => cs

/-- Gives a text up to two quotes that stand before its closing ones. -/
def withClosingQuotes (quote : Char) (text : List Char) (rest : List Char) :
    List Char × List Char :=
  let extra := (rest.take 2).takeWhile (· == quote)
  (text ++ extra, rest.drop extra.length)

/-- Reads a text over several lines after its opening quotes. -/
def readLines (quote : Char) (cs : List Char) : Except Stop (List Char × List Char) := do
  let cs := skipFirstBreak cs
  let (text, rest) ←
    if quote == '"' then readQuoted true cs
    else readPlain "'''" isControlInLines cs
  return withClosingQuotes quote text rest

/-- Reads a text, if one starts here. -/
def readText? : List Char → Option (Except Stop (List Char × List Char))
  | '"' :: '"' :: '"' :: cs => some (readLines '"' cs)
  | '\'' :: '\'' :: '\'' :: cs => some (readLines '\'' cs)
  | '"' :: cs => some (readQuoted false cs)
  | '\'' :: cs => some (readPlain "'" isControl cs)
  | _ => none

/-! ## Numbers -/

/-- Whether a digit of the base comes next. -/
def digitAhead (base : Nat) : List Char → Bool
  | [] => false
  | c :: _ => match hexValue? c with
    | some d => d < base
    | none => false

/-- Digits in a row, with single underscores between them; `inside` tells that a digit has just
been read. -/
def takeDigits (base : Nat) (inside : Bool) : List Char → List Nat × List Char
  | [] => ([], [])
  | c :: cs =>
    match (hexValue? c).filter (· < base) with
    | some d => let (ds, rest) := takeDigits base true cs; (d :: ds, rest)
    | none =>
      if inside && c == '_' && digitAhead base cs then takeDigits base false cs
      else ([], c :: cs)

/-- Reads a whole number in another base than ten, if one starts here. -/
def readBased? : List Char → Option (Value × List Char)
  | '0' :: mark :: cs =>
    let base := match mark with
      | 'x' => 16
      | 'o' => 8
      | 'b' => 2
      | _ => 0
    match takeDigits base false cs with
    | ([], _) => none
    | (ds, rest) => some (.int (numberOf base ds), rest)
  | _ => none

/-- The digits of a whole part: a zero alone, or digits that do not start with zero. -/
def takeWhole (cs : List Char) : List Nat × List Char :=
  match cs with
  | '0' :: rest => ([0], rest)
  | cs => takeDigits 10 false cs

/-- The digits after a point, if a point and a digit come next. -/
def takeFraction : List Char → Option (List Nat) × List Char
  | '.' :: cs => match takeDigits 10 false cs with
    | ([], _) => (none, '.' :: cs)
    | (ds, rest) => (some ds, rest)
  | cs => (none, cs)

/-- The exponent, if one comes next. -/
def takeExponent : List Char → Option Int × List Char
  | c :: cs =>
    if c == 'e' || c == 'E' then
      let (negative, after) := Literal.takeSign cs
      match takeDigits 10 false after with
      | ([], _) => (none, c :: cs)
      | (ds, rest) => (some (Literal.withSign negative (numberOf 10 ds)), rest)
    else (none, c :: cs)
  | [] => (none, [])

/-- Reads a decimal number, if one starts here.  A whole one may not have too many digits. -/
def readDecimal? (cs : List Char) : Option (Except Cause (Value × List Char)) :=
  let (negative, cs) := Literal.takeSign cs
  match takeWhole cs with
  | ([], _) => none
  | (whole, rest) =>
    let (fraction, rest) := takeFraction rest
    let (exponent, rest) := takeExponent rest
    if fraction.isNone && exponent.isNone then
      if Literal.digitLimit < whole.length then some (.error (.tooManyDigits whole.length))
      else some (.ok (.int (Literal.withSign negative (numberOf 10 whole)), rest))
    else
      let places := fraction.getD []
      some (.ok (.real (Binary64.ofDecimal negative (numberOf 10 (whole ++ places))
        (exponent.getD 0 - places.length)), rest))

/-- Reads an infinity or the word for no number, if one starts here. -/
def readSpecial? (cs : List Char) : Option (Value × List Char) :=
  let (negative, cs) := Literal.takeSign cs
  if "inf".toList.isPrefixOf cs then some (.real (.infinite negative), cs.drop 3)
  else if "nan".toList.isPrefixOf cs then some (.real .nan, cs.drop 3)
  else none

/-- Reads a truth value, if one starts here. -/
def readFlag? (cs : List Char) : Option (Value × List Char) :=
  if "true".toList.isPrefixOf cs then some (.flag true, cs.drop 4)
  else if "false".toList.isPrefixOf cs then some (.flag false, cs.drop 5)
  else none

/-- Reads a date or a time, if one starts here. -/
def readDated? (cs : List Char) : Option (Except Cause (Value × List Char)) :=
  (readCalendar? cs).map fun reading => reading.map fun (v, rest) => (.calendar v, rest)

/-- Reads a truth value, a date, a time or a number, if one starts here.  Dates and times come
before numbers, which start with digits too. -/
def readWord? (cs : List Char) : Option (Except Cause (Value × List Char)) :=
  (readFlag? cs).map .ok <|> readDated? cs <|> (readBased? cs).map .ok <|> readDecimal? cs <|>
    (readSpecial? cs).map .ok

end Conformance.Toml
