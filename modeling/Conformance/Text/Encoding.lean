/-
# Bytes as texts

Files hold bytes.  An encoding reads them as characters, or tells which bytes it cannot read and
why.  Each reader goes through the bytes once and keeps what it is owed: the rest of a character of
several bytes, or the second half of a pair of units.
-/
import Conformance.Number.Decimal
import Conformance.Text.Blank
import Conformance.Text.Quoted

namespace Conformance

/-- Why bytes are not characters. -/
inductive DecodeCause where
  /-- A byte starts no character. -/
  | invalidStart
  /-- A byte does not continue the character begun. -/
  | invalidContinuation
  /-- The bytes end inside a character. -/
  | unexpectedEnd
  /-- The bytes end inside a unit. -/
  | truncated
  /-- The second half of a pair stands alone. -/
  | loneHalf
  /-- The first half of a pair is not followed by a second one. -/
  | unpairedHalf
  /-- A byte is above 127. -/
  | beyondAscii
  deriving DecidableEq, Repr, Inhabited

/-- The wording of a cause. -/
def DecodeCause.message : DecodeCause → String
  | .invalidStart => "invalid start byte"
  | .invalidContinuation => "invalid continuation byte"
  | .unexpectedEnd => "unexpected end of data"
  | .truncated => "truncated data"
  | .loneHalf => "illegal encoding"
  | .unpairedHalf => "illegal UTF-16 surrogate"
  | .beyondAscii => "ordinal not in range(128)"

/-- The bytes that an encoding cannot read. -/
structure BadBytes where
  /-- The name of the encoding. -/
  codec : String
  /-- The position of the first byte, counted from zero. -/
  start : Nat
  /-- The number of bytes. -/
  length : Nat
  /-- The first byte. -/
  first : UInt8
  /-- What is wrong with them. -/
  cause : DecodeCause
  deriving DecidableEq, Repr, Inhabited

/-- What is said of bytes that cannot be read. -/
def BadBytes.message (f : BadBytes) : String :=
  let which :=
    if f.length == 1 then
      "byte 0x" ++ String.ofList (Text.hex 2 f.first.toNat) ++ " in position " ++ intText f.start
    else "bytes in position " ++ intText f.start ++ "-" ++ intText (f.start + f.length - 1)
  "'" ++ f.codec ++ "' codec can't decode " ++ which ++ ": " ++ f.cause.message

/-- Why a file cannot be read as a text. -/
inductive DecodeFault where
  /-- Some bytes are not characters. -/
  | badBytes (bytes : BadBytes)
  /-- The mark that tells the order of bytes is missing. -/
  | missingMark
  deriving DecidableEq, Repr, Inhabited

/-- The wording of a fault. -/
def DecodeFault.message : DecodeFault → String
  | .badBytes b => b.message
  | .missingMark => "UTF-16 stream does not start with BOM"

namespace Text

/-! ## One to four bytes for a character -/

/-- A character of which some bytes have been read. -/
structure PartialChar where
  /-- The position of its first byte. -/
  start : Nat
  /-- Its first byte. -/
  first : UInt8
  /-- The number of bytes read. -/
  taken : Nat
  /-- The number of bytes still owed. -/
  owed : Nat
  /-- The least byte that may come next. -/
  least : Nat
  /-- The greatest byte that may come next. -/
  greatest : Nat
  /-- The bits read so far. -/
  bits : Nat
  deriving Repr, Inhabited

/-- What a first byte of a character of several bytes asks for. -/
def leadOf? (start : Nat) (b : UInt8) : Option PartialChar :=
  let n := b.toNat
  if n < 0xC2 then none
  else if n < 0xE0 then some ⟨start, b, 1, 1, 0x80, 0xBF, n - 0xC0⟩
  else if n < 0xF0 then
    some ⟨start, b, 1, 2, if n == 0xE0 then 0xA0 else 0x80, if n == 0xED then 0x9F else 0xBF,
      n - 0xE0⟩
  else if n < 0xF5 then
    some ⟨start, b, 1, 3, if n == 0xF0 then 0x90 else 0x80, if n == 0xF4 then 0x8F else 0xBF,
      n - 0xF0⟩
  else none

/-- The fault of a character that is not completed. -/
def PartialChar.fault (p : PartialChar) (cause : DecodeCause) : BadBytes :=
  ⟨"utf-8", p.start, p.taken, p.first, cause⟩

/-- Reads characters of one to four bytes each; those read so far are kept in reverse. -/
def utf8From : (position : Nat) → Option PartialChar → (read : List Char) → List UInt8 →
    Except BadBytes (List Char)
  | _, none, read, [] => .ok read.reverse
  | _, some p, _, [] => .error (p.fault .unexpectedEnd)
  | position, none, read, b :: bs =>
    if b.toNat < 0x80 then utf8From (position + 1) none (Char.ofNat b.toNat :: read) bs
    else match leadOf? position b with
      | none => .error ⟨"utf-8", position, 1, b, .invalidStart⟩
      | some p => utf8From (position + 1) (some p) read bs
  | position, some p, read, b :: bs =>
    if p.least ≤ b.toNat && b.toNat ≤ p.greatest then
      let bits := p.bits * 64 + (b.toNat - 0x80)
      if p.owed ≤ 1 then utf8From (position + 1) none (Char.ofNat bits :: read) bs
      else utf8From (position + 1) (some { p with
        taken := p.taken + 1, owed := p.owed - 1, least := 0x80, greatest := 0xBF, bits := bits })
        read bs
    else .error (p.fault .invalidContinuation)

/-- Reads characters of one to four bytes each. -/
def decodeUtf8 (bytes : List UInt8) : Except BadBytes (List Char) :=
  utf8From 0 none [] bytes

/-- The mark that may stand before a text. -/
def utf8Mark : List UInt8 := [0xEF, 0xBB, 0xBF]

/-- Reads characters of one to four bytes each, after a mark that may be there.  Positions are
counted from behind the mark; a mark that is cut off stands for nothing. -/
def decodeMarkedUtf8 (bytes : List UInt8) : Except BadBytes (List Char) :=
  if bytes.length < 3 && bytes.isPrefixOf utf8Mark then .ok []
  else if utf8Mark.isPrefixOf bytes then decodeUtf8 (bytes.drop 3)
  else decodeUtf8 bytes

/-! ## Two bytes for a unit -/

/-- Reads units of two bytes each, the greater byte first if `big`; two halves of a pair make one
character.  `half` is a first half that waits for its second one. -/
def utf16From (big : Bool) : (position : Nat) → (half : Option (Nat × UInt8)) →
    (read : List Char) → List UInt8 → Except BadBytes (List Char)
  | _, none, read, [] => .ok read.reverse
  | position, none, _, [b] => .error ⟨codec, position, 1, b, .truncated⟩
  | position, some (_, first), _, [] => .error ⟨codec, position - 2, 2, first, .unexpectedEnd⟩
  | position, some (_, first), _, [_] => .error ⟨codec, position - 2, 3, first, .unexpectedEnd⟩
  | position, half, read, b :: c :: bs =>
    let unit := if big then b.toNat * 256 + c.toNat else c.toNat * 256 + b.toNat
    let isSecond := 0xDC00 ≤ unit && unit < 0xE000
    match half with
    | none =>
      if isSecond then .error ⟨codec, position, 2, b, .loneHalf⟩
      else if 0xD800 ≤ unit && unit < 0xDC00 then
        utf16From big (position + 2) (some (unit, b)) read bs
      else utf16From big (position + 2) none (Char.ofNat unit :: read) bs
    | some (high, first) =>
      if isSecond then
        utf16From big (position + 2) none
          (Char.ofNat (0x10000 + (high - 0xD800) * 0x400 + (unit - 0xDC00)) :: read) bs
      else .error ⟨codec, position - 2, 2, first, .unpairedHalf⟩
where
  /-- The name of the order of bytes. -/
  codec : String := if big then "utf-16-be" else "utf-16-le"

/-- Reads units of two bytes each in a known order. -/
def decodeUtf16 (big : Bool) (bytes : List UInt8) : Except BadBytes (List Char) :=
  utf16From big 0 none [] bytes

/-- Reads units of two bytes each in the order that a mark tells. -/
def decodeMarkedUtf16 : List UInt8 → Except DecodeFault (List Char)
  | 0xFF :: 0xFE :: bytes => (utf16From false 2 none [] bytes).mapError .badBytes
  | 0xFE :: 0xFF :: bytes => (utf16From true 2 none [] bytes).mapError .badBytes
  | bytes => do
    let text ← (decodeUtf16 false bytes).mapError .badBytes
    if bytes.isEmpty then return text else throw .missingMark

/-! ## One byte for a character -/

/-- Reads every byte as the character with its number. -/
def decodeLatin1 (bytes : List UInt8) : List Char :=
  bytes.map fun b => Char.ofNat b.toNat

/-- Reads every byte as the character with its number, which is below 128. -/
def decodeAscii (bytes : List UInt8) : Except BadBytes (List Char) :=
  let start := bytes.takeWhile (·.toNat < 128)
  match bytes.drop start.length with
  | [] => .ok (decodeLatin1 bytes)
  | b :: _ => .error ⟨"ascii", start.length, 1, b, .beyondAscii⟩

end Text

/-! ## Encodings by name -/

/-- A way of reading bytes as characters. -/
inductive Encoding where
  /-- One to four bytes for a character. -/
  | utf8
  /-- One to four bytes for a character, after a mark that may be there. -/
  | markedUtf8
  /-- A byte for a character. -/
  | latin1
  /-- A byte below 128 for a character. -/
  | ascii
  /-- Two bytes for a unit, in the order that a mark tells. -/
  | utf16
  /-- Two bytes for a unit, the lesser first. -/
  | utf16Little
  /-- Two bytes for a unit, the greater first. -/
  | utf16Big
  deriving DecidableEq, Repr, Inhabited

namespace Encoding

/-- A name in lower case, with one underscore for every run of other characters than letters, digits
and points inside it. -/
def normalName (name : String) : String :=
  let kept := name.toList.map fun c => if c.isAlphanum || c == '.' then c.toLower else ' '
  "_".intercalate ((Text.words kept).map String.ofList)

/-- The names of an encoding. -/
def names : Encoding → List String
  | .utf8 => ["utf_8", "u8", "utf", "utf8", "utf8_ucs2", "utf8_ucs4", "cp65001"]
  | .markedUtf8 => ["utf_8_sig"]
  | .latin1 => ["latin_1", "8859", "cp819", "csisolatin1", "ibm819", "iso8859", "iso8859_1",
      "iso_8859_1", "iso_8859_1_1987", "iso_ir_100", "l1", "latin", "latin1"]
  | .ascii => ["ascii", "646", "ansi_x3.4_1968", "ansi_x3_4_1968", "ansi_x3.4_1986", "cp367",
      "csascii", "ibm367", "iso646_us", "iso_646.irv_1991", "iso_ir_6", "us", "us_ascii"]
  | .utf16 => ["utf_16", "u16", "utf16"]
  | .utf16Little => ["utf_16_le", "unicodelittleunmarked", "utf_16le"]
  | .utf16Big => ["utf_16_be", "unicodebigunmarked", "utf_16be"]

/-- All encodings. -/
def all : List Encoding :=
  [.utf8, .markedUtf8, .latin1, .ascii, .utf16, .utf16Little, .utf16Big]

/-- The encoding with a name. -/
def ofName? (name : String) : Option Encoding :=
  all.find? fun e => e.names.contains (normalName name)

/-- Reads bytes as characters. -/
def decode (e : Encoding) (bytes : List UInt8) : Except DecodeFault (List Char) :=
  match e with
  | .utf8 => (Text.decodeUtf8 bytes).mapError .badBytes
  | .markedUtf8 => (Text.decodeMarkedUtf8 bytes).mapError .badBytes
  | .latin1 => .ok (Text.decodeLatin1 bytes)
  | .ascii => (Text.decodeAscii bytes).mapError .badBytes
  | .utf16 => Text.decodeMarkedUtf16 bytes
  | .utf16Little => (Text.decodeUtf16 false bytes).mapError .badBytes
  | .utf16Big => (Text.decodeUtf16 true bytes).mapError .badBytes

end Encoding
end Conformance
