/-
# Characters by name

A character is found by its name, capitals and small letters being the same.  Names of Korean
syllables are put together from the names of their parts, and names of Chinese characters end in
the code point; these two kinds are written in capitals.
-/
import Conformance.Text.Name.Aliases
import Conformance.Text.Name.Alphabets
import Conformance.Text.Name.EastAsian
import Conformance.Text.Name.Historic
import Conformance.Text.Name.Mathematical
import Conformance.Text.Name.Pictographs
import Conformance.Text.Name.Symbols
import Conformance.Text.Ranges

namespace Conformance.Text

/-- The tables of names. -/
def nameTables : List NameTable :=
  [alphabetNames, symbolNames, eastAsianNames, historicNames, mathematicalNames,
    pictographNames, furtherNames]

/-- What follows the given start of a text, if it starts so. -/
def dropStart? (start : String) (text : List Char) : Option (List Char) :=
  if start.toList.isPrefixOf text then some (text.drop start.length) else none

/-! ## Korean syllables -/

/-- The names of first consonants of syllables. -/
def leadingSounds : List String :=
  ["G", "GG", "N", "D", "DD", "R", "M", "B", "BB", "S", "SS", "", "J", "JJ", "C", "K", "T", "P",
    "H"]

/-- The names of vowels of syllables. -/
def vowelSounds : List String :=
  ["A", "AE", "YA", "YAE", "EO", "E", "YEO", "YE", "O", "WA", "WAE", "OE", "YO", "U", "WEO", "WE",
    "WI", "YU", "EU", "YI", "I"]

/-- The names of last consonants of syllables. -/
def trailingSounds : List String :=
  ["", "G", "GG", "GS", "N", "NJ", "NH", "D", "L", "LG", "LM", "LB", "LS", "LT", "LP", "LH", "M",
    "B", "BS", "S", "SS", "NG", "J", "C", "K", "T", "P", "H"]

/-- The ways to read a text as one of some sounds and a rest, each with the place of the sound. -/
def soundsOf (sounds : List String) (text : List Char) : List (Nat × List Char) :=
  sounds.zipIdx.filterMap fun (s, i) => (dropStart? s text).map (i, ·)

/-- The code point of a syllable, from the sounds that name it. -/
def syllable? (text : List Char) : Option Nat :=
  (soundsOf leadingSounds text).findSome? fun (l, text) =>
    (soundsOf vowelSounds text).findSome? fun (v, text) =>
      (trailingSounds.findIdx? fun t => t.toList == text).map fun t =>
        0xAC00 + (l * 21 + v) * 28 + t

/-! ## Names that end in the code point -/

/-- The Chinese characters. -/
def ideographs : Ranges := ⟨#[
  0x3400, 0x4DC0, 0x4E00, 0xA000, 0x20000, 0x2A6E0, 0x2A700, 0x2B739, 0x2B740, 0x2B81E, 0x2B820,
  0x2CEA2, 0x2CEB0, 0x2EBE1, 0x30000, 0x3134B]⟩

/-- The code point of a Chinese character, from four or five digits. -/
def ideograph? (digits : List Char) : Option Nat :=
  if digits.length == 4 || digits.length == 5 then
    (hexValue? digits).filter fun n => ideographs.rank n % 2 == 1
  else none

/-- Starts of names that go on with the code point in hexadecimal digits, and the code points. -/
def numberedNames : List (String × Ranges) :=
  [("CJK COMPATIBILITY IDEOGRAPH-", ⟨#[0xF900, 0xFA6E, 0xFA70, 0xFADA, 0x2F800, 0x2FA1E]⟩),
    ("KHITAN SMALL SCRIPT CHARACTER-", ⟨#[0x18B00, 0x18CD6]⟩),
    ("NUSHU CHARACTER-", ⟨#[0x1B170, 0x1B2FC]⟩)]

/-- The code point of a character whose name ends in it. -/
def numbered? (name : List Char) : Option Nat :=
  numberedNames.findSome? fun (start, points) => do
    let digits ← dropStart? start name
    let n ← hexValue? digits
    if digits.head? != some '0' && points.rank n % 2 == 1 then some n else none

/-! ## All names -/

/-- The code point of the character with a name. -/
def codePointNamed? (name : List Char) : Option Nat :=
  match dropStart? "HANGUL SYLLABLE " name, dropStart? "CJK UNIFIED IDEOGRAPH-" name with
  | some sounds, _ => syllable? sounds
  | none, some digits => ideograph? digits
  | none, none =>
    let capitals := name.map Char.toUpper
    (numbered? capitals).orElse fun _ =>
      nameTables.findSome? (·.find? (NameTable.wordsOf capitals))

end Conformance.Text
