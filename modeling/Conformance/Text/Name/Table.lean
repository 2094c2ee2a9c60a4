/-
# Tables of character names

Names of neighbouring characters mostly share their first words.  A table of names consists of
lines of entries with semicolons between them.  An entry is a number of words taken over from the
name before, as one digit, and the words that follow; it names the next code point.  An entry that
starts with `@` gives the code point at which the names go on.
-/

namespace Conformance.Text

/-- A table of character names. -/
structure NameTable where
  /-- The lines of entries. -/
  lines : List String

/-- The value of a number in hexadecimal digits, capitals only; none for any other text. -/
def hexValue? (digits : List Char) : Option Nat :=
  digits.foldl (fun n c => do
    let n ← n
    if c.isDigit then some (16 * n + (c.toNat - 0x30))
    else if 'A' ≤ c && c ≤ 'F' then some (16 * n + (c.toNat - 0x37))
    else none) (some 0)

namespace NameTable

/-- The words of a text, with the blanks between them left out. -/
def wordsOf (text : List Char) : List String :=
  (String.ofList text).splitOn " "

/-- Finds a name among entries.  `next` is the code point of the next entry and `last` the name
before it. -/
def findIn (name : List String) : (entries : List String) → (next : Nat) → (last : List String) →
    Option Nat
  | [], _, _ => none
  | entry :: entries, next, last =>
    match entry.toList with
    | [] => findIn name entries next last
    | '@' :: digits => findIn name entries ((hexValue? digits).getD next) last
    | kept :: added =>
      let words := last.take (kept.toNat - 0x30) ++ wordsOf added
      if words == name then some next else findIn name entries (next + 1) words

/-- The code point of the character with a name. -/
def find? (table : NameTable) (name : List String) : Option Nat :=
  findIn name (table.lines.flatMap (·.splitOn ";")) 0 []

end NameTable
end Conformance.Text
