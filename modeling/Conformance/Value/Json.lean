/-
# Values written as JSON

Strings are written in characters below code point 128 alone; a character beyond the basic plane
becomes a pair of surrogates.  The indented form puts every item on a line of its own, two
blanks deeper than what holds it; the compact form uses no blanks at all.
-/
import Conformance.Value.Basic

namespace Conformance.Json

/-- The escape of one unit of sixteen bits. -/
def unitEscape (n : Nat) : List Char :=
  '\\' :: 'u' :: Text.hex 4 n

/-- A character inside a string. -/
def escapeChar (c : Char) : List Char :=
  let n := c.toNat
  if c == '"' || c == '\\' then ['\\', c]
  else if c == '\n' then ['\\', 'n']
  else if c == '\r' then ['\\', 'r']
  else if c == '\t' then ['\\', 't']
  else if n == 0x08 then ['\\', 'b']
  else if n == 0x0C then ['\\', 'f']
  else if 0x20 ≤ n && n < 0x7F then [c]
  else if n ≤ 0xFFFF then unitEscape n
  else unitEscape (0xD800 + (n - 0x10000) / 0x400) ++ unitEscape (0xDC00 + (n - 0x10000) % 0x400)

/-- A string in quotes. -/
def string (s : String) : String :=
  String.ofList ('"' :: s.toList.flatMap escapeChar ++ ['"'])

/-- A real number; infinities and no number have words of their own. -/
def real : Binary64 → String
  | .nan => "NaN"
  | .infinite s => if s then "-Infinity" else "Infinity"
  | x => x.text

/-- A line break with the blanks of a given depth. -/
def lineAt (depth : Nat) : String :=
  "\n" ++ String.ofList (List.replicate (2 * depth) ' ')

/-- Items between brackets, each on a line of its own. -/
def block (opening closing : String) (depth : Nat) (items : List String) : String :=
  if items.isEmpty then opening ++ closing
  else opening ++ lineAt (depth + 1) ++ ("," ++ lineAt (depth + 1)).intercalate items ++
    lineAt depth ++ closing

mutual

/-- The indented form of a value at a given depth. -/
def indented (depth : Nat) : Value → String
  | .null => "null"
  | .flag b => if b then "true" else "false"
  | .int i => intText i
  | .real x => real x
  | .text s => string s
  | .calendar v => string v.text
  | .list l => block "[" "]" depth (indentedList (depth + 1) l)
  | .table t => block "\x7b" "\x7d" depth (indentedEntries (depth + 1) t)

/-- The items of a list in indented form. -/
def indentedList (depth : Nat) : List Value → List String
  | [] => []
  | v :: vs => indented depth v :: indentedList depth vs

/-- The entries of a table in indented form. -/
def indentedEntries (depth : Nat) : List (String × Value) → List String
  | [] => []
  | (k, v) :: es => (string k ++ ": " ++ indented depth v) :: indentedEntries depth es

end

mutual

/-- The compact form of a value. -/
def compact : Value → String
  | .list l => "[" ++ ",".intercalate (compactList l) ++ "]"
  | .table t => "\x7b" ++ ",".intercalate (compactEntries t) ++ "\x7d"
  | v => indented 0 v

/-- The items of a list in compact form. -/
def compactList : List Value → List String
  | [] => []
  | v :: vs => compact v :: compactList vs

/-- The entries of a table in compact form. -/
def compactEntries : List (String × Value) → List String
  | [] => []
  | (k, v) :: es => (string k ++ ":" ++ compact v) :: compactEntries es

end

end Conformance.Json
