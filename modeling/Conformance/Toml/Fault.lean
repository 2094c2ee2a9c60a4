/-
# Faults of documents

A document that is not in the table format is refused at its first fault.  The fault names its cause
and its place: a line and a column, or the end of the document.
-/
import Conformance.Number.Decimal
import Conformance.Number.Literal
import Conformance.Text.Quoted

namespace Conformance.Toml

/-- A key: the names that lead from table to table. -/
abbrev Key := List String

/-- A key as diagnostics show it: its names in parentheses, a lone one followed by a comma. -/
def keyText : Key → String
  | [name] => "(" ++ Text.quoted name ++ ",)"
  | names => "(" ++ ", ".intercalate (names.map Text.quoted) ++ ")"

/-- Why a document cannot be read. -/
inductive Cause where
  /-- A line starts with something that starts no statement. -/
  | invalidStatement
  /-- Something follows a statement on its line. -/
  | missingNewline
  /-- A table is declared a second time. -/
  | declaredTwice (key : Key)
  /-- A value that is complete is extended. -/
  | frozen (key : Key)
  /-- A dotted key leads through a table that a header declares. -/
  | redefined (key : Key)
  /-- A value stands where another one is wanted. -/
  | overwritten
  /-- The header of a table is not closed. -/
  | unclosedTableHeader
  /-- The header of an array of tables is not closed. -/
  | unclosedArrayHeader
  /-- A key is not followed by an equals sign. -/
  | missingEquals
  /-- A part of a key starts with a character that starts none. -/
  | badKeyStart
  /-- A list is not closed. -/
  | unclosedArray
  /-- A table written in one line is not closed. -/
  | unclosedInlineTable
  /-- A table written in one line gives a key twice. -/
  | duplicateKey (name : String)
  /-- A backslash starts no escape. -/
  | badEscape
  /-- A numeric escape lacks digits. -/
  | badHex
  /-- A numeric escape names no character. -/
  | notScalar
  /-- A text is not closed. -/
  | unterminated
  /-- A text between double quotes holds a character that it cannot hold. -/
  | illegal (c : Char)
  /-- A text between single quotes, or a comment, holds a character that it cannot hold. -/
  | invalid (c : Char)
  /-- The closing mark of a text is missing. -/
  | missingClosing (mark : String)
  /-- What stands for a value is none. -/
  | invalidValue
  /-- A month has no such day, or there is no such year. -/
  | badDate
  /-- A whole number has too many digits. -/
  | tooManyDigits (count : Nat)
  /-- Lists and tables are nested too deeply. -/
  | tooDeep
  deriving DecidableEq, Repr, Inhabited

/-- The wording of a cause. -/
def Cause.message : Cause → String
  | .invalidStatement => "Invalid statement"
  | .missingNewline => "Expected newline or end of document after a statement"
  | .declaredTwice key => "Cannot declare " ++ keyText key ++ " twice"
  | .frozen key => "Cannot mutate immutable namespace " ++ keyText key
  | .redefined key => "Cannot redefine namespace " ++ keyText key
  | .overwritten => "Cannot overwrite a value"
  | .unclosedTableHeader => "Expected ']' at the end of a table declaration"
  | .unclosedArrayHeader => "Expected ']]' at the end of an array declaration"
  | .missingEquals => "Expected '=' after a key in a key/value pair"
  | .badKeyStart => "Invalid initial character for a key part"
  | .unclosedArray => "Unclosed array"
  | .unclosedInlineTable => "Unclosed inline table"
  | .duplicateKey name => "Duplicate inline table key " ++ Text.quoted name
  | .badEscape => "Unescaped '\\' in a string"
  | .badHex => "Invalid hex value"
  | .notScalar => "Escaped character is not a Unicode scalar value"
  | .unterminated => "Unterminated string"
  | .illegal c => "Illegal character " ++ Text.quoted (String.singleton c)
  | .invalid c => "Found invalid character " ++ Text.quoted (String.singleton c)
  | .missingClosing mark => "Expected " ++ Text.quoted mark
  | .invalidValue => "Invalid value"
  | .badDate => "Invalid date or datetime"
  | .tooManyDigits count => Literal.tooManyDigits count
  | .tooDeep => "maximum recursion depth exceeded"

/-- Whether the wording of a cause names no place. -/
def Cause.isPlaceless : Cause → Bool
  | .tooManyDigits _ => true
  | .tooDeep => true
  | _ => false

/-- A fault met while reading: its cause, and how many characters lay ahead. -/
structure Stop where
  /-- What is wrong. -/
  cause : Cause
  /-- The number of characters from the place to the end. -/
  ahead : Nat
  deriving DecidableEq, Repr, Inhabited

/-- A place of a document. -/
inductive Place where
  /-- A line and a column, both counted from one. -/
  | at (line column : Nat)
  /-- The end. -/
  | atEnd
  deriving DecidableEq, Repr, Inhabited

/-- The place of a document with so many characters ahead. -/
def Place.ofAhead (document : List Char) (ahead : Nat) : Place :=
  if ahead == 0 then .atEnd
  else
    let passed := document.take (document.length - ahead)
    .at (passed.count '\n' + 1) ((passed.reverse.takeWhile (· != '\n')).length + 1)

/-- A place in words. -/
def Place.text : Place → String
  | .at line column => "line " ++ intText line ++ ", column " ++ intText column
  | .atEnd => "end of document"

/-- A fault of a document. -/
structure Fault where
  /-- What is wrong. -/
  cause : Cause
  /-- Where. -/
  place : Place
  deriving DecidableEq, Repr, Inhabited

/-- The wording of a fault. -/
def Fault.message (f : Fault) : String :=
  f.cause.message ++ (if f.cause.isPlaceless then "" else " (at " ++ f.place.text ++ ")")

end Conformance.Toml
