/-
# Text as it is printed

A text that is printed for a reader has pictographs for their codes, blanks up to the next multiple
of eight for tabs, and no control characters that would move the cursor.
-/
import Conformance.Text.Pictograph.Codes

namespace Conformance.Printed

/-- Whether a character moves the cursor and is left out. -/
def movesCursor (c : Char) : Bool :=
  [0x07, 0x08, 0x0B, 0x0C, 0x0D].contains c.toNat

/-- A text without characters that move the cursor. -/
def steady (cs : List Char) : List Char :=
  cs.filter (!movesCursor ·)

/-- A text with pictographs for their codes. -/
def pictured (cs : List Char) : List Char :=
  steady (Pictograph.replaceCodes cs)

/-- The distance between the places that tabs lead to. -/
def tabSize : Nat := 8

/-- The characters of a text from a column on, with blanks for tabs. -/
def expandTabs : (column : Nat) → List Char → List Char
  | _, [] => []
  | column, '\t' :: cs =>
    let width := tabSize - column % tabSize
    List.replicate width ' ' ++ expandTabs (column + width) cs
  | _, '\n' :: cs => '\n' :: expandTabs 0 cs
  | column, c :: cs => c :: expandTabs (column + 1) cs

/-- A text as it is printed. -/
def text (s : String) : String :=
  String.ofList (expandTabs 0 (pictured s.toList))

end Conformance.Printed
