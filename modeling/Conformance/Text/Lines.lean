/-
# Lines of a text

A line ends at a line feed, a carriage return, the two together, a vertical tab, a form feed,
one of three information separators, the next-line character or a Unicode line or paragraph
separator.  A break at the very end of a text does not start another line.
-/

namespace Conformance.Text

/-- Whether a character ends a line. -/
def isLineBreak (c : Char) : Bool :=
  let n := c.toNat
  (0x0A ≤ n && n ≤ 0x0D) || (0x1C ≤ n && n ≤ 0x1E) || n == 0x85 || n == 0x2028 || n == 0x2029

/-- The lines of a text; the line being read is kept in reverse, and `pending` tells that the
last character was a carriage return that may belong together with a line feed. -/
def linesFrom : (line : List Char) → (pending : Bool) → List Char → List (List Char)
  | line, _, [] => if line.isEmpty then [] else [line.reverse]
  | line, pending, c :: cs =>
    if pending && c == '\n' then linesFrom line false cs
    else if isLineBreak c then line.reverse :: linesFrom [] (c == '\r') cs
    else linesFrom (c :: line) false cs

/-- The lines of a text, without their breaks. -/
def lines (text : String) : List String :=
  (linesFrom [] false text.toList).map String.ofList

/-- Lines written as one text, a line feed between neighbours. -/
def unlines (ls : List String) : String :=
  "\n".intercalate ls

/-- Rewrites every carriage return, alone or before a line feed, as one line feed. -/
def unifyBreaks : List Char → List Char
  | [] => []
  | '\r' :: '\n' :: cs => '\n' :: unifyBreaks cs
  | '\r' :: cs => '\n' :: unifyBreaks cs
  | c :: cs => c :: unifyBreaks cs

end Conformance.Text
