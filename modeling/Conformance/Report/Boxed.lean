/-
# Boxed tables

Text for a terminal: a panel, tables and single lines.  What they hold is told here; how they are
set (their frames, the widths of their columns, where long lines are broken) is a matter of the
`Layout` that is given.  One layout has panels with round corners, and tables with heavy lines
around their heads; every column is as wide as its widest cell, with a blank on either side.
-/
import Conformance.Report.Basic
import Conformance.Text.Printed

namespace Conformance.Boxed

/-- A character several times. -/
def times (n : Nat) (c : Char) : String :=
  String.ofList (List.replicate n c)

/-- A text filled up with blanks on its right. -/
def padRight (width : Nat) (s : String) : String :=
  s ++ times (width - s.length) ' '

/-- A text filled up with blanks on its left. -/
def padLeft (width : Nat) (s : String) : String :=
  times (width - s.length) ' ' ++ s

/-- A text in the middle of characters; one that is left over goes to the right. -/
def center (width : Nat) (fill : Char) (s : String) : String :=
  let left := (width - s.length) / 2
  times left fill ++ s ++ times (width - s.length - left) fill

/-- A column of a table. -/
structure Column where
  /-- Its title. -/
  title : String
  /-- Whether its cells stand on the right. -/
  numeric : Bool := false
  deriving DecidableEq, Repr, Inhabited

/-- How text is set for a terminal: the lines of each part. -/
structure Layout where
  /-- Lines in a frame with a title. -/
  panel : (title : String) → (content : List String) → List String
  /-- A table under a title in its middle. -/
  centered : (title : String) → List Column → (rows : List (List String)) → List String
  /-- A table under a title on its left. -/
  titled : (title : String) → List Column → (rows : List (List String)) → List String
  /-- A line of text. -/
  line : String → List String

/-! ## Columns as wide as their cells -/

/-- The lines of a cell. -/
def cellLines (s : String) : List String :=
  Text.pieces '\n' (String.ofList (Printed.steady s.toList))

/-- The width of the widest of some texts. -/
def widest (texts : List String) : Nat :=
  (texts.map String.length).foldl max 0

/-- The width of every column. -/
def widths (columns : List Column) (rows : List (List String)) : List Nat :=
  columns.zipIdx.map fun (c, i) =>
    widest (cellLines c.title ++ rows.flatMap fun r => cellLines (r.getD i ""))

/-- A horizontal line of a table. -/
def rule (left : String) (line : Char) (middle right : String) (ws : List Nat) : String :=
  left ++ middle.intercalate (ws.map fun w => times (w + 2) line) ++ right

/-- One line of a cell at the width of its column. -/
def cellLine (c : Column) (width : Nat) (s : String) : String :=
  " " ++ (if c.numeric then padLeft width s else padRight width s) ++ " "

/-- The lines of a row. -/
def rowLines (bar : String) (columns : List Column) (ws : List Nat) (cells : List String) :
    List String :=
  let parts := cells.map cellLines
  let height := (parts.map List.length).foldl max 1
  (List.range height).map fun k =>
    bar ++ bar.intercalate (((columns.zip ws).zip parts).map fun ((c, w), lines) =>
      cellLine c w (lines.getD k "")) ++ bar

/-- The lines of a table below its title. -/
def tableLines (columns : List Column) (rows : List (List String)) : List String :=
  let ws := widths columns rows
  [rule "┏" '━' "┳" "┓" ws] ++ rowLines "┃" columns ws (columns.map (·.title)) ++
    [rule "┡" '━' "╇" "┩" ws] ++ rows.flatMap (rowLines "│" columns ws) ++
    [rule "└" '─' "┴" "┘" ws]

/-- The width of a table. -/
def tableWidth (columns : List Column) (rows : List (List String)) : Nat :=
  (widths columns rows).foldr (fun w n => w + 3 + n) 1

/-- A table under a title in its middle. -/
def centered (title : String) (columns : List Column) (rows : List (List String)) :
    List String :=
  center (tableWidth columns rows) ' ' title :: tableLines columns rows

/-- A table under a title on its left. -/
def titled (title : String) (columns : List Column) (rows : List (List String)) : List String :=
  padRight (tableWidth columns rows) title :: tableLines columns rows

/-- Lines in a frame with a title. -/
def panel (title : String) (content : List String) : List String :=
  let width := max (widest content) (title.length + 2)
  ["╭─" ++ center width '─' (" " ++ title ++ " ") ++ "─╮"] ++
    content.map (fun s => "│ " ++ padRight width s ++ " │") ++
    ["╰" ++ times (width + 2) '─' ++ "╯"]

/-- The layout in which nothing is broken. -/
def fitting : Layout where
  panel := panel
  centered := centered
  titled := titled
  line s := [Printed.text s]

/-- Lines as a text in which each ends with a line feed. -/
def text (lines : List String) : String :=
  String.join (lines.map (· ++ "\n"))

/-! ## Reports -/

/-- The word for a verdict. -/
def result (v : Verdict) : String :=
  if v.mode == .advisory then "advisory" else if v.passed then "pass" else "FAIL"

section Parts

variable (l : Layout)

/-- The panel above a report. -/
def summary (r : Report) : List String :=
  l.panel "Architecture Conformance" <|
    [if r.passed then "PASSED" else "FAILED",
      "Files scanned: " ++ intText r.filesScanned ++ "  Skipped: " ++
        intText r.filesSkipped.length ++ "  Findings: " ++ intText r.findings] ++
    (r.generatedAt.map fun m => "Generated: " ++ m.shown).toList

/-- The table of verdicts. -/
def verdicts (r : Report) : List String :=
  l.centered "Rules"
    [⟨"Rule", false⟩, ⟨"Mode", false⟩, ⟨"Severity", false⟩, ⟨"Findings", true⟩, ⟨"Result", false⟩]
    (r.verdicts.map fun v => [v.ruleId, v.mode.word, v.severity.word, intText v.count, result v])

/-- The table of a rule's violations. -/
def violations (id : String) (vs : List Violation) : List String :=
  if vs.isEmpty then []
  else l.titled id [⟨"Location", false⟩, ⟨"Subject", false⟩, ⟨"Message", false⟩]
    (vs.map fun v => [v.path ++ ":" ++ intText v.line, v.subject, v.message])

/-- The table of a rule's pairs. -/
def pairs (id : String) (ps : List SimilarPair) : List String :=
  if ps.isEmpty then []
  else l.titled id [⟨"Subject A", false⟩, ⟨"Subject B", false⟩, ⟨"Shared", true⟩, ⟨"Ratio", true⟩]
    (ps.map fun p => [p.first, p.second, intText p.shared ++ "/" ++ intText p.total, p.percent])

/-- The list of skipped files. -/
def skipped (r : Report) : List String :=
  if r.filesSkipped.isEmpty then []
  else l.line ("Skipped " ++ intText r.filesSkipped.length ++ " unreadable file(s):") ++
    r.filesSkipped.flatMap fun path => l.line ("  " ++ path)

/-- The text of a report. -/
def render (r : Report) : String :=
  text <| summary l r ++ verdicts l r ++
    r.verdicts.flatMap (fun v =>
      violations l v.ruleId (r.violationsFor v.ruleId) ++
        pairs l v.ruleId (r.pairsFor v.ruleId)) ++
    skipped l r

/-- The table of a set of rules. -/
def rulesTable (rules : List (RuleKind × RuleHeading)) : String :=
  text <| l.centered (intText rules.length ++ " rules")
    [⟨"Id", false⟩, ⟨"Type", false⟩, ⟨"Mode", false⟩, ⟨"Severity", false⟩, ⟨"Description", false⟩]
    ((rules.mergeSort fun a b => Text.precedes a.2.id b.2.id).map fun (k, h) =>
      [h.id, k.word,
        if h.mode == .threshold then "threshold (" ++ intText h.threshold ++ ")" else h.mode.word,
        h.severity.word, h.description])

end Parts

end Conformance.Boxed
