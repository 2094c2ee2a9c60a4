/-
# Reports as Markdown

The canonical text of a report: a heading, a summary of the verdicts, the findings by layer, a
section for every rule with findings, and the files that were skipped.  The root of the tree is left
out, so that reports of one tree in two places are the same.
-/
import Conformance.Report.Basic

namespace Conformance.Markdown

/-- The word for a verdict. -/
def result (v : Verdict) : String :=
  if v.mode == .advisory then "ADVISORY" else if v.passed then "PASS" else "FAIL"

/-- A row of a table. -/
def row (cells : List String) : String :=
  "| " ++ " | ".intercalate cells ++ " |"

/-- A text as code. -/
def code (s : String) : String :=
  "`" ++ s ++ "`"

/-- A text inside a table: bars are escaped. -/
def escapeBars (s : String) : String :=
  String.ofList (s.toList.flatMap fun c => if c == '|' then ['\\', '|'] else [c])

/-- The lines above the summary. -/
def heading (r : Report) : List String :=
  ["# Architecture Conformance Report", ""] ++
    (r.generatedAt.map fun m => "**Generated**: " ++ m.shown ++ "  ").toList ++
    ["**Result**: " ++ (if r.passed then "PASSED" else "FAILED") ++ "  ",
      "**Files scanned**: " ++ intText r.filesScanned ++ ", **skipped**: " ++
        intText r.filesSkipped.length ++ ", **findings**: " ++ intText r.findings,
      ""]

/-- The row of a verdict in the summary. -/
def verdictRow (v : Verdict) : String :=
  row [v.ruleId, v.mode.word, v.severity.word, intText v.count,
    if v.mode == .threshold then intText v.threshold else "-", result v]

/-- The table of all verdicts. -/
def summary (r : Report) : List String :=
  ["## Summary", "",
    "| Rule | Mode | Severity | Findings | Threshold | Result |",
    "|------|------|----------|----------|-----------|--------|"] ++
    r.verdicts.map verdictRow ++ [""]

/-- The table of findings by layer. -/
def layers (r : Report) : List String :=
  if r.byLayer.isEmpty then []
  else ["## Findings by layer", "", "| Layer | Findings |", "|-------|----------|"] ++
    r.byLayer.map (fun (layer, count) => row [layer, intText count]) ++ [""]

/-- The heading of a file. -/
def fileHeading (path : String) : String :=
  "### " ++ code path

/-- The line of a violation. -/
def bullet (v : Violation) : String :=
  "- line " ++ intText v.line ++ ": " ++ code v.subject ++ ": " ++ v.message

/-- The lines of violations, with a heading before each that has another path than the one before
it. -/
def bullets : (current : Option String) → List Violation → List String
  | none, [] => []
  | some _, [] => [""]
  | current, v :: vs =>
    (if current == some v.path then []
     else (if current.isSome then [""] else []) ++ [fileHeading v.path, ""]) ++
      bullet v :: bullets (some v.path) vs

/-- The row of a pair. -/
def pairRow (p : SimilarPair) : String :=
  row [code p.first, code p.second, intText p.shared, intText p.total, p.percent,
    escapeBars (", ".intercalate p.sharedMembers)]

/-- The table of pairs. -/
def pairTable (ps : List SimilarPair) : List String :=
  if ps.isEmpty then []
  else ["| Subject A | Subject B | Shared | Total | Ratio | Shared members |",
    "|-----------|-----------|--------|-------|-------|----------------|"] ++
    ps.map pairRow ++ [""]

/-- The heading of a rule. -/
def ruleHeading (v : Verdict) : String :=
  "## " ++ v.ruleId ++ " (" ++ intText v.count ++ ")"

/-- The section of a rule; a rule without findings has none. -/
def ruleSection (r : Report) (v : Verdict) : List String :=
  if v.count == 0 then []
  else [ruleHeading v, ""] ++
    (if v.description.isEmpty then [] else ["_" ++ v.description ++ "_", ""]) ++
    bullets none (r.violationsFor v.ruleId) ++ pairTable (r.pairsFor v.ruleId)

/-- The list of skipped files. -/
def skipped (r : Report) : List String :=
  if r.filesSkipped.isEmpty then []
  else ["## Skipped files", ""] ++ r.filesSkipped.map (fun p => "- " ++ code p) ++ [""]

/-- All lines of a report. -/
def lines (r : Report) : List String :=
  heading r ++ summary r ++ layers r ++ r.verdicts.flatMap (ruleSection r) ++ skipped r

/-- The text of a report: one line feed at its end and no blanks before it. -/
def render (r : Report) : String :=
  String.ofList (Text.trimEnd ("\n".intercalate (lines r)).toList) ++ "\n"

end Conformance.Markdown
