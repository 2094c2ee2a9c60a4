/-
# Reports as notices

One line for every finding, in the form in which a build service shows notes beside the source, and
a last line with the outcome.  Findings of advisory rules and pairs are mere notices.
-/
import Conformance.Report.Basic

namespace Conformance.Notice

/-- A character of a message: line breaks and the escape character itself are escaped. -/
def escapeChar (c : Char) : List Char :=
  if c == '%' then ['%', '2', '5']
  else if c == '\r' then ['%', '0', 'D']
  else if c == '\n' then ['%', '0', 'A']
  else [c]

/-- A message on one line. -/
def escape (s : String) : String :=
  String.ofList (s.toList.flatMap escapeChar)

/-- The level of a severity. -/
def level : Severity → String
  | .error => "error"
  | .warning => "warning"
  | .info => "notice"

/-- The rules that never fail. -/
def advisoryRules (r : Report) : List String :=
  (r.verdicts.filter (·.mode == .advisory)).map (·.ruleId)

/-- The place and the rule of an annotation. -/
def header (path line rule : String) : String :=
  " file=" ++ path ++ ",line=" ++ line ++ ",title=" ++ rule

/-- The annotation of a violation. -/
def ofViolation (advisory : List String) (v : Violation) : String :=
  "::" ++ (if advisory.contains v.ruleId then "notice" else level v.severity) ++
    header v.path (intText v.line) v.ruleId ++ "::" ++ escape v.message

/-- The annotation of a pair, at the place of its first subject. -/
def ofPair (p : SimilarPair) : String :=
  let place := match p.firstLocation.filter (!·.isEmpty) with
    | none => ""
    | some location =>
      let (path, line) := (Text.splitLast ':' location).getD ("", location)
      header path line p.ruleId
  "::notice" ++ place ++ "::" ++ escape (if p.message.isEmpty then p.key else p.message)

/-- The last line. -/
def status (r : Report) : String :=
  "archscan " ++
    (if r.failedRules.isEmpty then "passed" else "failed: " ++ ", ".intercalate r.failedRules) ++
    " (" ++ intText r.findings ++ " findings)"

/-- The lines of a report. -/
def lines (r : Report) : List String :=
  r.violations.map (ofViolation (advisoryRules r)) ++ r.pairs.map ofPair ++ [status r]

/-- The text of a report. -/
def render (r : Report) : String :=
  "\n".intercalate (lines r)

end Conformance.Notice
