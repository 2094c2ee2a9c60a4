/-
# Reports as data

A report as a table of values, written as indented JSON.
-/
import Conformance.Report.Basic
import Conformance.Value.Json

namespace Conformance

/-- The fields of a verdict. -/
def Verdict.toValue (v : Verdict) : Value := .table [
  ("rule_id", .text v.ruleId), ("mode", .text v.mode.word), ("severity", .text v.severity.word),
  ("count", .int v.count), ("threshold", .int v.threshold), ("passed", .flag v.passed),
  ("description", .text v.description)]

/-- The fields of a violation. -/
def Violation.toValue (v : Violation) : Value := .table [
  ("path", .text v.path), ("line", .int v.line), ("rule_id", .text v.ruleId),
  ("subject", .text v.subject), ("severity", .text v.severity.word), ("message", .text v.message),
  ("container_name", .ofText? v.containerName), ("container_kind", .ofText? v.containerKind),
  ("namespace", .ofText? v.namespaceName)]

/-- The fields of a pair. -/
def SimilarPair.toValue (p : SimilarPair) : Value := .table [
  ("rule_id", .text p.ruleId), ("subject_a", .text p.first), ("subject_b", .text p.second),
  ("shared", .int p.shared), ("total", .int p.total), ("ratio", .ofNumber p.ratio),
  ("shared_members", .ofTexts p.sharedMembers), ("location_a", .ofText? p.firstLocation),
  ("location_b", .ofText? p.secondLocation), ("message", .text p.message)]

/-- Counts under their names. -/
def Value.ofTally (counts : List (String × Nat)) : Value :=
  .table (counts.map fun (name, n) => (name, .ofNat n))

/-- The fields of a report. -/
def Report.toValue (r : Report) : Value := .table [
  ("passed", .flag r.passed), ("root", .ofText? r.root),
  ("generated_at", .ofText? (r.generatedAt.map Moment.iso)),
  ("files_scanned", .int r.filesScanned), ("files_skipped", .ofTexts r.filesSkipped),
  ("verdicts", .list (r.verdicts.map Verdict.toValue)), ("by_rule", .ofTally r.byRule),
  ("by_layer", .ofTally r.byLayer), ("violations", .list (r.violations.map Violation.toValue)),
  ("similarity_pairs", .list (r.pairs.map SimilarPair.toValue))]

/-- The indented text of a report's fields. -/
def Report.json (r : Report) : String :=
  Json.indented 0 r.toValue

end Conformance
