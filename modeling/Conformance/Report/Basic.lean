/-
# Reports

A report holds all findings in order, groups them by file, layer and rule, and gives a verdict on
every rule, also on those without findings.  It depends on the findings alone and not on the order
in which they were made.
-/
import Conformance.Finding
import Conformance.Calendar.Moment
import Conformance.Similarity.Pair
import Conformance.Text.Order

namespace Conformance

/-! ## Layers -/

/-- The markers of layers, in the order in which they are tried. -/
def defaultLayers : List String :=
  ["Core", "Execution", "Drivers", "Ingress", "Communication", "Application", "Observability",
    "Simulation", "Host", "Analyzers"]

/-- The layer of paths that no marker fits. -/
def otherLayer : String := "Other"

/-- Whether a folder name belongs to a layer: it is the marker, or ends with a point and the
marker. -/
def inLayer (marker segment : String) : Bool :=
  segment == marker || Text.endsWith segment ("." ++ marker)

/-- The first layer that a part of a path belongs to. -/
def layerOf (path : String) (layers : List String := defaultLayers) : String :=
  (layers.find? fun marker => (Text.pieces '/' path).any (inLayer marker)).getD otherLayer

/-! ## Verdicts -/

/-- The verdict on a rule. -/
structure Verdict where
  /-- The identity of the rule. -/
  ruleId : String
  /-- Its mode. -/
  mode : RuleMode
  /-- Its severity. -/
  severity : Severity
  /-- The number of its findings. -/
  count : Nat
  /-- Its threshold. -/
  threshold : Int
  /-- Whether it passes. -/
  passed : Bool
  /-- What it is about. -/
  description : String := ""
  deriving DecidableEq, Repr, Inhabited

/-- The verdict on a rule with a number of findings. -/
def Verdict.ofCount (h : RuleHeading) (count : Nat) : Verdict where
  ruleId := h.id
  mode := h.mode
  severity := h.severity
  count := count
  threshold := h.threshold
  passed := h.passes count
  description := h.description

/-! ## Reports -/

/-- All findings of a scan. -/
structure Report where
  /-- The violations, in order. -/
  violations : List Violation
  /-- The pairs, in order. -/
  pairs : List SimilarPair
  /-- A verdict for every rule, in the order of their identities. -/
  verdicts : List Verdict
  /-- The violations by path. -/
  byFile : List (String × List Violation)
  /-- The number of findings by layer. -/
  byLayer : List (String × Nat)
  /-- The number of findings by rule. -/
  byRule : List (String × Nat)
  /-- The number of files that were read. -/
  filesScanned : Int
  /-- The files that could not be read, in order. -/
  filesSkipped : List String
  /-- The root of the tree. -/
  root : Option String
  /-- When the report was made. -/
  generatedAt : Option Moment
  deriving Repr, Inhabited

/-- How often each name occurs, in the order of the names. -/
def tally (names : List String) : List (String × Nat) :=
  (Text.sortedSet names).map fun n => (n, names.count n)

/-- The path of the first subject of a pair: what stands before the last colon of its place. -/
def SimilarPair.path (p : SimilarPair) : String :=
  let location := p.firstLocation.getD ""
  ((Text.splitLast ':' location).map (·.1)).getD location

/-- The identities of the rules of all findings. -/
def findingRules (violations : List Violation) (pairs : List SimilarPair) : List String :=
  violations.map (·.ruleId) ++ pairs.map (·.ruleId)

/-- The layers of all findings. -/
def findingLayers (layers : List String) (violations : List Violation)
    (pairs : List SimilarPair) : List String :=
  violations.map (fun v => layerOf v.path layers) ++ pairs.map fun p => layerOf p.path layers

/-- What is known about a scan apart from its findings. -/
structure ScanSummary where
  /-- The markers of layers. -/
  layers : List String := defaultLayers
  /-- The number of files that were read. -/
  filesScanned : Int := 0
  /-- The files that could not be read. -/
  filesSkipped : List String := []
  /-- The root of the tree. -/
  root : Option String := none
  /-- When the scan was made. -/
  generatedAt : Option Moment := none
  deriving DecidableEq, Repr, Inhabited

namespace Report

/-- Sorts, groups and judges findings. -/
def aggregate (violations : List Violation) (pairs : List SimilarPair)
    (rules : List RuleHeading) (summary : ScanSummary) : Report :=
  let violations := Violation.sort violations
  let pairs := SimilarPair.sort pairs
  let found := findingRules violations pairs
  let count (id : String) := found.count id
  { violations := violations
    pairs := pairs
    verdicts := (rules.mergeSort fun a b => Text.precedes a.id b.id).map fun h =>
      Verdict.ofCount h (count h.id)
    byFile := Text.groupsBy (·.path) violations
    byLayer := tally (findingLayers summary.layers violations pairs)
    byRule := (Text.sortedSet (rules.map (·.id) ++ found)).map fun id => (id, count id)
    filesScanned := summary.filesScanned
    filesSkipped := Text.sorted summary.filesSkipped
    root := summary.root
    generatedAt := summary.generatedAt }

/-- Whether every rule passes. -/
def passed (r : Report) : Bool :=
  r.verdicts.all (·.passed)

/-- The rules that do not pass. -/
def failedRules (r : Report) : List String :=
  (r.verdicts.filter (!·.passed)).map (·.ruleId)

/-- The violations of a rule. -/
def violationsFor (r : Report) (id : String) : List Violation :=
  r.violations.filter (·.ruleId == id)

/-- The pairs of a rule. -/
def pairsFor (r : Report) (id : String) : List SimilarPair :=
  r.pairs.filter (·.ruleId == id)

/-- The verdict on a rule. -/
def verdict? (r : Report) (id : String) : Option Verdict :=
  r.verdicts.find? (·.ruleId == id)

/-- The number of all findings. -/
def findings (r : Report) : Nat :=
  r.byRule.foldr (fun e n => e.2 + n) 0

end Report
end Conformance
