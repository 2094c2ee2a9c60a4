/-
# Evaluating a set of rules

Rules about single declarations, namespaces and usages are judged file by file; upper bounds and
duplicates for all declarations together.  Similarity rules are judged elsewhere.
-/
import Conformance.Check.Duplicate
import Conformance.Check.Namespace
import Conformance.Check.Placement
import Conformance.Check.Usage

namespace Conformance
open Source

variable [Host] [m : Memory]

/-- Findings of several rules, one rule after another. -/
def collect {α β : Type} (f : α → Except Fault (List β)) (items : List α) :
    Except Fault (List β) :=
  (items.mapM f).map List.flatten

namespace RuleSet

/-- Which containers some placement rule is about; if no rule names containers, all are. -/
def containerFilter (s : RuleSet) : Option ContainerFilter :=
  match (s.placements.map (·.2)).filter (·.namesContainers) with
  | [] => none
  | constrained => some fun kind name => constrained.any (·.concerns kind name)

/-- The violations of placement rules by the declarations of a file. -/
def checkPlacements (s : RuleSet) (ds : List Declaration) : Except Fault (List Violation) :=
  collect (fun (r, p) => if p.hasConstraints || p.reportsEveryMatch then p.check r ds else .ok [])
    s.placements

/-- The violations of one file, in the order of the rules: placements, namespaces, usages. -/
def evaluateFile (s : RuleSet) (f : FileDeclarations) : Except Fault (List Violation) := do
  let placed ← s.checkPlacements f.declarations
  let named ← collect (fun (r, n) => n.check r f) s.namespaces
  let used ← collect (fun (r, u) => u.check r f) s.usages
  return placed ++ named ++ used

/-- The violations of all declarations together: upper bounds, then duplicates. -/
def evaluateGlobal (s : RuleSet) (ds : List Declaration) : Except Fault (List Violation) := do
  let counted ← collect (fun (r, p) => match p.maxCount with
    | some most => p.checkCount r most ds
    | none => .ok []) s.placements
  let duplicated ← collect (fun (r, d) => d.check r ds) s.duplications
  return counted ++ duplicated

/-- All violations of some files, in order. -/
def evaluate (s : RuleSet) (files : List FileDeclarations) : Except Fault (List Violation) := do
  let single ← collect s.evaluateFile files
  let joint ← s.evaluateGlobal (files.flatMap (·.declarations))
  return Violation.sort (single ++ joint)

end RuleSet
end Conformance
