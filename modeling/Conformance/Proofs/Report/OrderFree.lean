/-
# Findings in another order

Findings are sorted by a few of their fields, and what is equal in these fields stays in the order
in which it was found.  So the sequence of these fields, and everything that is counted, is the same
in whatever order the findings come (`Report.SameFindings`); a report as a whole is the same for
every order just if findings that the order does not tell apart are equal
(`Report.aggregate_eq_of_perm_iff`).  The main statement is `Report.aggregate_perm`.
-/
import Conformance.Proofs.Report.Conservation
import Conformance.Report.Format

namespace Conformance

/-! ## The order of pairs -/

/-- What pairs are ordered by: rule and subjects. -/
def SimilarPair.place (p : SimilarPair) : String ×ₗ String ×ₗ String :=
  toLex (p.ruleId, toLex (p.first, p.second))

lemma isOrderTest_pairs : IsOrderTest SimilarPair.precedes :=
  ((isOrderTest_key SimilarPair.second).lex SimilarPair.first).lex SimilarPair.ruleId

lemma SimilarPair.precedes_iff {p q : SimilarPair} : p.precedes q = true ↔ p.place ≤ q.place := by
  simp only [precedes, lex_iff, place, Prod.Lex.toLex_le_toLex, Bool.not_eq_true',
    decide_eq_false_iff_not, not_lt]

lemma Violation.map_place_sort {vs vs' : List Violation} (h : vs.Perm vs') :
    (Violation.sort vs).map Violation.place = (Violation.sort vs').map Violation.place :=
  map_mergeSort_eq_of_perm isOrderTest_violations (fun _ _ => Violation.precedes_iff) h

lemma SimilarPair.map_place_sort {ps ps' : List SimilarPair} (h : ps.Perm ps') :
    (SimilarPair.sort ps).map SimilarPair.place = (SimilarPair.sort ps').map SimilarPair.place :=
  map_mergeSort_eq_of_perm isOrderTest_pairs (fun _ _ => SimilarPair.precedes_iff) h

/-- Violations are sorted alike in every order just if those with the same place are equal. -/
lemma Violation.forall_perm_sort_iff {vs : List Violation} :
    (∀ vs', vs.Perm vs' → Violation.sort vs = Violation.sort vs') ↔
      ∀ v ∈ vs, ∀ w ∈ vs, v.place = w.place → v = w :=
  forall_perm_mergeSort_iff isOrderTest_violations fun _ _ => Violation.precedes_iff

/-- Pairs are sorted alike in every order just if those with the same place are equal. -/
lemma SimilarPair.forall_perm_sort_iff {ps : List SimilarPair} :
    (∀ ps', ps.Perm ps' → SimilarPair.sort ps = SimilarPair.sort ps') ↔
      ∀ p ∈ ps, ∀ q ∈ ps, p.place = q.place → p = q :=
  forall_perm_mergeSort_iff isOrderTest_pairs fun _ _ => SimilarPair.precedes_iff

/-! ## Counts -/

lemma countTable_congr {keys names names' : List String} (h : names.Perm names') :
    countTable keys names = countTable keys names' := by
  unfold countTable
  exact List.map_congr_left fun k _ => by rw [h.count_eq]

namespace Report

variable {violations violations' : List Violation} {pairs pairs' : List SimilarPair}
  {rules : List RuleHeading} {summary : ScanSummary}

/-- The number of violations of each file, in the order of the paths. -/
def countsByFile (r : Report) : List (String × Nat) :=
  r.byFile.map fun g => (g.1, g.2.length)

/-- Two reports tell of the same findings: all that is counted is the same, and so are the places in
their order. -/
structure SameFindings (r r' : Report) : Prop where
  verdicts_eq : r.verdicts = r'.verdicts
  byRule_eq : r.byRule = r'.byRule
  byLayer_eq : r.byLayer = r'.byLayer
  countsByFile_eq : r.countsByFile = r'.countsByFile
  passed_eq : r.passed = r'.passed
  failedRules_eq : r.failedRules = r'.failedRules
  /-- Path, line, rule and subject of each violation. -/
  violations_places : r.violations.map Violation.place = r'.violations.map Violation.place
  /-- Rule and subjects of each pair. -/
  pairs_places : r.pairs.map SimilarPair.place = r'.pairs.map SimilarPair.place

lemma findingRules_perm (hvs : violations.Perm violations') (hps : pairs.Perm pairs') :
    (findingRules violations pairs).Perm (findingRules violations' pairs') :=
  (hvs.map _).append (hps.map _)

lemma findingLayers_perm (layers : List String) (hvs : violations.Perm violations')
    (hps : pairs.Perm pairs') :
    (findingLayers layers violations pairs).Perm (findingLayers layers violations' pairs') :=
  (hvs.map _).append (hps.map _)

/-- The number of violations of a file depends on the paths alone. -/
lemma countsByFile_aggregate : (aggregate violations pairs rules summary).countsByFile
    = tally ((Violation.sort violations).map (·.path)) := by
  have hcount : ∀ n, ((Violation.sort violations).filter fun v => v.path == n).length
      = ((Violation.sort violations).map (·.path)).count n := by
    intro n
    rw [List.count, List.countP_map, ← List.countP_eq_length_filter]
    rfl
  show ((Text.groupsBy (·.path) (Violation.sort violations)).map fun g => (g.1, g.2.length)) = _
  simp only [Text.groupsBy, List.map_map, Function.comp_def, hcount]
  rfl

/-- A report is made of the sorted findings. -/
lemma aggregate_congr (hvs : Violation.sort violations = Violation.sort violations')
    (hps : SimilarPair.sort pairs = SimilarPair.sort pairs') :
    aggregate violations pairs rules summary = aggregate violations' pairs' rules summary := by
  simp only [aggregate, hvs, hps]

lemma sameFindings_of_perm (hvs : violations.Perm violations') (hps : pairs.Perm pairs') :
    SameFindings (aggregate violations pairs rules summary)
      (aggregate violations' pairs' rules summary) := by
  have hsortedVs : (Violation.sort violations).Perm (Violation.sort violations') :=
    (Violation.sort_perm _).trans (hvs.trans (Violation.sort_perm _).symm)
  have hsortedPs : (SimilarPair.sort pairs).Perm (SimilarPair.sort pairs') :=
    (SimilarPair.sort_perm _).trans (hps.trans (SimilarPair.sort_perm _).symm)
  have hrules := findingRules_perm hsortedVs hsortedPs
  have hlayers := findingLayers_perm summary.layers hsortedVs hsortedPs
  have hverdicts : (aggregate violations pairs rules summary).verdicts
      = (aggregate violations' pairs' rules summary).verdicts := by
    simp only [verdicts_aggregate, countFor_aggregate, hrules.count_eq]
  constructor
  case verdicts_eq => exact hverdicts
  case byRule_eq =>
    rw [byRule_aggregate, byRule_aggregate, countTable_congr hrules]
    congr 1
    exact Text.sortedSet_congr fun n => (hrules.append_left _).mem_iff
  case byLayer_eq =>
    rw [byLayer_aggregate, byLayer_aggregate, countTable_congr hlayers]
    congr 1
    exact Text.sortedSet_congr fun n => hlayers.mem_iff
  case countsByFile_eq =>
    have hpaths := congrArg (List.map fun k => (ofLex k).1) (Violation.map_place_sort hvs)
    rw [List.map_map, List.map_map] at hpaths
    rw [countsByFile_aggregate, countsByFile_aggregate]
    exact congrArg tally hpaths
  case passed_eq => rw [passed, passed, hverdicts]
  case failedRules_eq => rw [failedRules, failedRules, hverdicts]
  case violations_places => exact Violation.map_place_sort hvs
  case pairs_places => exact SimilarPair.map_place_sort hps

/-- **A report is the same for every order of the findings** just if findings with the same place
are equal. -/
theorem aggregate_eq_of_perm_iff :
    (∀ violations' pairs', violations.Perm violations' → pairs.Perm pairs' →
      aggregate violations pairs rules summary = aggregate violations' pairs' rules summary) ↔
    (∀ v ∈ violations, ∀ w ∈ violations, v.place = w.place → v = w) ∧
      ∀ p ∈ pairs, ∀ q ∈ pairs, p.place = q.place → p = q := by
  rw [← Violation.forall_perm_sort_iff, ← SimilarPair.forall_perm_sort_iff]
  constructor
  · intro h
    constructor
    · intro violations' hvs
      exact congrArg Report.violations (h violations' pairs hvs (List.Perm.refl _))
    · intro pairs' hps
      exact congrArg Report.pairs (h violations pairs' (List.Perm.refl _) hps)
  · rintro ⟨hvs, hps⟩ violations' pairs' hperm hperm'
    exact aggregate_congr (hvs _ hperm) (hps _ hperm')

/-- **A report depends on the findings and not on the order in which they were made.**  Whatever is
counted and the places of the findings are the same; without two violations in one place and two
pairs in one place, so is the whole report, in every form and every layout. -/
theorem aggregate_perm (hvs : violations.Perm violations') (hps : pairs.Perm pairs') :
    let r := aggregate violations pairs rules summary
    let r' := aggregate violations' pairs' rules summary
    SameFindings r r' ∧
      ((violations.map Violation.place).Nodup → (pairs.map SimilarPair.place).Nodup →
        r = r' ∧ ∀ (layout : Boxed.Layout) (form : ReportFormat),
          form.render layout r = form.render layout r') := by
  refine ⟨sameFindings_of_perm hvs hps, fun hviolations hpairs => ?_⟩
  have hsame : aggregate violations pairs rules summary
      = aggregate violations' pairs' rules summary := by
    refine aggregate_eq_of_perm_iff.2 ⟨?_, ?_⟩ violations' pairs' hvs hps
    · exact fun v hv w hw => List.inj_on_of_nodup_map hviolations hv hw
    · exact fun p hp q hq => List.inj_on_of_nodup_map hpairs hp hq
  exact ⟨hsame, fun layout form => congrArg (form.render layout) hsame⟩

/-- Findings in different places, told backwards. -/
theorem aggregate_perm_mixed :
    let r := aggregate mixedViolations [drivePair] mixedRules {}
    let r' := aggregate mixedViolations.reverse [drivePair] mixedRules {}
    mixedViolations.Perm mixedViolations.reverse ∧
      (mixedViolations.map Violation.place).Nodup ∧ ([drivePair].map SimilarPair.place).Nodup ∧
      SameFindings r r' ∧ r = r' ∧ ∀ (layout : Boxed.Layout) (form : ReportFormat),
        form.render layout r = form.render layout r' := by
  intro r r'
  have hvs : mixedViolations.Perm mixedViolations.reverse := (List.reverse_perm _).symm
  have hviolations : (mixedViolations.map Violation.place).Nodup := by decide
  have hpairs : ([drivePair].map SimilarPair.place).Nodup := by decide
  obtain ⟨hfindings, hsame⟩ :=
    @aggregate_perm _ _ _ _ mixedRules {} hvs (List.Perm.refl [drivePair])
  exact ⟨hvs, hviolations, hpairs, hfindings, hsame hviolations hpairs⟩

end Report
end Conformance
