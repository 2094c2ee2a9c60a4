/-
# Conservation of findings

A report shows the same findings in several views: in order, by file, by rule, by layer, and as
verdicts.  No view loses a finding or counts one twice (`Report.Conserves`), also where a rule has
no findings, or a finding is of no known rule.  The views by file, rule and layer list each name
once, in order; a verdict counts what its rule has found, and the report passes if all counts are
within what their rules tolerate.  The main statement is `Report.aggregate_conserves`.
-/
import Conformance.Proofs.Order
import Conformance.Report.Basic

namespace Conformance

/-! ## Groups and counts by name -/

section Groups

variable {α : Type} {items : List α}

/-- Where a test holds of what comes before the values that it holds of, it cuts the list. -/
lemma filter_append_filter_not {q : α → Bool}
    (h : items.Pairwise fun a b => q b = true → q a = true) :
    items.filter q ++ items.filter (fun a => !q a) = items := by
  induction items with
  | nil => rfl
  | cons a items ih =>
    obtain ⟨ha, hrest⟩ := List.pairwise_cons.1 h
    cases hq : q a with
    | true =>
      rw [List.filter_cons_of_pos hq, List.filter_cons_of_neg (by simp [hq]), List.cons_append,
        ih hrest]
    | false =>
      -- the test holds of nothing that follows either
      have hnone : ∀ b ∈ items, q b = false := fun b hb =>
        Bool.eq_false_iff.2 fun hb' => by simp [ha b hb hb'] at hq
      rw [List.filter_eq_nil_iff.2 (by simpa [hq] using hnone), List.nil_append,
        List.filter_eq_self.2 (by simpa [hq] using hnone)]

namespace Text

variable {name : α → String}

/-- Without what has one name, the groups of the other names are the same. -/
lemma flatMap_filter_of_notMem {n : String} {names : List String} (hn : n ∉ names) :
    names.flatMap (fun m => items.filter fun a => name a == m)
      = names.flatMap fun m =>
        (items.filter fun a => !(name a == n)).filter fun a => name a == m := by
  refine List.flatMap_congr fun m hm => ?_
  rw [List.filter_filter]
  refine List.filter_congr fun a _ => ?_
  have hne : m ≠ n := fun heq => hn (heq ▸ hm)
  by_cases ha : name a = m <;> simp [ha, hne]

/-- What has a name of a list, but not the first, has one of the others. -/
lemma mem_names_of_mem_filter_not {n : String} {names : List String}
    (hmem : ∀ a ∈ items, name a ∈ n :: names) :
    ∀ a ∈ items.filter fun a => !(name a == n), name a ∈ names := by
  intro a ha
  obtain ⟨ha, hne⟩ := List.mem_filter.1 ha
  exact (List.mem_cons.1 (hmem a ha)).resolve_left (by simpa using hne)

/-- What is in the order of its names is the groups of the names, one after another. -/
lemma flatMap_filter_of_pairwise {names : List String} (hnames : names.Pairwise (· < ·))
    (hitems : items.Pairwise fun a b => name a ≤ name b) (hmem : ∀ a ∈ items, name a ∈ names) :
    names.flatMap (fun n => items.filter fun a => name a == n) = items := by
  induction names generalizing items with
  | nil =>
    have hnil : items = [] := List.eq_nil_iff_forall_not_mem.2 fun a ha =>
      absurd (hmem a ha) (by simp)
    rw [hnil]
    rfl
  | cons n names ih =>
    obtain ⟨hn, hrest⟩ := List.pairwise_cons.1 hnames
    have hothers := ih hrest (hitems.sublist List.filter_sublist)
      (mem_names_of_mem_filter_not hmem)
    rw [List.flatMap_cons, flatMap_filter_of_notMem fun h => lt_irrefl n (hn n h), hothers]
    refine filter_append_filter_not (hitems.imp_of_mem fun {a b} ha hb hle hbn => ?_)
    -- the first name is the least, so what precedes something of this name has it too
    have hleast : n ≤ name a := by
      rcases List.mem_cons.1 (hmem a ha) with heq | hlater
      · exact le_of_eq heq.symm
      · exact le_of_lt (hn _ hlater)
    exact beq_iff_eq.2 (le_antisymm (hle.trans (le_of_eq (beq_iff_eq.1 hbn))) hleast)

lemma flatMap_groupsBy (hitems : items.Pairwise fun a b => name a ≤ name b) :
    (groupsBy name items).flatMap Prod.snd = items := by
  rw [groupsBy, List.flatMap_map]
  exact flatMap_filter_of_pairwise (sortedSet_pairwise _) hitems
    fun a ha => mem_sortedSet.2 (List.mem_map_of_mem ha)

lemma map_fst_groupsBy : (groupsBy name items).map Prod.fst = sortedSet (items.map name) := by
  simp [groupsBy, Function.comp_def]

lemma of_mem_groupsBy {g : String × List α} (h : g ∈ groupsBy name items) :
    g.2 ≠ [] ∧ ∀ a ∈ g.2, name a = g.1 := by
  obtain ⟨n, hn, rfl⟩ := List.mem_map.1 h
  obtain ⟨a, ha, hname⟩ := List.mem_map.1 (mem_sortedSet.1 hn)
  refine ⟨List.ne_nil_of_mem (List.mem_filter.2 ⟨ha, beq_iff_eq.2 hname⟩), fun b hb => ?_⟩
  exact beq_iff_eq.1 (List.mem_filter.1 hb).2

end Text

/-- A table that tells how often each of its keys occurs among some names. -/
def countTable (keys names : List String) : List (String × Nat) :=
  keys.map fun k => (k, names.count k)

section countTable

variable {keys names : List String}

lemma map_fst_countTable : (countTable keys names).map Prod.fst = keys := by
  simp [countTable, Function.comp_def]

/-- If each key stands once and no name is missing, all names are counted. -/
lemma sum_countTable (hkeys : keys.Nodup) (hmem : ∀ n ∈ names, n ∈ keys) :
    ((countTable keys names).map Prod.snd).sum = names.length := by
  have hsum : ∑ k ∈ keys.toFinset, Multiset.count k (names : Multiset String) = names.length :=
    Multiset.sum_count_eq_card (by simpa using hmem)
  rw [List.sum_toFinset _ hkeys] at hsum
  simpa [countTable, Function.comp_def] using hsum

lemma lookup_countTable {n : String} (h : n ∈ keys) :
    (countTable keys names).lookup n = some (names.count n) :=
  List.lookup_graph _ h

/-- What a table without missing names does not list does not occur. -/
lemma lookup_countTable_getD (hmem : ∀ n ∈ names, n ∈ keys) (n : String) :
    ((countTable keys names).lookup n).getD 0 = names.count n := by
  by_cases hn : n ∈ keys
  · rw [lookup_countTable hn]
    rfl
  · have hnone : (countTable keys names).lookup n = none := by
      refine List.lookup_eq_none_iff.2 fun e he => ?_
      obtain ⟨k, hk, rfl⟩ := List.mem_map.1 he
      exact bne_iff_ne.2 fun heq => hn (heq ▸ hk)
    rw [hnone, List.count_eq_zero_of_not_mem fun h => hn (hmem n h)]
    rfl

end countTable

end Groups

/-! ## Places -/

namespace Text

lemma splitLast_append {sep : Char} {s t : String} (h : sep ∉ t.toList) :
    splitLast sep (s ++ String.singleton sep ++ t) = some (s, t) := by
  have htail : ((s ++ String.singleton sep ++ t).toList.reverse).takeWhile (· != sep)
      = t.toList.reverse := by
    -- read backwards, the last separator is the first one
    have hall : ∀ c ∈ t.toList.reverse, (c != sep) = true := fun c hc =>
      bne_iff_ne.2 fun heq => h (heq ▸ List.mem_reverse.1 hc)
    rw [String.toList_append, String.toList_append, String.toList_singleton, List.reverse_append,
      List.reverse_append, List.takeWhile_append_of_pos hall]
    simp
  simp only [splitLast, htail]
  simp [List.drop_left']

end Text

/-- A number is written in digits, with a sign if it is below zero. -/
lemma notMem_intText {c : Char} (hdigit : c.isDigit = false) (hsign : c ≠ '-') (i : Int) :
    c ∉ (intText i).toList := by
  have hdigits : c ∉ decimalDigits i.natAbs := by
    intro h
    have hc := Nat.isDigit_of_mem_toDigits (by decide) (by decide) h
    exact absurd (hc.symm.trans hdigit) (by decide)
  rw [intText, String.toList_ofList]
  split
  · simpa [hsign] using hdigits
  · exact hdigits

/-- The path of a place that is a path and a line is the path, whatever colons it has. -/
lemma SimilarPair.path_of_location {p : SimilarPair} {path : String} {line : Int}
    (h : p.firstLocation = some (path ++ ":" ++ intText line)) : p.path = path := by
  simp only [SimilarPair.path, h, Option.getD_some]
  have hsplit := @Text.splitLast_append ':' path _ (notMem_intText rfl (by decide) line)
  rw [show path ++ ":" ++ intText line = path ++ String.singleton ':' ++ intText line from rfl,
    hsplit]
  rfl

/-! ## Order -/

/-- What violations are ordered by: path, line, rule and subject. -/
def Violation.place (v : Violation) : String ×ₗ Int ×ₗ String ×ₗ String :=
  toLex (v.path, toLex (v.line, toLex (v.ruleId, v.subject)))

lemma Violation.precedes_iff {v w : Violation} : v.precedes w = true ↔ v.place ≤ w.place := by
  simp only [precedes, lex_iff, place, Prod.Lex.toLex_le_toLex, Bool.not_eq_true',
    decide_eq_false_iff_not, not_lt]

lemma Violation.sort_pairwise (vs : List Violation) :
    (Violation.sort vs).Pairwise fun v w => v.place ≤ w.place :=
  (List.pairwise_mergeSort isOrderTest_violations.trans isOrderTest_violations.total vs).imp
    Violation.precedes_iff.1

lemma Violation.sort_perm (vs : List Violation) : (Violation.sort vs).Perm vs :=
  List.mergeSort_perm vs Violation.precedes

lemma SimilarPair.sort_perm (ps : List SimilarPair) : (SimilarPair.sort ps).Perm ps :=
  List.mergeSort_perm ps SimilarPair.precedes

/-! ## Verdicts -/

lemma RuleHeading.passes_iff {h : RuleHeading} {n : Nat} :
    h.passes n = true ↔
      (h.mode = .enforcing → n = 0) ∧ (h.mode = .threshold → (n : Int) ≤ h.threshold) := by
  unfold passes
  cases h.mode <;> simp

/-! ## Reports -/

namespace Report

/-- The number of findings of a rule. -/
def countFor (r : Report) (id : String) : Nat :=
  (r.violationsFor id).length + (r.pairsFor id).length

/-- The views of a report show the given violations and pairs, each once, and judge the given rules
by them. -/
structure Conserves (r : Report) (violations : List Violation) (pairs : List SimilarPair)
    (rules : List RuleHeading) (layers : List String) : Prop where
  violations_perm : r.violations.Perm violations
  violations_sorted : r.violations.Pairwise fun v w => v.place ≤ w.place
  pairs_perm : r.pairs.Perm pairs
  files_increasing : (r.byFile.map Prod.fst).Pairwise (· < ·)
  files_concat : r.byFile.flatMap Prod.snd = r.violations
  files_own : ∀ g ∈ r.byFile, g.2 ≠ [] ∧ ∀ v ∈ g.2, v.path = g.1
  rules_increasing : (r.byRule.map Prod.fst).Pairwise (· < ·)
  rules_sum : (r.byRule.map Prod.snd).sum = violations.length + pairs.length
  /-- A rule that is not listed has no findings. -/
  rules_count : ∀ id, (r.byRule.lookup id).getD 0 = r.countFor id
  layers_increasing : (r.byLayer.map Prod.fst).Pairwise (· < ·)
  layers_sum : (r.byLayer.map Prod.snd).sum = violations.length + pairs.length
  /-- A pair counts for the layer of the path of its first subject. -/
  layers_count : ∀ layer, (r.byLayer.lookup layer).getD 0
    = violations.countP (fun v => layerOf v.path layers == layer)
      + pairs.countP (fun p => layerOf p.path layers == layer)
  location_path : ∀ p ∈ pairs, ∀ path line,
    p.firstLocation = some (path ++ ":" ++ intText line) → p.path = path
  verdicts_increasing : (r.verdicts.map (·.ruleId)).Pairwise (· < ·)
  verdicts_perm : r.verdicts.Perm (rules.map fun h => Verdict.ofCount h (r.countFor h.id))
  /-- Every rule is listed, also without findings. -/
  verdicts_count : ∀ v ∈ r.verdicts, r.byRule.lookup v.ruleId = some v.count
  passed_iff : r.passed = true ↔ ∀ h ∈ rules,
    (h.mode = .enforcing → r.countFor h.id = 0) ∧
      (h.mode = .threshold → (r.countFor h.id : Int) ≤ h.threshold)

variable {violations : List Violation} {pairs : List SimilarPair} {rules : List RuleHeading}
  {summary : ScanSummary}

lemma length_findingRules (vs : List Violation) (ps : List SimilarPair) :
    (findingRules vs ps).length = vs.length + ps.length := by
  simp [findingRules]

lemma count_findingRules (vs : List Violation) (ps : List SimilarPair) (id : String) :
    (findingRules vs ps).count id
      = (vs.filter (·.ruleId == id)).length + (ps.filter (·.ruleId == id)).length := by
  rw [findingRules, List.count_append, ← List.countP_eq_length_filter,
    ← List.countP_eq_length_filter]
  simp only [List.count, List.countP_map, Function.comp_def]

lemma length_findingLayers (layers : List String) (vs : List Violation) (ps : List SimilarPair) :
    (findingLayers layers vs ps).length = vs.length + ps.length := by
  simp [findingLayers]

lemma count_findingLayers (layers : List String) (vs : List Violation) (ps : List SimilarPair)
    (layer : String) :
    (findingLayers layers vs ps).count layer
      = vs.countP (fun v => layerOf v.path layers == layer)
        + ps.countP (fun p => layerOf p.path layers == layer) := by
  rw [findingLayers, List.count_append]
  simp only [List.count, List.countP_map, Function.comp_def]

/-- The rules in the order of their identities. -/
def orderedRules (rules : List RuleHeading) : List RuleHeading :=
  rules.mergeSort fun a b => Text.precedes a.id b.id

lemma orderedRules_perm (rules : List RuleHeading) : (orderedRules rules).Perm rules :=
  List.mergeSort_perm _ _

lemma orderedRules_pairwise (hids : (rules.map (·.id)).Nodup) :
    ((orderedRules rules).map (·.id)).Pairwise (· < ·) := by
  have hnodup : ((orderedRules rules).map (·.id)).Nodup :=
    ((orderedRules_perm rules).map _).nodup_iff.2 hids
  have htest := isOrderTest_key RuleHeading.id
  have hsorted : (orderedRules rules).Pairwise fun a b => a.id ≤ b.id := by
    refine (List.pairwise_mergeSort htest.trans htest.total rules).imp fun {a b} hab => ?_
    simpa only [Bool.not_eq_true', decide_eq_false_iff_not, not_lt] using hab
  exact ((List.pairwise_map.2 hsorted).and hnodup).imp fun h => lt_of_le_of_ne h.1 h.2

/-! Each view of the report, as a function of the sorted findings. -/

lemma byRule_aggregate : (aggregate violations pairs rules summary).byRule
    = countTable
      (Text.sortedSet (rules.map (·.id)
        ++ findingRules (Violation.sort violations) (SimilarPair.sort pairs)))
      (findingRules (Violation.sort violations) (SimilarPair.sort pairs)) := rfl

lemma byLayer_aggregate : (aggregate violations pairs rules summary).byLayer
    = countTable
      (Text.sortedSet
        (findingLayers summary.layers (Violation.sort violations) (SimilarPair.sort pairs)))
      (findingLayers summary.layers (Violation.sort violations) (SimilarPair.sort pairs)) := rfl

lemma countFor_aggregate (id : String) :
    (aggregate violations pairs rules summary).countFor id
      = (findingRules (Violation.sort violations) (SimilarPair.sort pairs)).count id :=
  (count_findingRules _ _ id).symm

lemma verdicts_aggregate :
    (aggregate violations pairs rules summary).verdicts = (orderedRules rules).map fun h =>
      Verdict.ofCount h ((aggregate violations pairs rules summary).countFor h.id) := by
  simp only [countFor_aggregate]
  rfl

lemma lookup_byRule_of_mem {h : RuleHeading} (hh : h ∈ rules) :
    (aggregate violations pairs rules summary).byRule.lookup h.id
      = some ((aggregate violations pairs rules summary).countFor h.id) := by
  rw [byRule_aggregate, countFor_aggregate]
  refine lookup_countTable (Text.mem_sortedSet.2 (List.mem_append_left _ ?_))
  exact List.mem_map_of_mem hh

/-- The report passes if the count of every rule does. -/
lemma passed_aggregate : (aggregate violations pairs rules summary).passed = true ↔
    ∀ h ∈ rules, h.passes ((aggregate violations pairs rules summary).countFor h.id) = true := by
  rw [passed, List.all_eq_true, verdicts_aggregate, List.forall_mem_map]
  simp only [(orderedRules_perm rules).mem_iff]
  rfl

/-- Every finding stands in every view of a report, once, and the verdicts judge how many there
are. -/
theorem aggregate_conserves (hids : (rules.map (·.id)).Nodup) :
    (aggregate violations pairs rules summary).Conserves violations pairs rules summary.layers := by
  let vs := Violation.sort violations
  let ps := SimilarPair.sort pairs
  have hvs : vs.Perm violations := Violation.sort_perm violations
  have hps : ps.Perm pairs := SimilarPair.sort_perm pairs
  have hpaths : vs.Pairwise fun v w => v.path ≤ w.path :=
    (List.pairwise_mergeSort isOrderTest_violations.trans isOrderTest_violations.total _).imp
      Violation.path_le_of_precedes
  have hrules : ∀ id ∈ findingRules vs ps,
      id ∈ Text.sortedSet (rules.map (·.id) ++ findingRules vs ps) :=
    fun id h => Text.mem_sortedSet.2 (List.mem_append_right _ h)
  have hlayers : ∀ layer ∈ findingLayers summary.layers vs ps,
      layer ∈ Text.sortedSet (findingLayers summary.layers vs ps) :=
    fun layer h => Text.mem_sortedSet.2 h
  constructor
  case violations_perm => exact hvs
  case violations_sorted => exact Violation.sort_pairwise violations
  case pairs_perm => exact hps
  case files_increasing =>
    exact Text.map_fst_groupsBy ▸ Text.sortedSet_pairwise (vs.map (·.path))
  case files_concat => exact Text.flatMap_groupsBy hpaths
  case files_own => exact fun g hg => Text.of_mem_groupsBy hg
  case rules_increasing =>
    rw [byRule_aggregate, map_fst_countTable]
    exact Text.sortedSet_pairwise _
  case rules_sum =>
    rw [byRule_aggregate, sum_countTable (Text.sortedSet_nodup _) hrules, length_findingRules,
      hvs.length_eq, hps.length_eq]
  case rules_count =>
    intro id
    rw [byRule_aggregate, lookup_countTable_getD hrules, countFor_aggregate]
  case layers_increasing =>
    rw [byLayer_aggregate, map_fst_countTable]
    exact Text.sortedSet_pairwise _
  case layers_sum =>
    rw [byLayer_aggregate, sum_countTable (Text.sortedSet_nodup _) hlayers, length_findingLayers,
      hvs.length_eq, hps.length_eq]
  case layers_count =>
    intro layer
    rw [byLayer_aggregate, lookup_countTable_getD hlayers, count_findingLayers, hvs.countP_eq,
      hps.countP_eq]
  case location_path => exact fun p _ path line h => SimilarPair.path_of_location h
  case verdicts_increasing =>
    rw [verdicts_aggregate, List.map_map]
    exact orderedRules_pairwise hids
  case verdicts_perm =>
    rw [verdicts_aggregate]
    exact (orderedRules_perm rules).map _
  case verdicts_count =>
    intro v hv
    rw [verdicts_aggregate] at hv
    obtain ⟨h, hh, rfl⟩ := List.mem_map.1 hv
    exact lookup_byRule_of_mem ((orderedRules_perm rules).mem_iff.1 hh)
  case passed_iff =>
    simp only [passed_aggregate, RuleHeading.passes_iff]

/-- A rule with a threshold, a rule with findings in one file, and a rule without any. -/
def mixedRules : List RuleHeading :=
  [{ id := "twins", mode := .threshold, threshold := 1 }, { id := "places" }, { id := "usages" }]

/-- Violations out of order, one of them of no rule that is listed. -/
def mixedViolations : List Violation :=
  [{ path := "src/Core/B.cs", line := 4, ruleId := "places", subject := "Y" },
    { path := "src/Core/A.cs", line := 9, ruleId := "retired", subject := "X" },
    { path := "src/Core/B.cs", line := 2, ruleId := "places", subject := "Z" }]

/-- A pair whose path has a colon of its own. -/
def drivePair : SimilarPair :=
  { ruleId := "twins", first := "P", second := "Q", shared := 1, total := 1, ratio := .whole 1
    firstLocation := some "C:/Host/P.cs:7" }

/-- The pair counts for the layer of its whole path. -/
theorem aggregate_conserves_drive :
    let r := aggregate mixedViolations [drivePair] mixedRules {}
    (mixedRules.map (·.id)).Nodup ∧
      r.Conserves mixedViolations [drivePair] mixedRules defaultLayers ∧
      (r.byLayer.lookup "Host").getD 0 = 1 ∧ (r.byLayer.lookup "Core").getD 0 = 3 := by
  intro r
  have hids : (mixedRules.map (·.id)).Nodup := by decide
  have hconserves : r.Conserves mixedViolations [drivePair] mixedRules defaultLayers :=
    aggregate_conserves hids
  refine ⟨hids, hconserves, ?_, ?_⟩
  · rw [hconserves.layers_count]
    decide +kernel
  · rw [hconserves.layers_count]
    decide +kernel

end Report
end Conformance
