/-
# Scans in two memories

A scan is made in one memory and then in another.  Reading files and finding declarations has
nothing to do with memory, so results are the same but for the messages of violations and pairs, and
the messages of a rule whose template shows nothing of memory are the same too
(`Scanner.scan_certain`).  Where memory makes no difference to the rules, it makes none to the scan,
also if the scan fails (`Scanner.scan_eq_of_unaffected`).
-/
import Conformance.Proofs.Check.Memories
import Conformance.Scan.Run

namespace Conformance

/-! ## What results tell in every memory -/

section Certain

variable [Host] (s : RuleSet)

/-- A result of a file without the messages that may show something of memory. -/
def FileResult.certain (r : FileResult) : FileResult :=
  { r with outcome := match r.outcome with
    | .skipped reason => .skipped reason
    | .scanned ds vs => .scanned ds (vs.map s.certain) }

/-- A report without the messages that may show something of memory. -/
def Report.certain (r : Report) : Report :=
  { r with
    violations := r.violations.map s.certain
    pairs := r.pairs.map s.certainPair
    byFile := r.byFile.map fun e => (e.1, e.2.map s.certain) }

/-- What a scan gives without the messages that may show something of memory. -/
def ScanResult.certain (r : ScanResult) : ScanResult :=
  { r with report := r.report.certain s }

variable {s}

@[simp]
lemma FileResult.path_certain (r : FileResult) : (r.certain s).path = r.path := rfl

@[simp]
lemma FileResult.declarations?_certain (r : FileResult) :
    (r.certain s).declarations? = r.declarations? := by
  unfold certain declarations?
  cases r.outcome <;> rfl

@[simp]
lemma FileResult.isSkipped_certain (r : FileResult) : (r.certain s).isSkipped = r.isSkipped := by
  unfold certain isSkipped reason?
  cases r.outcome <;> rfl

@[simp]
lemma FileResult.violations_certain (r : FileResult) :
    (r.certain s).violations = r.violations.map s.certain := by
  unfold certain violations
  cases r.outcome <;> rfl

@[simp]
lemma RuleSet.path_certainPair (p : SimilarPair) : (s.certainPair p).path = p.path := by
  unfold certainPair
  split <;> rfl

/-- Results are sorted by their paths, which are told in every memory. -/
lemma FileResult.map_certain_sort (results : List FileResult) :
    (sort results).map (certain s) = sort (results.map (certain s)) :=
  List.map_mergeSort fun _ _ _ _ => rfl

section Results

variable {rs rs' : List FileResult} (h : rs.map (·.certain s) = rs'.map (·.certain s))

include h

/-- The files that were read, and those that were skipped, are told in every memory. -/
lemma FileResult.declarations_eq_of_certain :
    rs.filterMap (·.declarations?) = rs'.filterMap (·.declarations?) := by
  have heq := congrArg (List.filterMap declarations?) h
  simpa [List.filterMap_map, Function.comp_def] using heq

lemma FileResult.skipped_eq_of_certain :
    (rs.filter (·.isSkipped)).map (·.path) = (rs'.filter (·.isSkipped)).map (·.path) := by
  have heq := congrArg (fun l => (l.filter isSkipped).map path) h
  simpa [List.filter_map, Function.comp_def] using heq

lemma FileResult.violations_eq_of_certain :
    (rs.flatMap (·.violations)).map s.certain = (rs'.flatMap (·.violations)).map s.certain := by
  have heq := congrArg (List.flatMap violations) h
  simpa [List.flatMap_map, List.map_flatMap, Function.comp_def] using heq

end Results

/-- Nothing but messages is lost when findings are aggregated. -/
lemma Report.certain_aggregate (vs : List Violation) (ps : List SimilarPair)
    (rules : List RuleHeading) (summary : ScanSummary) :
    (aggregate vs ps rules summary).certain s
      = aggregate (vs.map s.certain) (ps.map s.certainPair) rules summary := by
  have hviolations := s.map_certain_sort vs
  have hpairs := s.map_certainPair_sort ps
  have hrules : findingRules ((Violation.sort vs).map s.certain)
      ((SimilarPair.sort ps).map s.certainPair)
        = findingRules (Violation.sort vs) (SimilarPair.sort ps) := by
    simp [findingRules, Function.comp_def]
  have hlayers : findingLayers summary.layers ((Violation.sort vs).map s.certain)
      ((SimilarPair.sort ps).map s.certainPair)
        = findingLayers summary.layers (Violation.sort vs) (SimilarPair.sort ps) := by
    simp [findingLayers, Function.comp_def]
  have hfiles : Text.groupsBy Violation.path ((Violation.sort vs).map s.certain)
      = (Text.groupsBy Violation.path (Violation.sort vs)).map fun e =>
        (e.1, e.2.map s.certain) :=
    Text.groupsBy_map (funext s.path_certain) _
  simp only [aggregate, certain, ← hviolations, ← hpairs, hrules, hlayers, hfiles]

end Certain

/-! ## The steps of a scan -/

namespace Scanner

section Steps

variable [Host] {m n : Memory} {s : Scanner} {files : FileSystem}

lemma scanFile_certain {p : Path} {r r' : FileResult} (h : s.scanFile (m := m) files p = .ok r)
    (h' : s.scanFile (m := n) files p = .ok r') : r.certain s.rules = r'.certain s.rules := by
  obtain ⟨relative, hrelative, h⟩ := bind_eq_ok.1 h
  obtain ⟨relative', hrelative', h'⟩ := bind_eq_ok.1 h'
  obtain rfl := Except.ok.inj (hrelative.symm.trans hrelative')
  obtain ⟨content, hcontent, h⟩ := bind_eq_ok.1 h
  obtain ⟨content', hcontent', h'⟩ := bind_eq_ok.1 h'
  obtain rfl := Except.ok.inj (hcontent.symm.trans hcontent')
  cases content with
  | error reason =>
    obtain rfl := Except.ok.inj h
    obtain rfl := Except.ok.inj h'
    rfl
  | ok lines =>
    obtain ⟨vs, hvs, h⟩ := bind_eq_ok.1 h
    obtain ⟨vs', hvs', h'⟩ := bind_eq_ok.1 h'
    obtain rfl := Except.ok.inj h
    obtain rfl := Except.ok.inj h'
    simp only [FileResult.certain, RuleSet.evaluateFile_certain hvs hvs']

lemma scanFile_eq_of_unaffected (h : s.rules.Unaffected m n) (p : Path) :
    s.scanFile (m := m) files p = s.scanFile (m := n) files p := by
  simp only [scanFile, scanLines, RuleSet.evaluateFile_eq_of_unaffected h]

lemma map_certain_of_scanFile {ps : List Path} {rs rs' : List FileResult}
    (h : ps.mapM (s.scanFile (m := m) files) = .ok rs)
    (h' : ps.mapM (s.scanFile (m := n) files) = .ok rs') :
    rs.map (·.certain s.rules) = rs'.map (·.certain s.rules) := by
  refine map_eq_map_of_mapM (fun p _ r r' hr hr' => ?_) h h'
  exact scanFile_certain (m := m) (n := n) hr hr'

/-- The flag may be found in one memory as it is not in the other. -/
lemma compare_certain {flag flag' : CancelFlag} {done done' total total' : Nat}
    {ds : List Source.Declaration} {look look' : Nat} {sims : List (Rule × Similarity)}
    (hsims : ∀ x ∈ sims, x ∈ s.rules.similarities) {ps ps' : List SimilarPair}
    (h : compare (m := m) flag done total ds look sims = .ok ps)
    (h' : compare (m := n) flag' done' total' ds look' sims = .ok ps') :
    ps.map s.rules.certainPair = ps'.map s.rules.certainPair := by
  induction sims generalizing look look' ps ps' with
  | nil =>
    obtain rfl := Except.ok.inj h
    obtain rfl := Except.ok.inj h'
    rfl
  | cons x sims ih =>
    obtain ⟨r, t⟩ := x
    obtain ⟨hr, ht⟩ := RuleSet.mem_similarities.1 (hsims (r, t) List.mem_cons_self)
    simp only [compare] at h h'
    obtain ⟨-, -, h⟩ := bind_eq_ok.1 h
    obtain ⟨-, -, h'⟩ := bind_eq_ok.1 h'
    obtain ⟨qs, hqs, h⟩ := bind_eq_ok.1 h
    obtain ⟨qs', hqs', h'⟩ := bind_eq_ok.1 h'
    obtain ⟨rest, hrest, h⟩ := bind_eq_ok.1 h
    obtain ⟨rest', hrest', h'⟩ := bind_eq_ok.1 h'
    obtain rfl := Except.ok.inj h
    obtain rfl := Except.ok.inj h'
    have hfirst := RuleSet.similarityCheck_certain hr ht hqs hqs'
    rw [List.map_append, List.map_append, hfirst,
      ih (fun x hx => hsims x (List.mem_cons_of_mem _ hx)) hrest hrest']

lemma compare_eq_of_unaffected (h : s.rules.Unaffected m n) (flag : CancelFlag) (done total : Nat)
    (ds : List Source.Declaration) (look : Nat) {sims : List (Rule × Similarity)}
    (hsims : ∀ x ∈ sims, x ∈ s.rules.similarities) :
    compare (m := m) flag done total ds look sims
      = compare (m := n) flag done total ds look sims := by
  induction sims generalizing look with
  | nil => rfl
  | cons x sims ih =>
    obtain ⟨r, t⟩ := x
    obtain ⟨hr, ht⟩ := RuleSet.mem_similarities.1 (hsims (r, t) List.mem_cons_self)
    simp only [compare, RuleSet.similarityCheck_eq_of_unaffected h hr ht,
      ih (look + 1) fun x hx => hsims x (List.mem_cons_of_mem _ hx)]

/-- Results that tell the same in every memory are finished so that they still do. -/
lemma finish_certain {flag flag' : CancelFlag} {total total' : Nat} {generatedAt : Option Moment}
    {rs rs' : List FileResult} (hrs : rs.map (·.certain s.rules) = rs'.map (·.certain s.rules))
    {result result' : ScanResult}
    (h : s.finish (m := m) flag total generatedAt rs = .ok result)
    (h' : s.finish (m := n) flag' total' generatedAt rs' = .ok result') :
    result.certain s.rules = result'.certain s.rules := by
  have hsorted : (FileResult.sort rs).map (·.certain s.rules)
      = (FileResult.sort rs').map (·.certain s.rules) := by
    rw [FileResult.map_certain_sort, FileResult.map_certain_sort, hrs]
  -- the two runs go step by step, and each step gives the same but for messages
  generalize hresults : FileResult.sort rs = results at hsorted
  generalize hresults' : FileResult.sort rs' = results' at hsorted
  simp only [finish, hresults, hresults'] at h h'
  have hsingle := FileResult.violations_eq_of_certain hsorted
  rw [FileResult.declarations_eq_of_certain hsorted] at h
  rw [FileResult.skipped_eq_of_certain hsorted] at h
  obtain ⟨-, -, h⟩ := bind_eq_ok.1 h
  obtain ⟨-, -, h'⟩ := bind_eq_ok.1 h'
  obtain ⟨joint, hjoint, h⟩ := bind_eq_ok.1 h
  obtain ⟨joint', hjoint', h'⟩ := bind_eq_ok.1 h'
  obtain ⟨pairs, hpairs, h⟩ := bind_eq_ok.1 h
  obtain ⟨pairs', hpairs', h'⟩ := bind_eq_ok.1 h'
  obtain ⟨-, -, h⟩ := bind_eq_ok.1 h
  obtain ⟨-, -, h'⟩ := bind_eq_ok.1 h'
  obtain ⟨layers, hlayers, h⟩ := bind_eq_ok.1 h
  obtain ⟨layers', hlayers', h'⟩ := bind_eq_ok.1 h'
  obtain rfl := Except.ok.inj h
  obtain rfl := Except.ok.inj h'
  have hviolations : (results.flatMap (·.violations) ++ joint).map s.rules.certain
      = (results'.flatMap (·.violations) ++ joint').map s.rules.certain := by
    rw [List.map_append, List.map_append, hsingle, RuleSet.evaluateGlobal_certain hjoint hjoint']
  have hsame : pairs.map s.rules.certainPair = pairs'.map s.rules.certainPair :=
    compare_certain (fun _ hx => hx) hpairs hpairs'
  -- paths are told in every memory, so the same layers are needed
  have hpaths : (results.flatMap (·.violations) ++ joint).map (·.path) ++ pairs.map (·.path)
      = (results'.flatMap (·.violations) ++ joint').map (·.path) ++ pairs'.map (·.path) := by
    have heq := congrArg (List.map Violation.path) hviolations
    have heq' := congrArg (List.map SimilarPair.path) hsame
    simp only [List.map_map, Function.comp_def, RuleSet.path_certain,
      RuleSet.path_certainPair] at heq heq'
    rw [heq, heq']
  rw [hpaths] at hlayers
  obtain rfl := Except.ok.inj (hlayers.symm.trans hlayers')
  simp only [ScanResult.certain, Report.certain_aggregate, hviolations, hsame]

lemma finish_eq_of_unaffected (h : s.rules.Unaffected m n) (flag : CancelFlag) (total : Nat)
    (generatedAt : Option Moment) (results : List FileResult) :
    s.finish (m := m) flag total generatedAt results
      = s.finish (m := n) flag total generatedAt results := by
  simp only [finish, RuleSet.evaluateGlobal_eq_of_unaffected h,
    compare_eq_of_unaffected h _ _ _ _ _ fun _ hx => hx]

end Steps

/-! ## Scans -/

section Scans

variable [Host] {m n : Memory} {s : Scanner} {files : FileSystem}

lemma scanInTurn_eq_of_unaffected (h : s.rules.Unaffected m n) (flag : CancelFlag) (look : Nat)
    (ps : List Path) :
    s.scanInTurn (m := m) files flag look ps = s.scanInTurn (m := n) files flag look ps := by
  induction ps generalizing look with
  | nil => rfl
  | cons p ps ih => simp only [scanInTurn, scanFile_eq_of_unaffected h, ih]

/-- **Where memory makes no difference to the rules, it makes none to a scan.** -/
theorem scan_eq_of_unaffected (h : s.rules.Unaffected m n) (flag : CancelFlag)
    (generatedAt : Option Moment) :
    s.scan (m := m) files flag generatedAt = s.scan (m := n) files flag generatedAt := by
  simp only [scan, scanInTurn_eq_of_unaffected h, finish_eq_of_unaffected h]

end Scans

end Scanner

end Conformance
