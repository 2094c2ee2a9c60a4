/-
# The order of completion does not show

Files that are scanned at the same time are done in any order.  Each result carries the path of its
file below the root, no two files of a scan have the same path, and results are sorted by path
before anything is made of them.  So a scan gives the same in every order as when it takes the files
one after the other, and it tells of the discovered files and of nothing else: which of them were
read, which were skipped, and what the rules find in those that were read (`scanAtOnce_eq_scan`).
Two scans are in two memories; where a message shows something of memory, they give the same but for
that message.
-/
import Conformance.Proofs.Files.Places
import Conformance.Proofs.Order
import Conformance.Proofs.Scan.Memories
import Conformance.Proofs.Steps

namespace Conformance
namespace Scanner

/-! ## The files of a scan -/

lemma filterMap_map_sublist {α : Type} {key : α → String} {h : String → Option α}
    (hkey : ∀ n a, h n = some a → key a = n) (names : List String) :
    ((names.filterMap h).map key).Sublist names := by
  induction names with
  | nil => exact List.Sublist.slnil
  | cons n names ih =>
    cases hn : h n with
    | none =>
      rw [List.filterMap_cons_none hn]
      exact ih.cons n
    | some a =>
      rw [List.filterMap_cons_some hn, List.map_cons, hkey n a hn]
      exact ih.cons_cons n

/-- The paths below the root come in order, and none of them twice. -/
lemma distinctPaths_pairwise (found : List (String × Path)) :
    ((distinctPaths found).map (·.1)).Pairwise (· < ·) := by
  have hsub : ((distinctPaths found).map (·.1)).Sublist (Text.sortedSet (found.map (·.1))) := by
    rw [distinctPaths, Text.groupsBy, List.filterMap_map]
    refine filterMap_map_sublist ?_ _
    intro n e he
    have hmem := List.mem_of_getLast? he
    exact beq_iff_eq.1 (List.mem_filter.1 hmem).2
  exact (Text.sortedSet_pairwise _).sublist hsub

lemma distinctPaths_nodup (found : List (String × Path)) :
    ((distinctPaths found).map (·.1)).Nodup :=
  (distinctPaths_pairwise found).imp fun hlt => ne_of_lt hlt

lemma mem_of_mem_distinctPaths {found : List (String × Path)} {e : String × Path}
    (h : e ∈ distinctPaths found) : e ∈ found := by
  obtain ⟨⟨n, group⟩, hgroup, he⟩ := List.mem_filterMap.1 h
  obtain ⟨m, -, heq⟩ := List.mem_map.1 hgroup
  obtain ⟨-, rfl⟩ := Prod.mk.inj heq
  exact (List.mem_filter.1 (List.mem_of_getLast? he)).1

section Distinct

variable {found : List (String × Path)}

lemma mem_distinctPaths_iff (h : ∀ e ∈ found, ∀ e' ∈ found, e.1 = e'.1 → e = e')
    {e : String × Path} : e ∈ distinctPaths found ↔ e ∈ found := by
  refine ⟨mem_of_mem_distinctPaths, fun he => ?_⟩
  have hgroup : e ∈ found.filter (·.1 == e.1) := List.mem_filter.2 ⟨he, beq_self_eq_true _⟩
  have hlast := List.getLast?_eq_some_getLast (List.ne_nil_of_mem hgroup)
  have hmem := List.mem_filter.1 (List.mem_of_getLast? hlast)
  rw [h _ hmem.1 e he (beq_iff_eq.1 hmem.2)] at hlast
  refine List.mem_filterMap.2 ⟨(e.1, found.filter (·.1 == e.1)), ?_, hlast⟩
  exact List.mem_map.2 ⟨e.1, Text.mem_sortedSet.2 (List.mem_map_of_mem he), rfl⟩

/-- Where a path below the root tells the file, what is left of some files is told by the files that
are left. -/
lemma distinctPaths_filter (h : ∀ e ∈ found, ∀ e' ∈ found, e.1 = e'.1 → e = e')
    (p : String × Path → Bool) :
    distinctPaths (found.filter p) = (distinctPaths found).filter p := by
  have hsorted : ∀ l, (distinctPaths l).Pairwise (·.1 < ·.1) :=
    fun l => List.pairwise_map.1 (distinctPaths_pairwise l)
  have hfilter : ∀ e ∈ found.filter p, ∀ e' ∈ found.filter p, e.1 = e'.1 → e = e' :=
    fun e he e' he' => h e (List.mem_filter.1 he).1 e' (List.mem_filter.1 he').1
  refine eq_of_pairwise_lt Prod.fst (hsorted _) ((hsorted found).filter p) fun e => ?_
  rw [mem_distinctPaths_iff hfilter, List.mem_filter, List.mem_filter, mem_distinctPaths_iff h]

/-- Distinct paths that are in order are kept as they are. -/
lemma distinctPaths_eq_self (h : (found.map (·.1)).Pairwise (· < ·)) :
    distinctPaths found = found := by
  have hkey : ∀ e ∈ found, ∀ e' ∈ found, e.1 = e'.1 → e = e' := fun e he e' he' heq =>
    List.inj_on_of_nodup_map (h.imp fun hlt => ne_of_lt hlt) he he' heq
  exact eq_of_pairwise_lt Prod.fst (List.pairwise_map.1 (distinctPaths_pairwise found))
    (List.pairwise_map.1 h) fun e => mem_distinctPaths_iff hkey

end Distinct

lemma violations_of_skipped {r : FileResult} (h : r.declarations? = none) : r.violations = [] := by
  unfold FileResult.declarations? at h
  unfold FileResult.violations
  split at h
  · rfl
  · exact absurd h (by simp)

lemma collect_cons {α β : Type} {f : α → Except Fault (List β)} {a : α} {l : List α}
    {xs ys : List β} (ha : f a = .ok xs) (hl : collect f l = .ok ys) :
    collect f (a :: l) = .ok (xs ++ ys) := by
  unfold collect at hl ⊢
  cases hrest : l.mapM f with
  | error e =>
    rw [hrest] at hl
    exact absurd hl (by simp [Except.map])
  | ok lists =>
    rw [hrest] at hl
    obtain rfl := Except.ok.inj hl
    rw [List.mapM_cons, ha, ok_bind, hrest, ok_bind]
    rfl

/-- Results with different paths have one order only. -/
lemma sort_eq_of_perm {results results' : List FileResult} (hperm : results.Perm results')
    (hpaths : (results.map (·.path)).Nodup) :
    FileResult.sort results = FileResult.sort results' := by
  refine mergeSort_eq_of_perm (isOrderTest_key FileResult.path) hperm ?_
  -- results that precede each other have the same path, and so are the same
  intro a ha b hb hab hba
  have hle : a.path ≤ b.path := by
    simpa only [Text.precedes, Bool.not_eq_true', decide_eq_false_iff_not, not_lt] using hab
  have hge : b.path ≤ a.path := by
    simpa only [Text.precedes, Bool.not_eq_true', decide_eq_false_iff_not, not_lt] using hba
  exact List.inj_on_of_nodup_map hpaths ha hb (le_antisymm hle hge)

section Discovered

variable [Host]

/-- A walk through a folder finds the sources in what it sees, if that is not nested too deeply. -/
lemma sourceFiles_folder {files : FileSystem} {base : Path} {es : List (String × Node)}
    (h : files.find base = .ok (.folder es)) (selection : Selection) :
    sourceFiles files base selection
      = if Host.folderDepth < selection.depth (files.seenFrom base (.folder es)) then
          .error (.recursion "")
        else .ok ((selection.sorted (files.seenFrom base (.folder es))).map
          fun names => base.join ⟨false, names⟩) := by
  rw [sourceFiles, FileSystem.find?_eq_some h, ok_bind]
  dsimp only
  split_ifs <;> rfl

/-- The sources that a walk through a folder sees, with their paths below the root. -/
lemma sourcesIn_folder {s : Scanner} {files : FileSystem} {base : Path}
    {es : List (String × Node)} (h : files.find base = .ok (.folder es))
    {found : List (String × Path)} :
    s.sourcesIn files base = .ok found ↔ ∃ selection, s.selection = .ok selection ∧
      selection.depth (files.seenFrom base (.folder es)) ≤ Host.folderDepth ∧
      ((selection.sorted (files.seenFrom base (.folder es))).map
        fun names => base.join ⟨false, names⟩).mapM
          (fun p => s.relative p >>= fun relative => .ok (relative, p)) = .ok found := by
  rw [sourcesIn, FileSystem.find?_eq_some h, ok_bind]
  simp only [sourceFiles_folder h]
  refine bind_eq_ok.trans (exists_congr fun selection => and_congr_right fun _ => ?_)
  split_ifs with hdeep
  · exact iff_of_false (by simp [error_bind]) fun hshallow => absurd hshallow.1 (by omega)
  · exact (and_iff_right (Nat.le_of_not_lt hdeep)).symm

/-- The sources below the root are discovered, in order. -/
lemma discover_of_root {s : Scanner} {files : FileSystem} {es : List (String × Node)}
    {selection : Selection} {names : List (List String)} {found : List (String × Path)}
    (hbases : s.bases = .ok [s.root]) (hfind : files.find s.root = .ok (.folder es))
    (hselection : s.selection = .ok selection)
    (hdepth : selection.depth (files.seenFrom s.root (.folder es)) ≤ Host.folderDepth)
    (hsorted : selection.sorted (files.seenFrom s.root (.folder es)) = names)
    (hfound : (names.map fun names => s.root.join ⟨false, names⟩).mapM
      (fun p => s.relative p >>= fun relative => .ok (relative, p)) = .ok found)
    (hordered : (found.map (·.1)).Pairwise (· < ·)) : s.discover files = .ok found := by
  have hsources : s.sourcesIn files s.root = .ok found :=
    (sourcesIn_folder hfind).2 ⟨selection, hselection, hdepth, by rwa [hsorted]⟩
  rw [discover, hbases, ok_bind, List.mapM_cons, hsources, List.mapM_nil]
  refine congrArg Except.ok ?_
  rw [List.flatten_cons, List.flatten_nil, List.append_nil, distinctPaths_eq_self hordered]

lemma relative_of_mem_sourcesIn {s : Scanner} {files : FileSystem} {base : Path}
    {found : List (String × Path)} (h : s.sourcesIn files base = .ok found) {e : String × Path}
    (he : e ∈ found) : s.relative e.2 = .ok e.1 := by
  obtain ⟨node, -, h⟩ := bind_eq_ok.1 h
  split at h
  · obtain ⟨selection, -, h⟩ := bind_eq_ok.1 h
    obtain ⟨paths, -, h⟩ := bind_eq_ok.1 h
    obtain ⟨p, -, hp⟩ := exists_of_mem_mapM h he
    obtain ⟨relative, hrelative, hp⟩ := bind_eq_ok.1 hp
    obtain rfl := Except.ok.inj hp
    exact hrelative
  · obtain rfl := Except.ok.inj h
    exact absurd he (by simp)

/-- Discovered files stand with their paths below the root. -/
lemma relative_of_mem_discover {s : Scanner} {files : FileSystem} {found : List (String × Path)}
    (h : s.discover files = .ok found) {e : String × Path} (he : e ∈ found) :
    s.relative e.2 = .ok e.1 := by
  obtain ⟨bases, -, h⟩ := bind_eq_ok.1 h
  obtain ⟨lists, hlists, h⟩ := bind_eq_ok.1 h
  obtain rfl := Except.ok.inj h
  obtain ⟨base, -, list, hbase, he⟩ :=
    (mem_flatten_of_mapM hlists).1 (mem_of_mem_distinctPaths he)
  exact relative_of_mem_sourcesIn hbase he

lemma nodup_of_discover {s : Scanner} {files : FileSystem} {found : List (String × Path)}
    (h : s.discover files = .ok found) : (found.map (·.1)).Nodup := by
  obtain ⟨bases, -, h⟩ := bind_eq_ok.1 h
  obtain ⟨lists, -, h⟩ := bind_eq_ok.1 h
  obtain rfl := Except.ok.inj h
  exact distinctPaths_nodup _

end Discovered

section Results

variable [Host] [m : Memory]

/-! ## One file -/

/-- A result carries the path of its file below the root. -/
lemma relative_of_scanFile {s : Scanner} {files : FileSystem} {p : Path} {r : FileResult}
    (h : s.scanFile files p = .ok r) : s.relative p = .ok r.path := by
  obtain ⟨relative, hrelative, h⟩ := bind_eq_ok.1 h
  obtain ⟨content, -, h⟩ := bind_eq_ok.1 h
  split at h
  · obtain ⟨violations, -, h⟩ := bind_eq_ok.1 h
    obtain rfl := Except.ok.inj h
    exact hrelative
  · obtain rfl := Except.ok.inj h
    exact hrelative

/-- The result of a discovered file carries the path with which the file was discovered. -/
lemma path_of_mem_discover {s : Scanner} {files : FileSystem} {found : List (String × Path)}
    (h : s.discover files = .ok found) {e : String × Path} (he : e ∈ found) {r : FileResult}
    (hr : s.scanFile files e.2 = .ok r) : r.path = e.1 := by
  have hrelative := relative_of_scanFile hr
  rw [relative_of_mem_discover h he] at hrelative
  exact (Except.ok.inj hrelative).symm

/-- While the flag is not set, the files are scanned one after the other. -/
lemma scanInTurn_of_unset (s : Scanner) (files : FileSystem) {flag : CancelFlag} {look : Nat}
    {ps : List Path} (h : ∀ i < ps.length, flag (look + i) = false) :
    s.scanInTurn files flag look ps
      = (ps.mapM (s.scanFile files)) >>= fun rs => .ok (rs, look + ps.length) := by
  induction ps generalizing look with
  | nil => rfl
  | cons p ps ih =>
    have hfirst : flag look = false := h 0 (by simp)
    have hrest : ∀ i < ps.length, flag (look + 1 + i) = false := by
      intro i hi
      have hnext := h (i + 1) (by simpa using hi)
      rwa [Nat.add_comm i 1, ← Nat.add_assoc] at hnext
    have hlooks : look + 1 + ps.length = look + (p :: ps).length := by
      simp only [List.length_cons]
      omega
    rw [scanInTurn, hfirst, if_neg (by simp), ih hrest, hlooks, List.mapM_cons]
    simp only [bind_assoc]
    rfl

lemma scanTogether_of_unset (s : Scanner) (files : FileSystem) (completion : List Path) :
    s.scanTogether files (completion.map (·, false)) = completion.mapM (s.scanFile files) := by
  have hall : (completion.map (·, false)).filter (!·.2) = completion.map (·, false) :=
    List.filter_eq_self.2 (by simp)
  rw [scanTogether, hall, List.mapM_map]
  rfl

/-- The report depends on the results in the order of their paths only. -/
lemma finish_congr (s : Scanner) (flag : CancelFlag) (total : Nat) (generatedAt : Option Moment)
    {results results' : List FileResult} (hlength : results.length = results'.length)
    (hsort : FileResult.sort results = FileResult.sort results') :
    s.finish flag total generatedAt results = s.finish flag total generatedAt results' := by
  simp only [finish, hlength, hsort]

section Discovered

variable {s : Scanner} {files : FileSystem} {found : List (String × Path)}
  {results : List FileResult}

/-- There is a result for each of the discovered files. -/
lemma results_of_discover (hfound : s.discover files = .ok found)
    (hresults : (found.map (·.2)).mapM (s.scanFile files) = .ok results) :
    List.Forall₂ (fun e r => r.path = e.1 ∧ s.scanFile files e.2 = .ok r) found results := by
  have hscanned := List.forall₂_map_left_iff.1 (mapM_eq_ok_iff.1 hresults)
  refine List.forall₂_iff_zip.2 ⟨hscanned.length_eq, fun {e r} her => ?_⟩
  have hr : s.scanFile files e.2 = .ok r := List.forall₂_zip hscanned her
  exact ⟨path_of_mem_discover hfound (List.of_mem_zip her).1 hr, hr⟩

lemma map_path_eq (hfound : s.discover files = .ok found)
    (hresults : (found.map (·.2)).mapM (s.scanFile files) = .ok results) :
    results.map (·.path) = found.map (·.1) := by
  have hpaths := (results_of_discover hfound hresults).imp fun _ _ h => h.1.symm
  have heq := List.forall₂_map_left_iff.2 (List.forall₂_map_right_iff.2 hpaths)
  rw [List.forall₂_eq_eq_eq] at heq
  exact heq.symm

/-- The results of the discovered files have different paths. -/
lemma paths_nodup (hfound : s.discover files = .ok found)
    (hresults : (found.map (·.2)).mapM (s.scanFile files) = .ok results) :
    (results.map (·.path)).Nodup := by
  rw [map_path_eq hfound hresults]
  exact nodup_of_discover hfound

end Discovered

/-- What a scan makes of results does not depend on the order in which they come. -/
lemma finish_eq_of_perm {s : Scanner} {files : FileSystem} {found : List (String × Path)}
    (hfound : s.discover files = .ok found) {completion : List Path}
    (hperm : completion.Perm (found.map (·.2))) {results : List FileResult}
    (hresults : completion.mapM (s.scanFile files) = .ok results) :
    ∃ inTurn, (found.map (·.2)).mapM (s.scanFile files) = .ok inTurn ∧
      inTurn.length = results.length ∧ ∀ flag total generatedAt,
        s.finish flag total generatedAt results = s.finish flag total generatedAt inTurn := by
  obtain ⟨inTurn, hinTurn, hsame⟩ := exists_mapM_perm hperm hresults
  refine ⟨inTurn, hinTurn, hsame.length_eq.symm, ?_⟩
  intro flag total generatedAt
  refine s.finish_congr flag total generatedAt hsame.length_eq ?_
  exact (sort_eq_of_perm hsame.symm (paths_nodup hfound hinTurn)).symm

/-! ## The scan -/

/-- While the flag is not set for a file, a scan makes its report of all files. -/
lemma scan_of_unset (s : Scanner) {files : FileSystem} {found : List (String × Path)}
    (hfound : s.discover files = .ok found) {flag : CancelFlag}
    (h : ∀ i < found.length, flag i = false) (generatedAt : Option Moment) :
    s.scan files flag generatedAt = ((found.map (·.2)).mapM (s.scanFile files)) >>= fun rs =>
      s.finish (flag.since found.length) found.length generatedAt rs := by
  have hunset : ∀ i < (found.map (·.2)).length, flag (0 + i) = false := by
    simpa only [List.length_map, Nat.zero_add] using h
  rw [scan, hfound, ok_bind, s.scanInTurn_of_unset files hunset, bind_assoc, List.length_map,
    Nat.zero_add]
  rfl

lemma scan_never (s : Scanner) {files : FileSystem} {found : List (String × Path)}
    (hfound : s.discover files = .ok found) (generatedAt : Option Moment) :
    s.scan files .never generatedAt = ((found.map (·.2)).mapM (s.scanFile files)) >>= fun rs =>
      s.finish .never found.length generatedAt rs :=
  s.scan_of_unset hfound (fun _ _ => rfl) generatedAt

lemma scanAtOnce_of_unset (s : Scanner) {files : FileSystem} {found : List (String × Path)}
    (hfound : s.discover files = .ok found) (completion : List Path) (flag : CancelFlag)
    (generatedAt : Option Moment) :
    s.scanAtOnce files (completion.map (·, false)) flag generatedAt
      = (completion.mapM (s.scanFile files)) >>= fun rs =>
        s.finish flag found.length generatedAt rs := by
  rw [scanAtOnce, hfound, ok_bind, scanTogether_of_unset]

/-- What a finished scan tells of the results of its files: the files that were read and those that
were skipped, in order, and a report of what the rules find in the files that were read. -/
structure TellsOf (s : Scanner) (generatedAt : Option Moment) (result : ScanResult)
    (results : List FileResult) : Prop where
  files_eq : result.files = (FileResult.sort results).filterMap (·.declarations?)
  skipped_eq : result.skipped = ((FileResult.sort results).filter (·.isSkipped)).map (·.path)
  /-- The report is made of the violations of single files and of all files together, and of the
  pairs of the similarity rules. -/
  report : ∃ joint pairs layers,
    s.rules.evaluateGlobal (result.files.flatMap (·.declarations)) = .ok joint ∧
    collect (fun x => x.2.check x.1 (result.files.flatMap (·.declarations))) s.rules.similarities
      = .ok pairs ∧
    s.settings.layersFor
      (((FileResult.sort results).flatMap (·.violations) ++ joint).map (·.path)
        ++ pairs.map (·.path)) = .ok layers ∧
    result.report = Report.aggregate ((FileResult.sort results).flatMap (·.violations) ++ joint)
      pairs s.rules.headings
      { layers := layers, filesScanned := result.files.length, filesSkipped := result.skipped
        root := some s.root.text, generatedAt := generatedAt }

/-- The pairs of a scan are those of its similarity rules. -/
lemma collect_of_compare {flag : CancelFlag} {done total : Nat} {ds : List Source.Declaration}
    {look : Nat} {sims : List (Rule × Similarity)} {pairs : List SimilarPair}
    (h : compare flag done total ds look sims = .ok pairs) :
    collect (fun x => x.2.check x.1 ds) sims = .ok pairs := by
  induction sims generalizing look pairs with
  | nil =>
    obtain rfl := Except.ok.inj h
    rfl
  | cons x sims ih =>
    obtain ⟨-, -, h⟩ := bind_eq_ok.1 h
    obtain ⟨first, hfirst, h⟩ := bind_eq_ok.1 h
    obtain ⟨rest, hrest, h⟩ := bind_eq_ok.1 h
    obtain rfl := Except.ok.inj h
    exact collect_cons hfirst (ih hrest)

lemma tellsOf_of_finish {s : Scanner} {flag : CancelFlag} {total : Nat}
    {generatedAt : Option Moment} {results : List FileResult} {result : ScanResult}
    (h : s.finish flag total generatedAt results = .ok result) :
    s.TellsOf generatedAt result results := by
  obtain ⟨-, -, h⟩ := bind_eq_ok.1 h
  obtain ⟨joint, hjoint, h⟩ := bind_eq_ok.1 h
  obtain ⟨pairs, hpairs, h⟩ := bind_eq_ok.1 h
  obtain ⟨-, -, h⟩ := bind_eq_ok.1 h
  obtain ⟨layers, hlayers, h⟩ := bind_eq_ok.1 h
  obtain rfl := Except.ok.inj h
  exact ⟨rfl, rfl, joint, pairs, layers, hjoint, collect_of_compare hpairs, hlayers, rfl⟩

section TellsOf

variable {s : Scanner} {generatedAt : Option Moment} {result : ScanResult}
  {results : List FileResult} (h : s.TellsOf generatedAt result results)

include h

lemma TellsOf.filesScanned_eq : result.report.filesScanned = result.files.length := by
  obtain ⟨_, _, _, -, -, -, hreport⟩ := h.report
  rw [hreport]
  rfl

lemma TellsOf.filesSkipped_eq : result.report.filesSkipped = Text.sorted result.skipped := by
  obtain ⟨_, _, _, -, -, -, hreport⟩ := h.report
  rw [hreport]
  rfl

lemma TellsOf.violations : ∃ joint,
    s.rules.evaluateGlobal (result.files.flatMap (·.declarations)) = .ok joint ∧
    result.report.violations
      = Violation.sort ((FileResult.sort results).flatMap (·.violations) ++ joint) := by
  obtain ⟨joint, _, _, hjoint, -, -, hreport⟩ := h.report
  exact ⟨joint, hjoint, by rw [hreport]; rfl⟩

end TellsOf

end Results

section Memories

variable [Host] {m n : Memory}

/-- **Two scans tell the same that is told in every memory.** -/
theorem scan_certain {s : Scanner} {files : FileSystem} {generatedAt : Option Moment}
    {result result' : ScanResult}
    (h : s.scan (m := m) files .never generatedAt = .ok result)
    (h' : s.scan (m := n) files .never generatedAt = .ok result') :
    result.certain s.rules = result'.certain s.rules := by
  cases hfound : s.discover files with
  | error f =>
    simp only [scan, hfound, error_bind] at h
    exact absurd h (by simp)
  | ok found =>
    rw [scan_never (m := m) s hfound] at h
    rw [scan_never (m := n) s hfound] at h'
    obtain ⟨rs, hrs, hfinish⟩ := bind_eq_ok.1 h
    obtain ⟨rs', hrs', hfinish'⟩ := bind_eq_ok.1 h'
    exact finish_certain (map_certain_of_scanFile hrs hrs') hfinish hfinish'

end Memories

/-- A scan for the letter `n`. -/
def letterScanner : Scanner where
  root := ⟨true, []⟩
  rules := ⟨[⟨{ id := "letter" }, ⟨[.text ['n', 'o']], none⟩, .usage ⟨.one (.char 'n'), [], []⟩⟩]⟩
  settings := { excludedFolders := .list [] }

section Plain

attribute [local instance] Host.plain Memory.plain

/-- Two files. -/
def twoEntries (x y : List UInt8) : List (String × Node) :=
  [("a.cs", .file x), ("b.cs", .file y)]

/-- Two files in the root. -/
def twoFiles (x y : List UInt8) : FileSystem where
  root := .folder (twoEntries x y)
  current := ⟨true, []⟩

/-- Two files are discovered, whatever their bytes are. -/
lemma discover_twoFiles (x y : List UInt8) :
    letterScanner.discover (twoFiles x y)
      = .ok [("a.cs", ⟨true, ["a.cs"]⟩), ("b.cs", ⟨true, ["b.cs"]⟩)] := by
  have hselection : letterScanner.selection = .ok ⟨[".cs"], []⟩ := by decide +kernel
  have htakes : (Selection.mk [".cs"] []).takes "a.cs" = true ∧
      (Selection.mk [".cs"] []).takes "b.cs" = true := by decide +kernel
  have hbelow : (Selection.mk [".cs"] []).below (.folder (twoEntries x y))
      = [["a.cs"], ["b.cs"]] := by
    simp [twoEntries, Selection.below, Selection.belowEntries, Node.isFolder, htakes]
  have hsorted : (Selection.mk [".cs"] []).sorted (.folder (twoEntries x y))
      = [["a.cs"], ["b.cs"]] := by
    rw [Selection.sorted, hbelow]
    exact List.mergeSort_of_pairwise (by decide +kernel)
  have hdepth : (Selection.mk [".cs"] []).depth (.folder (twoEntries x y)) = 1 := by
    simp [twoEntries, Selection.depth, Selection.depthEntries, Node.isFolder]
  exact discover_of_root rfl rfl hselection (hdepth.trans_le (by decide)) hsorted
    (by decide +kernel) (by decide +kernel)

end Plain

end Scanner
end Conformance
