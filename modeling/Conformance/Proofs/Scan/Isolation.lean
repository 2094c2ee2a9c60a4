/-
# A file that cannot be read

A file that cannot be read is skipped.  Its result goes through the same lists, sorts and rules as
the others, and leaves no trace in them but its path: the scan of the tree without the file gives
the same (`unreadable_leaves_no_trace`).  The tree may show a file under several paths, when folders
are told by a way that goes back; then all these paths are skipped.
-/
import Conformance.Proofs.Files.Walk
import Conformance.Proofs.Scan.Cancel

namespace Conformance
namespace Scanner

/-! ## Where discovered files stand -/

/-- How a file is found: through a folder that is scanned, by names that lead on to it. -/
structure FoundIn (s : Scanner) (files : FileSystem) (base : Path) (e : String × Path)
    (selection : Selection) (es : List (String × Node)) (names : List String) : Prop where
  folder : files.find base = .ok (.folder es)
  mem_below : names ∈ selection.below (.folder es)
  path_eq : e.2 = base.join ⟨false, names⟩
  relative_eq : s.relative e.2 = .ok e.1

lemma exists_of_mem_bases {s : Scanner} {bases : List Path} (h : s.bases = .ok bases) {base : Path}
    (hbase : base ∈ bases) : base = s.root ∨ ∃ d, base = s.root.child d := by
  obtain ⟨folders, -, h⟩ := bind_eq_ok.1 h
  obtain ⟨paths, hpaths, h⟩ := bind_eq_ok.1 h
  obtain rfl := Except.ok.inj h
  split at hbase
  · exact .inl (List.mem_singleton.1 hbase)
  · obtain ⟨v, -, hv⟩ := exists_of_mem_mapM hpaths hbase
    split at hv
    · exact .inr ⟨_, (Except.ok.inj hv).symm⟩
    · exact absurd hv (by simp)

/-- A discovered file is told by names below the root, which its path below the root shows. -/
lemma FoundIn.exists_names {s : Scanner} {files : FileSystem} {base : Path} {e : String × Path}
    {selection : Selection} {es : List (String × Node)} {names : List String}
    (h : s.FoundIn files base e selection es names)
    (hproper : files.root.hasProperNames = true)
    (hbase : base = s.root ∨ ∃ d, base = s.root.child d) :
    ∃ ns, (∀ n ∈ ns, Path.isPart n = true) ∧ e.1 = Path.shown ns ∧
      e.2 = ⟨s.root.absolute, s.root.names ++ ns⟩ := by
  obtain ⟨above, hreached, -⟩ := FileSystem.reached_of_find h.folder
  obtain ⟨-, -, hentry⟩ := Selection.at?_of_mem_below
    (Selection.properNames_of_reached hreached hproper) h.mem_below
  have hnames : ∀ n ∈ names, Path.isPart n = true :=
    fun n hn => Path.isPart_of_isEntryName (hentry n hn)
  have hbelow := h.relative_eq
  unfold relative at hbelow
  split at hbelow
  · rename_i ns hns
    obtain ⟨hcond, hdrop⟩ := Option.ite_none_right_eq_some.1 hns
    obtain ⟨habsolute, hbegins⟩ := Bool.and_eq_true_iff.1 hcond
    obtain ⟨ns', hsplit⟩ := List.isPrefixOf_iff_prefix.1 hbegins
    rw [← hsplit, List.drop_left] at hdrop
    obtain rfl := Option.some.inj hdrop
    have hpath : s.root.names ++ ns' = base.names ++ names := by rw [hsplit, h.path_eq]; rfl
    refine ⟨ns', ?_, (Except.ok.inj hbelow).symm, ?_⟩
    · -- the names below the root end in those of the walk; what is before them is a given folder
      rcases hbase with rfl | ⟨d, rfl⟩
      · rwa [List.append_cancel_left hpath]
      · have htext : ∀ n ∈ (Path.ofText d).names, Path.isPart n = true :=
          fun n hn => Path.isPart_of_mem_ofText hn
        have hparts : ∀ n ∈ (Path.ofText d).names ++ names, Path.isPart n = true :=
          List.forall_mem_append.2 ⟨htext, hnames⟩
        unfold Path.child Path.join at hpath
        split at hpath
        · exact fun n hn => hparts n (hpath ▸ List.mem_append_right _ hn)
        · rw [List.append_assoc] at hpath
          rwa [List.append_cancel_left hpath]
    · rw [← hsplit.symm, ← beq_iff_eq.1 habsolute]
  · exact absurd hbelow (by simp)

section Discovered

variable [Host]

/-- Where nothing or a file is found, there are no sources. -/
lemma sourcesIn_eq_nil {s : Scanner} {files : FileSystem} {base : Path}
    (h : (∃ bytes, files.find base = .ok (.file bytes)) ∨
      ∃ e, files.find base = .error e ∧ e.isAbsence = true) : s.sourcesIn files base = .ok [] := by
  rcases h with ⟨bytes, h⟩ | ⟨e, h, habsence⟩
  · rw [sourcesIn, FileSystem.find?_eq_some h]
    rfl
  · rw [sourcesIn, FileSystem.find?_eq_none h habsence]
    rfl

lemma eq_nil_of_find_error {s : Scanner} {files : FileSystem} {base : Path} {e : FileProblem}
    (hbase : files.find base = .error e) {found : List (String × Path)}
    (h : s.sourcesIn files base = .ok found) : e.isAbsence = true ∧ found = [] := by
  cases habsence : e.isAbsence with
  | false =>
    rw [sourcesIn, FileSystem.find?_eq_error hbase habsence, error_bind] at h
    exact absurd h (by simp)
  | true =>
    rw [sourcesIn_eq_nil (.inr ⟨e, hbase, habsence⟩)] at h
    exact ⟨rfl, (Except.ok.inj h).symm⟩

lemma exists_foundIn_of_mem_sourcesIn {s : Scanner} {files : FileSystem} {base : Path}
    {found : List (String × Path)} (h : s.sourcesIn files base = .ok found) {e : String × Path}
    (he : e ∈ found) : ∃ selection es names, s.FoundIn files base e selection es names := by
  have hrelative := relative_of_mem_sourcesIn h he
  cases hbase : files.find base with
  | error f =>
    obtain ⟨-, rfl⟩ := eq_nil_of_find_error hbase h
    exact absurd he (by simp)
  | ok n =>
    cases n with
    | file bytes =>
      rw [sourcesIn_eq_nil (.inl ⟨bytes, hbase⟩)] at h
      obtain rfl := Except.ok.inj h
      exact absurd he (by simp)
    | folder es =>
      obtain ⟨selection, -, -, h⟩ := (sourcesIn_folder hbase).1 h
      obtain ⟨p, hp, hpath⟩ := exists_of_mem_mapM h he
      obtain ⟨relative, -, hpath⟩ := bind_eq_ok.1 hpath
      obtain rfl := Except.ok.inj hpath
      obtain ⟨names, hnames, rfl⟩ := List.mem_map.1 hp
      have hseen := (List.mergeSort_perm _ _).mem_iff.1 hnames
      rw [FileSystem.seenFrom, Selection.below_listed] at hseen
      exact ⟨selection, es, names, hbase, (List.mem_filter.1 hseen).1, rfl, hrelative⟩

lemma exists_foundIn_of_mem_discover {s : Scanner} {files : FileSystem}
    {found : List (String × Path)} (h : s.discover files = .ok found) {e : String × Path}
    (he : e ∈ found) : ∃ base selection es names, s.FoundIn files base e selection es names := by
  obtain ⟨bases, -, h⟩ := bind_eq_ok.1 h
  obtain ⟨lists, hlists, h⟩ := bind_eq_ok.1 h
  obtain rfl := Except.ok.inj h
  obtain ⟨base, -, list, hbase, he⟩ :=
    (mem_flatten_of_mapM hlists).1 (mem_of_mem_distinctPaths he)
  exact ⟨base, exists_foundIn_of_mem_sourcesIn hbase he⟩

end Discovered

/-! ## Discovery without a file -/

section Without

variable {s : Scanner} {files : FileSystem} {target : List String} {bytes : List UInt8}

/-- Whether a discovered file stands in another place. -/
def standsApart (files : FileSystem) (target : List String) (e : String × Path) : Bool :=
  files.place e.2 != target

/-- Without a file, a walk sees the other sources below a folder, and no deeper folders. -/
lemma seenFrom_without (hproper : files.root.hasProperNames = true)
    (htarget : files.root.at? target = some (.file bytes)) (hne : target ≠ []) {base : Path}
    {es : List (String × Node)} (hbase : files.find base = .ok (.folder es))
    (selection : Selection) :
    selection.sorted ((files.without target).seenFrom base
          ((Node.folder es).spared target (Node.walk [] (files.namesOf base))))
        = (selection.sorted (files.seenFrom base (.folder es))).filter
            (files.place base ++ · != target) ∧
      selection.depth ((files.without target).seenFrom base
          ((Node.folder es).spared target (Node.walk [] (files.namesOf base))))
        ≤ selection.depth (files.seenFrom base (.folder es)) := by
  obtain ⟨above, hreached, -⟩ := FileSystem.reached_of_find hbase
  simp only [FileSystem.seenFrom, FileSystem.lists_without htarget hne]
  constructor
  · rw [Selection.sorted, Selection.sorted, Selection.below_listed, Selection.below_listed,
      Selection.below_spared hproper htarget hreached, List.filter_comm, FileSystem.place_eq]
    exact mergeSort_filter (isOrderTest_key Path.shown) _ _
  · unfold Node.spared
    split
    · exact Selection.depth_without_le _ _ _
    · exact le_rfl

/-- The sources that a walk sees stand apart from the file just if their paths do. -/
lemma map_join_filter (hproper : files.root.hasProperNames = true) {base : Path}
    {es : List (String × Node)} (hbase : files.find base = .ok (.folder es))
    (selection : Selection) :
    ((selection.sorted (files.seenFrom base (.folder es))).filter
        (files.place base ++ · != target)).map (fun names => base.join ⟨false, names⟩)
      = ((selection.sorted (files.seenFrom base (.folder es))).map
          fun names => base.join ⟨false, names⟩).filter (files.place · != target) := by
  rw [List.filter_map]
  refine congrArg _ (List.filter_congr fun names hnames => ?_)
  have hseen := (List.mergeSort_perm _ _).mem_iff.1 hnames
  rw [FileSystem.seenFrom, Selection.below_listed] at hseen
  rw [Function.comp_apply, (FileSystem.find_source hproper hbase (List.mem_filter.1 hseen).1).1]

variable [Host]

/-- Without a file, the sources below a folder are the others. -/
lemma sourcesIn_without (hproper : files.root.hasProperNames = true)
    (htarget : files.root.at? target = some (.file bytes)) (hne : target ≠ []) {base : Path}
    {found : List (String × Path)} (h : s.sourcesIn files base = .ok found) :
    s.sourcesIn (files.without target) base = .ok (found.filter (standsApart files target)) := by
  have hloses := FileSystem.reach_loses htarget hne .look base
  generalize hbase' : (files.without target).reach .look base = outcome at hloses
  cases hbase : files.reach .look base with
  | error e =>
    obtain ⟨habsence, rfl⟩ := eq_nil_of_find_error hbase h
    rw [hbase] at hloses
    cases hloses with
    | refused => exact sourcesIn_eq_nil (.inr ⟨e, hbase', habsence⟩)
    | cut => exact sourcesIn_eq_nil (.inr ⟨_, hbase', rfl⟩)
  | ok n =>
    rw [hbase] at hloses
    cases n with
    | file bytes' =>
      rw [sourcesIn_eq_nil (.inl ⟨bytes', hbase⟩)] at h
      obtain rfl := Except.ok.inj h
      cases hloses with
      | kept =>
        rw [Node.spared_file] at hbase'
        exact sourcesIn_eq_nil (.inl ⟨bytes', hbase'⟩)
      | gone => exact sourcesIn_eq_nil (.inr ⟨_, hbase', rfl⟩)
    | folder es =>
      -- the folder is still there, and the walk enters the same folders
      obtain ⟨selection, hselection, hdepth, h⟩ := (sourcesIn_folder hbase).1 h
      obtain ⟨hsorted, hdepth'⟩ := seenFrom_without hproper htarget hne hbase selection
      cases hloses with
      | kept =>
        rw [Node.spared_folder] at hbase' hsorted hdepth'
        refine (sourcesIn_folder hbase').2 ⟨selection, hselection, hdepth'.trans hdepth, ?_⟩
        rw [hsorted, map_join_filter hproper hbase]
        refine mapM_filter_eq_ok (fun p e he => ?_) h
        obtain ⟨relative, -, he⟩ := bind_eq_ok.1 he
        obtain rfl := Except.ok.inj he
        rfl

lemma discover_without (hproper : files.root.hasProperNames = true)
    (htarget : files.root.at? target = some (.file bytes)) (hne : target ≠ [])
    {found : List (String × Path)} (h : s.discover files = .ok found) :
    s.discover (files.without target) = .ok (found.filter (standsApart files target)) := by
  obtain ⟨bases, hbases, h⟩ := bind_eq_ok.1 h
  obtain ⟨lists, hlists, h⟩ := bind_eq_ok.1 h
  obtain rfl := Except.ok.inj h
  have hrest : bases.mapM (s.sourcesIn (files.without target))
      = .ok (lists.map (List.filter (standsApart files target))) := by
    rw [mapM_eq_ok_iff, List.forall₂_map_right_iff]
    exact (mapM_eq_ok_iff.1 hlists).imp fun _ _ => sourcesIn_without hproper htarget hne
  -- a path below the root tells the names, and the names tell the path
  have hkey : ∀ e ∈ lists.flatten, ∀ e' ∈ lists.flatten, e.1 = e'.1 → e = e' := by
    have hnames : ∀ e ∈ lists.flatten, ∃ ns, (∀ n ∈ ns, Path.isPart n = true) ∧
        e.1 = Path.shown ns ∧ e.2 = ⟨s.root.absolute, s.root.names ++ ns⟩ := by
      intro e he
      obtain ⟨base, hbase, list, hsources, he⟩ := (mem_flatten_of_mapM hlists).1 he
      obtain ⟨_, _, _, hfound⟩ := exists_foundIn_of_mem_sourcesIn hsources he
      exact hfound.exists_names hproper (exists_of_mem_bases hbases hbase)
    intro e he e' he' heq
    obtain ⟨ns, hns, hshown, hpath⟩ := hnames e he
    obtain ⟨ns', hns', hshown', hpath'⟩ := hnames e' he'
    have hsame := Path.shown_inj hns hns' (by rw [← hshown, ← hshown', heq])
    exact Prod.ext heq (by rw [hpath, hpath', hsame])
  rw [discover, hbases, ok_bind, hrest, ok_bind, ← List.filter_flatten, distinctPaths_filter hkey]
  rfl

/-- A file in another place is scanned as before. -/
lemma scanFile_without [Memory] (hproper : files.root.hasProperNames = true)
    (htarget : files.root.at? target = some (.file bytes)) (hne : target ≠ [])
    {found : List (String × Path)} (h : s.discover files = .ok found) {e : String × Path}
    (he : e ∈ found) (hapart : standsApart files target e = true) :
    s.scanFile (files.without target) e.2 = s.scanFile files e.2 := by
  obtain ⟨base, selection, es, names, hfound⟩ := exists_foundIn_of_mem_discover h he
  have hplace : files.place e.2 ≠ target := bne_iff_ne.1 hapart
  have hreach : ∀ action, (files.without target).reach action e.2 = files.reach action e.2 := by
    intro action
    rw [hfound.path_eq] at hplace ⊢
    exact FileSystem.reach_source_without hproper hfound.folder hfound.mem_below htarget hne
      hplace action
  simp only [scanFile, readFile, FileSystem.readSource_congr (hreach .look) (hreach .open)]

/-- A discovered file is a file of the tree. -/
lemma exists_file_of_mem_discover (hproper : files.root.hasProperNames = true)
    {found : List (String × Path)} (h : s.discover files = .ok found) {e : String × Path}
    (he : e ∈ found) : (∃ bytes, files.root.at? (files.place e.2) = some (.file bytes)) ∧
      files.place e.2 ≠ [] := by
  obtain ⟨base, selection, es, names, hfound⟩ := exists_foundIn_of_mem_discover h he
  obtain ⟨hplace, hfile, hne, -⟩ :=
    FileSystem.find_source hproper hfound.folder hfound.mem_below
  rw [hfound.path_eq, hplace]
  exact ⟨hfile, fun hnil => hne (List.append_eq_nil_iff.1 hnil).2⟩

end Without

end Scanner

/-! ## The report without skipped files -/

lemma FileResult.isSkipped_iff {r : FileResult} : r.isSkipped = true ↔ r.declarations? = none := by
  unfold isSkipped reason? declarations?
  cases r.outcome <;> simp

/-- A result of a scan with the given paths taken from the files that were skipped. -/
def ScanResult.forgetting (paths : List String) (r : ScanResult) : ScanResult :=
  { r with
    skipped := r.skipped.filter (!paths.contains ·)
    report := { r.report with
      filesSkipped := r.report.filesSkipped.filter (!paths.contains ·) } }

namespace Scanner

lemma sort_filter (p : FileResult → Bool) (results : List FileResult) :
    FileResult.sort (results.filter p) = (FileResult.sort results).filter p :=
  mergeSort_filter (isOrderTest_key FileResult.path) p results

section Forgetting

variable {gone : List String} {results : List FileResult}
  (h : ∀ r ∈ results, r.path ∈ gone → r.isSkipped = true)

include h

lemma declarations_without :
    (results.filter (!gone.contains ·.path)).filterMap (·.declarations?)
      = results.filterMap (·.declarations?) := by
  rw [List.filterMap_filter]
  refine List.filterMap_congr fun r hr => ?_
  cases hgone : gone.contains r.path with
  | false => rfl
  | true => exact (FileResult.isSkipped_iff.1 (h r hr (List.contains_iff_mem.1 hgone))).symm

lemma violations_without :
    (results.filter (!gone.contains ·.path)).flatMap (·.violations)
      = results.flatMap (·.violations) := by
  rw [flatMap_filter_eq]
  refine List.flatMap_congr fun r hr => ?_
  cases hgone : gone.contains r.path with
  | false => rfl
  | true =>
    have hskipped := FileResult.isSkipped_iff.1 (h r hr (List.contains_iff_mem.1 hgone))
    exact (violations_of_skipped hskipped).symm

end Forgetting

lemma skipped_without (gone : List String) (results : List FileResult) :
    ((results.filter (!gone.contains ·.path)).filter (·.isSkipped)).map (·.path)
      = ((results.filter (·.isSkipped)).map (·.path)).filter (!gone.contains ·) := by
  rw [List.filter_map, List.filter_comm]
  rfl

section Finish

variable [Host] [Memory]

lemma compare_never (done total done' total' : Nat) (ds : List Source.Declaration) (look : Nat)
    (sims : List (Rule × Similarity)) :
    compare .never done total ds look sims = compare .never done' total' ds look sims := by
  induction sims generalizing look with
  | nil => rfl
  | cons sim sims ih =>
    have hnever : ∀ done total, checkFlag .never look done total = .ok () :=
      checkFlag_of_unset rfl
    rw [compare, compare, hnever, hnever, ih]

/-- Skipped files reach the report by their paths only. -/
lemma finish_forgetting (s : Scanner) {gone : List String} {results : List FileResult}
    (h : ∀ r ∈ results, r.path ∈ gone → r.isSkipped = true) (total total' : Nat)
    (generatedAt : Option Moment) :
    s.finish .never total' generatedAt (results.filter (!gone.contains ·.path))
      = (s.finish .never total generatedAt results).map (·.forgetting gone) := by
  have hsorted : ∀ r ∈ FileResult.sort results, r.path ∈ gone → r.isSkipped = true :=
    fun r hr => h r ((List.mergeSort_perm _ _).mem_iff.1 hr)
  have hnever : ∀ look done total, checkFlag .never look done total = .ok () :=
    fun _ => checkFlag_of_unset rfl
  simp only [finish, sort_filter, declarations_without hsorted, violations_without hsorted,
    skipped_without, hnever, ok_bind, compare_never _ total' results.length total]
  -- what is left runs the same three steps and differs in the skipped paths of the report
  rw [bind_map]
  refine congrArg _ (funext fun joint => ?_)
  rw [bind_map]
  refine congrArg _ (funext fun pairs => ?_)
  rw [bind_map]
  refine congrArg _ (funext fun layers => congrArg Except.ok ?_)
  simp only [ScanResult.forgetting, Report.aggregate, Text.sorted,
    mergeSort_filter Text.isOrderTest_precedes]

/-- A scan with rules that look at one file alone, and with the layers that come by default, makes
its report of any results. -/
lemma exists_finish {s : Scanner} (hlayers : s.settings.layers = ({} : Settings).layers)
    (hjoint : ∀ ds, s.rules.evaluateGlobal ds = .ok []) (hnone : s.rules.similarities = [])
    (total : Nat) (generatedAt : Option Moment) (results : List FileResult) :
    ∃ result, s.finish .never total generatedAt results = .ok result := by
  have hnever : ∀ look done, checkFlag .never look done total = .ok () :=
    fun _ done => checkFlag_of_unset rfl done total
  have hpairs : ∀ done ds, compare .never done total ds 1 [] = .ok [] := fun _ _ => rfl
  have hmarkers : ∀ paths, ∃ markers, s.settings.layersFor paths = .ok markers := by
    intro paths
    unfold Settings.layersFor
    rw [hlayers]
    split <;> exact ⟨_, rfl⟩
  simp only [finish, hnever, hjoint, hnone, hpairs, ok_bind]
  generalize List.map _ _ ++ List.map _ _ = paths
  obtain ⟨markers, hmarkers⟩ := hmarkers paths
  exact ⟨_, by rw [hmarkers]; rfl⟩

end Finish

/-! ## The scan without a file -/

/-- The paths below the root under which the file in a place is found. -/
def pathsOf (files : FileSystem) (target : List String) (found : List (String × Path)) :
    List String :=
  (found.filter (!standsApart files target ·)).map (·.1)

lemma contains_pathsOf [Host] {s : Scanner} {files : FileSystem} {target : List String}
    {found : List (String × Path)} (h : s.discover files = .ok found) {e : String × Path}
    (he : e ∈ found) :
    (pathsOf files target found).contains e.1 = !standsApart files target e := by
  rw [Bool.eq_iff_iff, List.contains_iff_mem, pathsOf, List.mem_map]
  constructor
  · rintro ⟨e', he', heq⟩
    obtain ⟨hmem, hplace⟩ := List.mem_filter.1 he'
    rwa [← List.inj_on_of_nodup_map (nodup_of_discover h) hmem he heq]
  · exact fun hplace => ⟨e, List.mem_filter.2 ⟨he, hplace⟩, rfl⟩

section Scan

variable [Host] [m : Memory] {s : Scanner} {files : FileSystem} {target : List String}
    {found : List (String × Path)}

lemma scanFile_of_unreadable (h : s.discover files = .ok found) {e : String × Path} (he : e ∈ found)
    {reason : String} (hread : s.readFile files e.2 = .ok (.error reason)) :
    s.scanFile files e.2 = .ok ⟨e.1, .skipped reason⟩ := by
  rw [scanFile, relative_of_mem_discover h he, ok_bind, hread]
  rfl

/-- The results of the tree without a file that cannot be read are those of the tree, but for the
results of its paths. -/
lemma results_without {bytes : List UInt8} (hproper : files.root.hasProperNames = true)
    (htarget : files.root.at? target = some (.file bytes)) (hne : target ≠ [])
    (h : s.discover files = .ok found)
    (hscan : ∀ e ∈ found, standsApart files target e = false →
      ∃ reason, s.scanFile files e.2 = .ok ⟨e.1, .skipped reason⟩) :
    ((found.filter (standsApart files target)).map (·.2)).mapM
        (s.scanFile (files.without target))
      = ((found.map (·.2)).mapM (s.scanFile files)).map
        (·.filter (!(pathsOf files target found).contains ·.path)) := by
  have hsame : ∀ e ∈ found.filter (standsApart files target),
      (s.scanFile (files.without target) ∘ fun e => e.2) e
        = (s.scanFile files ∘ fun e => e.2) e := by
    intro e he
    obtain ⟨hmem, hapart⟩ := List.mem_filter.1 he
    exact scanFile_without hproper htarget hne h hmem hapart
  rw [List.mapM_map, List.mapM_map, mapM_congr hsame]
  refine mapM_filter_eq_map (fun e he r hr => ?_) fun e he hplace => ?_
  · rw [path_of_mem_discover h he hr, contains_pathsOf h he, Bool.not_not]
  · obtain ⟨reason, hreason⟩ := hscan e he hplace
    exact ⟨_, hreason⟩

/-- The scan of the tree without a file that cannot be read is the scan of the tree, but for its
paths among the skipped files. -/
lemma scan_without {bytes : List UInt8} (hproper : files.root.hasProperNames = true)
    (htarget : files.root.at? target = some (.file bytes)) (hne : target ≠ [])
    (h : s.discover files = .ok found)
    (hread : ∀ e ∈ found, standsApart files target e = false →
      ∃ reason, s.readFile files e.2 = .ok (.error reason)) (generatedAt : Option Moment) :
    s.scan (files.without target) .never generatedAt
      = (s.scan files .never generatedAt).map (·.forgetting (pathsOf files target found)) := by
  have hscan : ∀ e ∈ found, standsApart files target e = false →
      ∃ reason, s.scanFile files e.2 = .ok ⟨e.1, .skipped reason⟩ := by
    intro e he hplace
    obtain ⟨reason, hreason⟩ := hread e he hplace
    exact ⟨reason, scanFile_of_unreadable h he hreason⟩
  rw [s.scan_never (discover_without hproper htarget hne h), s.scan_never h,
    results_without hproper htarget hne h hscan, bind_map]
  cases hresults : (found.map (·.2)).mapM (s.scanFile files) with
  | error f => rfl
  | ok results =>
    refine s.finish_forgetting (fun r hr hgone => ?_) _ _ _
    obtain ⟨_, hmem, hr⟩ := exists_of_mem_mapM hresults hr
    obtain ⟨e, he, rfl⟩ := List.mem_map.1 hmem
    rw [← List.contains_iff_mem, path_of_mem_discover h he hr, contains_pathsOf h he] at hgone
    obtain ⟨reason, hreason⟩ := hscan e he (by simpa using hgone)
    rw [hreason] at hr
    obtain rfl := Except.ok.inj hr
    rfl

/-- The paths of a file that cannot be read are among the skipped files. -/
lemma mem_skipped_of_unreadable (h : s.discover files = .ok found)
    (hread : ∀ e ∈ found, standsApart files target e = false →
      ∃ reason, s.readFile files e.2 = .ok (.error reason)) {generatedAt : Option Moment}
    {result : ScanResult} (hscan : s.scan files .never generatedAt = .ok result) {path : String}
    (hpath : path ∈ pathsOf files target found) : path ∈ result.skipped := by
  obtain ⟨e, hmem, rfl⟩ := List.mem_map.1 hpath
  obtain ⟨he, hplace⟩ := List.mem_filter.1 hmem
  obtain ⟨reason, hreason⟩ := hread e he (by simpa using hplace)
  rw [s.scan_never h] at hscan
  obtain ⟨results, hresults, hfinish⟩ := bind_eq_ok.1 hscan
  obtain ⟨r, hr, hresult⟩ := exists_result_of_mem hresults (List.mem_map_of_mem he)
  rw [scanFile_of_unreadable h he hreason] at hresult
  obtain rfl := Except.ok.inj hresult
  rw [(tellsOf_of_finish hfinish).skipped_eq]
  have hsorted : (⟨e.1, .skipped reason⟩ : FileResult) ∈ FileResult.sort results :=
    (List.mergeSort_perm _ _).mem_iff.2 hr
  exact List.mem_map.2 ⟨_, List.mem_filter.2 ⟨hsorted, rfl⟩, rfl⟩

/-- A scan that completes: one file after the other, or files at the same time, with a flag that may
be set on the way. -/
inductive Completes (s : Scanner) (files : FileSystem) (generatedAt : Option Moment) :
    ScanResult → Prop
  | inTurn {flag : CancelFlag} {result : ScanResult} (hflag : Monotone flag)
      (h : s.scan files flag generatedAt = .ok result) : Completes s files generatedAt result
  | atOnce {found : List (String × Path)} {isSet : Bool} {pool : Pool} {flag : CancelFlag}
      {result : ScanResult} (hfound : s.discover files = .ok found)
      (hrun : Relation.ReflTransGen Pool.Step (.start (found.map (·.2)) isSet) pool)
      (hfinished : pool.Finished) (hset : pool.isSet = true → flag 0 = true)
      (h : s.scanAtOnce files pool.done flag generatedAt = .ok result) :
      Completes s files generatedAt result

/-- A scan that completes is the scan that is never cancelled. -/
lemma Completes.scan_eq {generatedAt : Option Moment} {result : ScanResult}
    (h : s.Completes files generatedAt result) : s.scan files .never generatedAt = .ok result := by
  cases h with
  | inTurn hflag h =>
    obtain ⟨found, hfound, -⟩ := bind_eq_ok.1 h
    rcases s.scan_cancelled_or_eq hfound hflag generatedAt with ⟨n, -, hcancelled⟩ | heq
    · rw [hcancelled] at h
      exact absurd h (by simp)
    · rw [← heq, h]
  | atOnce hfound hrun hfinished hset h =>
    rcases s.scanAtOnce_of_run hfound hrun hfinished hset generatedAt with
      ⟨-, n, -, hcancelled⟩ | heq | ⟨e, -, f, -, hfault⟩
    · rw [hcancelled] at h
      exact absurd h (by simp)
    · rw [← heq, h]
    · rw [hfault] at h
      exact absurd h (by simp)

/-- Files that are scanned at the same time give the same in any order, if the scan completes. -/
lemma scanAtOnce_of_scan (h : s.discover files = .ok found) {generatedAt : Option Moment}
    {result : ScanResult} (hscan : s.scan files .never generatedAt = .ok result)
    {completion : List Path} (hcompletion : completion.Perm (found.map (·.2))) :
    s.scanAtOnce files (completion.map (·, false)) .never generatedAt = .ok result := by
  rw [s.scan_never h] at hscan
  obtain ⟨inTurn, hinTurn, hfinish⟩ := bind_eq_ok.1 hscan
  obtain ⟨results, hresults, -⟩ := exists_mapM_perm hcompletion.symm hinTurn
  obtain ⟨inTurn', hinTurn', -, hsame⟩ := finish_eq_of_perm h hcompletion hresults
  obtain rfl := Except.ok.inj (hinTurn.symm.trans hinTurn')
  rw [s.scanAtOnce_of_unset h, hresults, ok_bind, hsame, hfinish]

end Scan

end Scanner

/-! ## The account of a scan -/

/-- A result accounts for the discovered files: each of them was read or skipped, and not both, and
the report tells how many were read and which were skipped. -/
structure ScanResult.AccountsFor (result : ScanResult) (found : List (String × Path)) : Prop where
  paths_nodup : (found.map (·.1)).Nodup
  paths_perm : (result.files.map (·.path) ++ result.skipped).Perm (found.map (·.1))
  scanned_eq : result.report.filesScanned = result.files.length
  skipped_eq : result.report.filesSkipped = result.skipped
  count_eq : result.report.filesScanned + result.skipped.length = found.length

namespace Scanner

section Account

variable [Host] [m : Memory] {s : Scanner} {files : FileSystem} {found : List (String × Path)}

/-- The declarations of a file carry the path of its result. -/
lemma path_of_declarations {p : Path} {r : FileResult} (h : s.scanFile files p = .ok r)
    {ds : Source.FileDeclarations} (hds : r.declarations? = some ds) : ds.path = r.path := by
  obtain ⟨relative, -, h⟩ := bind_eq_ok.1 h
  obtain ⟨content, -, h⟩ := bind_eq_ok.1 h
  split at h
  · obtain ⟨violations, -, h⟩ := bind_eq_ok.1 h
    obtain rfl := Except.ok.inj h
    obtain rfl := Option.some.inj hds
    rfl
  · obtain rfl := Except.ok.inj h
    exact absurd hds (by simp [FileResult.declarations?])

/-- Results are those of the files that were read and those of the files that were skipped. -/
lemma paths_perm_of_results {results : List FileResult}
    (h : ∀ r ∈ results, ∃ p, s.scanFile files p = .ok r) :
    ((results.filterMap (·.declarations?)).map (·.path) ++
      (results.filter (·.isSkipped)).map (·.path)).Perm (results.map (·.path)) := by
  induction results with
  | nil => exact List.Perm.refl _
  | cons r results ih =>
    have hrest := ih fun r' hr' => h r' (List.mem_cons_of_mem _ hr')
    obtain ⟨p, hp⟩ := h r List.mem_cons_self
    cases hds : r.declarations? with
    | none =>
      rw [List.filterMap_cons_none hds,
        List.filter_cons_of_pos (FileResult.isSkipped_iff.2 hds), List.map_cons, List.map_cons]
      exact List.perm_middle.trans (hrest.cons r.path)
    | some ds =>
      have hread : ¬ r.isSkipped = true := by simp [FileResult.isSkipped_iff, hds]
      rw [List.filterMap_cons_some hds, List.filter_cons_of_neg hread, List.map_cons,
        List.map_cons, path_of_declarations hp hds, List.cons_append]
      exact hrest.cons r.path

lemma accountsFor_of_scan (h : s.discover files = .ok found) {generatedAt : Option Moment}
    {result : ScanResult} (hscan : s.scan files .never generatedAt = .ok result) :
    result.AccountsFor found := by
  rw [s.scan_never h] at hscan
  obtain ⟨results, hresults, hfinish⟩ := bind_eq_ok.1 hscan
  have hpaths := map_path_eq h hresults
  have hsort : (FileResult.sort results).Perm results := List.mergeSort_perm _ _
  have hperm := @paths_perm_of_results _ _ s files (FileResult.sort results) fun r hr => by
    obtain ⟨p, -, hp⟩ := exists_of_mem_mapM hresults (hsort.mem_iff.1 hr)
    exact ⟨p, hp⟩
  have htells := tellsOf_of_finish hfinish
  rw [← htells.files_eq, ← htells.skipped_eq] at hperm
  have hall := hperm.trans (hsort.map (·.path))
  rw [hpaths] at hall
  have hscanned := htells.filesScanned_eq
  refine ⟨nodup_of_discover h, hall, hscanned, ?_, ?_⟩
  · -- the skipped files come in the order of their paths already
    have hkey := isOrderTest_key FileResult.path
    have hordered := (List.pairwise_mergeSort hkey.trans hkey.total results).filter (·.isSkipped)
    rw [htells.filesSkipped_eq, htells.skipped_eq]
    exact List.mergeSort_of_pairwise (List.pairwise_map.2 hordered)
  · have hcount := hall.length_eq
    simp only [List.length_append, List.length_map] at hcount
    omega

end Account

section Memories

variable [Host] {m n : Memory}

/-- **A file that cannot be read leaves no trace but its path.**  Every scan that completes accounts
for the discovered files.  If a discovered file cannot be read under any of the paths by which the
tree shows it, then without that file these paths are not discovered, and all others are; the scan
of the tree without it comes out as the scan of the tree, with these paths taken from the skipped
files, where they all are; and so does every scan of that tree that completes, whichever of the two
takes the files one after the other and whichever at the same time.  The scans are in two memories:
they come out exactly so if these make no difference to the rules, and but for the messages that
show something of memory in any two. -/
theorem unreadable_leaves_no_trace (s : Scanner) (files : FileSystem)
    (generatedAt : Option Moment) {found : List (String × Path)}
    (hfound : s.discover files = .ok found) :
    (∀ result : ScanResult, s.Completes (m := m) files generatedAt result →
      result.AccountsFor found) ∧
    ∀ p ∈ found.map (·.2), files.root.hasProperNames = true →
      (∀ e ∈ found, standsApart files (files.place p) e = false →
        ∃ reason, s.readFile files e.2 = .ok (.error reason)) →
      let rest := files.without (files.place p)
      let others := found.filter (standsApart files (files.place p))
      let gone := pathsOf files (files.place p) found
      s.discover rest = .ok others ∧
      (s.rules.Unaffected m n → s.scan (m := n) rest .never generatedAt
        = (s.scan (m := m) files .never generatedAt).map (·.forgetting gone)) ∧
      ∀ result : ScanResult, s.Completes (m := m) files generatedAt result →
        (∀ path ∈ gone, path ∈ result.skipped) ∧
        (∀ result' : ScanResult, s.Completes (m := n) rest generatedAt result' →
          result'.certain s.rules = (result.forgetting gone).certain s.rules) ∧
        (s.rules.Unaffected m n →
          (∀ result' : ScanResult, s.Completes (m := n) rest generatedAt result' →
            result' = result.forgetting gone) ∧
          ∀ completion : List Path, completion.Perm (others.map (·.2)) →
            s.scanAtOnce (m := n) rest (completion.map (·, false)) .never generatedAt
              = .ok (result.forgetting gone)) := by
  refine ⟨fun result h => accountsFor_of_scan (m := m) hfound (h.scan_eq (m := m)),
    fun p hp hproper hread => ?_⟩
  obtain ⟨e₀, he₀, rfl⟩ := List.mem_map.1 hp
  obtain ⟨⟨bytes, hfile⟩, hne⟩ := exists_file_of_mem_discover hproper hfound he₀
  have hothers := discover_without hproper hfile hne hfound
  have hscan := scan_without (m := m) hproper hfile hne hfound hread generatedAt
  refine ⟨hothers, fun hsame => ?_, fun result h => ?_⟩
  · rw [← hscan, scan_eq_of_unaffected hsame]
  -- in its own memory the scan without the file has this result; the other memory comes after
  have hresult : s.scan (m := m) (files.without (files.place e₀.2)) .never generatedAt
      = .ok (result.forgetting (pathsOf files (files.place e₀.2) found)) := by
    rw [hscan, h.scan_eq (m := m)]
    rfl
  refine ⟨fun path hpath => ?_, fun result' h' => ?_, fun hsame => ?_⟩
  · exact mem_skipped_of_unreadable (m := m) hfound hread (h.scan_eq (m := m)) hpath
  · exact scan_certain (m := n) (n := m) h'.scan_eq hresult
  · rw [scan_eq_of_unaffected hsame] at hresult
    exact ⟨fun result' h' => Except.ok.inj (h'.scan_eq.symm.trans hresult),
      fun completion hcompletion => scanAtOnce_of_scan hothers hresult hcompletion⟩

end Memories

section Plain

attribute [local instance] Host.plain Memory.plain

/-- Two files: the word `int`, and a byte that no text has. -/
def brokenFiles : FileSystem :=
  twoFiles [105, 110, 116] [255]

lemma discover_brokenFiles :
    letterScanner.discover brokenFiles
      = .ok [("a.cs", ⟨true, ["a.cs"]⟩), ("b.cs", ⟨true, ["b.cs"]⟩)] :=
  discover_twoFiles _ _

/-- The scan of two files completes and skips the one that is no text; without that file, the scan
is the same but for its path. -/
theorem unreadable_leaves_no_trace_bytes :
    brokenFiles.root.hasProperNames = true ∧
      (∃ result, letterScanner.Completes brokenFiles none result ∧ "b.cs" ∈ result.skipped) ∧
      letterScanner.scan (brokenFiles.without ["b.cs"]) .never none
        = (letterScanner.scan brokenFiles .never none).map (·.forgetting ["b.cs"]) := by
  have hproper : brokenFiles.root.hasProperNames = true := by decide +kernel
  have hread : ∀ e ∈ [("a.cs", (⟨true, ["a.cs"]⟩ : Path)), ("b.cs", ⟨true, ["b.cs"]⟩)],
      standsApart brokenFiles (brokenFiles.place ⟨true, ["b.cs"]⟩) e = false →
        ∃ reason, letterScanner.readFile brokenFiles e.2 = .ok (.error reason) := by
    intro e he hplace
    simp only [List.mem_cons, List.not_mem_nil, or_false] at he
    rcases he with rfl | rfl
    · exact absurd hplace (by decide +kernel)
    · exact ⟨_, rfl⟩
  have hscan : ∃ result, letterScanner.scan brokenFiles .never none = .ok result := by
    have hfiles : ∀ p ∈ [(⟨true, ["a.cs"]⟩ : Path), ⟨true, ["b.cs"]⟩],
        ∃ r, letterScanner.scanFile brokenFiles p = .ok r := by
      intro p hp
      refine exists_ok_of_isSome ?_
      revert p
      decide +kernel
    obtain ⟨results, hresults⟩ := exists_mapM_ok hfiles
    obtain ⟨result, hresult⟩ :=
      exists_finish (s := letterScanner) rfl (fun _ => rfl) rfl 2 none results
    refine ⟨result, ?_⟩
    rw [letterScanner.scan_never discover_brokenFiles]
    exact bind_eq_ok.2 ⟨results, hresults, hresult⟩
  obtain ⟨-, htrace⟩ :=
    unreadable_leaves_no_trace (m := Memory.plain) (n := Memory.plain) letterScanner brokenFiles
      none discover_brokenFiles
  obtain ⟨-, hwithout, hskipped⟩ := htrace ⟨true, ["b.cs"]⟩ (by decide) hproper hread
  obtain ⟨result, hresult⟩ := hscan
  have hcompletes : letterScanner.Completes brokenFiles none result :=
    .inTurn (fun _ _ _ => le_refl _) hresult
  refine ⟨hproper, ⟨result, hcompletes, ?_⟩, ?_⟩
  · exact (hskipped result hcompletes).1 "b.cs" (by decide +kernel)
  · have hgone : pathsOf brokenFiles (brokenFiles.place ⟨true, ["b.cs"]⟩)
        [("a.cs", ⟨true, ["a.cs"]⟩), ("b.cs", ⟨true, ["b.cs"]⟩)] = ["b.cs"] := by decide +kernel
    rw [hgone] at hwithout
    exact hwithout (.inl rfl)

/-- A folder with a file that is no text. -/
def brokenSource : FileSystem where
  root := .folder [("src", .folder [("A.cs", .file [255])])]
  current := ⟨true, []⟩

/-- A scan of one folder, which is told in two ways. -/
def twoWays : Scanner where
  root := ⟨true, []⟩
  rules := ⟨[]⟩
  settings :=
    { sourceFolders := .list [.text "src/../src", .text "src"], excludedFolders := .list [] }

lemma discover_twoWays :
    twoWays.discover brokenSource
      = .ok [("src/../src/A.cs", ⟨true, ["src", "..", "src", "A.cs"]⟩),
        ("src/A.cs", ⟨true, ["src", "A.cs"]⟩)] := by
  have hbases : twoWays.bases = .ok [⟨true, ["src", "..", "src"]⟩, ⟨true, ["src"]⟩] := rfl
  have hselection : twoWays.selection = .ok ⟨[".cs"], []⟩ := by decide +kernel
  have hbelow : (Selection.mk [".cs"] []).below (.folder [("A.cs", .file [255])])
      = [["A.cs"]] := by decide +kernel
  have hsorted : (Selection.mk [".cs"] []).sorted (.folder [("A.cs", .file [255])])
      = [["A.cs"]] := by
    rw [Selection.sorted, hbelow]
    exact List.mergeSort_singleton _
  have hsources : ∀ base, brokenSource.find base = .ok (.folder [("A.cs", .file [255])]) →
      brokenSource.lists base = true → ∀ relative,
      twoWays.relative (base.join ⟨false, ["A.cs"]⟩) = .ok relative →
        twoWays.sourcesIn brokenSource base = .ok [(relative, base.join ⟨false, ["A.cs"]⟩)] := by
    intro base hfolder hlists relative hrelative
    have hseen : brokenSource.seenFrom base (.folder [("A.cs", .file [255])])
        = .folder [("A.cs", .file [255])] := by
      rw [FileSystem.seenFrom, Node.listed, Path.join_nil, if_pos hlists]
      rfl
    refine (sourcesIn_folder hfolder).2 ⟨_, hselection, ?_, ?_⟩
    · rw [hseen]
      decide
    · rw [hseen, hsorted, List.map_singleton, List.mapM_cons, hrelative]
      rfl
  have hlists : ([⟨true, ["src", "..", "src"]⟩, ⟨true, ["src"]⟩] : List Path).mapM
        (twoWays.sourcesIn brokenSource)
      = .ok [[("src/../src/A.cs", ⟨true, ["src", "..", "src", "A.cs"]⟩)],
        [("src/A.cs", ⟨true, ["src", "A.cs"]⟩)]] := by
    rw [List.mapM_cons, List.mapM_cons, List.mapM_nil,
      hsources _ rfl rfl "src/../src/A.cs" (by decide +kernel),
      hsources _ rfl rfl "src/A.cs" (by decide +kernel)]
    rfl
  rw [discover, hbases, ok_bind, hlists, ok_bind]
  exact congrArg Except.ok (distinctPaths_eq_self (by decide +kernel))

/-- A file of a folder that is told in two ways is skipped under two paths, and neither of them is
left when the file is removed. -/
theorem skipped_under_two_paths :
    (∃ found, twoWays.discover brokenSource = .ok found ∧
        ("src/A.cs", ⟨true, ["src", "A.cs"]⟩) ∈ found) ∧
      brokenSource.remove ⟨true, ["src", "A.cs"]⟩ = .ok (brokenSource.without ["src", "A.cs"]) ∧
      (∃ reason, twoWays.readFile brokenSource ⟨true, ["src", "A.cs"]⟩ = .ok (.error reason)) ∧
      (twoWays.scan brokenSource).map (·.report.filesSkipped)
        = .ok ["src/../src/A.cs", "src/A.cs"] ∧
      (twoWays.scan (brokenSource.without ["src", "A.cs"])).map (·.report.filesSkipped)
        = .ok [] := by
  refine ⟨⟨_, discover_twoWays, by decide⟩, rfl, ⟨_, rfl⟩, ?_, ?_⟩
  · obtain ⟨reason, hscan⟩ : ∃ reason,
        [(⟨true, ["src", "..", "src", "A.cs"]⟩ : Path), ⟨true, ["src", "A.cs"]⟩].mapM
            (twoWays.scanFile brokenSource)
          = .ok [⟨"src/../src/A.cs", .skipped reason⟩, ⟨"src/A.cs", .skipped reason⟩] := ⟨_, rfl⟩
    set results : List FileResult :=
      [⟨"src/../src/A.cs", .skipped reason⟩, ⟨"src/A.cs", .skipped reason⟩] with hresults
    have hsorted : FileResult.sort results = results :=
      List.mergeSort_of_pairwise (by simp only [hresults, List.pairwise_pair]; decide +kernel)
    have hnames : Text.sorted ["src/../src/A.cs", "src/A.cs"] = ["src/../src/A.cs", "src/A.cs"] :=
      List.mergeSort_of_pairwise (by decide +kernel)
    obtain ⟨result, hfinish⟩ := exists_finish (s := twoWays) rfl (fun _ => rfl) rfl 2 none results
    have htells := tellsOf_of_finish hfinish
    have hlisted := htells.filesSkipped_eq
    rw [htells.skipped_eq, hsorted] at hlisted
    rw [twoWays.scan_never discover_twoWays]
    refine map_eq_ok.2 ⟨result, bind_eq_ok.2 ⟨results, hscan, hfinish⟩, ?_⟩
    exact hlisted.trans hnames
  · have hfile : brokenSource.root.at? ["src", "A.cs"] = some (.file [255]) := rfl
    have hfound := discover_without (by decide +kernel) hfile (by decide) discover_twoWays
    obtain ⟨result, hfinish⟩ := exists_finish (s := twoWays) rfl (fun _ => rfl) rfl 0 none []
    have htells := tellsOf_of_finish hfinish
    rw [twoWays.scan_never hfound]
    refine map_eq_ok.2 ⟨result, bind_eq_ok.2 ⟨[], rfl, hfinish⟩, ?_⟩
    rw [htells.filesSkipped_eq, htells.skipped_eq, FileResult.sort, List.mergeSort_nil]
    exact List.mergeSort_nil

end Plain

end Scanner
end Conformance
