/-
# The files that are discovered

Below a folder, the sources are the files whose suffix is asked for and that no excluded folder
hides (`Selection.mem_below_iff`).  Discovery collects them from each folder that is scanned and
keeps one for each path below the root, which tells the file; so it finds just the selected files,
in order, and it makes no difference in which order and how often the folders are given, which of
them do not exist, and how the entries of folders are listed (`Scanner.discover_selected`).  No
given folder at all stands for the root, which is not the same as given folders of which none exists
(`Scanner.discover_missing_folder`).  What is in a folder that cannot be listed is not selected, and
folders must not be nested more deeply than the host can follow.
-/
import Conformance.Proofs.Scan.Isolation
import Conformance.Proofs.Text.LowerCase

namespace Conformance

/-! ## The sources below a folder -/

namespace Selection

open Node

variable {s : Selection}

/-- Whether names lead over folders that are entered to a name that is taken. -/
def Leads (s : Selection) (names : List String) : Prop :=
  ∃ way name, names = way ++ [name] ∧ s.takes name = true ∧ ∀ folder ∈ way, s.enters folder = true

lemma not_leads_nil : ¬ s.Leads [] := by
  rintro ⟨way, name, hnames, -⟩
  exact absurd hnames (by simp)

lemma leads_cons {first : String} {rest : List String} :
    s.Leads (first :: rest) ↔
      (rest = [] ∧ s.takes first = true) ∨ (s.enters first = true ∧ s.Leads rest) := by
  constructor
  · rintro ⟨way, name, hnames, htakes, henters⟩
    cases way with
    | nil =>
      obtain ⟨rfl, rfl⟩ := List.cons.inj hnames
      exact .inl ⟨rfl, htakes⟩
    | cons folder way =>
      obtain ⟨rfl, rfl⟩ := List.cons.inj hnames
      obtain ⟨hfirst, hway⟩ := List.forall_mem_cons.1 henters
      exact .inr ⟨hfirst, way, name, rfl, htakes, hway⟩
  · rintro (⟨rfl, htakes⟩ | ⟨hfirst, way, name, rfl, htakes, hway⟩)
    · exact ⟨[], first, rfl, htakes, by simp⟩
    · exact ⟨first :: way, name, rfl, htakes, List.forall_mem_cons.2 ⟨hfirst, hway⟩⟩

/-- A source at an entry is the entry itself, or stands below it. -/
lemma mem_ofEntry_iff {e : String × Node} {names : List String} :
    names ∈ s.ofEntry e ↔ ∃ rest, names = e.1 :: rest ∧
      ((rest = [] ∧ e.2.isFolder = false ∧ s.takes e.1 = true) ∨
        (s.enters e.1 = true ∧ rest ∈ s.below e.2)) := by
  obtain ⟨name, child⟩ := e
  cases child with
  | file bytes =>
    by_cases htakes : s.takes name = true <;> simp [ofEntry, isFolder, below, htakes]
  | folder es =>
    by_cases henters : s.enters name = true
    · have hentry : s.ofEntry (name, .folder es) = (s.below (.folder es)).map (name :: ·) := by
        simp [ofEntry, isFolder, henters]
      rw [hentry, List.mem_map]
      constructor
      · rintro ⟨rest, hrest, rfl⟩
        exact ⟨rest, rfl, .inr ⟨henters, hrest⟩⟩
      · rintro ⟨rest, rfl, ⟨-, hfile, -⟩ | ⟨-, hrest⟩⟩
        · exact absurd hfile (by simp [isFolder])
        · exact ⟨rest, hrest, rfl⟩
    · simp [ofEntry, isFolder, henters]

/-- **The sources below a node are the files that names lead to.** -/
theorem mem_below_iff {n : Node} (hn : n.hasProperNames = true) {names : List String} :
    names ∈ s.below n ↔ (∃ bytes, n.at? names = some (.file bytes)) ∧ s.Leads names := by
  induction names generalizing n with
  | nil =>
    refine iff_of_false (fun h => ?_) fun h => not_leads_nil h.2
    exact (at?_of_mem_below hn h).2.1 rfl
  | cons first rest ih =>
    cases n with
    | file bytes => simp [below, at?, entries]
    | folder es =>
      rw [below_folder, List.mem_flatMap]
      constructor
      · rintro ⟨e, he, hmem⟩
        obtain ⟨-, hchild, hlookup⟩ := properNames_of_mem hn he
        obtain ⟨_, hnames, hentry⟩ := mem_ofEntry_iff.1 hmem
        obtain ⟨rfl, rfl⟩ := List.cons.inj hnames
        rw [at?, entries, hlookup, Option.bind_some, leads_cons]
        rcases hentry with ⟨rfl, hfile, htakes⟩ | ⟨henters, hrest⟩
        · refine ⟨?_, .inl ⟨rfl, htakes⟩⟩
          cases hnode : e.2 with
          | file bytes => exact ⟨bytes, rfl⟩
          | folder _ => exact absurd hfile (by simp [hnode, isFolder])
        · obtain ⟨hfile, hleads⟩ := (ih hchild).1 hrest
          exact ⟨hfile, .inr ⟨henters, hleads⟩⟩
      · rintro ⟨⟨bytes, hat⟩, hleads⟩
        rw [at?, entries, Option.bind_eq_some_iff] at hat
        obtain ⟨child, hlookup, hat⟩ := hat
        have hmem := (lookup_eq_some_iff_mem hn).1 hlookup
        obtain ⟨-, hchild, -⟩ := properNames_of_mem hn hmem
        refine ⟨(first, child), hmem, mem_ofEntry_iff.2 ⟨rest, rfl, ?_⟩⟩
        rcases leads_cons.1 hleads with ⟨rfl, htakes⟩ | ⟨henters, hleads⟩
        · obtain rfl := Option.some.inj hat
          exact .inl ⟨rfl, rfl, htakes⟩
        · exact .inr ⟨henters, (ih hchild).2 ⟨⟨bytes, hat⟩, hleads⟩⟩

end Selection

namespace Node

/-- A node of a proper tree is proper, and every name on the way to it can stand in a folder. -/
lemma proper_of_at? {n m : Node} (hn : n.hasProperNames = true) {names : List String}
    (h : n.at? names = some m) :
    (∀ name ∈ names, Path.isEntryName name = true) ∧ m.hasProperNames = true := by
  induction names generalizing n with
  | nil =>
    obtain rfl := Option.some.inj h
    exact ⟨fun _ hname => absurd hname List.not_mem_nil, hn⟩
  | cons first rest ih =>
    rw [at?, Option.bind_eq_some_iff] at h
    obtain ⟨child, hlookup, h⟩ := h
    cases n with
    | file bytes => exact absurd hlookup (by simp [entries])
    | folder es =>
      obtain ⟨hname, hchild, -⟩ :=
        Selection.properNames_of_mem hn ((lookup_eq_some_iff_mem hn).1 hlookup)
      obtain ⟨hrest, hm⟩ := ih hchild h
      exact ⟨List.forall_mem_cons.2 ⟨hname, hrest⟩, hm⟩

/-- Names of which none goes back are followed to the place that they tell. -/
lemma at?_of_follow {above : List Node} {n m : Node} {names : List String}
    (hback : ".." ∉ names) (h : follow above n names = .ok m) : n.at? names = some m := by
  induction names generalizing above n with
  | nil =>
    rw [follow] at h
    exact congrArg some (Except.ok.inj h)
  | cons name names ih =>
    obtain ⟨hname, hnames⟩ := not_or.1 (fun h => hback (List.mem_cons.2 h))
    rw [follow_cons] at h
    obtain ⟨x, hstep, h⟩ := bind_eq_ok.1 h
    cases n with
    | file bytes => exact absurd hstep (by simp [step])
    | folder es =>
      rw [step, if_neg (by simpa using Ne.symm hname), enter] at hstep
      obtain ⟨-, -, hstep⟩ := bind_eq_ok.1 hstep
      split at hstep
      · exact absurd hstep (by simp)
      · rename_i child hchild
        obtain rfl := Except.ok.inj hstep
        rw [at?, entries, hchild, Option.bind_some]
        exact ih hnames h

end Node

namespace Scanner

/-! ## The settings of a scan -/

/-- The settings that tell which files are scanned are lists of texts. -/
structure Configured (s : Scanner) (dirs extensions excluded : List String) : Prop where
  dirs_eq : s.settings.sourceFolders = .ofTexts dirs
  extensions_eq : s.settings.extensions = .ofTexts extensions
  excluded_eq : s.settings.excludedFolders = .ofTexts excluded

/-- A given folder is one below the root: it is not told from the root of the file system, it does
not go back, and if it cannot be looked at, it is because it does not exist. -/
structure PlainFolder (fs : FileSystem) (root : Path) (d : String) : Prop where
  relative : (Path.ofText d).absolute = false
  noBack : ".." ∉ (Path.ofText d).names
  absent : ∀ problem, fs.find (root.child d) = .error problem → problem.isAbsence = true

/-- The folders that are scanned, by their names below the root; none given is the root itself. -/
def startNames (dirs : List String) : List (List String) :=
  if dirs = [] then [[]] else dirs.map fun d => (Path.ofText d).names

/-- The folders that are scanned are nested no more deeply than the host can follow: so are the
folders below them to which folders lead that can be listed and of which none is excluded. -/
def Followed [Host] (fs : FileSystem) (root : Path) (tree : Node) (dirs excluded : List String) :
    Prop :=
  ∀ start ∈ startNames dirs, fs.hasFolder (root.join ⟨false, start⟩) = true →
    ∀ way es, tree.at? (start ++ way) = some (.folder es) →
      (∀ folder ∈ way, Text.lower folder ∉ excluded.map Text.lower) →
      (∀ front name back, way = front ++ name :: back →
        fs.lists (root.join ⟨false, start ++ front⟩) = true) →
      way.length < Host.folderDepth

variable {s : Scanner} {fs : FileSystem} {es : List (String × Node)}
  {dirs extensions excluded : List String}

/-- A step for each of some texts that fails for none. -/
lemma mapM_map_text {α : Type} {f : Value → Except Fault α} {g : String → α}
    (h : ∀ t, f (.text t) = .ok (g t)) (l : List String) :
    (l.map Value.text).mapM f = .ok (l.map g) := by
  rw [mapM_eq_ok_iff, List.forall₂_map_left_iff, List.forall₂_map_right_iff]
  exact List.forall₂_same.2 fun t _ => h t

lemma textElements_ofTexts (wanted : String) (l : List String) :
    (Value.ofTexts l).textElements wanted = .ok l := by
  rw [Value.textElements, Value.ofTexts, Value.elements, ok_bind,
    mapM_map_text (g := id) fun _ => rfl, List.map_id]

lemma child_eq_join {p : Path} {d : String} (h : (Path.ofText d).absolute = false) :
    p.child d = p.join ⟨false, (Path.ofText d).names⟩ := by
  rw [Path.child, ← h]

lemma bases_eq (h : s.Configured dirs extensions excluded)
    (hdirs : ∀ d ∈ dirs, (Path.ofText d).absolute = false) :
    s.bases = .ok ((startNames dirs).map fun names => s.root.join ⟨false, names⟩) := by
  rw [bases, h.dirs_eq, Value.ofTexts, Value.elements, ok_bind,
    mapM_map_text (g := s.root.child) fun _ => rfl, ok_bind, startNames]
  cases dirs with
  | nil =>
    rw [if_pos rfl, List.map_singleton, Path.join_nil]
    rfl
  | cons d dirs =>
    rw [if_neg (List.cons_ne_nil _ _), List.map_map]
    exact congrArg Except.ok
      (List.map_congr_left fun d hd => child_eq_join (hdirs d hd))

lemma selection_eq (h : s.Configured dirs extensions excluded) :
    s.selection
      = .ok (.ofNames extensions (Text.sortedSet (excluded.map Text.lower))) := by
  rw [selection, Settings.excluded, h.excluded_eq, h.extensions_eq, textElements_ofTexts,
    textElements_ofTexts]
  rfl

/-- Names are compared without regard to case; that excluded names are taken in lower case twice
makes no difference. -/
lemma enters_iff {folder : String} :
    (Selection.ofNames extensions (Text.sortedSet (excluded.map Text.lower))).enters folder = true ↔
      Text.lower folder ∉ excluded.map Text.lower := by
  simp [Selection.enters, Selection.ofNames]

/-- Suffixes are compared so too. -/
lemma leads_iff {names : List String} :
    (Selection.ofNames extensions (Text.sortedSet (excluded.map Text.lower))).Leads names ↔
      ∃ way name, names = way ++ [name] ∧
        Text.lower (suffixOf name) ∈ extensions.map Text.lower ∧
        ∀ folder ∈ way, Text.lower folder ∉ excluded.map Text.lower := by
  have htakes : ∀ name, (Selection.ofNames extensions
        (Text.sortedSet (excluded.map Text.lower))).takes name = true ↔
      Text.lower (suffixOf name) ∈ extensions.map Text.lower := by
    intro name
    rw [Selection.takes, Selection.ofNames, List.contains_iff_mem]
  simp only [Selection.Leads, htakes, enters_iff]

/-! ## The sources of one folder -/

/-- The names of a file that is selected below a folder that is scanned: it has a suffix that is
asked for, no folder between has an excluded name, and all folders on the way to it can be
listed. -/
inductive SelectsBelow (fs : FileSystem) (root : Path) (tree : Node)
    (extensions excluded start : List String) : List String → Prop
  | file {way : List String} {name : String} {bytes : List UInt8}
      (hfolder : fs.hasFolder (root.join ⟨false, start⟩) = true)
      (hfile : tree.at? (start ++ (way ++ [name])) = some (.file bytes))
      (hsuffix : Text.lower (suffixOf name) ∈ extensions.map Text.lower)
      (hway : ∀ folder ∈ way, Text.lower folder ∉ excluded.map Text.lower)
      (hlists : ∀ front, front <+: way → fs.lists (root.join ⟨false, start ++ front⟩) = true) :
      SelectsBelow fs root tree extensions excluded start (start ++ (way ++ [name]))

/-- The names of a file that is selected below one of the folders that are scanned. -/
def Selects (fs : FileSystem) (root : Path) (tree : Node) (dirs extensions excluded : List String)
    (names : List String) : Prop :=
  ∃ start ∈ startNames dirs, SelectsBelow fs root tree extensions excluded start names

lemma SelectsBelow.cases {fs : FileSystem} {root : Path} {tree : Node}
    {extensions excluded start names : List String}
    (h : SelectsBelow fs root tree extensions excluded start names) :
    ∃ way name bytes, names = start ++ (way ++ [name]) ∧
      tree.at? names = some (.file bytes) ∧
      Text.lower (suffixOf name) ∈ extensions.map Text.lower ∧
      (∀ folder ∈ way, Text.lower folder ∉ excluded.map Text.lower) ∧
      ∀ front, front <+: way → fs.lists (root.join ⟨false, start ++ front⟩) = true := by
  cases h with
  | file _ hfile hsuffix hway hlists => exact ⟨_, _, _, rfl, hfile, hsuffix, hway, hlists⟩

/-- A discovered file, by its names below the root. -/
def entryOf (s : Scanner) (names : List String) : String × Path :=
  (Path.shown names, s.root.join ⟨false, names⟩)

lemma relative_join (names : List String) :
    s.relative (s.root.join ⟨false, names⟩) = .ok (Path.shown names) := by
  have hprefix : s.root.names.isPrefixOf (s.root.names ++ names) = true :=
    List.isPrefixOf_iff_prefix.2 (List.prefix_append _ _)
  simp [relative, Path.below?, Path.join, hprefix]

/-- A folder below the root stands in the tree below the root. -/
lemma at?_of_find_join (hroot : fs.find s.root = .ok (.folder es)) {start : List String}
    (hback : ".." ∉ start) {n : Node} (h : fs.find (s.root.join ⟨false, start⟩) = .ok n) :
    (Node.folder es).at? start = some n := by
  obtain ⟨above, -, hfollow⟩ := FileSystem.reached_of_find hroot
  rw [FileSystem.find_eq] at h
  obtain ⟨-, -, h⟩ := bind_eq_ok.1 h
  rw [FileSystem.namesOf_join, Node.find, hfollow] at h
  exact Node.at?_of_follow hback h

lemma hasFolder_of_find {p : Path} (h : fs.find p = .ok (.folder es)) : fs.hasFolder p = true := by
  simp [FileSystem.hasFolder, h, Except.toOption, Node.isFolder]

/-- A walk from a folder below the root asks for the folders below it by their names. -/
lemma lists_join (start : List String) :
    (fun way => fs.lists ((s.root.join ⟨false, start⟩).join ⟨false, way⟩))
      = fun way => fs.lists (s.root.join ⟨false, start ++ way⟩) := by
  simp only [Path.join_join]

/-- All folders on the way to a file can be listed. -/
lemma listsAlong_concat {lists : List String → Bool} {way : List String} {name : String} :
    Node.listsAlong lists [] (way ++ [name]) = true ↔
      ∀ front, front <+: way → lists front = true := by
  rw [Node.listsAlong_iff]
  simp only [List.nil_append]
  constructor
  · rintro h front ⟨back, rfl⟩
    cases back with
    | nil => exact h front name [] (by simp)
    | cons n back => exact h front n (back ++ [name]) (by simp)
  · intro h front n back heq
    refine h front ?_
    have hprefix : front <+: way ++ [name] := ⟨n :: back, heq.symm⟩
    refine (List.prefix_concat_iff.1 hprefix).resolve_left fun hall => ?_
    have hlength := congrArg List.length heq
    rw [hall, List.length_append, List.length_append, List.length_cons] at hlength
    simp at hlength

/-- A walk through a followed folder is not too deep. -/
lemma Followed.depth_le [Host] (h : Followed fs s.root (.folder es) dirs excluded)
    (hroot : fs.find s.root = .ok (.folder es)) (hproper : (Node.folder es).hasProperNames = true)
    {start : List String} (hstart : start ∈ startNames dirs) (hback : ".." ∉ start)
    {es' : List (String × Node)}
    (hbase : fs.find (s.root.join ⟨false, start⟩) = .ok (.folder es')) :
    (Selection.ofNames extensions (Text.sortedSet (excluded.map Text.lower))).depth
      (fs.seenFrom (s.root.join ⟨false, start⟩) (.folder es')) ≤ Host.folderDepth := by
  have hat := at?_of_find_join hroot hback hbase
  obtain ⟨-, hproper'⟩ := Node.proper_of_at? hproper hat
  rw [FileSystem.seenFrom, lists_join, Selection.depth_listed_le_iff hproper']
  intro way es'' hfolder henters halong
  simp only [enters_iff] at henters
  refine h start hstart (hasFolder_of_find hbase) way es'' ?_ henters ?_
  · rw [Node.at?_append, hat, Option.bind_some, hfolder]
  · simpa only [List.nil_append] using Node.listsAlong_iff.1 halong

/-- The sources that a walk sees are the selected files. -/
lemma mem_seenFrom_iff (hroot : fs.find s.root = .ok (.folder es))
    (hproper : (Node.folder es).hasProperNames = true) {start names : List String}
    (hback : ".." ∉ start) {es' : List (String × Node)}
    (hbase : fs.find (s.root.join ⟨false, start⟩) = .ok (.folder es')) :
    names ∈ (Selection.ofNames extensions (Text.sortedSet (excluded.map Text.lower))).sorted
        (fs.seenFrom (s.root.join ⟨false, start⟩) (.folder es')) ↔
      SelectsBelow fs s.root (.folder es) extensions excluded start (start ++ names) := by
  have hat := at?_of_find_join hroot hback hbase
  obtain ⟨-, hproper'⟩ := Node.proper_of_at? hproper hat
  have hbelow : ∀ names, (Node.folder es).at? (start ++ names) = (Node.folder es').at? names := by
    intro names
    rw [Node.at?_append, hat, Option.bind_some]
  rw [Selection.sorted, (List.mergeSort_perm _ _).mem_iff, FileSystem.seenFrom, lists_join,
    Selection.below_listed, List.mem_filter, Selection.mem_below_iff hproper', leads_iff]
  constructor
  · rintro ⟨⟨⟨bytes, hfile⟩, way, name, rfl, hsuffix, hway⟩, halong⟩
    exact .file (hasFolder_of_find hbase) ((hbelow _).trans hfile) hsuffix hway
      (listsAlong_concat.1 halong)
  · intro hselects
    obtain ⟨way, name, bytes, hnames, hfile, hsuffix, hway, hlists⟩ := hselects.cases
    obtain rfl := List.append_cancel_left hnames
    rw [hbelow] at hfile
    exact ⟨⟨⟨bytes, hfile⟩, way, name, rfl, hsuffix, hway⟩, listsAlong_concat.2 hlists⟩

/-- The sources of one folder are found, and they are the selected files below it. -/
lemma exists_sourcesIn [Host] (h : s.Configured dirs extensions excluded)
    (hroot : fs.find s.root = .ok (.folder es)) (hproper : (Node.folder es).hasProperNames = true)
    (hfollowed : Followed fs s.root (.folder es) dirs excluded) {start : List String}
    (hstart : start ∈ startNames dirs) (hback : ".." ∉ start)
    (habsent : ∀ problem, fs.find (s.root.join ⟨false, start⟩) = .error problem →
      problem.isAbsence = true) :
    ∃ found, s.sourcesIn fs (s.root.join ⟨false, start⟩) = .ok found ∧ ∀ e, e ∈ found ↔
      ∃ names, SelectsBelow fs s.root (.folder es) extensions excluded start names ∧
        e = s.entryOf names := by
  -- where there is no folder, nothing is found and nothing is selected
  have hnone : fs.hasFolder (s.root.join ⟨false, start⟩) = false → ∀ e, e ∈ [] ↔
      ∃ names, SelectsBelow fs s.root (.folder es) extensions excluded start names ∧
        e = s.entryOf names := by
    intro hfolder e
    refine iff_of_false List.not_mem_nil ?_
    rintro ⟨_, ⟨hfolder', -, -, -, -⟩, -⟩
    exact absurd hfolder' (by simp [hfolder])
  cases hbase : fs.find (s.root.join ⟨false, start⟩) with
  | error problem =>
    refine ⟨[], sourcesIn_eq_nil (.inr ⟨problem, hbase, habsent problem hbase⟩), hnone ?_⟩
    simp [FileSystem.hasFolder, hbase, Except.toOption]
  | ok n =>
    cases n with
    | file bytes =>
      refine ⟨[], sourcesIn_eq_nil (.inl ⟨bytes, hbase⟩), hnone ?_⟩
      simp [FileSystem.hasFolder, hbase, Except.toOption, Node.isFolder]
    | folder es' =>
      refine ⟨((Selection.ofNames extensions (Text.sortedSet (excluded.map Text.lower))).sorted
        (fs.seenFrom (s.root.join ⟨false, start⟩) (.folder es'))).map
          fun names => s.entryOf (start ++ names), ?_, fun e => ?_⟩
      · refine (sourcesIn_folder hbase).2
          ⟨_, selection_eq h, hfollowed.depth_le hroot hproper hstart hback hbase, ?_⟩
        rw [mapM_eq_ok_iff, List.forall₂_map_left_iff, List.forall₂_map_right_iff]
        refine List.forall₂_same.2 fun names _ => ?_
        rw [Path.join_join, relative_join]
        rfl
      · rw [List.mem_map]
        constructor
        · rintro ⟨names, hnames, rfl⟩
          exact ⟨_, (mem_seenFrom_iff hroot hproper hback hbase).1 hnames, rfl⟩
        · rintro ⟨_, hselects, rfl⟩
          obtain ⟨way, name, -, rfl, -⟩ := hselects.cases
          exact ⟨_, (mem_seenFrom_iff hroot hproper hback hbase).2 hselects, rfl⟩

/-! ## Discovery -/

/-- The selected files are found, each once, in the order of their paths below the root. -/
structure FindsSelected (s : Scanner) (fs : FileSystem) (tree : Node)
    (dirs extensions excluded : List String) (found : List (String × Path)) : Prop where
  ordered : (found.map (·.1)).Pairwise (· < ·)
  mem_iff : ∀ e, e ∈ found ↔
    ∃ names, Selects fs s.root tree dirs extensions excluded names ∧ e = s.entryOf names

/-- What is found is told by which files are selected. -/
lemma FindsSelected.eq {tree tree' : Node} {fs' : FileSystem} {dirs' : List String}
    {s' : Scanner} {found found' : List (String × Path)}
    (h : s.FindsSelected fs tree dirs extensions excluded found)
    (h' : s'.FindsSelected fs' tree' dirs' extensions excluded found') (hroot : s'.root = s.root)
    (hselects : ∀ names, Selects fs' s'.root tree' dirs' extensions excluded names ↔
      Selects fs s.root tree dirs extensions excluded names) : found' = found := by
  have hentry : ∀ names, s'.entryOf names = s.entryOf names := fun names => by
    rw [entryOf, entryOf, hroot]
  refine eq_of_pairwise_lt Prod.fst (List.pairwise_map.1 h'.ordered)
    (List.pairwise_map.1 h.ordered) fun e => ?_
  simp only [h'.mem_iff, h.mem_iff, hselects, hentry]

lemma plain_of_mem_startNames (hroot : fs.find s.root = .ok (.folder es))
    (hdirs : ∀ d ∈ dirs, PlainFolder fs s.root d) {start : List String}
    (hstart : start ∈ startNames dirs) :
    ".." ∉ start ∧ ∀ problem, fs.find (s.root.join ⟨false, start⟩) = .error problem →
      problem.isAbsence = true := by
  unfold startNames at hstart
  split at hstart
  · rw [List.mem_singleton.1 hstart, Path.join_nil, hroot]
    exact ⟨by simp, by simp⟩
  · obtain ⟨d, hd, rfl⟩ := List.mem_map.1 hstart
    have hplain := hdirs d hd
    have habsent := hplain.absent
    rw [child_eq_join hplain.relative] at habsent
    exact ⟨hplain.noBack, habsent⟩

/-- A path below the root tells the selected file. -/
lemma entryOf_inj {tree : Node} (hproper : tree.hasProperNames = true) {names names' : List String}
    (h : Selects fs s.root tree dirs extensions excluded names)
    (h' : Selects fs s.root tree dirs extensions excluded names')
    (heq : (s.entryOf names).1 = (s.entryOf names').1) : s.entryOf names = s.entryOf names' := by
  have hparts : ∀ {l}, Selects fs s.root tree dirs extensions excluded l →
      ∀ n ∈ l, Path.isPart n = true := by
    rintro _ ⟨_, -, -, hfile, -, -, -⟩ n hn
    exact Path.isPart_of_isEntryName ((Node.proper_of_at? hproper hfile).1 n hn)
  rw [Path.shown_inj (hparts h) (hparts h') heq]

/-- The selected files are discovered. -/
lemma exists_discover [Host] (h : s.Configured dirs extensions excluded)
    (hroot : fs.find s.root = .ok (.folder es)) (hproper : (Node.folder es).hasProperNames = true)
    (hdirs : ∀ d ∈ dirs, PlainFolder fs s.root d)
    (hfollowed : Followed fs s.root (.folder es) dirs excluded) :
    ∃ found, s.discover fs = .ok found ∧
      s.FindsSelected fs (.folder es) dirs extensions excluded found := by
  have hsources : ∀ start ∈ startNames dirs,
      ∃ found, s.sourcesIn fs (s.root.join ⟨false, start⟩) = .ok found ∧ ∀ e, e ∈ found ↔
        ∃ names, SelectsBelow fs s.root (.folder es) extensions excluded start names ∧
          e = s.entryOf names := by
    intro start hstart
    obtain ⟨hback, habsent⟩ := plain_of_mem_startNames hroot hdirs hstart
    exact exists_sourcesIn h hroot hproper hfollowed hstart hback habsent
  obtain ⟨lists, hlists⟩ : ∃ lists, ((startNames dirs).map fun names =>
      s.root.join ⟨false, names⟩).mapM (s.sourcesIn fs) = .ok lists := by
    refine exists_mapM_ok (List.forall_mem_map.2 fun start hstart => ?_)
    obtain ⟨found, hfound, -⟩ := hsources start hstart
    exact ⟨found, hfound⟩
  have hmem : ∀ e, e ∈ lists.flatten ↔
      ∃ names, Selects fs s.root (.folder es) dirs extensions excluded names ∧
        e = s.entryOf names := by
    intro e
    rw [mem_flatten_of_mapM hlists]
    constructor
    · rintro ⟨base, hbase, list, hlist, he⟩
      obtain ⟨start, hstart, rfl⟩ := List.mem_map.1 hbase
      obtain ⟨found, hfound, hspec⟩ := hsources start hstart
      obtain rfl := Except.ok.inj (hlist.symm.trans hfound)
      obtain ⟨names, hselects, rfl⟩ := (hspec e).1 he
      exact ⟨names, ⟨start, hstart, hselects⟩, rfl⟩
    · rintro ⟨names, ⟨start, hstart, hselects⟩, rfl⟩
      obtain ⟨found, hfound, hspec⟩ := hsources start hstart
      exact ⟨_, List.mem_map_of_mem hstart, found, hfound, (hspec _).2 ⟨names, hselects, rfl⟩⟩
  -- a file that is found from several folders is the same entry each time, so none is lost
  have hkey : ∀ e ∈ lists.flatten, ∀ e' ∈ lists.flatten, e.1 = e'.1 → e = e' := by
    intro e he e' he' heq
    obtain ⟨names, hselects, rfl⟩ := (hmem e).1 he
    obtain ⟨names', hselects', rfl⟩ := (hmem e').1 he'
    exact entryOf_inj hproper hselects hselects' heq
  refine ⟨distinctPaths lists.flatten, ?_, distinctPaths_pairwise _, fun e => ?_⟩
  · rw [discover, bases_eq h fun d hd => (hdirs d hd).relative, ok_bind, hlists, ok_bind]
    rfl
  · rw [mem_distinctPaths_iff hkey, hmem]

/-! ## Other lists of folders, and other orders of entries -/

/-- The scanner with other folders to scan. -/
def withFolders (s : Scanner) (dirs : List String) : Scanner :=
  { s with settings := { s.settings with sourceFolders := .ofTexts dirs } }

/-- Two lists of folders of which the same exist; either of them is empty only if both are. -/
structure SameFolders (fs : FileSystem) (root : Path) (dirs dirs' : List String) : Prop where
  nil_iff : dirs = [] ↔ dirs' = []
  mem_iff : ∀ d, fs.hasFolder (root.child d) = true → (d ∈ dirs ↔ d ∈ dirs')

lemma SameFolders.symm {dirs' : List String} (h : SameFolders fs s.root dirs dirs') :
    SameFolders fs s.root dirs' dirs :=
  ⟨h.nil_iff.symm, fun d hd => (h.mem_iff d hd).symm⟩

/-- The same folders that exist are scanned. -/
lemma SameFolders.mem_startNames {dirs' start : List String}
    (hdirs : ∀ d ∈ dirs, (Path.ofText d).absolute = false)
    (h : SameFolders fs s.root dirs dirs')
    (hfolder : fs.hasFolder (s.root.join ⟨false, start⟩) = true)
    (hstart : start ∈ startNames dirs) :
    start ∈ startNames dirs' := by
  unfold startNames at hstart ⊢
  by_cases hnil : dirs = []
  · rw [if_pos hnil] at hstart
    rwa [if_pos (h.nil_iff.1 hnil)]
  · rw [if_neg hnil] at hstart
    rw [if_neg (mt h.nil_iff.2 hnil)]
    obtain ⟨d, hd, rfl⟩ := List.mem_map.1 hstart
    rw [← child_eq_join (hdirs d hd)] at hfolder
    exact List.mem_map.2 ⟨d, (h.mem_iff d hfolder).1 hd, rfl⟩

lemma Selects.of_sameFolders {tree : Node} {dirs' names : List String}
    (hdirs : ∀ d ∈ dirs, (Path.ofText d).absolute = false)
    (hsame : SameFolders fs s.root dirs dirs')
    (h : Selects fs s.root tree dirs extensions excluded names) :
    Selects fs s.root tree dirs' extensions excluded names := by
  obtain ⟨start, hstart, hfolder, hfile, hsuffix, hway, hlists⟩ := h
  exact ⟨start, hsame.mem_startNames hdirs hfolder hstart,
    .file hfolder hfile hsuffix hway hlists⟩

lemma Followed.of_sameFolders [Host] {tree : Node} {dirs' : List String}
    (hdirs' : ∀ d ∈ dirs', (Path.ofText d).absolute = false)
    (hsame : SameFolders fs s.root dirs dirs') (h : Followed fs s.root tree dirs excluded) :
    Followed fs s.root tree dirs' excluded := fun start hstart hfolder =>
  h start (hsame.symm.mem_startNames hdirs' hfolder hstart) hfolder

lemma Selects.rearranged {tree tree' root' : Node} {names : List String}
    (hroot : Node.Kept fs.root root') (htree : Node.Kept tree tree') :
    Selects (fs.rearranged root') s.root tree' dirs extensions excluded names ↔
      Selects fs s.root tree dirs extensions excluded names := by
  constructor
  · rintro ⟨start, hstart, hfolder, hfile, hsuffix, hway, hlists⟩
    simp only [FileSystem.lists_rearranged hroot] at hlists
    rw [FileSystem.hasFolder_rearranged hroot] at hfolder
    exact ⟨start, hstart, .file hfolder ((Node.at?_file_iff htree).2 hfile) hsuffix hway hlists⟩
  · rintro ⟨start, hstart, hfolder, hfile, hsuffix, hway, hlists⟩
    simp only [← FileSystem.lists_rearranged hroot] at hlists
    rw [← FileSystem.hasFolder_rearranged hroot] at hfolder
    exact ⟨start, hstart, .file hfolder ((Node.at?_file_iff htree).1 hfile) hsuffix hway hlists⟩

lemma Followed.rearranged [Host] {tree tree' root' : Node} (hroot : Node.Kept fs.root root')
    (htree : Node.Kept tree tree') (h : Followed fs s.root tree dirs excluded) :
    Followed (fs.rearranged root') s.root tree' dirs excluded := by
  intro start hstart hfolder way es' hat henters hlists
  simp only [FileSystem.lists_rearranged hroot] at hlists
  rw [FileSystem.hasFolder_rearranged hroot] at hfolder
  obtain ⟨es, hat⟩ := Node.at?_folder_of_rearranged htree hat
  exact h start hstart hfolder way es hat henters hlists

/-- **Discovery finds the selected files, in order, each once.**  For every proper tree whose root
is a folder and all lists of folders, suffixes and excluded names, if no folders are nested more
deeply than the host can follow, discovery succeeds and returns just the files that are selected
below a folder that exists.  It returns the same for every list in which the same folders exist,
however ordered and repeated, unless one list is empty, which stands for the root; and it returns
the same in whatever order the folders of the tree list their entries. -/
theorem discover_selected [Host] (s : Scanner) (fs : FileSystem) (es : List (String × Node))
    (dirs extensions excluded : List String) (h : s.Configured dirs extensions excluded)
    (hproper : fs.root.hasProperNames = true) (hroot : fs.find s.root = .ok (.folder es))
    (hdirs : ∀ d ∈ dirs, PlainFolder fs s.root d)
    (hfollowed : Followed fs s.root (.folder es) dirs excluded) :
    ∃ found, s.discover fs = .ok found ∧
      s.FindsSelected fs (.folder es) dirs extensions excluded found ∧
      (∀ dirs', (∀ d ∈ dirs', PlainFolder fs s.root d) → SameFolders fs s.root dirs dirs' →
        (s.withFolders dirs').discover fs = .ok found) ∧
      ∀ root', Node.Rearranged fs.root root' → s.discover (fs.rearranged root') = .ok found := by
  obtain ⟨above, hreached, -⟩ := FileSystem.reached_of_find hroot
  have htree := Selection.properNames_of_reached hreached hproper
  obtain ⟨found, hfound, hselected⟩ := exists_discover h hroot htree hdirs hfollowed
  -- what is found is told by what is selected, and that is the same for both
  refine ⟨found, hfound, hselected, fun dirs' hdirs' hsame => ?_, fun root' hrearranged => ?_⟩
  · have h' : (s.withFolders dirs').Configured dirs' extensions excluded :=
      ⟨rfl, h.extensions_eq, h.excluded_eq⟩
    have hfollowed' := hfollowed.of_sameFolders (fun d hd => (hdirs' d hd).relative) hsame
    obtain ⟨found', hfound', hselected'⟩ := exists_discover h' hroot htree hdirs' hfollowed'
    have hselects : ∀ names, Selects fs s.root (.folder es) dirs' extensions excluded names ↔
        Selects fs s.root (.folder es) dirs extensions excluded names := fun names =>
      ⟨.of_sameFolders (fun d hd => (hdirs' d hd).relative) hsame.symm,
        .of_sameFolders (fun d hd => (hdirs d hd).relative) hsame⟩
    rw [hfound', hselected.eq hselected' rfl hselects]
  · have hkept : Node.Kept fs.root root' := ⟨hproper, hrearranged⟩
    obtain ⟨tree', hroot', htree'⟩ := FileSystem.exists_find_rearranged hkept hroot
    have hplain : ∀ d ∈ dirs, PlainFolder (fs.rearranged root') s.root d := fun d hd =>
      ⟨(hdirs d hd).relative, (hdirs d hd).noBack, fun problem hproblem =>
        (hdirs d hd).absent problem (FileSystem.find_error_of_rearranged hkept hproblem)⟩
    have hproper' := htree'.2.sameShape htree
    cases hproper'.2 with
    | @folder _ es' _ =>
      obtain ⟨found', hfound', hselected'⟩ :=
        exists_discover h hroot' hproper'.1 hplain (hfollowed.rearranged hkept htree')
      rw [hfound', hselected.eq hselected' rfl fun names => Selects.rearranged hkept htree']

/-! ### A tree with one source -/

/-- A folder with a source, and with one in a folder that is left out. -/
def oneSource : FileSystem where
  root := .folder [("src", .folder [("A.cs", .file []), ("Obj", .folder [("B.cs", .file [])])])]
  current := ⟨true, []⟩

/-- A scan of that tree with the usual settings, but for its folders. -/
def folderScanner (dirs : List String) : Scanner where
  root := ⟨true, []⟩
  rules := ⟨[]⟩
  settings := { sourceFolders := .ofTexts dirs }

lemma configured_folderScanner (dirs : List String) :
    (folderScanner dirs).Configured dirs [".cs"] ["obj", "bin"] :=
  ⟨rfl, rfl, rfl⟩

lemma plainFolder_src : PlainFolder oneSource ⟨true, []⟩ "src" where
  relative := by decide +kernel
  noBack := by decide +kernel
  absent _ h := by cases h

lemma plainFolder_gone : PlainFolder oneSource ⟨true, []⟩ "gone" where
  relative := by decide +kernel
  noBack := by decide +kernel
  absent _ h := by cases h; rfl

/-- No folders of the tree are nested more deeply than two. -/
lemma length_lt_of_oneSource {start way : List String} {es : List (String × Node)}
    (h : oneSource.root.at? (start ++ way) = some (.folder es)) : way.length < 3 := by
  have hdepth : (Selection.mk [] []).depth (oneSource.root.listed (fun _ => true) []) ≤ 3 := by
    decide +kernel
  have hproper : oneSource.root.hasProperNames = true := by decide +kernel
  have hall : ∀ names, Node.listsAlong (fun _ => true) [] names = true := fun names =>
    Node.listsAlong_iff.2 fun _ _ _ _ => rfl
  have hlength := (Selection.depth_listed_le_iff hproper).1 hdepth (start ++ way) es h
    (fun _ _ => rfl) (hall _)
  rw [List.length_append] at hlength
  omega

lemma selects_oneSource :
    Selects oneSource ⟨true, []⟩ oneSource.root ["src"] [".cs"] ["obj", "bin"]
      (["src"] ++ ([] ++ ["A.cs"])) := by
  refine ⟨["src"], by decide +kernel, .file rfl rfl (by decide +kernel) (by simp) ?_⟩
  rintro front hfront
  obtain rfl := List.prefix_nil.1 hfront
  rfl

section Plain

attribute [local instance] Host.plain Memory.plain

lemma followed_oneSource (dirs : List String) :
    Followed oneSource ⟨true, []⟩ oneSource.root dirs ["obj", "bin"] :=
  fun _ _ _ _ _ hat _ _ => (length_lt_of_oneSource hat).trans (by decide)

/-- A list with a folder that does not exist finds the same as the folder that does. -/
theorem discover_selected_gone :
    ∃ found, (folderScanner ["src"]).discover oneSource = .ok found ∧
      ("src/A.cs", ⟨true, ["src", "A.cs"]⟩) ∈ found ∧
      ((folderScanner ["src"]).withFolders ["gone", "src", "src"]).discover oneSource
        = .ok found := by
  have hproper : oneSource.root.hasProperNames = true := by decide +kernel
  obtain ⟨found, hfound, hselected, hfolders, -⟩ :=
    discover_selected (folderScanner ["src"]) oneSource
      [("src", .folder [("A.cs", .file []), ("Obj", .folder [("B.cs", .file [])])])] ["src"]
      [".cs"] ["obj", "bin"] (configured_folderScanner _) hproper rfl
      (List.forall_mem_singleton.2 plainFolder_src) (followed_oneSource _)
  refine ⟨found, hfound, (hselected.mem_iff _).2 ⟨_, selects_oneSource, by decide +kernel⟩,
    hfolders _ ?_ ⟨by simp, fun d hd => ?_⟩⟩
  · simp only [List.forall_mem_cons]
    exact ⟨plainFolder_gone, plainFolder_src, plainFolder_src, by simp⟩
  · have hgone : d ≠ "gone" := by
      rintro rfl
      exact absurd hd (by decide +kernel)
    simp [hgone]

/-- Without given folders the root is scanned; with one that does not exist nothing is. -/
theorem discover_missing_folder :
    (∃ found, (folderScanner []).discover oneSource = .ok found ∧
      ("src/A.cs", ⟨true, ["src", "A.cs"]⟩) ∈ found) ∧
    oneSource.hasFolder ((folderScanner ["gone"]).root.child "gone") = false ∧
    (folderScanner ["gone"]).discover oneSource = .ok [] := by
  have hproper : oneSource.root.hasProperNames = true := by decide +kernel
  have hroot : ∀ dirs, oneSource.find (folderScanner dirs).root = .ok oneSource.root :=
    fun _ => rfl
  refine ⟨?_, rfl, ?_⟩
  · obtain ⟨found, hfound, hselected⟩ := exists_discover (configured_folderScanner []) (hroot [])
      hproper (fun _ hd => absurd hd List.not_mem_nil) (followed_oneSource _)
    refine ⟨found, hfound, (hselected.mem_iff _).2 ⟨[] ++ (["src"] ++ ["A.cs"]), ?_, ?_⟩⟩
    · refine ⟨[], by decide +kernel, .file rfl rfl (by decide +kernel) (by decide +kernel) ?_⟩
      rintro front hfront
      have hparts : front <+: [] ++ ["src"] := hfront
      rcases List.prefix_concat_iff.1 hparts with rfl | hfront
      · rfl
      · obtain rfl := List.prefix_nil.1 hfront
        rfl
    · decide +kernel
  · obtain ⟨found, hfound, hselected⟩ := exists_discover (configured_folderScanner ["gone"])
      (hroot ["gone"]) hproper (List.forall_mem_singleton.2 plainFolder_gone)
      (followed_oneSource _)
    have hnone : ∀ e, e ∉ found := by
      intro e he
      obtain ⟨_, ⟨start, hstart, hfolder, -, -, -, -⟩, -⟩ := (hselected.mem_iff e).1 he
      have hgone : startNames ["gone"] = [["gone"]] := by decide +kernel
      rw [hgone, List.mem_singleton] at hstart
      rw [hstart] at hfolder
      exact absurd hfolder Bool.false_ne_true
    rw [hfound, List.eq_nil_iff_forall_not_mem.2 hnone]

end Plain

end Scanner
end Conformance
