/-
# Places in a tree of files

A path is followed name by name, and a double point goes back to the folder above; so the place that
a path leads to is the list of its names without double points.  A source that is found below a
folder stands in the place of the folder with its own names behind (`find_source`), and a path that
is written with separators is read back as its names (`ofText_shown`).
-/
import Conformance.Files.Selection
import Conformance.Proofs.Steps
import Conformance.Proofs.Text.Pieces

namespace Conformance

/-! ## Names -/

namespace Path

/-- Whether a name can stand in a path as it is written: it is a part of paths, and holds no
separator. -/
def isPart (n : String) : Bool :=
  isName n && !n.toList.contains '/'

/-- Whether a name can stand in a folder: it is such a name, and does not lead out of the folder. -/
def isEntryName (n : String) : Bool :=
  isPart n && n != ".."

lemma isPart_of_isEntryName {n : String} (h : isEntryName n = true) : isPart n = true :=
  (Bool.and_eq_true_iff.1 h).1

lemma slash_notMem {n : String} (h : isPart n = true) : '/' ∉ n.toList := by
  have hslash := (Bool.and_eq_true_iff.1 h).2
  simpa using hslash

lemma isPart_of_mem_ofText {text n : String} (h : n ∈ (ofText text).names) : isPart n = true := by
  obtain ⟨hmem, hname⟩ := List.mem_filter.1 h
  obtain ⟨piece, hpiece, rfl⟩ := List.mem_map.1 hmem
  have hslash := Text.notMem_of_mem_splitOn hpiece
  simp [isPart, hname, hslash]

/-- What is shown of names is read back as the names. -/
theorem ofText_shown {names : List String} (h : ∀ n ∈ names, isPart n = true) :
    (ofText (shown names)).names = names := by
  by_cases hne : names = []
  · subst hne
    decide
  · have hshown : shown names = "/".intercalate names := by
      simp [shown, text, hne]
    have hpieces : Text.pieces '/' (shown names) = names := by
      rw [hshown, Text.pieces, String.toList_intercalate]
      have hslash : "/".toList = ['/'] := rfl
      rw [hslash, Text.splitOn_intercalate (by simpa using hne), List.map_map]
      · simp
      · rw [List.forall_mem_map]
        exact fun n hn => slash_notMem (h n hn)
    rw [ofText, hpieces]
    exact List.filter_eq_self.2 fun n hn => (Bool.and_eq_true_iff.1 (h n hn)).1

@[simp]
lemma join_nil (p : Path) : p.join ⟨false, []⟩ = p := by
  simp [join]

@[simp]
lemma join_join (p : Path) (names names' : List String) :
    (p.join ⟨false, names⟩).join ⟨false, names'⟩ = p.join ⟨false, names ++ names'⟩ := by
  simp [join]

lemma shown_inj {names names' : List String} (h : ∀ n ∈ names, isPart n = true)
    (h' : ∀ n ∈ names', isPart n = true) (heq : shown names = shown names') : names = names' := by
  rw [← ofText_shown h, heq, ofText_shown h']

end Path

mutual

/-- Whether all names in a tree can stand in a folder, and no folder holds one of them twice. -/
def Node.hasProperNames : Node → Bool
  | .file _ => true
  | .folder es => Node.haveProperNames es

/-- Whether the names of entries, and all names below them, are of that sort. -/
def Node.haveProperNames : List (String × Node) → Bool
  | [] => true
  | (name, child) :: es =>
    Path.isEntryName name && !(es.map (·.1)).contains name && child.hasProperNames &&
      Node.haveProperNames es

end

namespace Node

/-! ## Places -/

lemma lookup_cons_eq_ite (name x : String) (n : Node) (es : List (String × Node)) :
    ((x, n) :: es).lookup name = if name = x then some n else es.lookup name := by
  rw [List.lookup_cons]
  by_cases hname : name = x
  · rw [if_pos hname, beq_iff_eq.2 hname]
  · rw [if_neg hname, beq_eq_false_iff_ne.2 hname]

/-- What names lead to, from folder to folder. -/
def at? : Node → List String → Option Node
  | n, [] => some n
  | n, name :: names => (n.entries.lookup name).bind (·.at? names)

lemma at?_append (n : Node) (names names' : List String) :
    n.at? (names ++ names') = (n.at? names).bind (·.at? names') := by
  induction names generalizing n with
  | nil => rfl
  | cons name names ih =>
    rw [List.cons_append, at?, at?]
    cases n.entries.lookup name with
    | none => rfl
    | some child => exact ih child

/-- The place reached by following names from a place, the last name first. -/
def walk (way names : List String) : List String :=
  names.foldl (fun way n => if n == ".." then way.drop 1 else n :: way) way

lemma walk_append (way names names' : List String) :
    walk way (names ++ names') = walk (walk way names) names' :=
  List.foldl_append

lemma walk_of_noBack {way names : List String} (h : ∀ n ∈ names, n ≠ "..") :
    walk way names = names.reverse ++ way := by
  induction names generalizing way with
  | nil => rfl
  | cons n names ih =>
    have hn : (n == "..") = false := beq_eq_false_iff_ne.2 (h n List.mem_cons_self)
    rw [walk, List.foldl_cons, hn, if_neg Bool.false_ne_true]
    rw [← walk, ih fun m hm => h m (List.mem_cons_of_mem _ hm), List.reverse_cons,
      List.append_assoc, List.singleton_append]

/-- The folder above a node, with the folders above that one; the root stays where it is. -/
def back : (above : List Node) → Node → List Node × Node
  | [], here => ([], here)
  | up :: above, _ => (above, up)

/-- The entry of a folder with a name, with the folders above it. -/
def enter (above : List Node) (es : List (String × Node)) (n : String) :
    Except FileProblem (List Node × Node) := do
  checkName n
  match es.lookup n with
  | none => .error .missing
  | some child => .ok (.folder es :: above, child)

/-- One step on a path. -/
def step (above : List Node) : Node → String → Except FileProblem (List Node × Node)
  | .file _, _ => .error .notFolder
  | .folder es, n => if n == ".." then .ok (back above (.folder es)) else enter above es n

lemma follow_cons (above : List Node) (here : Node) (n : String) (names : List String) :
    follow above here (n :: names) = step above here n >>= fun x => follow x.1 x.2 names := by
  cases here with
  | file bytes => rfl
  | folder es =>
    by_cases hback : (n == "..") = true
    · cases above <;> simp only [follow, step, hback, if_true, back, ok_bind]
    · simp only [follow, step, hback, Bool.false_eq_true, if_false, enter, bind_assoc]
      refine congrArg _ (funext fun _ => ?_)
      cases es.lookup n <;> rfl

/-- A node of a tree, with its place, the last name first, and the folders above it. -/
inductive Reached (root : Node) : List String → List Node → Node → Prop
  | root : Reached root [] [] root
  | child {way : List String} {above : List Node} {es : List (String × Node)} {name : String}
      {child : Node} (h : Reached root way above (.folder es))
      (hchild : es.lookup name = some child) :
      Reached root (name :: way) (.folder es :: above) child

lemma Reached.at?_eq {root n : Node} {way : List String} {above : List Node}
    (h : Reached root way above n) : root.at? way.reverse = some n := by
  induction h with
  | root => rfl
  | child _ hchild ih =>
    rw [List.reverse_cons, at?_append, ih, Option.bind_some, at?, entries, hchild]
    rfl

lemma Reached.step {root here : Node} {way : List String} {above : List Node}
    (h : Reached root way above here) {n : String} {x : List Node × Node}
    (hstep : Node.step above here n = .ok x) : Reached root (walk way [n]) x.1 x.2 := by
  cases here with
  | file bytes => exact absurd hstep (by simp [Node.step])
  | folder es =>
    rw [walk, List.foldl_cons, List.foldl_nil]
    by_cases hback : (n == "..") = true
    · rw [Node.step, if_pos hback] at hstep
      obtain rfl := Except.ok.inj hstep
      rw [if_pos hback]
      cases h with
      | root => exact .root
      | child h _ => exact h
    · rw [Node.step, if_neg hback] at hstep
      obtain ⟨-, -, hstep⟩ := bind_eq_ok.1 hstep
      rw [if_neg hback]
      split at hstep
      · exact absurd hstep (by simp)
      · obtain rfl := Except.ok.inj hstep
        exact .child h ‹_›

/-- Where a path leads, it leads to a node of the tree, and what follows goes on from there. -/
lemma Reached.follow {root here n : Node} {way : List String} {above : List Node}
    (h : Reached root way above here) {names : List String}
    (hfollow : Node.follow above here names = .ok n) :
    ∃ above', Reached root (walk way names) above' n ∧
      ∀ rest, Node.follow above here (names ++ rest) = Node.follow above' n rest := by
  induction names generalizing way above here with
  | nil =>
    rw [Node.follow] at hfollow
    obtain rfl := Except.ok.inj hfollow
    exact ⟨above, h, fun _ => rfl⟩
  | cons name names ih =>
    rw [follow_cons] at hfollow
    obtain ⟨x, hstep, hfollow⟩ := bind_eq_ok.1 hfollow
    obtain ⟨above', hreached, hrest⟩ := ih (h.step hstep) hfollow
    refine ⟨above', hreached, fun rest => ?_⟩
    rw [List.cons_append, follow_cons, hstep, ok_bind, hrest]

/-- Names of which none goes back lead to a file, unless one of them is too long. -/
lemma follow_of_at? {n : Node} {names : List String} {bytes : List UInt8}
    (h : n.at? names = some (.file bytes)) (hback : ∀ name ∈ names, name ≠ "..")
    (above : List Node) : follow above n names = .ok (.file bytes) ∨
      follow above n names = .error .nameTooLong := by
  induction names generalizing n above with
  | nil =>
    obtain rfl := Option.some.inj h
    exact .inl rfl
  | cons name names ih =>
    rw [at?, Option.bind_eq_some_iff] at h
    obtain ⟨child, hchild, h⟩ := h
    cases n with
    | file _ => exact absurd hchild (by simp [entries])
    | folder es =>
      have hname : (name == "..") = false := beq_eq_false_iff_ne.2 (hback name List.mem_cons_self)
      have hrest := ih h (fun m hm => hback m (List.mem_cons_of_mem _ hm)) (.folder es :: above)
      rw [entries] at hchild
      simp only [follow, hname, Bool.false_eq_true, if_false, hchild]
      unfold checkName
      split
      · exact .inr rfl
      · exact hrest

end Node

/-! ## Sources -/

namespace Selection

open Node

variable {s : Selection}

lemma haveProperNames_cons {name : String} {child : Node} {es : List (String × Node)} :
    haveProperNames ((name, child) :: es) = true ↔
      (Path.isEntryName name = true ∧ name ∉ es.map (·.1)) ∧ child.hasProperNames = true ∧
        haveProperNames es = true := by
  simp [haveProperNames, and_assoc]

lemma properNames_of_mem {es : List (String × Node)} (h : haveProperNames es = true)
    {e : String × Node} (hmem : e ∈ es) :
    Path.isEntryName e.1 = true ∧ e.2.hasProperNames = true ∧ es.lookup e.1 = some e.2 := by
  induction es with
  | nil => exact absurd hmem (by simp)
  | cons e' es ih =>
    obtain ⟨⟨hname, hfresh⟩, hchild, hes⟩ := haveProperNames_cons.1 h
    rw [lookup_cons_eq_ite]
    rcases List.mem_cons.1 hmem with rfl | hmem
    · exact ⟨hname, hchild, if_pos rfl⟩
    · have hne : e.1 ≠ e'.1 := fun heq => hfresh (heq ▸ List.mem_map.2 ⟨e, hmem, rfl⟩)
      rw [if_neg hne]
      exact ih hes hmem

lemma properNames_of_lookup {es : List (String × Node)} (h : haveProperNames es = true)
    {name : String} {child : Node} (hlookup : es.lookup name = some child) :
    child.hasProperNames = true := by
  obtain ⟨l₁, l₂, rfl, -⟩ := List.lookup_eq_some_iff.1 hlookup
  exact (properNames_of_mem h (e := (name, child)) (by simp)).2.1

/-- The names that lead from a folder to the sources at one of its entries. -/
def ofEntry (s : Selection) (e : String × Node) : List (List String) :=
  if e.2.isFolder then
    if s.enters e.1 then (s.below e.2).map (e.1 :: ·) else []
  else if s.takes e.1 then [[e.1]]
  else []

lemma below_folder (es : List (String × Node)) :
    s.below (.folder es) = es.flatMap s.ofEntry := by
  rw [below]
  induction es with
  | nil => rfl
  | cons e es ih => rw [belowEntries, ih, List.flatMap_cons, ofEntry]

/-- A source stands below the entry that its first name tells. -/
lemma exists_of_mem_ofEntry {e : String × Node} {names : List String} (h : names ∈ s.ofEntry e) :
    ∃ rest, names = e.1 :: rest ∧ (rest ∈ s.below e.2 ∨ rest = [] ∧ e.2.isFolder = false) := by
  unfold ofEntry at h
  split at h
  · split at h
    · obtain ⟨rest, hrest, rfl⟩ := List.mem_map.1 h
      exact ⟨rest, rfl, .inl hrest⟩
    · exact absurd h (by simp)
  · split at h
    · exact ⟨[], List.mem_singleton.1 h, .inr ⟨rfl, Bool.eq_false_of_not_eq_true ‹_›⟩⟩
    · exact absurd h (by simp)

/-- The names that lead to a source lead to a file, by entries. -/
lemma at?_of_mem_below {n : Node} (hn : n.hasProperNames = true) {names : List String}
    (h : names ∈ s.below n) : (∃ bytes, n.at? names = some (.file bytes)) ∧ names ≠ [] ∧
      ∀ name ∈ names, Path.isEntryName name = true := by
  induction names generalizing n with
  | nil =>
    cases n with
    | file bytes => exact absurd h (by simp [below])
    | folder es =>
      rw [below_folder] at h
      obtain ⟨e, -, he⟩ := List.mem_flatMap.1 h
      obtain ⟨_, hnames, -⟩ := exists_of_mem_ofEntry he
      exact absurd hnames (by simp)
  | cons name names ih =>
    cases n with
    | file bytes => exact absurd h (by simp [below])
    | folder es =>
      rw [below_folder] at h
      obtain ⟨e, hmem, he⟩ := List.mem_flatMap.1 h
      obtain ⟨_, hnames, hrest⟩ := exists_of_mem_ofEntry he
      obtain ⟨rfl, rfl⟩ := List.cons.inj hnames
      obtain ⟨hname, hchild, hlookup⟩ := properNames_of_mem hn hmem
      -- names of entries are different, so looking up the name finds this entry
      have hat : (Node.folder es).at? (e.1 :: names) = e.2.at? names := by
        rw [at?, entries, hlookup, Option.bind_some]
      rw [hat]
      rcases hrest with hrest | ⟨rfl, hfile⟩
      · obtain ⟨hbytes, -, hproper⟩ := ih hchild hrest
        exact ⟨hbytes, List.cons_ne_nil _ _, List.forall_mem_cons.2 ⟨hname, hproper⟩⟩
      · cases hnode : e.2 with
        | folder _ => exact absurd hfile (by simp [hnode, isFolder])
        | file bytes => exact ⟨⟨bytes, rfl⟩, List.cons_ne_nil _ _, by simpa using hname⟩

lemma properNames_of_reached {root n : Node} {way : List String} {above : List Node}
    (h : Reached root way above n) (hroot : root.hasProperNames = true) :
    n.hasProperNames = true := by
  induction h with
  | root => exact hroot
  | child _ hchild ih => exact properNames_of_lookup ih hchild

end Selection

namespace FileSystem

open Node

/-- The place that a path leads to, if it leads anywhere. -/
def place (fs : FileSystem) (p : Path) : List String :=
  Path.flatten (fs.namesOf p)

lemma place_eq (fs : FileSystem) (p : Path) : fs.place p = (walk [] (fs.namesOf p)).reverse :=
  rfl

lemma namesOf_join (fs : FileSystem) (base : Path) (names : List String) :
    fs.namesOf (base.join ⟨false, names⟩) = fs.namesOf base ++ names := by
  unfold namesOf Path.join
  cases base.absolute <;> simp

/-- Refuses an action on a path before the tree is looked at. -/
def allow (fs : FileSystem) (action : FileAction) (p : Path) : Except FileProblem Unit := do
  checkPath p
  match fs.refuses action (fs.namesOf p) with
  | some problem => throw problem
  | none => return ()

lemma reach_eq (fs : FileSystem) (action : FileAction) (p : Path) :
    fs.reach action p = fs.allow action p >>= fun _ => fs.root.find (fs.namesOf p) := by
  rw [reach, allow, bind_assoc]
  refine congrArg _ (funext fun _ => ?_)
  cases fs.refuses action (fs.namesOf p) <;> rfl

lemma find?_eq_some {fs : FileSystem} {p : Path} {n : Node} (h : fs.find p = .ok n) :
    fs.find? p = .ok (some n) := by
  rw [find?, h]

lemma find?_eq_none {fs : FileSystem} {p : Path} {e : FileProblem} (h : fs.find p = .error e)
    (habsence : e.isAbsence = true) : fs.find? p = .ok none := by
  rw [find?, h]
  exact if_pos habsence

lemma find?_eq_error {fs : FileSystem} {p : Path} {e : FileProblem} (h : fs.find p = .error e)
    (hrefused : e.isAbsence = false) : fs.find? p = .error (.system e p.text) := by
  rw [find?, h]
  exact if_neg (by simp [hrefused])

lemma find_eq (fs : FileSystem) (p : Path) :
    fs.find p = fs.allow .look p >>= fun _ => fs.root.find (fs.namesOf p) :=
  fs.reach_eq .look p

/-- A folder that a path leads to, as a node of the tree. -/
lemma reached_of_reach {fs : FileSystem} {action : FileAction} {base : Path} {n : Node}
    (h : fs.reach action base = .ok n) :
    ∃ above, Reached fs.root (walk [] (fs.namesOf base)) above n ∧ ∀ rest,
      Node.follow [] fs.root (fs.namesOf base ++ rest) = Node.follow above n rest := by
  rw [reach_eq] at h
  obtain ⟨-, -, h⟩ := bind_eq_ok.1 h
  exact Reached.root.follow h

lemma reached_of_find {fs : FileSystem} {base : Path} {n : Node} (h : fs.find base = .ok n) :
    ∃ above, Reached fs.root (walk [] (fs.namesOf base)) above n ∧ ∀ rest,
      Node.follow [] fs.root (fs.namesOf base ++ rest) = Node.follow above n rest :=
  reached_of_reach h

section Sources

variable {fs : FileSystem} {base : Path} {es : List (String × Node)} {s : Selection}
  {names : List String}

/-- A source stands in the place that its names tell, and these lead to a file there, unless one of
them is too long. -/
lemma find_source (hproper : fs.root.hasProperNames = true)
    (hbase : fs.find base = .ok (.folder es)) (hnames : names ∈ s.below (.folder es)) :
    fs.place (base.join ⟨false, names⟩) = fs.place base ++ names ∧
      (∃ bytes, fs.root.at? (fs.place base ++ names) = some (.file bytes)) ∧ names ≠ [] ∧
      ((∃ bytes, fs.root.find (fs.namesOf (base.join ⟨false, names⟩)) = .ok (.file bytes)) ∨
        fs.root.find (fs.namesOf (base.join ⟨false, names⟩)) = .error .nameTooLong) := by
  obtain ⟨above, hreached, hfollow⟩ := reached_of_find hbase
  obtain ⟨⟨bytes, hat⟩, hne, hentry⟩ :=
    Selection.at?_of_mem_below (Selection.properNames_of_reached hreached hproper) hnames
  have hback : ∀ name ∈ names, name ≠ ".." := by
    rintro _ hname rfl
    exact absurd (hentry _ hname) (by decide)
  refine ⟨?_, ⟨bytes, ?_⟩, hne, ?_⟩
  · rw [place_eq, namesOf_join, walk_append, walk_of_noBack hback, List.reverse_append,
      List.reverse_reverse, place_eq]
  · rw [at?_append, place_eq, hreached.at?_eq, Option.bind_some, hat]
  · rw [namesOf_join, Node.find, hfollow]
    rcases follow_of_at? hat hback above with hfile | hlong
    · exact .inl ⟨bytes, hfile⟩
    · exact .inr hlong

end Sources

end FileSystem
end Conformance
