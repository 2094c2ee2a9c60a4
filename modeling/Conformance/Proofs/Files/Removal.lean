/-
# A tree without one of its files

When a file is removed, a path that leads elsewhere leads where it led before, and what it finds
there is the same but for the file (`follow_loses`).  The sources below a folder are those from
before without that file (`below_without`), and they are read as before.
-/
import Conformance.Files.SourceText
import Conformance.Proofs.Files.Places

namespace Conformance

/-! ## Removing a file -/

namespace Node

/-- A tree without what names lead to. -/
def without : List String → Node → Node
  | [], n => n
  | _ :: _, .file bytes => .file bytes
  | [name], .folder es => .folder (es.filter (·.1 != name))
  | name :: names, .folder es =>
    match es.lookup name with
    | none => .folder es
    | some child => .folder (replaceEntry name (without names child) es)

lemma without_cons {names : List String} (h : names ≠ []) (name : String)
    (es : List (String × Node)) : (Node.folder es).without (name :: names)
      = (match es.lookup name with
        | none => .folder es
        | some child => .folder (replaceEntry name (child.without names) es)) := by
  cases names with
  | nil => exact absurd rfl h
  | cons => rfl

/-- What can be removed from a tree is then missing in it, and nothing else is. -/
lemma eq_without_of_remove {names : List String} {n n' : Node} (h : n.remove names = .ok n') :
    n' = n.without names := by
  fun_induction remove names n generalizing n' with
  | case1 => exact absurd h (by simp)
  | case2 => exact absurd h (by simp)
  | case3 name es =>
    obtain ⟨-, -, h⟩ := bind_eq_ok.1 h
    split at h
    · exact absurd h (by simp)
    · exact (Except.ok.inj h).symm
  | case4 name names es hnames ih =>
    obtain ⟨-, -, h⟩ := bind_eq_ok.1 h
    rw [without_cons hnames]
    cases hentry : es.lookup name with
    | none =>
      rw [hentry] at h
      exact absurd h (by simp)
    | some child =>
      rw [hentry] at h
      obtain ⟨child', hchild, rfl⟩ := map_eq_ok.1 h
      rw [ih child hchild]

lemma isFolder_without (names : List String) (n : Node) :
    (n.without names).isFolder = n.isFolder := by
  fun_cases without names n <;> rfl

lemma lookup_filter_ne (es : List (String × Node)) (name m : String) :
    (es.filter (·.1 != m)).lookup name = if name = m then none else es.lookup name := by
  induction es with
  | nil => simp
  | cons e es ih =>
    obtain ⟨x, n⟩ := e
    by_cases hx : x = m
    · subst hx
      rw [List.filter_cons_of_neg (by simp), ih, lookup_cons_eq_ite]
      split <;> rfl
    · rw [List.filter_cons_of_pos (by simpa using hx), lookup_cons_eq_ite, ih, lookup_cons_eq_ite]
      by_cases hname : name = x
      · rw [if_pos hname, if_pos hname, if_neg (hname ▸ hx)]
      · rw [if_neg hname, if_neg hname]

lemma lookup_replaceEntry (es : List (String × Node)) (name m : String) (child : Node) :
    (replaceEntry m child es).lookup name = if name = m then some child else es.lookup name := by
  induction es with
  | nil => exact lookup_cons_eq_ite name m child []
  | cons e es ih =>
    obtain ⟨x, n⟩ := e
    by_cases hx : x = m
    · subst hx
      rw [replaceEntry, if_pos (beq_self_eq_true _), lookup_cons_eq_ite, lookup_cons_eq_ite]
      split <;> rfl
    · rw [replaceEntry, if_neg (by simpa using hx), lookup_cons_eq_ite, ih, lookup_cons_eq_ite]
      by_cases hname : name = x
      · rw [if_pos hname, if_pos hname, if_neg (hname ▸ hx)]
      · rw [if_neg hname, if_neg hname]

lemma lookup_without (es : List (String × Node)) (name m : String) (rest : List String) :
    ((Node.folder es).without (m :: rest)).entries.lookup name
      = if name = m then (if rest = [] then none else (es.lookup m).map (without rest))
        else es.lookup name := by
  by_cases hrest : rest = []
  · subst hrest
    rw [without, entries, lookup_filter_ne, if_pos rfl]
  · rw [without_cons hrest, if_neg hrest]
    cases hm : es.lookup m with
    | none =>
      by_cases hname : name = m
      · simp [entries, hname, hm]
      · simp [entries, hname]
    | some child => simp only [entries, lookup_replaceEntry, Option.map_some]

/-! ## Paths in the tree without the file -/

/-- What is left of the node at a place, the last name first, when what stands at another place is
removed from the tree. -/
def spared (target way : List String) (n : Node) : Node :=
  if way.reverse.isPrefixOf target then n.without (target.drop way.length) else n

/-- What is left of the folders above a place. -/
def sparedAbove (target : List String) : (way : List String) → List Node → List Node
  | _ :: way, up :: above => spared target way up :: sparedAbove target way above
  | _, _ => []

lemma isFolder_spared (target way : List String) (n : Node) :
    (n.spared target way).isFolder = n.isFolder := by
  unfold spared
  split
  · exact isFolder_without _ n
  · rfl

lemma spared_file (target way : List String) (bytes : List UInt8) :
    (Node.file bytes).spared target way = .file bytes := by
  unfold spared
  split
  · cases target.drop way.length <;> rfl
  · rfl

lemma spared_folder (target way : List String) (es : List (String × Node)) :
    (Node.folder es).spared target way
      = .folder ((Node.folder es).spared target way).entries := by
  have hfolder := isFolder_spared target way (.folder es)
  cases hspared : (Node.folder es).spared target way with
  | file bytes => exact absurd hfolder (by simp [hspared, isFolder])
  | folder es' => rfl

/-- The entries of a folder that is not below what is removed: one of them may be missing, and what
is left of the others is told by their places. -/
lemma lookup_spared {target way : List String} (haway : ¬ target <+: way.reverse)
    (es : List (String × Node)) (name : String) :
    ((Node.folder es).spared target way).entries.lookup name
      = if target = way.reverse ++ [name] then none
        else (es.lookup name).map (spared target (name :: way)) := by
  -- what is removed is in this folder or below it, or it is elsewhere and nothing changes here
  by_cases hway : way.reverse <+: target
  · obtain ⟨rest, rfl⟩ := hway
    cases rest with
    | nil => exact absurd (List.append_nil _ ▸ List.prefix_refl _) haway
    | cons m rest =>
      have hhere : (Node.folder es).spared (way.reverse ++ m :: rest) way
          = (Node.folder es).without (m :: rest) := by
        simp [spared]
      have hchild : ∀ n : Node, n.spared (way.reverse ++ m :: rest) (name :: way)
          = if name = m then n.without rest else n := by
        intro n
        have hdrop : (way.reverse ++ m :: rest).drop (way.length + 1) = rest := by
          have hsplit : way.reverse ++ m :: rest = (way.reverse ++ [m]) ++ rest := by simp
          rw [hsplit, List.drop_left' (by simp)]
        simp [spared, List.isPrefixOf_iff_prefix, List.prefix_append_right_inj,
          List.cons_prefix_cons, hdrop]
      rw [hhere, lookup_without]
      by_cases hname : name = m
      · subst hname
        by_cases hrest : rest = []
        · simp [hrest]
        · simp [hrest, funext hchild]
      · have hne : m ≠ name := Ne.symm hname
        simp [hname, hne, funext hchild]
  · have hchild : ¬ way.reverse ++ [name] <+: target :=
      fun hbegins => hway ((List.prefix_append _ _).trans hbegins)
    have hne : target ≠ way.reverse ++ [name] := fun heq => hchild (heq ▸ List.prefix_refl _)
    have hsame : spared target (name :: way) = id := by
      funext n
      simp [spared, List.isPrefixOf_iff_prefix, hchild]
    rw [if_neg hne, hsame, Option.map_id, id, spared, if_neg]
    · rfl
    · simpa [List.isPrefixOf_iff_prefix] using hway

/-- How following a path comes out in a tree without a file, against how it comes out in the whole
tree: what is found is what is left there, nothing is found in the place of the file, and a path
through the file ends at a missing name. -/
inductive Loses (target way : List String) :
    Except FileProblem Node → Except FileProblem Node → Prop
  | kept (n : Node) (h : way.reverse ≠ target) :
      Loses target way (.ok n) (.ok (n.spared target way))
  | gone (bytes : List UInt8) (h : way.reverse = target) :
      Loses target way (.ok (.file bytes)) (.error .missing)
  | refused (e : FileProblem) : Loses target way (.error e) (.error e)
  | cut : Loses target way (.error .notFolder) (.error .missing)

/-- A step in the tree without the file comes out as in the whole tree, unless it leads to the
file. -/
lemma step_spared {root here : Node} {target way : List String} {bytes : List UInt8}
    {above : List Node} (htarget : root.at? target = some (.file bytes))
    (h : Reached root way above here) (haway : ¬ target <+: way.reverse) (n : String) :
    (∃ e, step above here n = .error e ∧
        step (sparedAbove target way above) (here.spared target way) n = .error e) ∨
      ∃ x, step above here n = .ok x ∧
        (¬ target <+: (walk way [n]).reverse ∧
            step (sparedAbove target way above) (here.spared target way) n
              = .ok (sparedAbove target (walk way [n]) x.1, x.2.spared target (walk way [n])) ∨
          (walk way [n]).reverse = target ∧ x.2 = .file bytes ∧
            step (sparedAbove target way above) (here.spared target way) n = .error .missing) := by
  cases here with
  | file bytes' =>
    rw [spared_file]
    exact .inl ⟨.notFolder, rfl, rfl⟩
  | folder es =>
    have hleft := spared_folder target way es
    have hwalk : walk way [n] = if n == ".." then way.drop 1 else n :: way := rfl
    rw [hleft, hwalk, step, step]
    by_cases hback : (n == "..") = true
    · -- the way back leads to a folder above, which is not below the file either
      have haway' : ¬ target <+: (way.drop 1).reverse := fun hbegins =>
        haway (hbegins.trans (List.reverse_prefix.2 (List.drop_suffix 1 way)))
      rw [if_pos hback, if_pos hback, if_pos hback]
      refine .inr ⟨_, rfl, .inl ⟨haway', ?_⟩⟩
      cases h with
      | root => rw [← hleft]; rfl
      | child => rfl
    · rw [if_neg hback, if_neg hback, if_neg hback]
      have hlookup := lookup_spared haway es n
      unfold enter
      cases checkName n with
      | error e => exact .inl ⟨e, rfl, rfl⟩
      | ok _ =>
        rw [ok_bind, ok_bind, hlookup]
        cases hchild : es.lookup n with
        | none => exact .inl ⟨.missing, rfl, by rw [Option.map_none, ite_self]⟩
        | some child =>
          refine .inr ⟨_, rfl, ?_⟩
          rw [List.reverse_cons]
          by_cases hplace : target = way.reverse ++ [n]
          · -- in the place of the file the whole tree has that file
            have hfile := (h.child hchild).at?_eq
            rw [List.reverse_cons, ← hplace, htarget] at hfile
            rw [if_pos hplace]
            exact .inr ⟨hplace.symm, (Option.some.inj hfile).symm, rfl⟩
          · rw [if_neg hplace, ← hleft]
            refine .inl ⟨fun hbegins => ?_, rfl⟩
            exact (List.prefix_concat_iff.1 hbegins).elim hplace haway

theorem follow_loses {root here : Node} {target way : List String} {bytes : List UInt8}
    {above : List Node} (htarget : root.at? target = some (.file bytes))
    (h : Reached root way above here) (haway : ¬ target <+: way.reverse) (names : List String) :
    Loses target (walk way names) (follow above here names)
      (follow (sparedAbove target way above) (here.spared target way) names) := by
  induction names generalizing way above here with
  | nil =>
    rw [follow, follow]
    exact .kept here fun heq => haway (heq ▸ List.prefix_refl _)
  | cons n names ih =>
    have hwalk : walk way (n :: names) = walk (walk way [n]) names := rfl
    rw [follow_cons, follow_cons, hwalk]
    rcases step_spared htarget h haway n with
      ⟨e, hstep, hstep'⟩ | ⟨x, hstep, ⟨haway', hstep'⟩ | ⟨hplace, hx, hstep'⟩⟩
    · rw [hstep, hstep']
      exact .refused e
    · rw [hstep, hstep', ok_bind, ok_bind]
      exact ih (h.step hstep) haway'
    · rw [hstep, hstep', ok_bind, error_bind, hx]
      cases names with
      | nil => exact .gone bytes hplace
      | cons => exact .cut

end Node

/-! ## Sources in the tree without the file -/

lemma flatMap_filter_eq {α β : Type} (p : α → Bool) (f : α → List β) (l : List α) :
    (l.filter p).flatMap f = l.flatMap fun a => if p a then f a else [] := by
  induction l with
  | nil => rfl
  | cons a l ih => cases hp : p a <;> simp [hp, ih]

namespace Selection

open Node

variable {s : Selection}

/-- Of the sources at one entry, none stands at another. -/
lemma filter_ofEntry_of_ne {e : String × Node} {name : String} (h : e.1 ≠ name)
    (rest : List String) : (s.ofEntry e).filter (· != name :: rest) = s.ofEntry e := by
  refine List.filter_eq_self.2 fun names hnames => ?_
  obtain ⟨rest', rfl, -⟩ := exists_of_mem_ofEntry hnames
  exact bne_iff_ne.2 fun heq => h (List.cons.inj heq).1

lemma replaceEntry_eq_map {es : List (String × Node)} (hes : haveProperNames es = true)
    {name : String} {child : Node} (hchild : es.lookup name = some child) (child' : Node) :
    replaceEntry name child' es = es.map fun e => if e.1 = name then (name, child') else e := by
  induction es with
  | nil => exact absurd hchild (by simp)
  | cons e es ih =>
    obtain ⟨⟨-, hfresh⟩, -, hes⟩ := haveProperNames_cons.1 hes
    rw [lookup_cons_eq_ite] at hchild
    by_cases hname : e.1 = name
    · have hothers : es.map (fun e => if e.1 = name then (name, child') else e) = es := by
        refine (List.map_congr_left fun e' he' => if_neg ?_).trans (List.map_id es)
        exact fun heq => hfresh (List.mem_map.2 ⟨e', he', heq.trans hname.symm⟩)
      rw [replaceEntry, if_pos (beq_iff_eq.2 hname), List.map_cons, if_pos hname, hothers]
    · rw [if_neg (Ne.symm hname)] at hchild
      rw [replaceEntry, if_neg (by simpa using hname), List.map_cons, if_neg hname, ih hes hchild]

/-- **Without a file, the sources below a folder are those from before but for the file.** -/
theorem below_without {n : Node} (hn : n.hasProperNames = true) {names : List String}
    {bytes : List UInt8} (h : n.at? names = some (.file bytes)) (hnames : names ≠ []) :
    s.below (n.without names) = (s.below n).filter (· != names) := by
  induction names generalizing n with
  | nil => exact absurd rfl hnames
  | cons name rest ih =>
    rw [at?, Option.bind_eq_some_iff] at h
    obtain ⟨child, hchild, h⟩ := h
    cases n with
    | file _ => exact absurd hchild (by simp [entries])
    | folder es =>
      rw [entries] at hchild
      -- the entry with the first name is the only one that changes
      have hentry : ∀ e ∈ es, e.1 = name → e = (name, child) := by
        rintro e he rfl
        have hlookup := (properNames_of_mem hn he).2.2
        rw [hchild] at hlookup
        exact Prod.ext rfl (Option.some.inj hlookup).symm
      by_cases hrest : rest = []
      · subst hrest
        obtain rfl := Option.some.inj h
        rw [without, below_folder, below_folder, List.filter_flatMap, flatMap_filter_eq]
        refine List.flatMap_congr fun e he => ?_
        by_cases hname : e.1 = name
        · rw [hentry e he hname]
          by_cases htakes : s.takes name = true <;> simp [ofEntry, isFolder, htakes]
        · rw [if_pos (by simpa using hname), filter_ofEntry_of_ne hname]
      · have hfolder : child.isFolder = true := by
          cases child with
          | folder _ => rfl
          | file _ => cases rest <;> simp_all [at?, entries]
        rw [without_cons hrest]
        simp only [hchild]
        rw [below_folder, below_folder, List.filter_flatMap, replaceEntry_eq_map hn hchild,
          List.flatMap_map]
        refine List.flatMap_congr fun e he => ?_
        by_cases hname : e.1 = name
        · have hbelow := ih (properNames_of_lookup hn hchild) h hrest
          rw [if_pos hname, hentry e he hname, ofEntry, ofEntry, isFolder_without, hfolder,
            if_pos rfl, if_pos rfl, hbelow]
          split
          · rw [List.filter_map]
            refine congrArg _ (List.filter_congr fun names' _ => ?_)
            rw [Bool.eq_iff_iff]
            simp
          · rfl
        · rw [if_neg hname, filter_ofEntry_of_ne hname]

/-- The sources below a folder of the tree without a file. -/
lemma below_spared {root : Node} (hroot : root.hasProperNames = true) {target : List String}
    {bytes : List UInt8} (htarget : root.at? target = some (.file bytes)) {way : List String}
    {above : List Node} {es : List (String × Node)} (h : Reached root way above (.folder es)) :
    s.below ((Node.folder es).spared target way)
      = (s.below (.folder es)).filter (way.reverse ++ · != target) := by
  unfold spared
  split
  · rename_i hbegins
    obtain ⟨rest, rfl⟩ := List.isPrefixOf_iff_prefix.1 hbegins
    have hat : (Node.folder es).at? rest = some (.file bytes) := by
      rwa [at?_append, h.at?_eq, Option.bind_some] at htarget
    have hrest : rest ≠ [] := by
      rintro rfl
      exact absurd hat (by simp [at?])
    rw [List.drop_left' List.length_reverse,
      below_without (properNames_of_reached h hroot) hat hrest]
    refine List.filter_congr fun names _ => ?_
    rw [Bool.eq_iff_iff]
    simp
  · rename_i hbegins
    refine (List.filter_eq_self.2 fun names _ => bne_iff_ne.2 ?_).symm
    rintro rfl
    exact hbegins (List.isPrefixOf_iff_prefix.2 (List.prefix_append _ _))

end Selection

namespace FileSystem

open Node

/-- The file system without what stands at a place. -/
def without (fs : FileSystem) (target : List String) : FileSystem :=
  { fs with root := fs.root.without target }

/-- What can be removed is missing then, and nothing else is. -/
theorem eq_without_of_remove {fs fs' : FileSystem} {p : Path} (h : fs.remove p = .ok fs') :
    fs' = fs.without (fs.place p) := by
  obtain ⟨-, -, h⟩ := bind_eq_ok.1 h
  obtain ⟨root, hroot, rfl⟩ := map_eq_ok.1 h
  rw [without, place, Node.eq_without_of_remove hroot]

section Without

variable {fs : FileSystem} {target : List String} {bytes : List UInt8}

/-- How reaching a path comes out without a file. -/
lemma reach_loses (htarget : fs.root.at? target = some (.file bytes)) (hne : target ≠ [])
    (action : FileAction) (q : Path) :
    Loses target (walk [] (fs.namesOf q)) (fs.reach action q)
      ((fs.without target).reach action q) := by
  have hallow : (fs.without target).allow action q = fs.allow action q := rfl
  have hroot : fs.root.spared target [] = fs.root.without target := rfl
  have habove : sparedAbove target [] [] = [] := rfl
  have hfollow := follow_loses htarget .root (by simpa using hne) (fs.namesOf q)
  rw [habove, hroot] at hfollow
  rw [reach_eq, reach_eq, hallow]
  cases fs.allow action q with
  | error e => exact .refused e
  | ok _ => exact hfollow

/-- The same folders can be listed without a file. -/
lemma lists_without (htarget : fs.root.at? target = some (.file bytes)) (hne : target ≠ [])
    (q : Path) : (fs.without target).lists q = fs.lists q := by
  have hreach := reach_loses htarget hne .list q
  unfold lists
  generalize fs.reach .list q = found at hreach
  generalize (fs.without target).reach .list q = found' at hreach
  cases hreach with
  | kept n _ => exact isFolder_spared target _ n
  | _ => rfl

end Without

lemma readSource_congr [Host] {fs fs' : FileSystem} {q : Path} (hlook : fs'.find q = fs.find q)
    (hopen : fs'.reach .open q = fs.reach .open q) (encoding : Value) (limit : Option Number) :
    fs'.readSource q encoding limit = fs.readSource q encoding limit := by
  simp only [readSource, checkSize, read, hlook, hopen]

section Sources

variable {fs : FileSystem} {base : Path} {es : List (String × Node)} {s : Selection}
  {names : List String}

/-- A source in another place is reached as before. -/
lemma reach_source_without (hproper : fs.root.hasProperNames = true)
    (hbase : fs.find base = .ok (.folder es)) (hnames : names ∈ s.below (.folder es))
    {target : List String} {bytes : List UInt8}
    (htarget : fs.root.at? target = some (.file bytes)) (hne : target ≠ [])
    (hplace : fs.place (base.join ⟨false, names⟩) ≠ target) (action : FileAction) :
    (fs.without target).reach action (base.join ⟨false, names⟩)
      = fs.reach action (base.join ⟨false, names⟩) := by
  obtain ⟨-, -, -, hfind⟩ := find_source hproper hbase hnames
  have hloses := reach_loses htarget hne action (base.join ⟨false, names⟩)
  rw [place_eq] at hplace
  rw [reach_eq fs] at hloses ⊢
  cases hallow : fs.allow action (base.join ⟨false, names⟩) with
  | error e =>
    have hallow' : (fs.without target).allow action (base.join ⟨false, names⟩) = .error e := hallow
    rw [reach_eq, hallow', error_bind, error_bind]
  | ok _ =>
    rw [hallow, ok_bind] at hloses
    rw [ok_bind]
    generalize (fs.without target).reach action (base.join ⟨false, names⟩) = found at hloses
    -- the path leads to a file, or it has a name that is too long in both trees
    rcases hfind with ⟨bytes', hfile⟩ | hlong
    · rw [hfile] at hloses ⊢
      cases hloses with
      | kept => rw [spared_file]
      | gone _ hgone => exact absurd hgone hplace
    · rw [hlong] at hloses ⊢
      cases hloses with
      | refused => rfl

end Sources

end FileSystem
end Conformance
