/-
# The order of entries

A folder lists its entries in no order that matters: where paths lead is a question of names, which
a folder holds once (`FileSystem.reach_rearranged`, `Node.at?_file_iff`).
-/
import Conformance.Proofs.Files.Places

namespace Conformance
namespace Node

/-- The same tree, with the entries of folders listed in another order. -/
inductive Rearranged : Node → Node → Prop
  | refl (n : Node) : Rearranged n n
  | trans {n₁ n₂ n₃ : Node} (h : Rearranged n₁ n₂) (h' : Rearranged n₂ n₃) : Rearranged n₁ n₃
  | listed {es es' : List (String × Node)} (h : es.Perm es') :
      Rearranged (.folder es) (.folder es')
  | inside (front back : List (String × Node)) (name : String) {n n' : Node}
      (h : Rearranged n n') :
      Rearranged (.folder (front ++ (name, n) :: back)) (.folder (front ++ (name, n') :: back))

/-! ## Names of entries -/

lemma haveProperNames_iff {es : List (String × Node)} :
    haveProperNames es = true ↔ (es.map (·.1)).Nodup ∧
      ∀ e ∈ es, Path.isEntryName e.1 = true ∧ e.2.hasProperNames = true := by
  induction es with
  | nil => simp [haveProperNames]
  | cons e es ih =>
    obtain ⟨name, child⟩ := e
    rw [Selection.haveProperNames_cons, ih, List.map_cons, List.nodup_cons, List.forall_mem_cons]
    tauto

lemma lookup_eq_some_iff_mem {es : List (String × Node)} (h : haveProperNames es = true)
    {name : String} {n : Node} : es.lookup name = some n ↔ (name, n) ∈ es := by
  constructor
  · intro hlookup
    obtain ⟨front, back, rfl, -⟩ := List.lookup_eq_some_iff.1 hlookup
    exact List.mem_append_right _ List.mem_cons_self
  · exact fun hmem => (Selection.properNames_of_mem h hmem).2.2

lemma lookup_inside (front back : List (String × Node)) (name m : String) (n : Node) :
    (front ++ (name, n) :: back).lookup m =
      (front.lookup m).or (if m = name then some n else back.lookup m) := by
  rw [List.lookup_append, lookup_cons_eq_ite]

/-! ## One folder -/

/-- What can be seen of a node and of the same node rearranged: the same bytes, or folders whose
entries are rearranged name by name. -/
inductive SameShape : Node → Node → Prop
  | file (bytes : List UInt8) : SameShape (.file bytes) (.file bytes)
  | folder {es es' : List (String × Node)}
      (h : ∀ name, Option.Rel Rearranged (es.lookup name) (es'.lookup name)) :
      SameShape (.folder es) (.folder es')

lemma rel_rearranged_refl (o : Option Node) : Option.Rel Rearranged o o := by
  cases o with
  | none => exact .none
  | some n => exact .some (.refl n)

lemma rel_rearranged_trans {o₁ o₂ o₃ : Option Node} (h : Option.Rel Rearranged o₁ o₂)
    (h' : Option.Rel Rearranged o₂ o₃) : Option.Rel Rearranged o₁ o₃ := by
  cases h with
  | none => exact h'
  | some h =>
    cases h' with
    | some h' => exact .some (h.trans h')

lemma SameShape.refl (n : Node) : SameShape n n := by
  cases n with
  | file bytes => exact .file bytes
  | folder es => exact .folder fun _ => rel_rearranged_refl _

/-- A tree that is rearranged has the same names, and the same shape. -/
lemma Rearranged.sameShape {n n' : Node} (h : Rearranged n n') (hn : n.hasProperNames = true) :
    n'.hasProperNames = true ∧ SameShape n n' := by
  induction h with
  | refl n => exact ⟨hn, .refl n⟩
  | trans _ _ ih ih' =>
    obtain ⟨hn₂, hshape⟩ := ih hn
    obtain ⟨hn₃, hshape'⟩ := ih' hn₂
    refine ⟨hn₃, ?_⟩
    cases hshape with
    | file bytes => exact hshape'
    | folder h =>
      cases hshape' with
      | folder h' => exact .folder fun name => rel_rearranged_trans (h name) (h' name)
  | @listed es es' hperm =>
    obtain ⟨hnodup, hall⟩ := haveProperNames_iff.1 hn
    have hn' : haveProperNames es' = true :=
      haveProperNames_iff.2 ⟨(hperm.map _).nodup hnodup, fun e he => hall e (hperm.mem_iff.2 he)⟩
    refine ⟨hn', .folder fun name => ?_⟩
    have hlookup : es.lookup name = es'.lookup name := Option.ext fun child => by
      rw [lookup_eq_some_iff_mem hn, lookup_eq_some_iff_mem hn', hperm.mem_iff]
    rw [hlookup]
    exact rel_rearranged_refl _
  | @inside front back name n n' h ih =>
    obtain ⟨hnodup, hall⟩ := haveProperNames_iff.1 hn
    obtain ⟨hname, hchild⟩ := hall (name, n) (List.mem_append_right _ List.mem_cons_self)
    have hn' : haveProperNames (front ++ (name, n') :: back) = true := by
      refine haveProperNames_iff.2 ⟨by simpa using hnodup, fun e he => ?_⟩
      rcases List.mem_append.1 he with he | he
      · exact hall e (List.mem_append_left _ he)
      · rcases List.mem_cons.1 he with rfl | he
        · exact ⟨hname, (ih hchild).1⟩
        · exact hall e (List.mem_append_right _ (List.mem_cons_of_mem _ he))
    refine ⟨hn', .folder fun m => ?_⟩
    rw [lookup_inside, lookup_inside]
    cases front.lookup m with
    | some found => exact .some (.refl found)
    | none =>
      rw [Option.none_or, Option.none_or]
      split
      · exact .some h
      · exact rel_rearranged_refl _

/-- A tree with proper names, and the same tree rearranged. -/
def Kept (n n' : Node) : Prop :=
  n.hasProperNames = true ∧ Rearranged n n'

lemma Kept.shape {n n' : Node} (h : Kept n n') : SameShape n n' :=
  (h.2.sameShape h.1).2

/-- A name leads on in both folders, or in neither. -/
lemma kept_lookup {es es' : List (String × Node)} (h : Kept (.folder es) (.folder es'))
    (name : String) :
    (es.lookup name = none ∧ es'.lookup name = none) ∨
      ∃ child child', es.lookup name = some child ∧ es'.lookup name = some child' ∧
        Kept child child' := by
  obtain ⟨hn, hrearranged⟩ := h
  cases (hrearranged.sameShape hn).2 with
  | folder hentries =>
    have hrel := hentries name
    generalize hlookup : es.lookup name = found at hrel
    generalize es'.lookup name = found' at hrel
    cases hrel with
    | none => exact .inl ⟨rfl, rfl⟩
    | some hchild =>
      exact .inr ⟨_, _, rfl, rfl, Selection.properNames_of_lookup hn hlookup, hchild⟩

/-! ## Paths -/

/-- Names lead to the same place in a tree that is rearranged. -/
lemma kept_at? {n n' : Node} (h : Kept n n') (names : List String) :
    Option.Rel Kept (n.at? names) (n'.at? names) := by
  induction names generalizing n n' with
  | nil => exact .some h
  | cons name names ih =>
    rw [at?, at?]
    cases h.shape with
    | file bytes => exact .none
    | folder _ =>
      simp only [entries]
      rcases kept_lookup h name with ⟨hnone, hnone'⟩ | ⟨child, child', hsome, hsome', hchild⟩
      · rw [hnone, hnone']
        exact .none
      · rw [hsome, hsome']
        exact ih hchild

lemma at?_file_iff {n n' : Node} (h : Kept n n') {names : List String} {bytes : List UInt8} :
    n.at? names = some (.file bytes) ↔ n'.at? names = some (.file bytes) := by
  have hrel := kept_at? h names
  generalize n.at? names = found at hrel
  generalize n'.at? names = found' at hrel
  cases hrel with
  | none => exact Iff.rfl
  | some hkept =>
    cases hkept.shape with
    | file _ => exact Iff.rfl
    | folder _ => simp

lemma at?_folder_of_rearranged {n n' : Node} (h : Kept n n') {names : List String}
    {es' : List (String × Node)} (hat : n'.at? names = some (.folder es')) :
    ∃ es, n.at? names = some (.folder es) := by
  have hrel := kept_at? h names
  rw [hat] at hrel
  generalize n.at? names = found at hrel
  cases hrel with
  | some hkept =>
    cases hkept.shape with
    | folder _ => exact ⟨_, rfl⟩

/-- The outcomes of following a path in a tree and in the same tree rearranged. -/
inductive SameOutcome : Except FileProblem Node → Except FileProblem Node → Prop
  | found {n n' : Node} (h : Kept n n') : SameOutcome (.ok n) (.ok n')
  | failed (e : FileProblem) : SameOutcome (.error e) (.error e)

theorem follow_rearranged {above above' : List Node} {here here' : Node}
    (habove : List.Forall₂ Kept above above') (hhere : Kept here here') (names : List String) :
    SameOutcome (follow above here names) (follow above' here' names) := by
  induction names generalizing above above' here here' with
  | nil =>
    rw [follow, follow]
    exact .found hhere
  | cons n names ih =>
    rw [follow_cons, follow_cons]
    cases hhere.shape with
    | file bytes => exact .failed _
    | @folder es es' _ =>
      rw [step, step]
      split
      · -- back to the folder above, or to the root
        rw [ok_bind, ok_bind]
        cases habove with
        | nil => exact ih .nil hhere
        | cons hup habove => exact ih habove hup
      · simp only [enter, bind_assoc]
        cases checkName n with
        | error e => exact .failed e
        | ok _ =>
          rw [ok_bind, ok_bind]
          rcases kept_lookup hhere n with ⟨hnone, hnone'⟩ | ⟨child, child', hsome, hsome', hchild⟩
          · rw [hnone, hnone']
            exact .failed _
          · rw [hsome, hsome']
            exact ih (.cons hhere habove) hchild

end Node

namespace FileSystem

open Node

/-- A file system whose folders list their entries in another order. -/
def rearranged (fs : FileSystem) (root : Node) : FileSystem :=
  { fs with root := root }

variable {fs : FileSystem} {root : Node}

/-- **Paths lead to the same in whatever order entries are listed.** -/
theorem reach_rearranged (h : Kept fs.root root) (action : FileAction) (p : Path) :
    SameOutcome (fs.reach action p) ((fs.rearranged root).reach action p) := by
  have hallow : (fs.rearranged root).allow action p = fs.allow action p := rfl
  rw [reach_eq, reach_eq, hallow]
  cases fs.allow action p with
  | error e => exact .failed e
  | ok _ =>
    rw [ok_bind, ok_bind]
    exact follow_rearranged .nil h _

lemma exists_find_rearranged (h : Kept fs.root root) {p : Path} {n : Node}
    (hn : fs.find p = .ok n) : ∃ n', (fs.rearranged root).find p = .ok n' ∧ Kept n n' := by
  have hfind := reach_rearranged h .look p
  rw [show fs.reach .look p = .ok n from hn] at hfind
  unfold find
  generalize (fs.rearranged root).reach .look p = found' at hfind
  cases hfind with
  | found hkept => exact ⟨_, rfl, hkept⟩

lemma find_error_of_rearranged (h : Kept fs.root root) {p : Path} {e : FileProblem}
    (he : (fs.rearranged root).find p = .error e) : fs.find p = .error e := by
  have hfind := reach_rearranged h .look p
  rw [show (fs.rearranged root).reach .look p = .error e from he] at hfind
  unfold find
  generalize fs.reach .look p = found at hfind
  cases hfind with
  | failed _ => rfl

/-- Folders are reached in whatever order entries are listed. -/
lemma any_isFolder_reach_rearranged (h : Kept fs.root root) (action : FileAction) (p : Path) :
    ((fs.rearranged root).reach action p).toOption.any (·.isFolder)
      = (fs.reach action p).toOption.any (·.isFolder) := by
  have hreach := reach_rearranged h action p
  generalize fs.reach action p = found at hreach
  generalize (fs.rearranged root).reach action p = found' at hreach
  cases hreach with
  | failed e => rfl
  | found hkept =>
    cases hkept.shape with
    | file _ => rfl
    | folder _ => rfl

lemma hasFolder_rearranged (h : Kept fs.root root) (p : Path) :
    (fs.rearranged root).hasFolder p = fs.hasFolder p :=
  any_isFolder_reach_rearranged h .look p

lemma lists_rearranged (h : Kept fs.root root) (p : Path) :
    (fs.rearranged root).lists p = fs.lists p :=
  any_isFolder_reach_rearranged h .list p

end FileSystem
end Conformance
