/-
# What a walk sees

A walk passes over what is in folders that cannot be listed.  So the sources it finds are those of
the tree whose way leads through folders that can be listed (`Selection.below_listed`).  How deeply
a walk goes is told by the ways to the folders that it enters (`Selection.depth_listed_le_iff`); in
a tree without a file it goes no deeper than in the tree (`Selection.depth_without_le`).
-/
import Conformance.Proofs.Files.Listing
import Conformance.Proofs.Files.Removal

namespace Conformance

namespace Node

/-- Whether all folders on the way that names lead from a place can be listed, the place
included. -/
def listsAlong (lists : List String → Bool) : (way names : List String) → Bool
  | _, [] => true
  | way, name :: names => lists way && listsAlong lists (way ++ [name]) names

/-- These are the folders before each of the names. -/
lemma listsAlong_iff {lists : List String → Bool} {way names : List String} :
    listsAlong lists way names = true ↔
      ∀ front name back, names = front ++ name :: back → lists (way ++ front) = true := by
  induction names generalizing way with
  | nil => simp [listsAlong]
  | cons name names ih =>
    rw [listsAlong, Bool.and_eq_true, ih]
    constructor
    · rintro ⟨hhere, hrest⟩ front name' back heq
      cases front with
      | nil => rwa [List.append_nil]
      | cons n front =>
        obtain ⟨rfl, rfl⟩ := List.cons.inj heq
        have hlists := hrest front name' back rfl
        rwa [List.append_assoc] at hlists
    · intro h
      refine ⟨?_, fun front name' back heq => ?_⟩
      · simpa using h [] name names rfl
      · have hlists := h (name :: front) name' back (by rw [heq, List.cons_append])
        rwa [List.append_assoc]

lemma isFolder_listed (lists : List String → Bool) (way : List String) (n : Node) :
    (n.listed lists way).isFolder = n.isFolder := by
  cases n <;> rfl

lemma listedEntries_eq_map (lists : List String → Bool) (way : List String)
    (es : List (String × Node)) :
    listedEntries lists way es = es.map fun e => (e.1, e.2.listed lists (way ++ [e.1])) := by
  induction es with
  | nil => rfl
  | cons e es ih => rw [listedEntries, ih, List.map_cons]

/-- Names lead to a folder from a folder only. -/
lemma isFolder_of_at? {n : Node} {names : List String} {es : List (String × Node)}
    (h : n.at? names = some (.folder es)) : n.isFolder = true := by
  cases n with
  | folder _ => rfl
  | file bytes => cases names <;> simp_all [at?, entries]

end Node

namespace Selection

open Node

variable {s : Selection} {lists : List String → Bool}

/-! ## Sources -/

lemma nil_notMem_belowEntries (es : List (String × Node)) : [] ∉ s.belowEntries es := by
  intro h
  have hbelow : [] ∈ s.below (.folder es) := by rwa [below]
  rw [below_folder] at hbelow
  obtain ⟨e, -, he⟩ := List.mem_flatMap.1 hbelow
  obtain ⟨_, hnames, -⟩ := exists_of_mem_ofEntry he
  exact absurd hnames (by simp)

mutual

/-- **A walk finds the sources on whose way all folders can be listed.** -/
theorem below_listed (s : Selection) (lists : List String → Bool) (way : List String) :
    ∀ n : Node, s.below (n.listed lists way) = (s.below n).filter (listsAlong lists way)
  | .file bytes => rfl
  | .folder es => by
    rw [listed, below, below]
    by_cases hlists : lists way = true
    · rw [if_pos hlists, belowEntries_listed s lists way es]
      refine List.filter_congr fun names _ => ?_
      cases names with
      | nil => rfl
      | cons name names => simp [listsAlong, hlists]
    · rw [if_neg hlists, belowEntries]
      refine (List.filter_eq_nil_iff.2 fun names hnames => ?_).symm
      cases names with
      | nil => exact absurd hnames (nil_notMem_belowEntries es)
      | cons name names => simp [listsAlong, hlists]

theorem belowEntries_listed (s : Selection) (lists : List String → Bool) (way : List String) :
    ∀ es : List (String × Node), s.belowEntries (listedEntries lists way es)
      = (s.belowEntries es).filter fun names =>
          listsAlong lists (way ++ names.take 1) (names.drop 1)
  | [] => rfl
  | (name, child) :: es => by
    rw [listedEntries, belowEntries, belowEntries, List.filter_append, isFolder_listed,
      belowEntries_listed s lists way es]
    congr 1
    cases child.isFolder with
    | true =>
      rw [if_pos rfl, if_pos rfl]
      by_cases henters : s.enters name = true
      · rw [if_pos henters, if_pos henters, below_listed s lists (way ++ [name]) child,
          List.filter_map]
        rfl
      · rw [if_neg henters, if_neg henters, List.filter_nil]
    | false =>
      rw [if_neg Bool.false_ne_true, if_neg Bool.false_ne_true]
      by_cases htakes : s.takes name = true
      · rw [if_pos htakes]
        rfl
      · rw [if_neg htakes, List.filter_nil]

end

/-! ## Depth -/

lemma depthEntries_le_iff {es : List (String × Node)} {k : Nat} :
    s.depthEntries es ≤ k ↔
      ∀ e ∈ es, e.2.isFolder = true → s.enters e.1 = true → s.depth e.2 ≤ k := by
  induction es with
  | nil => simp [depthEntries]
  | cons e es ih =>
    rw [depthEntries, max_le_iff, ih, List.forall_mem_cons]
    refine and_congr_left fun _ => ?_
    by_cases henters : (e.2.isFolder && s.enters e.1) = true
    · rw [if_pos henters]
      rw [Bool.and_eq_true] at henters
      exact ⟨fun h _ _ => h, fun h => h henters.1 henters.2⟩
    · rw [if_neg henters]
      rw [Bool.and_eq_true, not_and] at henters
      exact ⟨fun _ hfolder hname => absurd hname (henters hfolder), fun _ => Nat.zero_le _⟩

/-- The folders that a walk enters lie less deeply than a bound if those below each entry do, seen
from that entry. -/
lemma length_lt_succ_iff {es : List (String × Node)}
    (hn : (Node.folder es).hasProperNames = true) {here : List String}
    (hlists : lists here = true) {k : Nat} :
    (∀ way es', (Node.folder es).at? way = some (.folder es') →
        (∀ folder ∈ way, s.enters folder = true) → listsAlong lists here way = true →
          way.length < k + 1) ↔
      ∀ e ∈ es, s.enters e.1 = true → ∀ way es', e.2.at? way = some (.folder es') →
        (∀ folder ∈ way, s.enters folder = true) →
          listsAlong lists (here ++ [e.1]) way = true → way.length < k := by
  constructor
  · intro h e he henters way es' hfolder hway halong
    obtain ⟨-, -, hlookup⟩ := properNames_of_mem hn he
    have hlength := h (e.1 :: way) es' (by rw [at?, entries, hlookup]; exact hfolder)
      (List.forall_mem_cons.2 ⟨henters, hway⟩) (by rw [listsAlong, hlists]; exact halong)
    exact Nat.lt_of_succ_lt_succ hlength
  · intro h way es' hfolder henters halong
    cases way with
    | nil => exact Nat.succ_pos k
    | cons name way =>
      rw [at?, entries, Option.bind_eq_some_iff] at hfolder
      obtain ⟨child, hchild, hfolder⟩ := hfolder
      obtain ⟨hname, hway⟩ := List.forall_mem_cons.1 henters
      rw [listsAlong, hlists, Bool.true_and] at halong
      have hmem := (lookup_eq_some_iff_mem hn).1 hchild
      exact Nat.succ_lt_succ (h (name, child) hmem hname way es' hfolder hway halong)

/-- **A walk goes as deeply as the folders that it enters lie.** -/
theorem depth_listed_le_iff {n : Node} (hn : n.hasProperNames = true) {here : List String}
    {k : Nat} : s.depth (n.listed lists here) ≤ k ↔
      ∀ way es, n.at? way = some (.folder es) → (∀ folder ∈ way, s.enters folder = true) →
        listsAlong lists here way = true → way.length < k := by
  -- the bound and not the tree: below an entry both go down by one
  induction k generalizing n here with
  | zero =>
    cases n with
    | file bytes =>
      refine iff_of_true le_rfl fun way es hfolder => ?_
      exact absurd (isFolder_of_at? hfolder) (by simp [isFolder])
    | folder es =>
      refine iff_of_false (by simp [listed, depth]) fun h => ?_
      exact absurd (h [] es rfl (by simp) rfl) (by simp)
  | succ k ih =>
    cases n with
    | file bytes =>
      refine iff_of_true (by simp [listed, depth]) fun way es hfolder => ?_
      exact absurd (isFolder_of_at? hfolder) (by simp [isFolder])
    | folder es =>
      rw [listed, depth, Nat.succ_le_succ_iff, depthEntries_le_iff]
      by_cases hlists : lists here = true
      · rw [if_pos hlists, listedEntries_eq_map, List.forall_mem_map,
          length_lt_succ_iff hn hlists]
        refine forall₂_congr fun e he => ?_
        obtain ⟨-, hproper, -⟩ := properNames_of_mem hn he
        rw [isFolder_listed, ← ih hproper]
        refine ⟨fun h henters => ?_, fun h _ henters => h henters⟩
        cases hnode : e.2 with
        | file bytes => exact Nat.zero_le k
        | folder es' => exact hnode ▸ h (by rw [hnode, isFolder]) henters
      · -- a folder that cannot be listed shows nothing, and no way leads on from it
        rw [if_neg hlists]
        refine iff_of_true (by simp) fun way es' _ _ halong => ?_
        cases way with
        | nil => exact Nat.succ_pos k
        | cons name way => exact absurd halong (by simp [listsAlong, hlists])

/-- A folder is nested no more deeply than another if each of its entries stands for one there. -/
lemma depth_folder_le {es es' : List (String × Node)} (h : ∀ e ∈ es', ∃ n, (e.1, n) ∈ es ∧
      e.2.isFolder = n.isFolder ∧
        ∀ way, s.depth (e.2.listed lists way) ≤ s.depth (n.listed lists way)) (way : List String) :
    s.depth ((Node.folder es').listed lists way) ≤ s.depth ((Node.folder es).listed lists way) := by
  rw [listed, listed, depth, depth]
  split
  · refine Nat.succ_le_succ (depthEntries_le_iff.2 ?_)
    have hbound := depthEntries_le_iff.1 (le_refl (s.depthEntries (listedEntries lists way es)))
    rw [listedEntries_eq_map, List.forall_mem_map] at hbound
    rw [listedEntries_eq_map, listedEntries_eq_map, List.forall_mem_map]
    intro e he hfolder henters
    obtain ⟨n, hn, hkind, hdepth⟩ := h e he
    rw [isFolder_listed, hkind] at hfolder
    exact (hdepth _).trans (hbound (e.1, n) hn (by rwa [isFolder_listed]) henters)
  · exact le_rfl

lemma mem_replaceEntry {name : String} {child : Node} {es : List (String × Node)}
    {e : String × Node} (h : e ∈ replaceEntry name child es) : e = (name, child) ∨ e ∈ es := by
  induction es with
  | nil => exact .inl (List.mem_singleton.1 h)
  | cons e' es ih =>
    rw [replaceEntry] at h
    split at h
    · rcases List.mem_cons.1 h with rfl | h
      · exact .inl rfl
      · exact .inr (List.mem_cons_of_mem _ h)
    · rcases List.mem_cons.1 h with rfl | h
      · exact .inr List.mem_cons_self
      · exact (ih h).imp_right (List.mem_cons_of_mem _)

/-- The folders that a walk enters are not nested more deeply without a file. -/
lemma depth_without_le (names : List String) (n : Node) (way : List String) :
    s.depth ((n.without names).listed lists way) ≤ s.depth (n.listed lists way) := by
  induction names generalizing n way with
  | nil => exact le_rfl
  | cons name rest ih =>
    cases n with
    | file bytes => exact le_rfl
    | folder es =>
      by_cases hrest : rest = []
      · subst hrest
        refine depth_folder_le (fun e he => ?_) way
        exact ⟨e.2, (List.mem_filter.1 he).1, rfl, fun _ => le_rfl⟩
      · rw [without_cons hrest]
        cases hchild : es.lookup name with
        | none => exact le_rfl
        | some child =>
          refine depth_folder_le (fun e he => ?_) way
          rcases mem_replaceEntry he with rfl | he
          · obtain ⟨front, back, rfl, -⟩ := List.lookup_eq_some_iff.1 hchild
            exact ⟨child, List.mem_append_right _ List.mem_cons_self, isFolder_without _ _,
              ih child⟩
          · exact ⟨e.2, he, rfl, fun _ => le_rfl⟩

end Selection
end Conformance
