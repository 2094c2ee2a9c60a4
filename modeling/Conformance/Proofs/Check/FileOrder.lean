/-
# The order of files

Rules are evaluated file by file, then for all declarations together, and the violations are
sorted.  What is found in a file carries its path, and the paths of files differ; so with the files
in another order, the same is found with each path, in the same order (`SameByPath`).  Sorting by
paths first leaves no trace of anything else, neither in the declarations that are counted or
grouped together nor in the violations.  So the violations are the same in whatever order the files
come, or there are none in any order because a message fails (`RuleSet.evaluate_perm_or_fails`); two
evaluations are in two memories, and where a message shows something of memory, the violations are
the same but for that message.  Which message fails first does depend on the order
(`RuleSet.fault_depends_on_file_order`).
-/
import Conformance.Proofs.Check.AnyScope
import Conformance.Proofs.Check.Memories

namespace Conformance
open Source

/-! ## The same with each path -/

/-- Two lists hold the same values with each path, in the same order. -/
def SameByPath {α : Type} (path : α → String) (l l' : List α) : Prop :=
  ∀ p, l.filter (fun a => path a == p) = l'.filter fun a => path a == p

section SameByPath

variable {α φ : Type} {path : α → String} {l l' : List α}

lemma SameByPath.mem_iff (h : SameByPath path l l') {a : α} : a ∈ l ↔ a ∈ l' := by
  have ha := congrArg (a ∈ ·) (h (path a))
  simpa using ha

lemma SameByPath.filter (h : SameByPath path l l') (q : α → Bool) :
    SameByPath path (l.filter q) (l'.filter q) := by
  intro p
  have hp := congrArg (List.filter q) (h p)
  simpa only [List.filter_filter, Bool.and_comm] using hp

lemma SameByPath.append (h : SameByPath path l l') (m : List α) :
    SameByPath path (l ++ m) (l' ++ m) := by
  intro p
  rw [List.filter_append, List.filter_append, h p]

/-- What comes from files and carries their paths, by path. -/
lemma filter_path_flatMap {name : φ → String} {g : φ → List α} {fs : List φ}
    (hpath : ∀ f ∈ fs, ∀ a ∈ g f, path a = name f) (p : String) :
    (fs.flatMap g).filter (fun a => path a == p)
      = (fs.filter fun f => name f == p).flatMap g := by
  induction fs with
  | nil => rfl
  | cons f fs ih =>
    have hrest := ih fun f' hf' => hpath f' (List.mem_cons_of_mem _ hf')
    have hfirst := hpath f List.mem_cons_self
    rw [List.flatMap_cons, List.filter_append, hrest]
    by_cases hname : name f = p
    · have hall : (g f).filter (fun a => path a == p) = g f :=
        List.filter_eq_self.2 fun a ha => by simp [hfirst a ha, hname]
      rw [hall, List.filter_cons_of_pos (by simpa using hname), List.flatMap_cons]
    · have hnone : (g f).filter (fun a => path a == p) = [] :=
        List.filter_eq_nil_iff.2 fun a ha => by simp [hfirst a ha, hname]
      rw [hnone, List.filter_cons_of_neg (by simpa using hname), List.nil_append]

/-- The order of files does not matter for what carries their paths. -/
lemma sameByPath_flatMap {name : φ → String} {g : φ → List α} {fs fs' : List φ}
    (hperm : fs.Perm fs') (hnames : (fs.map name).Nodup)
    (hpath : ∀ f ∈ fs, ∀ a ∈ g f, path a = name f) :
    SameByPath path (fs.flatMap g) (fs'.flatMap g) := by
  intro p
  -- at most one file has the path
  have hone : fs.filter (fun f => name f == p) = fs'.filter fun f => name f == p := by
    have hpairwise : ∀ m : List φ, m.Pairwise fun _ _ => True := fun m =>
      List.pairwise_of_forall_mem_list fun _ _ _ _ => trivial
    refine List.Perm.eq_of_pairwise ?_ (hpairwise _) (hpairwise _) (hperm.filter _)
    intro f f' hf hf' _ _
    obtain ⟨hmem, hname⟩ := List.mem_filter.1 hf
    obtain ⟨hmem', hname'⟩ := List.mem_filter.1 hf'
    refine List.inj_on_of_nodup_map hnames hmem (hperm.mem_iff.2 hmem') ?_
    rw [beq_iff_eq.1 hname, beq_iff_eq.1 hname']
  have hpath' : ∀ f ∈ fs', ∀ a ∈ g f, path a = name f :=
    fun f hf => hpath f (hperm.mem_iff.2 hf)
  rw [filter_path_flatMap hpath, filter_path_flatMap hpath', hone]

end SameByPath

/-! ## All declarations together -/

section Joint

variable {ds ds' : List Declaration}

lemma Declaration.sort_eq_of_sameByPath (h : SameByPath Declaration.path ds ds') :
    Declaration.sort ds = Declaration.sort ds' := by
  refine mergeSort_eq_of_filter_eq isOrderTest_declarations (fun d d' hle hle' => ?_) h
  exact le_antisymm (Declaration.path_le_of_precedes hle) (Declaration.path_le_of_precedes hle')

lemma mergeParts_eq_of_sameByPath (h : SameByPath Declaration.path ds ds') :
    mergeParts ds = mergeParts ds' := by
  simp only [mergeParts, Declaration.sort_eq_of_sameByPath h]

lemma Placement.countDrafts_eq_of_sameByPath (p : Placement) (heading : RuleHeading) (most : Nat)
    (h : SameByPath Declaration.path ds ds') :
    p.countDrafts heading most ds = p.countDrafts heading most ds' := by
  simp only [countDrafts, Declaration.sort_eq_of_sameByPath (h.filter _)]

namespace Duplication

variable (r : Duplication) (heading : RuleHeading)

lemma candidates_eq_of_sameByPath (h : SameByPath Declaration.path ds ds') :
    r.candidates heading ds = r.candidates heading ds' := by
  have hfound := h.filter (r.applies heading)
  -- the same names occur, and sorting them forgets where they came from
  have hnames : Text.sortedSet ((ds.filter (r.applies heading)).map (·.name))
      = Text.sortedSet ((ds'.filter (r.applies heading)).map (·.name)) := by
    refine Text.sortedSet_congr fun n => ?_
    simp only [List.mem_map, hfound.mem_iff]
  simp only [candidates, Text.groupsBy, List.flatMap_map, hnames]
  -- inside a group the files still come in their order, until its parts are merged
  exact congrArg (List.flatMap · _)
    (funext fun n => mergeParts_eq_of_sameByPath (hfound.filter _))

lemma drafts_eq_of_sameByPath (h : SameByPath Declaration.path ds ds') :
    r.drafts heading ds = r.drafts heading ds' := by
  simp only [drafts, groups, candidates_eq_of_sameByPath r heading h]

end Duplication

lemma Check.jointDrafts_eq_of_sameByPath (c : Check) (heading : RuleHeading)
    (h : SameByPath Declaration.path ds ds') :
    c.jointDrafts heading ds = c.jointDrafts heading ds' := by
  cases c with
  | placement p =>
    simp only [jointDrafts]
    split
    · exact p.countDrafts_eq_of_sameByPath heading _ h
    · rfl
  | duplicate d => exact d.drafts_eq_of_sameByPath heading h
  | nameSpace n => rfl
  | usage u => rfl
  | similarity t => rfl

end Joint

/-! ## Files -/

/-- What a file declares carries its path. -/
def CarriesPath (f : FileDeclarations) : Prop :=
  ∀ d ∈ f.declarations, d.path = f.path

lemma Check.path_of_mem_fileDrafts {c : Check} {heading : RuleHeading} {f : FileDeclarations}
    (hf : CarriesPath f) {x : Draft} (h : x ∈ c.fileDrafts heading f) :
    x.context.path = f.path := by
  -- placements tell the path of a declaration, namespaces and usages that of the file
  cases c with
  | placement p =>
    simp only [fileDrafts] at h
    split_ifs at h
    · obtain ⟨d, hd, hx⟩ := List.mem_filterMap.1 h
      obtain ⟨problem, -, rfl⟩ := Option.map_eq_some_iff.1 hx
      exact hf d (List.mem_of_mem_filter hd)
    · exact absurd h (by simp)
  | nameSpace n =>
    simp only [fileDrafts, NamespaceSpec.drafts] at h
    split_ifs at h
    · exact absurd h (by simp)
    split at h
    · exact absurd h (by simp)
    · split_ifs at h
      · exact absurd h (by simp)
      · obtain rfl := List.mem_singleton.1 h
        rfl
  | usage u =>
    simp only [fileDrafts, Usage.drafts] at h
    split_ifs at h
    · exact absurd h (by simp)
    · obtain ⟨line, -, hline⟩ := List.mem_filterMap.1 h
      obtain ⟨subject, -, rfl⟩ := Option.map_eq_some_iff.1 hline
      rfl
  | duplicate d => exact absurd h (by simp [fileDrafts])
  | similarity t => exact absurd h (by simp [fileDrafts])

namespace RuleSet

variable {specs : List RuleSpec} {s : RuleSet} {files files' : List FileDeclarations}

/-- The path that a draft tells. -/
def draftPath (x : Rule × Draft) : String :=
  x.2.context.path

/-- With the files in another order, the rules find the same with each path. -/
lemma drafts_sameByPath (s : RuleSet) (hfiles : ∀ f ∈ files, CarriesPath f)
    (hpaths : (files.map (·.path)).Nodup) (hperm : files.Perm files') :
    SameByPath draftPath (s.drafts files) (s.drafts files') := by
  have hjoint : s.jointDrafts (files.flatMap (·.declarations))
      = s.jointDrafts (files'.flatMap (·.declarations)) := by
    have hsame : SameByPath Declaration.path (files.flatMap (·.declarations))
        (files'.flatMap (·.declarations)) := sameByPath_flatMap hperm hpaths hfiles
    simp only [jointDrafts, Check.jointDrafts_eq_of_sameByPath _ _ hsame]
  rw [drafts, drafts, hjoint]
  -- what all declarations together give is the same list, so only the files' own drafts move
  refine (sameByPath_flatMap hperm hpaths fun f hf x hx => ?_).append _
  exact Check.path_of_mem_fileDrafts (hfiles f hf) (mem_fileDrafts.1 hx).2

section Orders

variable [Host]

lemma reports_sameByPath [m : Memory] {xs xs' : List (Rule × Draft)}
    (h : SameByPath draftPath xs xs') {vs vs' : List Violation}
    (hvs : xs.mapM Conformance.report = .ok vs)
    (hvs' : xs'.mapM Conformance.report = .ok vs') : SameByPath Violation.path vs vs' := by
  intro p
  have hkeep : ∀ x v, Conformance.report x = .ok v → (v.path == p) = (draftPath x == p) :=
    fun x v hv => congrArg (· == p) (tells_of_report hv).path_eq
  have hpart := mapM_filter_eq_ok hkeep hvs
  have hpart' := mapM_filter_eq_ok hkeep hvs'
  rw [h p] at hpart
  exact Except.ok.inj (hpart.symm.trans hpart')

/-- Violations depend only on what the rules find with each path. -/
lemma evaluate_eq_ok_of_sameByPath [m : Memory]
    (h : SameByPath draftPath (s.drafts files) (s.drafts files'))
    {vs : List Violation} (hvs : s.evaluate files = .ok vs) : s.evaluate files' = .ok vs := by
  rw [evaluate_eq] at hvs ⊢
  obtain ⟨reported, hreported, rfl⟩ := map_eq_ok.1 hvs
  -- the same drafts are worded, so none of the messages fails in the other order
  obtain ⟨reported', hreported'⟩ : ∃ rs, (s.drafts files').mapM Conformance.report = .ok rs :=
    exists_mapM_ok fun x hx => exists_ok_of_mem hreported (h.mem_iff.2 hx)
  have hsort : Violation.sort reported = Violation.sort reported' := by
    refine mergeSort_eq_of_filter_eq isOrderTest_violations (fun v v' hle hle' => ?_)
      (reports_sameByPath h hreported hreported')
    exact le_antisymm (Violation.path_le_of_precedes hle) (Violation.path_le_of_precedes hle')
  rw [hreported', hsort]
  rfl

-- the rules are accepted in one memory, and the files are evaluated in two others
variable {l m n : Memory}

/-- In one and the same memory, violations that come in one order come in another. -/
lemma evaluate_eq_ok_of_perm (hextracted : ∀ f ∈ files, ∃ t, f = extract t f.file)
    (hpaths : (files.map (·.path)).Nodup) (hperm : files.Perm files') {vs : List Violation}
    (hvs : s.evaluate (m := m) files = .ok vs) : s.evaluate (m := m) files' = .ok vs := by
  have hfiles : ∀ f ∈ files, CarriesPath f := by
    intro f hf d hd
    obtain ⟨t, ht⟩ := hextracted f hf
    rw [ht] at hd
    exact path_of_mem_extract hd
  exact evaluate_eq_ok_of_sameByPath (m := m) (s.drafts_sameByPath hfiles hpaths hperm) hvs

/-- An evaluation of files with different paths gives the same violations in whatever order the
files come, with their messages and containers; or it fails in every order, each time in wording a
message whose template asks for more than the types of its fields promise.  So it is if the two
evaluations are in one memory, or if no message shows anything of memory and there is as much room
in the one as in the other.  In any two memories, one of them fails in that way, or both give the
same violations but for the messages that show something of memory. -/
theorem evaluate_perm_or_fails (h : ofSpecs (m := l) specs = .ok s)
    (hextracted : ∀ f ∈ files, ∃ t, f = extract t f.file)
    (hpaths : (files.map (·.path)).Nodup) (hperm : files.Perm files') :
    (s.Unaffected m n →
      (∃ vs, s.evaluate (m := m) files = .ok vs ∧ s.evaluate (m := n) files' = .ok vs) ∨
      ∃ e e', (∃ r ∈ s.rules, r.CanFail (m := m) e) ∧ (∃ r ∈ s.rules, r.CanFail (m := n) e') ∧
        s.evaluate (m := m) files = .error (.template e) ∧
        s.evaluate (m := n) files' = .error (.template e')) ∧
    ((∃ vs vs', s.evaluate (m := m) files = .ok vs ∧ s.evaluate (m := n) files' = .ok vs' ∧
        vs.map s.certain = vs'.map s.certain) ∨
      (∃ e, (∃ r ∈ s.rules, r.CanFail (m := m) e) ∧
        s.evaluate (m := m) files = .error (.template e)) ∨
      ∃ e, (∃ r ∈ s.rules, r.CanFail (m := n) e) ∧
        s.evaluate (m := n) files' = .error (.template e)) := by
  have hextracted' : ∀ f ∈ files', ∃ t, f = extract t f.file :=
    fun f hf => hextracted f (hperm.mem_iff.2 hf)
  have hpaths' : (files'.map (·.path)).Nodup := (hperm.map _).nodup hpaths
  refine ⟨fun hsame => ?_, ?_⟩
  · -- if the violations come in one of the orders, they come in the other as well
    rcases evaluate_ok_or (n := m) h files with ⟨vs, hvs⟩ | ⟨e, he, hfails⟩
    · refine .inl ⟨vs, hvs, ?_⟩
      rw [← evaluate_eq_of_unaffected hsame]
      exact evaluate_eq_ok_of_perm hextracted hpaths hperm hvs
    rcases evaluate_ok_or (n := n) h files' with ⟨vs, hvs⟩ | ⟨e', he', hfails'⟩
    · refine .inl ⟨vs, ?_, hvs⟩
      rw [evaluate_eq_of_unaffected hsame]
      exact evaluate_eq_ok_of_perm hextracted' hpaths' hperm.symm hvs
    · exact .inr ⟨e, e', he, he', hfails, hfails'⟩
  · rcases evaluate_ok_or (n := m) h files with ⟨vs, hvs⟩ | hfails
    · rcases evaluate_ok_or (n := n) h files' with ⟨vs', hvs'⟩ | hfails'
      · have hmoved : s.evaluate (m := m) files' = .ok vs :=
          evaluate_eq_ok_of_perm hextracted hpaths hperm hvs
        exact .inl ⟨vs, vs', hvs, hvs', evaluate_certain hmoved hvs'⟩
      · exact .inr (.inr hfails')
    · exact .inr (.inl hfails)

end Orders

section Plain

attribute [local instance] Host.plain Memory.plain

/-- A rule about names that differ by an ending, with the default wording. -/
def familySpec : RuleSpec :=
  ⟨{ id := "twins" }, .duplicate { suffixes := ["Impl"], requireDistinctSuffixes := true }⟩

/-- A type has parts in two files and its twin in one: what is found does not tell which file came
first. -/
theorem evaluate_perm_or_fails_parts :
    let a := extract Tracker.full ⟨"A.cs", ["public partial class Order \x7b \x7d"]⟩
    let b := extract Tracker.full
      ⟨"B.cs", ["public partial class Order \x7b \x7d", "public class OrderImpl \x7b \x7d"]⟩
    ∃ s, ofSpecs [familySpec] = .ok s ∧
      ∃ vs, s.evaluate [a, b] = .ok vs ∧ s.evaluate [b, a] = .ok vs := by
  intro a b
  let r : Rule := ⟨familySpec.heading, Template.read familySpec.templateText.toList,
    .duplicate ⟨[.type, .interface, .enum], suffixFamily ["Impl"], true, 2, true⟩⟩
  have haccepted : ofSpecs [familySpec] = .ok ⟨[r]⟩ := by decide +kernel
  have hextracted : ∀ f ∈ [a, b], ∃ t, f = extract t f.file := by
    intro f hf
    refine ⟨Tracker.full, ?_⟩
    simp only [List.mem_cons, List.not_mem_nil, or_false] at hf
    rcases hf with rfl | rfl <;> rfl
  refine ⟨⟨[r]⟩, haccepted, ?_⟩
  refine ((evaluate_perm_or_fails haccepted hextracted (by decide) (.swap b a [])).1
    (.inl rfl)).resolve_right ?_
  rintro ⟨e, -, ⟨r', hr', hcan⟩, -⟩
  obtain rfl := List.mem_singleton.1 hr'
  exact Rule.not_canFail (fun _ => le_rfl) (by decide +kernel) e hcan

/-- A rule that lays out the line by a character of the text. -/
def laidOutSpec : RuleSpec :=
  ⟨{ id := "inferred", message := "\x7bline:\x7btext[3]\x7d\x7d" }, .usage { pattern := "var" }⟩

/-- Such a rule is accepted; its message fails for both of two files, and the fault is the one of
the file that comes first. -/
theorem fault_depends_on_file_order :
    let a := extract Tracker.full ⟨"A.cs", ["varq"]⟩
    let b := extract Tracker.full ⟨"B.cs", ["vark"]⟩
    ∃ s, ofSpecs [laidOutSpec] = .ok s ∧
      s.evaluate [a, b] = .error (.template (.unknownPresentation 'q' "int")) ∧
      s.evaluate [b, a] = .error (.template (.unknownPresentation 'k' "int")) := by
  intro a b
  have hfirst : (ofSpecs [laidOutSpec] >>= fun s => s.evaluate [a, b])
      = .error (.template (.unknownPresentation 'q' "int")) := by decide +kernel
  have hsecond : (ofSpecs [laidOutSpec] >>= fun s => s.evaluate [b, a])
      = .error (.template (.unknownPresentation 'k' "int")) := by decide +kernel
  have haccepted : (ofSpecs [laidOutSpec]).toOption.isSome = true := by decide +kernel
  obtain ⟨s, hs⟩ := exists_ok_of_isSome haccepted
  rw [hs, ok_bind] at hfirst hsecond
  exact ⟨s, hs, hfirst, hsecond⟩

end Plain

end RuleSet
end Conformance
