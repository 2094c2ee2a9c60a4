/-
# Duplicates among more declarations

When declarations are added, no name has fewer survivors of the merging of parts
(`names_survivors_subperm`), so every class of names keeps its size and its suffixes.  What it can
lose is a member that is visible outside its file: if all declarations of a name are parts, the
first of them stands for all, and one that comes in may be the first (`Displaced`).  So a base that
is reported stays reported, unless the rule passes over groups that are visible in their files only
and the new declarations displace every other member (`base_stays_iff`); and this does happen
(`base_hidden_by_part`).
-/
import Conformance.Proofs.Check.DuplicateClasses

namespace Conformance

open Source

/-! ## Survivors -/

section Survivors

variable {ds es : List Declaration}

lemma length_mergeParts_le (ds : List Declaration) : (mergeParts ds).length ≤ ds.length := by
  have hsort : (Declaration.sort ds).length = ds.length := List.length_mergeSort ds
  simp only [mergeParts]
  split
  · exact (List.length_take_le' _ _).trans hsort.le
  · exact hsort.le

lemma length_mergeParts_append (ds es : List Declaration) :
    (mergeParts ds).length ≤ (mergeParts (ds ++ es)).length := by
  by_cases hpart : ∃ d ∈ ds ++ es, partialModifier ∉ d.modifiers
  · -- one that is not a part keeps all
    rw [(mergeParts_perm _ hpart).length_eq, List.length_append]
    exact (length_mergeParts_le ds).trans (Nat.le_add_right _ _)
  · have hparts : ∀ d ∈ ds ++ es, partialModifier ∈ d.modifiers := fun d hd => by
      by_contra hnot
      exact hpart ⟨d, hd, hnot⟩
    have hlength : ∀ cs, (Declaration.sort cs).length = cs.length := fun cs =>
      List.length_mergeSort cs
    rw [mergeParts_eq_take _ hparts,
      mergeParts_eq_take _ fun d hd => hparts d (List.mem_append_left _ hd)]
    simp only [List.length_take, hlength, List.length_append]
    omega

/-- Among more declarations every name has at least as many survivors. -/
lemma names_survivors_subperm (ds es : List Declaration) :
    ((survivors ds).map (·.name)).Subperm ((survivors (ds ++ es)).map (·.name)) := by
  have hcount : ∀ (cs : List Declaration) (name : String),
      ((survivors cs).map (·.name)).count name
        = (mergeParts (cs.filter (·.name == name))).length := by
    intro cs name
    rw [← (filter_survivors_perm cs name).length_eq, List.count, List.countP_map,
      List.countP_eq_length_filter]
    rfl
  rw [List.subperm_ext_iff]
  intro name _
  rw [hcount, hcount, List.filter_append]
  exact length_mergeParts_append _ _

/-- If all declarations of a name are parts, one of them survives, and it precedes them all. -/
lemma exists_first_of_parts {d : Declaration} (hd : d ∈ ds)
    (hparts : ∀ e ∈ ds, e.name = d.name → partialModifier ∈ e.modifiers) :
    ∃ f ∈ survivors ds, f.name = d.name ∧ ∀ e ∈ ds, e.name = d.name → f.precedes e = true := by
  have hmerged : mergeParts (ds.filter (·.name == d.name))
      = (Declaration.sort (ds.filter (·.name == d.name))).take 1 := by
    refine mergeParts_eq_take _ fun e he => ?_
    obtain ⟨he, hname⟩ := List.mem_filter.1 he
    exact hparts e he (beq_iff_eq.1 hname)
  have hsorted := List.pairwise_mergeSort isOrderTest_declarations.trans
    isOrderTest_declarations.total (ds.filter (·.name == d.name))
  have hmem : ∀ {e}, e ∈ Declaration.sort (ds.filter (·.name == d.name)) ↔
      e ∈ ds ∧ e.name = d.name := by
    intro e
    rw [Declaration.sort, (List.mergeSort_perm _ _).mem_iff, List.mem_filter, beq_iff_eq]
  cases hsort : Declaration.sort (ds.filter (·.name == d.name)) with
  | nil => exact absurd (hmem.2 ⟨hd, rfl⟩) (by simp [hsort])
  | cons f rest =>
    rw [hsort, List.take_succ_cons, List.take_zero] at hmerged
    have hf : f ∈ (survivors ds).filter (·.name == d.name) := by
      rw [(filter_survivors_perm ds d.name).mem_iff, hmerged]
      exact List.mem_singleton_self f
    obtain ⟨hf, hname⟩ := List.mem_filter.1 hf
    refine ⟨f, hf, beq_iff_eq.1 hname, fun e he hename => ?_⟩
    rw [show (ds.filter (·.name == d.name)).mergeSort Declaration.precedes = f :: rest from hsort]
      at hsorted
    have he' := hmem.2 ⟨he, hename⟩
    rw [hsort] at he'
    rcases List.mem_cons.1 he' with rfl | he'
    · exact isOrderTest_declarations.refl e
    · exact (List.pairwise_cons.1 hsorted).1 e he'

/-- A survivor is displaced by declarations that come in: all declarations of its name are parts,
and a new one that comes before it now stands for them. -/
structure Displaced (ds es : List Declaration) (d : Declaration) : Prop where
  parts : ∀ e ∈ ds ++ es, e.name = d.name → partialModifier ∈ e.modifiers
  earlier : ∃ e ∈ es, e ∈ survivors (ds ++ es) ∧ e.name = d.name ∧ d.precedes e = false

lemma mem_survivors_or_displaced {d : Declaration} (h : d ∈ survivors ds) (es : List Declaration) :
    d ∈ survivors (ds ++ es) ∨ Displaced ds es d := by
  obtain ⟨before, after, hsplit, hsurvives⟩ := mem_survivors.1 h
  by_cases hstays : Survives before d (after ++ es)
  · exact .inl (mem_survivors.2 ⟨before, after ++ es, by simp [hsplit], hstays⟩)
  obtain ⟨hall, hnotFirst⟩ := not_or.1 hstays
  have hparts : ∀ e ∈ ds ++ es, e.name = d.name → partialModifier ∈ e.modifiers := by
    intro e he hname
    by_contra hnot
    exact hall ⟨e, by simpa [hsplit] using he, hname, hnot⟩
  -- among the old declarations it came first
  obtain ⟨hbefore, hafter⟩ := hsurvives.resolve_left <| by
    rintro ⟨e, he, hname, hnot⟩
    exact hnot (hparts e (List.mem_append_left _ (hsplit ▸ he)) hname)
  obtain ⟨e, he, hename, hlate⟩ : ∃ e ∈ es, e.name = d.name ∧ d.precedes e = false := by
    by_contra hnone
    refine hnotFirst ⟨hbefore, fun e he hname => ?_⟩
    rcases List.mem_append.1 he with he | he
    · exact hafter e he hname
    · exact Bool.eq_true_of_not_eq_false fun hlate => hnone ⟨e, he, hname, hlate⟩
  have hd : d ∈ ds ++ es := by simp [hsplit]
  obtain ⟨f, hf, hfname, hfirst⟩ := exists_first_of_parts hd hparts
  have hflate : d.precedes f = false := by
    refine Bool.eq_false_of_not_eq_true fun hdf => ?_
    have hfe := hfirst e (List.mem_append_right _ he) hename
    exact absurd (isOrderTest_declarations.trans _ _ _ hdf hfe) (by simp [hlate])
  refine .inr ⟨hparts, f, ?_, hf, hfname, hflate⟩
  obtain ⟨_, _, hfsplit, -⟩ := mem_survivors.1 hf
  have hfmem : f ∈ ds ++ es := by simp [hfsplit]
  refine (List.mem_append.1 hfmem).resolve_left fun hold => ?_
  -- no old declaration of the name comes before it
  rw [hsplit] at hold
  rcases List.mem_append.1 hold with hold | hold
  · exact absurd (hfirst d hd rfl) (by simp [hbefore f hold hfname])
  · rcases List.mem_cons.1 hold with rfl | hold
    · exact absurd (isOrderTest_declarations.refl f) (by simp [hflate])
    · exact absurd (hafter f hold hfname) (by simp [hflate])

end Survivors

namespace Duplication

variable {r : Duplication} {heading : RuleHeading} {ds : List Declaration} {base : String}

/-! ## Classes -/

lemma mem_classOf {d : Declaration} : d ∈ r.classOf heading ds base ↔
    d ∈ survivors (ds.filter (r.applies heading)) ∧ r.baseKey d.name = base := by
  simp [classOf, filter_applies]

/-- A base is reported just if its class is not empty and the rule reports it. -/
lemma mem_bases_iff : base ∈ (r.groups heading ds).map (·.base) ↔
    r.classOf heading ds base ≠ [] ∧ r.Reported heading base (r.classOf heading ds base) := by
  constructor
  · intro h
    obtain ⟨g, hg, rfl⟩ := List.mem_map.1 h
    refine ⟨?_, (of_mem_groups hg).2.2⟩
    obtain ⟨named, hnamed, rfl⟩ := List.mem_map.1 hg
    obtain ⟨b, hb, rfl⟩ := List.mem_map.1 (List.mem_of_mem_filter hnamed)
    -- a base stands in the list of groups because some candidate has it
    obtain ⟨d, hd, hbase⟩ := List.mem_map.1 (Text.mem_sortedSet.1 hb)
    have hsurvives := (r.candidates_perm heading ds).mem_iff.1 hd
    rw [← filter_applies] at hsurvives
    have hclass : d ∈ r.classOf heading ds b := mem_classOf.2 ⟨hsurvives, hbase⟩
    exact List.ne_nil_of_mem hclass
  · rintro ⟨hne, hreported⟩
    obtain ⟨d, hd⟩ := List.exists_mem_of_ne_nil _ hne
    obtain ⟨g, hg, hbase⟩ := exists_mem_groups hd hreported
    exact List.mem_map.2 ⟨g, hg, hbase⟩

lemma names_classOf_subperm (r : Duplication) (heading : RuleHeading) (base : String)
    (ds es : List Declaration) :
    ((r.classOf heading ds base).map (·.name)).Subperm
      ((r.classOf heading (ds ++ es) base).map (·.name)) := by
  have hnames : ∀ cs : List Declaration, (r.classOf heading cs base).map (·.name)
      = ((survivors (cs.filter (r.applies heading))).map (·.name)).filter
          fun name => r.baseKey name == base := by
    intro cs
    rw [filter_applies, List.filter_map]
    rfl
  rw [hnames, hnames, List.filter_append]
  exact (names_survivors_subperm _ _).filter _

/-- A member of a class stays in it, or it is displaced by what comes in. -/
lemma mem_classOf_or_displaced {d : Declaration} (hd : d ∈ r.classOf heading ds base)
    (es : List Declaration) : d ∈ r.classOf heading (ds ++ es) base ∨
      Displaced (ds.filter (r.applies heading)) (es.filter (r.applies heading)) d := by
  obtain ⟨hsurvives, hbase⟩ := mem_classOf.1 hd
  refine (mem_survivors_or_displaced hsurvives (es.filter (r.applies heading))).imp_left ?_
  rw [← List.filter_append]
  exact fun hstays => mem_classOf.2 ⟨hstays, hbase⟩

/-- Declarations that come in hide a base: the rule passes over groups that are visible in their
files only, and the base is left with such declarations, because every other member is displaced by
a part that is visible in its file only. -/
structure Hides (r : Duplication) (heading : RuleHeading) (ds es : List Declaration)
    (base : String) : Prop where
  ignores : r.ignoreFileScoped = true
  fileScoped : ∀ d ∈ r.classOf heading (ds ++ es) base, d.fileScoped = true
  displaced : ∀ d ∈ r.classOf heading ds base, d.fileScoped = false →
    (∀ e ∈ ds ++ es, r.applies heading e = true → e.name = d.name →
      partialModifier ∈ e.modifiers) ∧
    ∃ e ∈ es, r.applies heading e = true ∧ e.name = d.name ∧ e.fileScoped = true ∧
      d.precedes e = false

/-- A reported class that grows is reported, or what comes in hides its base. -/
lemma reported_append_or_hides (h : r.Reported heading base (r.classOf heading ds base))
    (es : List Declaration) :
    r.Reported heading base (r.classOf heading (ds ++ es) base) ∨ r.Hides heading ds es base := by
  have hnames := r.names_classOf_subperm heading base ds es
  by_cases hopen : r.ignoreFileScoped = true →
      ∃ d ∈ r.classOf heading (ds ++ es) base, d.fileScoped = false
  · refine .inl ⟨h.not_allowed, ?_, hopen, fun hdistinct => ?_⟩
    · have hlength := hnames.length_le
      rw [List.length_map, List.length_map] at hlength
      exact h.enough.trans hlength
    · obtain ⟨d, hd, e, he, hne⟩ := h.suffixes_differ hdistinct
      obtain ⟨d', hd', hdname⟩ := List.mem_map.1 (hnames.subset (List.mem_map_of_mem hd))
      obtain ⟨e', he', hename⟩ := List.mem_map.1 (hnames.subset (List.mem_map_of_mem he))
      exact ⟨d', hd', e', he', by rwa [hdname, hename]⟩
  · obtain ⟨hignores, hclosed⟩ := Classical.not_imp.1 hopen
    have hfileScoped : ∀ d ∈ r.classOf heading (ds ++ es) base, d.fileScoped = true := by
      intro d hd
      exact Bool.eq_true_of_not_eq_false fun hd' => hclosed ⟨d, hd, hd'⟩
    refine .inr ⟨hignores, hfileScoped, fun d hd hdopen => ?_⟩
    obtain ⟨hparts, e, he, hstays, hename, hlate⟩ := (mem_classOf_or_displaced hd es).resolve_left
      fun hstays => hclosed ⟨d, hstays, hdopen⟩
    rw [← List.filter_append] at hparts hstays
    obtain ⟨he, heapplies⟩ := List.mem_filter.1 he
    have hclass : e ∈ r.classOf heading (ds ++ es) base :=
      mem_classOf.2 ⟨hstays, by rw [hename]; exact (mem_classOf.1 hd).2⟩
    exact ⟨fun f hf hfapplies => hparts f (List.mem_filter.2 ⟨hf, hfapplies⟩),
      e, he, heapplies, hename, hfileScoped e hclass, hlate⟩

/-- **Added declarations never hide a base that is reported, except by displacing parts.**  They do
so exactly if the rule passes over groups that are visible in their files only, and parts that are
so displace every other member. -/
theorem base_stays_iff (h : base ∈ (r.groups heading ds).map (·.base)) (es : List Declaration) :
    base ∈ (r.groups heading (ds ++ es)).map (·.base) ↔ ¬ r.Hides heading ds es base := by
  obtain ⟨hne, hreported⟩ := mem_bases_iff.1 h
  constructor
  · intro hstays hides
    obtain ⟨d, hd, hopen⟩ := (mem_bases_iff.1 hstays).2.not_fileScoped hides.ignores
    exact absurd (hides.fileScoped d hd) (by simp [hopen])
  · intro hnot
    refine mem_bases_iff.2 ⟨fun hempty => hne ?_, ?_⟩
    · have hlength := (r.names_classOf_subperm heading base ds es).length_le
      rw [hempty, List.length_map, List.map_nil, List.length_nil] at hlength
      exact List.eq_nil_of_length_eq_zero (Nat.le_zero.1 hlength)
    · exact (reported_append_or_hides hreported es).resolve_right hnot

/-! ### Parts of one class in several files -/

/-- A rule about names that differ by an ending. -/
def endingSpec : DuplicateSpec :=
  { suffixes := ["Impl"], requireDistinctSuffixes := true }

/-- The rule when it is accepted. -/
def endingCheck : Duplication :=
  ⟨[.type, .interface, .enum], suffixFamily ["Impl"], true, 2, true⟩

/-- A part of a class, in a file of its own. -/
def partIn (path visibility : String) : List Declaration :=
  (extract Tracker.full ⟨path, [visibility ++ " partial class Order \x7b \x7d"]⟩).declarations

/-- The twin of the class, visible in its file only. -/
def closedTwin : List Declaration :=
  (extract Tracker.full ⟨"C.cs", ["file class OrderImpl \x7b \x7d"]⟩).declarations

/-- A class, as it is declared in the first line of a file. -/
def declaredClass (path name : String) (column : Int) (modifiers : List String) : Declaration :=
  { kind := .type, name, path, line := 1, column, modifiers,
    fileScoped := modifiers.contains fileModifier }

lemma partIn_eq {path visibility : String}
    (h : (path, visibility) ∈ [("A.cs", "public"), ("A.cs", "file"), ("B.cs", "public")]) :
    partIn path visibility
      = [declaredClass path "Order" (visibility.length + 15) [visibility, partialModifier]] := by
  have hall : ∀ x ∈ [("A.cs", "public"), ("A.cs", "file"), ("B.cs", "public")], partIn x.1 x.2
      = [declaredClass x.1 "Order" (x.2.length + 15) [x.2, partialModifier]] := by
    decide +kernel
  exact hall (path, visibility) h

lemma closedTwin_eq : closedTwin = [declaredClass "C.cs" "OrderImpl" 11 ["file"]] := by
  decide +kernel

/-- The class and its twin in another file are reported. -/
lemma order_mem_groups :
    "Order" ∈ (endingCheck.groups { id := "twins" } (partIn "B.cs" "public" ++ closedTwin)).map
      (·.base) := by
  rw [partIn_eq (by decide), closedTwin_eq, mem_bases_iff]
  exact ⟨by decide +kernel, by decide +kernel, by decide +kernel, fun _ => by decide +kernel,
    fun _ => by decide +kernel⟩

/-- Another part that is visible everywhere leaves the class and its twin a group, though it comes
first. -/
theorem base_stays_iff_public :
    "Order" ∈ (endingCheck.groups { id := "twins" } (partIn "B.cs" "public" ++ closedTwin)).map
      (·.base) ∧
    "Order" ∈ (endingCheck.groups { id := "twins" }
      (partIn "B.cs" "public" ++ closedTwin ++ partIn "A.cs" "public")).map (·.base) := by
  refine ⟨order_mem_groups, (base_stays_iff order_mem_groups _).2 fun hides => ?_⟩
  have hopen : ∃ d ∈ endingCheck.classOf { id := "twins" }
      (partIn "B.cs" "public" ++ closedTwin ++ partIn "A.cs" "public") "Order",
      d.fileScoped = false := by
    rw [partIn_eq (by decide), closedTwin_eq, partIn_eq (by decide)]
    decide +kernel
  obtain ⟨d, hd, hopen⟩ := hopen
  exact absurd (hides.fileScoped d hd) (by simp [hopen])

/-- A part that is visible in its file only and comes first stands for the class, and then the class
and its twin are passed over. -/
theorem base_hidden_by_part :
    endingSpec.compile "twins" = .ok endingCheck ∧
    "Order" ∈ (endingCheck.groups { id := "twins" } (partIn "B.cs" "public" ++ closedTwin)).map
      (·.base) ∧
    "Order" ∉ (endingCheck.groups { id := "twins" }
      (partIn "B.cs" "public" ++ closedTwin ++ partIn "A.cs" "file")).map (·.base) := by
  refine ⟨by decide +kernel, order_mem_groups, fun hstays => ?_⟩
  have hclosed : ∀ d ∈ endingCheck.classOf { id := "twins" }
      (partIn "B.cs" "public" ++ closedTwin ++ partIn "A.cs" "file") "Order",
      d.fileScoped = true := by
    rw [partIn_eq (by decide), closedTwin_eq, partIn_eq (by decide)]
    decide +kernel
  obtain ⟨d, hd, hopen⟩ := (mem_bases_iff.1 hstays).2.not_fileScoped rfl
  exact absurd (hclosed d hd) (by simp [hopen])

end Duplication

end Conformance
