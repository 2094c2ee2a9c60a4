/-
# Duplicates as classes of names

The duplicates of a rule are found by two groupings: declarations of one name are merged if all of
them are parts of one, and what is left is grouped by the base of the names.  Told occurrence by
occurrence, a declaration survives the merging unless it is one of several parts and not the first
of them (`Survives`); and a group is reported just if its base and the survivors with this base
meet the conditions of the rule (`Reported`).  The main statement is `groups_tell_classes`: what is
reported are exactly these classes, with as many copies of each declaration as survive.
-/
import Conformance.Check.Duplicate
import Conformance.Proofs.Report.Conservation

namespace Conformance

open Source

/-! ## Occurrences in a list -/

section Occurrences

variable {α : Type} {keep : List α → α → List α → Bool} {before l : List α}

/-- The values of a list at the places that pass a test.  The test sees what stands before a place
and what stands behind it. -/
def occurrencesFrom (keep : List α → α → List α → Bool) (before : List α) : List α → List α
  | [] => []
  | a :: after =>
    let rest := occurrencesFrom keep (before ++ [a]) after
    if keep before a after then a :: rest else rest

lemma occurrencesFrom_true : occurrencesFrom (fun _ _ _ => true) before l = l := by
  induction l generalizing before with
  | nil => rfl
  | cons a l ih => rw [occurrencesFrom, ih, if_pos rfl]

/-- If the test looks only at values of one sort, the others can be left out. -/
lemma filter_occurrencesFrom (keep' : List α → α → List α → Bool) {p : α → Bool}
    (h : ∀ b a c, before ++ l = b ++ a :: c → p a = true →
      keep b a c = keep' (b.filter p) a (c.filter p)) :
    (occurrencesFrom keep before l).filter p
      = occurrencesFrom keep' (before.filter p) (l.filter p) := by
  induction l generalizing before with
  | nil => rfl
  | cons a l ih =>
    have hrest := @ih (before ++ [a]) fun b x c hsplit => h b x c (by simpa using hsplit)
    rw [List.filter_append] at hrest
    cases hp : p a with
    | true =>
      rw [List.filter_cons_of_pos hp, occurrencesFrom, occurrencesFrom, ← h before a l rfl hp]
      rw [List.filter_cons_of_pos hp, List.filter_nil] at hrest
      split
      · rw [List.filter_cons_of_pos hp, hrest]
      · exact hrest
    | false =>
      have hnot : ¬ p a = true := by simp [hp]
      rw [List.filter_cons_of_neg hnot, occurrencesFrom]
      rw [List.filter_cons_of_neg hnot, List.filter_nil, List.append_nil] at hrest
      split
      · rw [List.filter_cons_of_neg hnot, hrest]
      · exact hrest

/-- A value comes first: it precedes all values behind it, and none before it precedes it. -/
def isFirst (le : α → α → Bool) (before : List α) (a : α) (after : List α) : Bool :=
  before.all (!le · a) && after.all (le a ·)

/-- A value is kept if one of the places at which it stands passes the test. -/
lemma mem_occurrencesFrom {a : α} : a ∈ occurrencesFrom keep before l ↔
    ∃ between after, l = between ++ a :: after ∧ keep (before ++ between) a after = true := by
  induction l generalizing before with
  | nil => simp [occurrencesFrom]
  | cons x l ih =>
    have hmem : a ∈ occurrencesFrom keep before (x :: l) ↔
        (a = x ∧ keep before x l = true) ∨ a ∈ occurrencesFrom keep (before ++ [x]) l := by
      rw [occurrencesFrom]
      by_cases hkeep : keep before x l = true <;> simp [hkeep]
    rw [hmem, ih]
    constructor
    · rintro (⟨rfl, hkeep⟩ | ⟨between, after, rfl, hkeep⟩)
      · exact ⟨[], l, rfl, by rwa [List.append_nil]⟩
      · exact ⟨x :: between, after, rfl, by simpa using hkeep⟩
    · rintro ⟨_ | ⟨y, between⟩, after, hsplit, hkeep⟩
      · obtain ⟨rfl, rfl⟩ := List.cons.inj hsplit
        exact .inl ⟨rfl, by simpa using hkeep⟩
      · obtain ⟨rfl, rfl⟩ := List.cons.inj hsplit
        exact .inr ⟨between, after, rfl, by simpa using hkeep⟩

variable {le : α → α → Bool}

/-- One more value at the front leaves those that it does not precede. -/
lemma occurrencesFrom_isFirst_cons (x : α) :
    occurrencesFrom (isFirst le) (x :: before) l
      = (occurrencesFrom (isFirst le) before l).filter (!le x ·) := by
  induction l generalizing before with
  | nil => rfl
  | cons a l ih =>
    have hfirst : isFirst le (x :: before) a l = (!le x a && isFirst le before a l) := by
      rw [isFirst, List.all_cons, Bool.and_assoc]
      rfl
    rw [occurrencesFrom, occurrencesFrom, List.cons_append, ih, hfirst]
    cases hxa : le x a <;> cases isFirst le before a l <;> simp [hxa]

/-- Exactly one value comes first, and it is the one that a stable sort puts in front. -/
lemma occurrencesFrom_isFirst (h : IsOrderTest le) (l : List α) :
    occurrencesFrom (isFirst le) [] l = (l.mergeSort le).take 1 := by
  induction l with
  | nil => simp [occurrencesFrom]
  | cons x l ih =>
    obtain ⟨smaller, others, hsorted, hrest, hsmaller⟩ :=
      List.mergeSort_cons h.trans h.total x l
    have hmem : ∀ a, a ∈ l ↔ a ∈ smaller ++ others := by
      intro a
      rw [← hrest]
      exact (List.mergeSort_perm l le).mem_iff.symm
    rw [occurrencesFrom, List.nil_append, occurrencesFrom_isFirst_cons, ih, hsorted, hrest]
    cases smaller with
    | nil =>
      -- nothing comes before the new value, so it precedes all
      have hpairwise := List.pairwise_mergeSort h.trans h.total (x :: l)
      rw [hsorted, List.nil_append] at hpairwise
      have hall := (List.pairwise_cons.1 hpairwise).1
      have hfirst : isFirst le [] x l = true := by
        simp only [isFirst, List.all_nil, Bool.true_and, List.all_eq_true]
        exact fun a ha => hall a ((hmem a).1 ha)
      have hnone : (others.take 1).filter (!le x ·) = [] := by
        rw [List.filter_eq_nil_iff]
        intro a ha
        simp [hall a (List.mem_of_mem_take ha)]
      rw [if_pos hfirst, List.nil_append, hnone]
      rfl
    | cons y smaller =>
      have hy : le x y = false := by simpa using hsmaller y List.mem_cons_self
      have hnot : isFirst le [] x l = false := by
        simp only [isFirst, List.all_nil, Bool.true_and, List.all_eq_false]
        exact ⟨y, (hmem y).2 (by simp), by simp [hy]⟩
      rw [hnot]
      simp [hy]

end Occurrences

/-! ## Merging parts -/

/-- An occurrence of a declaration in a list survives the merging of parts: a declaration of its
name is not a part, or it comes first among the declarations of its name. -/
def Survives (before : List Declaration) (d : Declaration) (after : List Declaration) : Prop :=
  (∃ e ∈ before ++ d :: after, e.name = d.name ∧ partialModifier ∉ e.modifiers) ∨
  ((∀ e ∈ before, e.name = d.name → e.precedes d = false) ∧
    ∀ e ∈ after, e.name = d.name → d.precedes e = true)

instance (before : List Declaration) (d : Declaration) (after : List Declaration) :
    Decidable (Survives before d after) :=
  inferInstanceAs (Decidable (_ ∨ _))

/-- The declarations of a list that survive the merging of parts. -/
def survivors (ds : List Declaration) : List Declaration :=
  occurrencesFrom (fun before d after => decide (Survives before d after)) [] ds

lemma mem_of_mem_mergeParts {ds : List Declaration} {d : Declaration} (h : d ∈ mergeParts ds) :
    d ∈ ds := by
  simp only [mergeParts] at h
  split at h
  · exact (List.mergeSort_perm _ _).mem_iff.1 (List.mem_of_mem_take h)
  · exact (List.mergeSort_perm _ _).mem_iff.1 h

lemma mergeParts_perm (ds : List Declaration) (h : ∃ d ∈ ds, partialModifier ∉ d.modifiers) :
    (mergeParts ds).Perm ds := by
  obtain ⟨d, hd, hpart⟩ := h
  have hall : (Declaration.sort ds).all (·.modifiers.contains partialModifier) = false := by
    rw [List.all_eq_false]
    exact ⟨d, (List.mergeSort_perm _ _).mem_iff.2 hd, by simpa using hpart⟩
  simp only [mergeParts, hall, Bool.and_false, Bool.false_eq_true, if_false]
  exact List.mergeSort_perm _ _

lemma mergeParts_eq_take (ds : List Declaration)
    (h : ∀ d ∈ ds, partialModifier ∈ d.modifiers) :
    mergeParts ds = (Declaration.sort ds).take 1 := by
  have hall : (Declaration.sort ds).all (·.modifiers.contains partialModifier) = true := by
    rw [List.all_eq_true]
    intro d hd
    simpa using h d ((List.mergeSort_perm _ _).mem_iff.1 hd)
  simp only [mergeParts, hall, Bool.and_true, decide_eq_true_eq]
  split
  · rfl
  · rename_i hshort
    exact (List.take_of_length_le (by omega)).symm

/-- Of the declarations of one name, those survive that merging leaves. -/
lemma filter_survivors_perm (ds : List Declaration) (name : String) :
    ((survivors ds).filter (·.name == name)).Perm
      (mergeParts (ds.filter (·.name == name))) := by
  have hname : ∀ {d : Declaration}, (d.name == name) = true ↔ d.name = name := beq_iff_eq
  by_cases hpart : ∃ d ∈ ds.filter (·.name == name), partialModifier ∉ d.modifiers
  · -- one that is not a part keeps all of its name
    have hall : (survivors ds).filter (·.name == name) = ds.filter (·.name == name) := by
      rw [survivors, filter_occurrencesFrom fun _ _ _ => true, occurrencesFrom_true]
      intro b a c hsplit ha
      obtain ⟨e, he, hnot⟩ := hpart
      obtain ⟨he, hename⟩ := List.mem_filter.1 he
      refine decide_eq_true (.inl ⟨e, ?_, ?_, hnot⟩)
      · rwa [← hsplit]
      · rw [hname.1 hename, hname.1 ha]
    rw [hall]
    exact (mergeParts_perm _ hpart).symm
  · -- all are parts, and the test for survival is that for coming first
    have hparts : ∀ d ∈ ds, d.name = name → partialModifier ∈ d.modifiers := by
      intro d hd hdname
      by_contra hnot
      exact hpart ⟨d, List.mem_filter.2 ⟨hd, hname.2 hdname⟩, hnot⟩
    have hfirst : (survivors ds).filter (·.name == name)
        = occurrencesFrom (isFirst Declaration.precedes) [] (ds.filter (·.name == name)) := by
      rw [survivors, filter_occurrencesFrom (isFirst Declaration.precedes)]
      · rfl
      intro b a c hsplit ha
      rw [List.nil_append] at hsplit
      rw [Bool.eq_iff_iff, decide_eq_true_eq, Survives, isFirst, Bool.and_eq_true,
        List.all_eq_true, List.all_eq_true]
      simp only [List.mem_filter, Bool.not_eq_true', hname, hname.1 ha, and_imp]
      refine or_iff_right ?_
      rintro ⟨e, he, hename, hnot⟩
      exact hnot (hparts e (hsplit ▸ he) hename)
    rw [hfirst, occurrencesFrom_isFirst isOrderTest_declarations, mergeParts_eq_take]
    · exact List.Perm.refl _
    · intro d hd
      obtain ⟨hd, hdname⟩ := List.mem_filter.1 hd
      exact hparts d hd (hname.1 hdname)

lemma mem_survivors {ds : List Declaration} {d : Declaration} :
    d ∈ survivors ds ↔ ∃ before after, ds = before ++ d :: after ∧ Survives before d after := by
  simp [survivors, mem_occurrencesFrom]

/-! ## Groups -/

/-- Of what is made of the groups of items, each group gives what has its name. -/
lemma Text.filter_flatMap_groupsBy {α : Type} {name : α → String} {f : List α → List α}
    (hf : ∀ l, f l ⊆ l) (items : List α) (n : String) :
    ((groupsBy name items).flatMap fun g => f g.2).filter (name · == n)
      = f (items.filter (name · == n)) := by
  have hself : ∀ m, (f (items.filter (name · == m))).filter (name · == n)
      = if m = n then f (items.filter (name · == n)) else [] := by
    intro m
    have hname : ∀ a ∈ f (items.filter (name · == m)), name a = m := fun a ha =>
      beq_iff_eq.1 (List.mem_filter.1 (hf _ ha)).2
    split
    · rename_i heq
      rw [← heq]
      exact List.filter_eq_self.2 fun a ha => beq_iff_eq.2 (hname a ha)
    · rename_i hne
      refine List.filter_eq_nil_iff.2 fun a ha => ?_
      rw [beq_iff_eq, hname a ha]
      exact hne
  rw [groupsBy, List.flatMap_map, List.filter_flatMap]
  simp only [hself]
  by_cases hmem : n ∈ sortedSet (items.map name)
  · -- no other group has the name, and the groups do not repeat
    obtain ⟨before, after, hsplit⟩ := List.append_of_mem hmem
    have hnodup := sortedSet_nodup (items.map name)
    rw [hsplit] at hnodup ⊢
    have hother : ∀ m ∈ before ++ after, ¬ m = n := by
      rintro m hm rfl
      exact (List.nodup_middle.1 hnodup).notMem hm
    have hnone : ∀ l : List String, (∀ m ∈ l, ¬ m = n) →
        l.flatMap (fun m => if m = n then f (items.filter (name · == n)) else []) = [] := by
      intro l hl
      refine List.flatMap_eq_nil_iff.2 fun m hm => if_neg (hl m hm)
    rw [List.flatMap_append, List.flatMap_cons,
      hnone before fun m hm => hother m (List.mem_append_left _ hm),
      hnone after fun m hm => hother m (List.mem_append_right _ hm)]
    simp
  · have hempty : items.filter (name · == n) = [] := by
      refine List.filter_eq_nil_iff.2 fun a ha hname => hmem ?_
      rw [mem_sortedSet, ← beq_iff_eq.1 hname]
      exact List.mem_map_of_mem ha
    have hnil : f [] = [] := List.subset_nil.1 (hf [])
    rw [hempty, hnil]
    simp

namespace Duplication

variable (r : Duplication) (heading : RuleHeading) (ds : List Declaration)

/-- The declarations that a rule is about: those of its kinds whose names it does not allow. -/
def selected : List Declaration :=
  ds.filter fun d => decide (d.kind ∈ r.kinds ∧ d.name ∉ heading.allowList)

lemma filter_applies : ds.filter (r.applies heading) = r.selected heading ds := by
  refine List.filter_congr fun d _ => ?_
  simp only [applies, RuleHeading.allows, List.contains_eq_mem, Bool.decide_and, decide_not]

/-- The declarations with a base that a rule is about and that survive the merging of parts. -/
def classOf (base : String) : List Declaration :=
  (survivors (r.selected heading ds)).filter fun d => r.baseKey d.name == base

/-- A rule reports the declarations with a base: the base is not allowed, there are enough of them,
not all are visible in their file only, and not all have one suffix, so far as the rule asks for
this. -/
structure Reported (base : String) (members : List Declaration) : Prop where
  not_allowed : base ∉ heading.allowList
  enough : r.minGroup ≤ members.length
  not_fileScoped : r.ignoreFileScoped = true → ∃ d ∈ members, d.fileScoped = false
  suffixes_differ : r.distinctSuffixes = true →
    ∃ d ∈ members, ∃ e ∈ members, r.suffixOf d.name ≠ r.suffixOf e.name

lemma qualifies_iff (base : String) (members : List Declaration) :
    r.qualifies heading base members = true ↔ r.Reported heading base members := by
  have hsuffixes : ¬ (Text.sortedSet (members.map fun d => r.suffixOf d.name)).length < 2 ↔
      ∃ d ∈ members, ∃ e ∈ members, r.suffixOf d.name ≠ r.suffixOf e.name := by
    rw [Text.length_sortedSet, Nat.not_lt, Nat.succ_le_iff, Finset.one_lt_card]
    simp
  have hopen : members.all (·.fileScoped) = false ↔ ∃ d ∈ members, d.fileScoped = false := by
    simp
  simp only [qualifies, Bool.and_eq_true, Bool.not_eq_true', Bool.and_eq_false_iff,
    decide_eq_true_eq, decide_eq_false_iff_not, hopen, hsuffixes, RuleHeading.allows]
  constructor
  · rintro ⟨⟨⟨hbase, henough⟩, hscoped⟩, hdiffer⟩
    exact ⟨by simpa using hbase, henough, fun h => hscoped.resolve_left (by simp [h]),
      fun h => hdiffer.resolve_left (by simp [h])⟩
  · rintro ⟨hbase, henough, hscoped, hdiffer⟩
    refine ⟨⟨⟨by simpa using hbase, henough⟩, ?_⟩, ?_⟩
    · cases h : r.ignoreFileScoped with
      | false => exact .inl rfl
      | true => exact .inr (hscoped h)
    · cases h : r.distinctSuffixes with
      | false => exact .inl rfl
      | true => exact .inr (hdiffer h)

lemma candidates_perm :
    (r.candidates heading ds).Perm (survivors (r.selected heading ds)) := by
  -- the candidates stand by name, the survivors by place; each is counted among those of its name
  rw [List.perm_iff_count]
  intro d
  have hself : (d.name == d.name) = true := beq_self_eq_true _
  have hcount : ∀ es : List Declaration, es.count d = (es.filter (·.name == d.name)).count d :=
    fun es => (List.count_filter (p := fun e : Declaration => e.name == d.name) hself).symm
  rw [hcount, hcount (survivors _), candidates, filter_applies,
    Text.filter_flatMap_groupsBy fun _ _ => mem_of_mem_mergeParts]
  exact ((filter_survivors_perm _ _).count_eq d).symm

lemma filter_candidates_perm (base : String) :
    ((r.candidates heading ds).filter fun d => r.baseKey d.name == base).Perm
      (r.classOf heading ds base) :=
  (r.candidates_perm heading ds).filter _

/-- Survivors come from what the rule is about. -/
lemma selected_of_mem_survivors {d : Declaration}
    (hd : d ∈ survivors (r.selected heading ds)) :
    d ∈ ds ∧ d.kind ∈ r.kinds ∧ d.name ∉ heading.allowList := by
  obtain ⟨before, after, hsplit, -⟩ := mem_survivors.1 hd
  have hmem : d ∈ r.selected heading ds := by
    rw [hsplit]
    exact List.mem_append_right _ List.mem_cons_self
  obtain ⟨hmem, habout⟩ := List.mem_filter.1 hmem
  exact ⟨hmem, of_decide_eq_true habout⟩

variable {r heading ds}

lemma Reported.of_perm {base : String} {members members' : List Declaration}
    (h : r.Reported heading base members) (hperm : members.Perm members') :
    r.Reported heading base members' := by
  refine ⟨h.not_allowed, hperm.length_eq ▸ h.enough, fun hscoped => ?_, fun hdistinct => ?_⟩
  · obtain ⟨d, hd, hopen⟩ := h.not_fileScoped hscoped
    exact ⟨d, hperm.mem_iff.1 hd, hopen⟩
  · obtain ⟨d, hd, e, he, hne⟩ := h.suffixes_differ hdistinct
    exact ⟨d, hperm.mem_iff.1 hd, e, hperm.mem_iff.1 he, hne⟩

/-- A group holds the class of its base, and is reported rightly. -/
lemma of_mem_groups {g : DuplicateGroup} (hg : g ∈ r.groups heading ds) :
    g.members.Pairwise (fun d e => d.precedes e = true) ∧
    g.members.Perm (r.classOf heading ds g.base) ∧
    r.Reported heading g.base (r.classOf heading ds g.base) := by
  obtain ⟨named, hgroup, rfl⟩ := List.mem_map.1 hg
  obtain ⟨hgroup, hqualifies⟩ := List.mem_filter.1 hgroup
  obtain ⟨base, -, rfl⟩ := List.mem_map.1 hgroup
  have hclass := r.filter_candidates_perm heading ds base
  refine ⟨?_, (List.mergeSort_perm _ _).trans hclass, ?_⟩
  · exact List.pairwise_mergeSort isOrderTest_declarations.trans isOrderTest_declarations.total _
  · exact ((r.qualifies_iff heading _ _).1 hqualifies).of_perm hclass

/-- A class that is not empty and that the rule reports has a group. -/
lemma exists_mem_groups {d : Declaration} {base : String} (hd : d ∈ r.classOf heading ds base)
    (hreported : r.Reported heading base (r.classOf heading ds base)) :
    ∃ g ∈ r.groups heading ds, g.base = base := by
  have hclass := r.filter_candidates_perm heading ds base
  obtain ⟨hcandidate, hbase⟩ := List.mem_filter.1 (hclass.mem_iff.2 hd)
  have hname : base ∈ Text.sortedSet ((r.candidates heading ds).map fun e => r.baseKey e.name) :=
    Text.mem_sortedSet.2 (List.mem_map.2 ⟨d, hcandidate, beq_iff_eq.1 hbase⟩)
  have hqualifies := (r.qualifies_iff heading base _).2 (hreported.of_perm hclass.symm)
  exact ⟨_, List.mem_map_of_mem (List.mem_filter.2 ⟨List.mem_map_of_mem hname, hqualifies⟩), rfl⟩

variable (r heading ds)

lemma groups_pairwise : (r.groups heading ds).Pairwise fun g g' => g.base < g'.base := by
  refine List.pairwise_map.2 (List.Pairwise.filter _ ?_)
  exact List.pairwise_map.2 (Text.sortedSet_pairwise _)

/-- Groups tell the classes of bases that a rule reports. -/
structure TellsClasses (gs : List DuplicateGroup) : Prop where
  /-- The bases increase. -/
  bases_increase : gs.Pairwise fun g g' => g.base < g'.base
  /-- The members of a group stand in the order of their places. -/
  members_sorted : ∀ g ∈ gs, g.members.Pairwise fun d e => d.precedes e = true
  /-- A group holds each declaration as often as it survives with the base of the group. -/
  members_perm : ∀ g ∈ gs, g.members.Perm (r.classOf heading ds g.base)
  /-- A declaration is in the group of a base just if the rule is about it, it survives, this is its
  base, and the class of the base is reported. -/
  mem_iff : ∀ base d, (∃ g ∈ gs, g.base = base ∧ d ∈ g.members) ↔
    (d.kind ∈ r.kinds ∧ d.name ∉ heading.allowList) ∧
    (∃ before after, r.selected heading ds = before ++ d :: after ∧
      Survives before d after) ∧
    base = r.baseKey d.name ∧ r.Reported heading base (r.classOf heading ds base)
  /-- No declaration is in two groups. -/
  disjoint : gs.Pairwise fun g g' => g.members.Disjoint g'.members

/-- **The groups of a rule tell exactly the classes of survivors that it reports**, by increasing
bases, with as many copies of each declaration as survive the merging of parts. -/
theorem groups_tell_classes : r.TellsClasses heading ds (r.groups heading ds) := by
  have hmem : ∀ {base : String} {d : Declaration}, d ∈ r.classOf heading ds base ↔
      d ∈ survivors (r.selected heading ds) ∧ r.baseKey d.name = base := by
    simp [classOf]
  refine ⟨r.groups_pairwise heading ds, fun g hg => (of_mem_groups hg).1,
    fun g hg => (of_mem_groups hg).2.1, fun base d => ⟨?_, ?_⟩, ?_⟩
  · rintro ⟨g, hg, rfl, hd⟩
    obtain ⟨-, hperm, hreported⟩ := of_mem_groups hg
    obtain ⟨hsurvives, hbase⟩ := hmem.1 (hperm.mem_iff.1 hd)
    exact ⟨(r.selected_of_mem_survivors heading ds hsurvives).2, mem_survivors.1 hsurvives,
      hbase.symm, hreported⟩
  · rintro ⟨-, hsurvives, hbase, hreported⟩
    have hclass := hmem.2 ⟨mem_survivors.2 hsurvives, hbase.symm⟩
    obtain ⟨g, hg, rfl⟩ := exists_mem_groups hclass hreported
    exact ⟨g, hg, rfl, (of_mem_groups hg).2.1.mem_iff.2 hclass⟩
  · refine (r.groups_pairwise heading ds).imp_of_mem fun {g g'} hg hg' hlt d hd hd' => ?_
    -- a declaration has one base, and the bases of the groups differ
    have hbase := (hmem.1 ((of_mem_groups hg).2.1.mem_iff.1 hd)).2
    have hbase' := (hmem.1 ((of_mem_groups hg').2.1.mem_iff.1 hd')).2
    exact absurd (hbase.symm.trans hbase') (ne_of_lt hlt)

end Duplication

end Conformance
