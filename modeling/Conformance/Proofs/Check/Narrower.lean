/-
# Findings under a longer allow-list

An allow-list that grows takes findings away and adds none.  For most rules this is plain, since the
list is asked about each declaration, line or file by itself.  Upper bounds and duplicates look at
several declarations at once: there the reasons and the sizes of groups change, and what does not is
the place and the name of a finding (`Draft.place`).  So the drafts about a file become a sublist
(`Check.fileDrafts_sublist`), and the places of the drafts about all declarations a part of what
they were (`Check.jointDrafts_subperm`).
-/
import Conformance.Proofs.Check.Draft

namespace Conformance
open Source

/-- What a heading allows, another allows too. -/
def RuleHeading.Within (h h' : RuleHeading) : Prop :=
  ∀ name, h.allows name = true → h'.allows name = true

lemma RuleHeading.Within.allows_eq_false {h h' : RuleHeading} (hwithin : h.Within h')
    {name : String} (hname : h'.allows name = false) : h.allows name = false :=
  Bool.eq_false_iff.2 fun hallows => by simp [hwithin _ hallows] at hname

/-- The path, the line and the name of a finding. -/
def Draft.place (d : Draft) : String × Int × String :=
  (d.context.path, d.context.line, d.context.name)

/-- The path, the line and the name of a declaration. -/
def Source.Declaration.place (d : Declaration) : String × Int × String :=
  (d.path, d.line, d.name)

/-! ## Parts of lists -/

section Lists

variable {α β γ : Type}

lemma filterMap_sublist_filterMap {f g : α → Option β} (h : ∀ a b, f a = some b → g a = some b)
    (l : List α) : (l.filterMap f).Sublist (l.filterMap g) := by
  induction l with
  | nil => exact List.Sublist.refl _
  | cons a l ih =>
    cases hf : f a with
    | none =>
      rw [List.filterMap_cons_none hf]
      cases hg : g a with
      | none => rwa [List.filterMap_cons_none hg]
      | some b =>
        rw [List.filterMap_cons_some hg]
        exact ih.cons b
    | some b =>
      rw [List.filterMap_cons_some hf, List.filterMap_cons_some (h a b hf)]
      exact ih.cons_cons b

lemma subperm_map {l l' : List α} (h : l.Subperm l') (f : α → β) :
    (l.map f).Subperm (l'.map f) := by
  obtain ⟨k, hperm, hsub⟩ := h
  exact ⟨k.map f, hperm.map f, hsub.map f⟩

/-- A part of a list, with a part of what is made of each item. -/
lemma subperm_flatMap {f g : α → List β} {l l' : List α} (hl : l.Subperm l')
    (hfg : ∀ a ∈ l, (f a).Subperm (g a)) : (l.flatMap f).Subperm (l'.flatMap g) := by
  obtain ⟨k, hperm, hsub⟩ := hl
  have hk : ∀ a ∈ k, (f a).Subperm (g a) := fun a ha => hfg a (hperm.mem_iff.1 ha)
  refine ((hperm.symm.flatMap_right f).subperm).trans ?_
  clear hperm hfg
  induction hsub with
  | slnil => exact List.Subperm.refl _
  | cons a _ ih =>
    rw [List.flatMap_cons]
    exact (ih hk).trans (List.sublist_append_right _ _).subperm
  | cons_cons a _ ih =>
    rw [List.flatMap_cons, List.flatMap_cons]
    exact (hk a List.mem_cons_self).append (ih fun b hb => hk b (List.mem_cons_of_mem _ hb))

/-- A part of some items, with a part of what is made of each group of them. -/
lemma subperm_groupsBy {name : α → String} {f g : String × List α → List β} {items' items : List α}
    (hitems : items' ⊆ items)
    (hfg : ∀ a ∈ items', (f (name a, items'.filter fun b => name b == name a)).Subperm
      (g (name a, items.filter fun b => name b == name a))) :
    ((Text.groupsBy name items').flatMap f).Subperm ((Text.groupsBy name items).flatMap g) := by
  rw [Text.groupsBy, Text.groupsBy, List.flatMap_map, List.flatMap_map]
  refine subperm_flatMap ((Text.sortedSet_nodup _).subperm ?_) ?_
  · intro n hn
    obtain ⟨a, ha, rfl⟩ := List.mem_map.1 (Text.mem_sortedSet.1 hn)
    exact Text.mem_sortedSet.2 (List.mem_map_of_mem (hitems ha))
  · intro n hn
    obtain ⟨a, ha, rfl⟩ := List.mem_map.1 (Text.mem_sortedSet.1 hn)
    exact hfg a ha

end Lists

variable {h h' : RuleHeading}

/-! ## Single declarations, lines and files -/

namespace Placement

lemma applies_of_within (hwithin : h.Within h') {p : Placement} {d : Declaration}
    (hd : p.applies h' d = true) : p.applies h d = true := by
  simp only [applies, Bool.and_eq_true, Bool.not_eq_true'] at hd ⊢
  obtain ⟨⟨⟨hkind, hname⟩, hqualified⟩, hpattern⟩ := hd
  exact ⟨⟨⟨hkind, hwithin.allows_eq_false hname⟩, hwithin.allows_eq_false hqualified⟩, hpattern⟩

lemma drafts_sublist (hwithin : h.Within h') (p : Placement) (ds : List Declaration) :
    (p.drafts h' ds).Sublist (p.drafts h ds) :=
  (List.monotone_filter_right ds fun _ hd => applies_of_within hwithin hd).filterMap _

/-- Above the bound every declaration is reported, whatever their number. -/
lemma countDrafts_subperm (hwithin : h.Within h') (p : Placement) (most : Nat)
    (ds : List Declaration) :
    ((p.countDrafts h' most ds).map Draft.place).Subperm
      ((p.countDrafts h most ds).map Draft.place) := by
  have hfound : (Declaration.sort (ds.filter (p.applies h'))).Subperm
      (Declaration.sort (ds.filter (p.applies h))) := by
    refine (List.mergeSort_perm _ _).subperm.trans ?_
    refine (List.monotone_filter_right ds fun _ hd => applies_of_within hwithin hd).subperm.trans ?_
    exact (List.mergeSort_perm _ _).symm.subperm
  simp only [countDrafts]
  by_cases hfew : (Declaration.sort (ds.filter (p.applies h'))).length ≤ most
  · rw [if_pos hfew]
    exact List.nil_subperm
  · have hmany : ¬(Declaration.sort (ds.filter (p.applies h))).length ≤ most :=
      fun hle => hfew (hfound.length_le.trans hle)
    rw [if_neg hfew, if_neg hmany, List.map_map, List.map_map]
    exact subperm_map hfound Declaration.place

end Placement

lemma NamespaceSpec.drafts_sublist (hwithin : h.Within h') (n : NamespaceSpec)
    (f : FileDeclarations) : (n.drafts h' f).Sublist (n.drafts h f) := by
  simp only [drafts]
  split
  · exact List.Sublist.refl _
  split
  · exact List.Sublist.refl _
  · split
    · exact List.nil_sublist _
    · rename_i hnot
      simp only [Bool.or_eq_true, not_or, Bool.not_eq_true] at hnot
      obtain ⟨⟨hexpected, hfound⟩, hpath⟩ := hnot
      rw [if_neg (by simp [hexpected, hwithin.allows_eq_false hfound,
        hwithin.allows_eq_false hpath])]

lemma Usage.drafts_sublist (hwithin : h.Within h') (u : Usage) (f : FileDeclarations) :
    (u.drafts h' f).Sublist (u.drafts h f) := by
  have hsubject : ∀ line subject, u.subject? h' line = some subject →
      u.subject? h line = some subject := by
    intro line subject hline
    unfold subject? at hline ⊢
    split at hline
    · exact absurd hline (by simp)
    · rename_i hcomment
      rw [if_neg hcomment]
      rw [Option.filter_eq_some_iff] at hline ⊢
      exact ⟨hline.1, by simpa using hwithin.allows_eq_false (by simpa using hline.2)⟩
  simp only [drafts]
  split
  · exact List.Sublist.refl _
  · refine filterMap_sublist_filterMap ?_ _
    intro x draft hdraft
    obtain ⟨subject, hx, rfl⟩ := Option.map_eq_some_iff.1 hdraft
    rw [hsubject x.1 subject hx]
    rfl

/-! ## Duplicates -/

namespace Duplication

lemma applies_of_within (hwithin : h.Within h') {r : Duplication} {d : Declaration}
    (hd : r.applies h' d = true) : r.applies h d = true := by
  simp only [applies, Bool.and_eq_true, Bool.not_eq_true'] at hd ⊢
  exact ⟨hd.1, hwithin.allows_eq_false hd.2⟩

/-- A name that counts keeps all its declarations: parts are merged as before. -/
lemma candidates_subperm (hwithin : h.Within h') (r : Duplication) (ds : List Declaration) :
    (r.candidates h' ds).Subperm (r.candidates h ds) := by
  refine subperm_groupsBy ?_ fun d hd => ?_
  · exact (List.monotone_filter_right ds fun _ hd => applies_of_within hwithin hd).subset
  · have hname : h'.allows d.name = false := by
      have happlies := (List.mem_filter.1 hd).2
      simp only [applies, Bool.and_eq_true, Bool.not_eq_true'] at happlies
      exact happlies.2
    have hsame : (ds.filter (r.applies h')).filter (fun e => e.name == d.name)
        = (ds.filter (r.applies h)).filter fun e => e.name == d.name := by
      rw [List.filter_filter, List.filter_filter]
      refine List.filter_congr fun e _ => ?_
      by_cases he : e.name = d.name
      · simp [applies, he, hname, hwithin.allows_eq_false hname]
      · rw [beq_eq_false_iff_ne.2 he, Bool.false_and, Bool.false_and]
    rw [hsame]

lemma qualifies_of_subperm (hwithin : h.Within h') {r : Duplication} {base : String}
    {members members' : List Declaration} (hmembers : members'.Subperm members)
    (hqualifies : r.qualifies h' base members' = true) : r.qualifies h base members = true := by
  simp only [qualifies, Bool.and_eq_true, Bool.not_eq_true', decide_eq_true_eq,
    Bool.and_eq_false_iff, decide_eq_false_iff_not, not_lt] at hqualifies ⊢
  obtain ⟨⟨⟨hbase, hlength⟩, hscoped⟩, hsuffixes⟩ := hqualifies
  refine ⟨⟨⟨hwithin.allows_eq_false hbase, hlength.trans hmembers.length_le⟩, ?_⟩, ?_⟩
  · refine hscoped.imp_right fun hsome => ?_
    rw [List.all_eq_false] at hsome ⊢
    obtain ⟨d, hd, hopen⟩ := hsome
    exact ⟨d, hmembers.subset hd, hopen⟩
  · refine hsuffixes.imp_right fun hmany => hmany.trans ?_
    rw [Text.length_sortedSet, Text.length_sortedSet]
    refine Finset.card_le_card fun suffix hsuffix => ?_
    rw [List.mem_toFinset] at hsuffix ⊢
    exact List.map_subset _ hmembers.subset hsuffix

/-- The places of duplicates, group by group. -/
lemma places_drafts (r : Duplication) (heading : RuleHeading) (ds : List Declaration) :
    (r.drafts heading ds).map Draft.place
      = (Text.groupsBy (fun d => r.baseKey d.name) (r.candidates heading ds)).flatMap fun g =>
          if r.qualifies heading g.1 g.2 then (Declaration.sort g.2).map Declaration.place
          else [] := by
  rw [drafts, groups]
  induction Text.groupsBy (fun d => r.baseKey d.name) (r.candidates heading ds) with
  | nil => rfl
  | cons g gs ih =>
    rw [List.flatMap_cons, ← ih]
    by_cases hg : r.qualifies heading g.1 g.2 = true
    · rw [List.filter_cons, if_pos hg, if_pos hg, List.map_cons, List.flatMap_cons, List.map_append,
        groupDrafts, List.map_map]
      rfl
    · rw [List.filter_cons, if_neg hg, if_neg hg, List.nil_append]

lemma drafts_subperm (hwithin : h.Within h') (r : Duplication) (ds : List Declaration) :
    ((r.drafts h' ds).map Draft.place).Subperm ((r.drafts h ds).map Draft.place) := by
  have hcandidates := r.candidates_subperm hwithin ds
  rw [places_drafts, places_drafts]
  refine subperm_groupsBy hcandidates.subset fun d _ => ?_
  have hmembers := hcandidates.filter fun e => r.baseKey e.name == r.baseKey d.name
  dsimp only
  split
  · rename_i hqualifies
    rw [if_pos (qualifies_of_subperm hwithin hmembers hqualifies)]
    refine subperm_map ?_ Declaration.place
    exact (List.mergeSort_perm _ _).subperm.trans
      (hmembers.trans (List.mergeSort_perm _ _).symm.subperm)
  · exact List.nil_subperm

end Duplication

namespace Check

lemma fileDrafts_sublist (hwithin : h.Within h') (c : Check) (f : FileDeclarations) :
    (c.fileDrafts h' f).Sublist (c.fileDrafts h f) := by
  cases c with
  | placement p =>
    simp only [fileDrafts]
    split
    · exact p.drafts_sublist hwithin f.declarations
    · exact List.Sublist.refl _
  | nameSpace n => exact n.drafts_sublist hwithin f
  | usage u => exact u.drafts_sublist hwithin f
  | duplicate d => exact List.Sublist.refl _
  | similarity t => exact List.Sublist.refl _

lemma jointDrafts_subperm (hwithin : h.Within h') (c : Check) (ds : List Declaration) :
    ((c.jointDrafts h' ds).map Draft.place).Subperm ((c.jointDrafts h ds).map Draft.place) := by
  cases c with
  | placement p =>
    simp only [jointDrafts]
    split
    · exact p.countDrafts_subperm hwithin _ ds
    · exact List.Subperm.refl _
  | duplicate d => exact d.drafts_subperm hwithin ds
  | nameSpace n => exact List.Subperm.refl _
  | usage u => exact List.Subperm.refl _
  | similarity t => exact List.Subperm.refl _

end Check
end Conformance
