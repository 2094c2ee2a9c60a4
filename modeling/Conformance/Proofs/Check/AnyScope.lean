/-
# Following only the containers that rules are about

A rule set says which containers its placement rules are about.  Following only these leaves out
containers of declarations.  Where the rules look at every container of a declaration, and not at
the innermost only, none is missed: what is found, where, and for which reason is the same, and so
is a container that must not enclose the declaration.  The container that other findings tell can
be left out (`RuleSet.evaluate_containerFilter`), so that a message that takes its first character
fails (`RuleSet.message_fails_without_followed_container`).
-/
import Conformance.Proofs.Check.Wording
import Conformance.Proofs.Source.Located

namespace Conformance
open Source

/-! ## Findings that differ in their containers -/

/-- The start of the reason for a finding inside a forbidden container. -/
def forbiddenStart : String := "must not be declared inside "

/-- A reason is that a container must not enclose a declaration. -/
def ForbidsContainer (reason : String) : Prop :=
  ∃ label, reason = forbiddenStart ++ label

lemma not_forbidsContainer {start : String} (rest : String) (n : Nat)
    (hn : n ≤ start.length ∧ n ≤ forbiddenStart.length)
    (hne : start.toList.take n ≠ forbiddenStart.toList.take n) :
    ¬ ForbidsContainer (start ++ rest) := by
  rintro ⟨label, hlabel⟩
  have htexts := congrArg (fun s => s.toList.take n) hlabel
  simp only [String.toList_append] at htexts
  rw [List.take_append_of_le_length (String.length_toList ▸ hn.1),
    List.take_append_of_le_length (String.length_toList ▸ hn.2)] at htexts
  exact hne htexts

/-- Two drafts are alike but for the container, which they share if it is forbidden. -/
structure Draft.Matches (x y : Draft) : Prop where
  context_eq : { x.context with container := y.context.container } = y.context
  own_eq : x.own = y.own
  container_eq : ForbidsContainer y.context.reason → x.context.container = y.context.container

lemma Draft.Matches.refl (x : Draft) : x.Matches x :=
  ⟨rfl, rfl, fun _ => rfl⟩

lemma forall₂_matches_refl (xs : List Draft) : List.Forall₂ Draft.Matches xs xs :=
  List.forall₂_same.2 fun x _ => .refl x

/-- Findings about a declaration, with some of its containers left out, for a reason that forbids
no container. -/
lemma Draft.Matches.ofDeclaration {d : Declaration} {keep : Frame → Bool} {reason : String}
    {f g : Option Frame} (h : ForbidsContainer reason → f = g) (own : FieldValues) :
    Draft.Matches ⟨.ofDeclaration (d.restricted keep) reason f, own⟩
      ⟨.ofDeclaration d reason g, own⟩ :=
  ⟨rfl, rfl, h⟩

section Restricted

variable {keep : Frame → Bool}

/-! ## Placements -/

namespace Placement

/-- A test spares what a rule is about: the rule looks at every container, and the test keeps
those that it names. -/
structure SparedBy (p : Placement) (keep : Frame → Bool) : Prop where
  anyScope : p.namesContainers = true → p.anyScope = true
  keeps : p.namesContainers = true → ∀ f : Frame, p.concerns f.kind f.name = true → keep f = true

variable {p : Placement}

lemma frames_restricted (h : p.anyScope = true) (d : Declaration) :
    p.frames (d.restricted keep) = (p.frames d).filter keep := by
  have hancestors : (d.restricted keep).ancestors = d.ancestors.filter keep := rfl
  simp only [frames, h, hancestors, if_true]
  cases p.containers with
  | none => rfl
  | some pattern => simp only [List.filter_filter, Bool.and_comm]

/-- A container that counts and has a kind that is named is one that the rule is about. -/
lemma concerns_of_mem_frames {d : Declaration} {f : Frame} (hf : f ∈ p.frames d)
    (hkind : p.required.contains f.kind = true ∨ p.forbidden.contains f.kind = true) :
    p.concerns f.kind f.name = true := by
  have hnamed : (p.required.contains f.kind || p.forbidden.contains f.kind) = true :=
    Bool.or_eq_true _ _ ▸ hkind
  simp only [frames] at hf
  simp only [concerns, hnamed, Bool.true_and]
  cases hpattern : p.containers with
  | none => rfl
  | some pattern =>
    rw [hpattern] at hf
    exact (List.mem_filter.1 hf).2

/-- Containers of a kind that a rule names are not left out. -/
lemma filter_frames_restricted (h : p.SparedBy keep) {kinds : List ContainerKind}
    (hkinds : kinds = p.required ∨ kinds = p.forbidden) (d : Declaration) :
    (p.frames (d.restricted keep)).filter (fun f => kinds.contains f.kind)
      = (p.frames d).filter fun f => kinds.contains f.kind := by
  by_cases hempty : kinds = []
  · simp [hempty]
  have hnames : p.namesContainers = true := by
    rcases hkinds with rfl | rfl <;> simp [namesContainers, hempty]
  rw [frames_restricted (h.anyScope hnames), List.filter_filter]
  refine List.filter_congr fun f hf => ?_
  have hkept : kinds.contains f.kind = true → keep f = true := by
    intro hkind
    refine h.keeps hnames f (concerns_of_mem_frames hf ?_)
    rcases hkinds with rfl | rfl
    · exact .inl hkind
    · exact .inr hkind
  cases hkind : kinds.contains f.kind with
  | false => rfl
  | true => rw [hkept hkind]; rfl

lemma forbiddenFrame?_restricted (h : p.SparedBy keep) (d : Declaration) :
    p.forbiddenFrame? (d.restricted keep) = p.forbiddenFrame? d := by
  simp only [forbiddenFrame?, ← List.getLast?_filter, filter_frames_restricted h (.inr rfl)]

lemma lacksRequired_restricted (h : p.SparedBy keep) (d : Declaration) :
    p.lacksRequired (d.restricted keep) = p.lacksRequired d := by
  have hany : ∀ fs : List Frame, fs.any (fun f => p.required.contains f.kind)
      = (fs.filter fun f => p.required.contains f.kind).any fun f => p.required.contains f.kind :=
    fun fs => by simp only [List.any_filter, Bool.and_self]
  simp only [lacksRequired]
  rw [hany, filter_frames_restricted h (.inl rfl), ← hany]

/-- The problem with a declaration stays when containers that the rule is not about are left out;
at most the container that it tells is another. -/
lemma problem?_restricted (h : p.SparedBy keep) (d : Declaration) :
    Option.Rel (fun x y => x.1 = y.1 ∧ (ForbidsContainer y.1 → x.2 = y.2))
      (p.problem? (d.restricted keep)) (p.problem? d) := by
  have hunder : under (d.restricted keep) = under d := rfl
  have hnamespace : (d.restricted keep).namespaceName = d.namespaceName := rfl
  simp only [problem?, forbiddenFrame?_restricted h, lacksRequired_restricted h, hunder, hnamespace]
  split
  · exact .some ⟨rfl, fun _ => rfl⟩
  -- for any other reason, another container may be told
  split
  · exact .some ⟨rfl, fun hf => absurd hf (not_forbidsContainer _ 6 (by decide) (by decide))⟩
  split
  · exact .some ⟨rfl, fun hf => absurd hf (not_forbidsContainer _ 6 (by decide) (by decide))⟩
  split
  · exact .some ⟨rfl, fun hf => absurd hf (not_forbidsContainer _ 13 (by decide) (by decide))⟩
  split
  · have hnone : ¬ ForbidsContainer ("has no namespace declaration" ++ "") :=
      not_forbidsContainer "" 1 (by decide) (by decide)
    exact .some ⟨rfl, fun hf => absurd hf hnone⟩
  split
  · exact .some ⟨rfl, fun hf => absurd hf (not_forbidsContainer _ 2 (by decide) (by decide))⟩
  · exact .none

lemma applies_restricted (heading : RuleHeading) :
    p.applies heading ∘ Declaration.restricted keep = p.applies heading := rfl

lemma drafts_restricted (h : p.SparedBy keep) (heading : RuleHeading) (ds : List Declaration) :
    List.Forall₂ Draft.Matches (p.drafts heading (ds.map (Declaration.restricted keep)))
      (p.drafts heading ds) := by
  rw [drafts, List.filter_map, applies_restricted, List.filterMap_map]
  refine List.rel_filterMap (R := Eq) ?_ (List.forall₂_refl _)
  rintro d _ rfl
  have hproblem := problem?_restricted h d
  simp only [Function.comp_apply]
  generalize p.problem? (d.restricted keep) = part, p.problem? d = whole at hproblem
  cases hproblem with
  | none => exact .none
  | @some x y hxy =>
    obtain ⟨reason, f⟩ := x
    obtain ⟨rfl, hframe⟩ := hxy
    exact .some (.ofDeclaration hframe [])

/-- Which declarations are too many does not depend on their containers. -/
lemma countDrafts_restricted (heading : RuleHeading) (most : Nat) (ds : List Declaration) :
    List.Forall₂ Draft.Matches
      (p.countDrafts heading most (ds.map (Declaration.restricted keep)))
      (p.countDrafts heading most ds) := by
  have hfound : Declaration.sort ((ds.map (Declaration.restricted keep)).filter
      (p.applies heading)) = (Declaration.sort (ds.filter (p.applies heading))).map
        (Declaration.restricted keep) := by
    rw [List.filter_map, applies_restricted, Declaration.sort_map_restricted]
  simp only [countDrafts, hfound, List.length_map]
  split
  · exact .nil
  · rw [List.map_map, List.forall₂_map_left_iff, List.forall₂_map_right_iff, List.forall₂_same]
    intro d _
    refine .ofDeclaration (fun hf => absurd hf ?_) []
    simp only [String.append_assoc]
    exact not_forbidsContainer _ 1 (by decide) (by decide)

end Placement

/-! ## Duplicates -/

lemma mergeParts_restricted (ds : List Declaration) :
    mergeParts (ds.map (Declaration.restricted keep))
      = (mergeParts ds).map (Declaration.restricted keep) := by
  simp only [mergeParts, Declaration.sort_map_restricted, List.length_map, List.all_map]
  split
  · rw [if_pos ‹_›, List.map_take]
  · rw [if_neg ‹_›]

namespace Duplication

variable (r : Duplication) (heading : RuleHeading)

lemma candidates_restricted (ds : List Declaration) :
    r.candidates heading (ds.map (Declaration.restricted keep))
      = (r.candidates heading ds).map (Declaration.restricted keep) := by
  have happlies : r.applies heading ∘ Declaration.restricted keep = r.applies heading := rfl
  simp only [candidates, List.filter_map, happlies]
  rw [Text.groupsBy_map rfl, List.flatMap_map, List.map_flatMap]
  exact congrArg (fun f => List.flatMap f _) (funext fun g => mergeParts_restricted g.2)

/-- Groups of duplicates do not depend on the containers of their members. -/
lemma groups_restricted (ds : List Declaration) :
    r.groups heading (ds.map (Declaration.restricted keep))
      = (r.groups heading ds).map fun g =>
          ⟨g.base, g.members.map (Declaration.restricted keep)⟩ := by
  have hqualifies : (fun g : String × List Declaration => r.qualifies heading g.1 g.2) ∘
      (fun g : String × List Declaration => (g.1, g.2.map (Declaration.restricted keep)))
        = fun g => r.qualifies heading g.1 g.2 := by
    funext g
    simp only [Function.comp_apply, qualifies, List.length_map, List.all_map, List.map_map]
    rfl
  simp only [groups, candidates_restricted]
  rw [Text.groupsBy_map rfl, List.filter_map, hqualifies, List.map_map, List.map_map]
  simp only [Function.comp_def, Declaration.sort_map_restricted]

lemma drafts_restricted (ds : List Declaration) :
    List.Forall₂ Draft.Matches (r.drafts heading (ds.map (Declaration.restricted keep)))
      (r.drafts heading ds) := by
  rw [drafts, groups_restricted, List.flatMap_map]
  refine List.rel_flatMap (R := Eq) (List.forall₂_refl _) ?_
  rintro g _ rfl
  have hnames : DuplicateGroup.names ⟨g.base, g.members.map (Declaration.restricted keep)⟩
      = g.names := by
    simp only [DuplicateGroup.names, List.map_map]
    rfl
  simp only [groupDrafts, hnames, List.length_map]
  rw [List.map_map, List.forall₂_map_left_iff, List.forall₂_map_right_iff, List.forall₂_same]
  intro d _
  have hnone : ¬ ForbidsContainer ("shares base name " ++ g.base) :=
    not_forbidsContainer _ 1 (by decide) (by decide)
  exact .ofDeclaration (fun hf => absurd hf hnone) _

end Duplication

/-! ## Rule sets -/

lemma NamespaceSpec.drafts_restricted (n : NamespaceSpec) (heading : RuleHeading)
    (f : FileDeclarations) : n.drafts heading (f.restricted keep) = n.drafts heading f := by
  have hline : lineOf (f.restricted keep) = lineOf f := by
    simp only [lineOf, FileDeclarations.restricted, List.find?_map, Option.map_map]
    rfl
  simp only [drafts, hline]
  rfl

namespace Check

/-- A test spares what a rule is about; only placement rules look at containers. -/
def SparedBy (c : Check) (keep : Frame → Bool) : Prop :=
  ∀ p, c = .placement p → p.SparedBy keep

variable {c : Check}

lemma fileDrafts_restricted (h : c.SparedBy keep) (heading : RuleHeading) (f : FileDeclarations) :
    List.Forall₂ Draft.Matches (c.fileDrafts heading (f.restricted keep))
      (c.fileDrafts heading f) := by
  cases c with
  | placement p =>
    simp only [fileDrafts]
    split
    · exact p.drafts_restricted (h p rfl) heading f.declarations
    · exact .nil
  | nameSpace n =>
    simp only [fileDrafts, n.drafts_restricted]
    exact forall₂_matches_refl _
  | usage u => exact forall₂_matches_refl _
  | duplicate d => exact .nil
  | similarity t => exact .nil

lemma jointDrafts_restricted (heading : RuleHeading) (ds : List Declaration) :
    List.Forall₂ Draft.Matches (c.jointDrafts heading (ds.map (Declaration.restricted keep)))
      (c.jointDrafts heading ds) := by
  cases c with
  | placement p =>
    simp only [jointDrafts]
    split
    · exact p.countDrafts_restricted heading _ ds
    · exact .nil
  | duplicate d => exact d.drafts_restricted heading ds
  | nameSpace n => exact .nil
  | usage u => exact .nil
  | similarity t => exact .nil

end Check

namespace RuleSet

variable {s : RuleSet}

/-- Two drafts of one rule match. -/
def DraftsMatch (x y : Rule × Draft) : Prop :=
  x.1 = y.1 ∧ x.2.Matches y.2

lemma forall₂_flatMap_rules {rules : List Rule} {g g' : Rule → List Draft}
    (h : ∀ r ∈ rules, List.Forall₂ Draft.Matches (g r) (g' r)) :
    List.Forall₂ DraftsMatch (rules.flatMap fun r => (g r).map (r, ·))
      (rules.flatMap fun r => (g' r).map (r, ·)) := by
  refine List.rel_flatMap (R := fun r r' => r = r' ∧ r ∈ rules) (List.forall₂_same.2 fun r hr =>
    ⟨rfl, hr⟩) ?_
  rintro r _ ⟨rfl, hr⟩
  rw [List.forall₂_map_left_iff, List.forall₂_map_right_iff]
  exact (h r hr).imp fun _ _ hxy => ⟨rfl, hxy⟩

/-- Leaving out containers that the rules are not about does not change what they find. -/
lemma drafts_restricted (h : ∀ r ∈ s.rules, r.check.SparedBy keep)
    (files : List FileDeclarations) :
    List.Forall₂ DraftsMatch (s.drafts (files.map (FileDeclarations.restricted keep)))
      (s.drafts files) := by
  have hdeclarations : (files.map (FileDeclarations.restricted keep)).flatMap (·.declarations)
      = (files.flatMap (·.declarations)).map (Declaration.restricted keep) := by
    rw [List.flatMap_map, List.map_flatMap]
    rfl
  rw [drafts, List.flatMap_map, hdeclarations]
  refine List.rel_append (List.rel_flatMap (R := Eq) (List.forall₂_refl _) ?_) ?_
  · rintro f _ rfl
    refine forall₂_flatMap_rules fun r hr => Check.fileDrafts_restricted (h r ?_) r.heading f
    simp only [List.mem_append, mem_ofKind] at hr
    rcases hr with (⟨hr, -⟩ | ⟨hr, -⟩) | ⟨hr, -⟩ <;> exact hr
  · exact forall₂_flatMap_rules fun r _ => Check.jointDrafts_restricted r.heading _

end RuleSet
end Restricted

namespace RuleSet

variable {specs : List RuleSpec} {s : RuleSet}

/-! ## Evaluation -/

/-- What some placement rule is about, the filter of a rule set accepts. -/
lemma sparedBy_containerFilter (hany : ∀ r ∈ s.rules, ∀ p, r.check = .placement p →
      p.namesContainers = true → p.anyScope = true) {filter : ContainerFilter}
    (hfilter : s.containerFilter = some filter) {r : Rule} (hr : r ∈ s.rules) :
    r.check.SparedBy filter.keeps := by
  intro p hp
  refine ⟨hany r hr p hp, fun hnames f hf => ?_⟩
  have hmem : p ∈ (s.placements.map (·.2)).filter (·.namesContainers) := by
    have hplacement : (r, p) ∈ s.placements :=
      List.mem_filterMap.2 ⟨r, hr, by simp [hp]⟩
    exact List.mem_filter.2 ⟨List.mem_map_of_mem hplacement, hnames⟩
  unfold containerFilter at hfilter
  split at hfilter
  · exact absurd hfilter (by simp)
  · obtain rfl := Option.some.inj hfilter
    exact List.any_eq_true.2 ⟨p, hmem, hf⟩

/-- The drafts do not depend on whether the filter of the rules is used. -/
lemma drafts_containerFilter (hany : ∀ r ∈ s.rules, ∀ p, r.check = .placement p →
      p.namesContainers = true → p.anyScope = true) (files : List SourceFile) :
    List.Forall₂ DraftsMatch (s.drafts (files.map (extract ⟨.stack, s.containerFilter⟩)))
      (s.drafts (files.map (extract ⟨.stack, none⟩))) := by
  cases hfilter : s.containerFilter with
  | none => exact List.forall₂_same.2 fun x _ => ⟨rfl, .refl x.2⟩
  | some filter =>
    have hfiles : files.map (extract ⟨.stack, some filter⟩)
        = (files.map (extract ⟨.stack, none⟩)).map (FileDeclarations.restricted filter.keeps) := by
      rw [List.map_map]
      exact List.map_congr_left fun file _ => extract_restricted filter file
    rw [hfiles]
    exact drafts_restricted (fun r hr => sparedBy_containerFilter hany hfilter hr) _

/-- A finding with the violation that words it. -/
abbrev Finding : Type := (Rule × Draft) × Violation

/-- Two findings are the same: of one rule, at one place, of one thing and for one reason; and they
tell the same container if it is one that must not enclose the declaration. -/
structure SameFinding (f g : Finding) : Prop where
  rule_eq : f.1.1 = g.1.1
  key_eq : f.2.key = g.2.key
  reason_eq : f.1.2.context.reason = g.1.2.context.reason
  container_eq : ForbidsContainer g.1.2.context.reason →
    f.2.containerName = g.2.containerName ∧ f.2.containerKind = g.2.containerKind

/-- Findings in the order of their violations. -/
def sortFindings (fs : List Finding) : List Finding :=
  fs.mergeSort fun f g => f.2.precedes g.2

lemma precedes_of_sameFinding {f f' g g' : Finding} (h : SameFinding f f') (h' : SameFinding g g') :
    f.2.precedes g.2 = f'.2.precedes g'.2 := by
  have hkey := h.key_eq
  have hkey' := h'.key_eq
  simp only [Violation.key, Prod.mk.injEq] at hkey hkey'
  simp only [Violation.precedes, hkey, hkey']

section Wording

-- the rules are accepted in one memory, and their findings are worded in others
variable [Host] {l m n : Memory}

lemma evaluate_ok_or (h : ofSpecs (m := m) specs = .ok s) (files : List FileDeclarations) :
    (∃ vs, s.evaluate files = .ok vs) ∨
      ∃ e, (∃ r ∈ s.rules, r.CanFail e) ∧ s.evaluate files = .error (.template e) := by
  have hfits : ∀ x ∈ s.drafts files, x.1 ∈ s.rules ∧ x.2.Fits x.1.check.kind := by
    intro x hx
    obtain ⟨hr, ⟨f, -, hd⟩ | hd⟩ := mem_drafts.1 hx
    · exact ⟨hr, Check.fits_of_mem_fileDrafts hd⟩
    · exact ⟨hr, Check.fits_of_mem_jointDrafts hd⟩
  rw [evaluate_eq]
  rcases reports_ok_or h hfits with ⟨vs, hvs⟩ | ⟨e, he, herror⟩
  · exact .inl ⟨_, by rw [hvs]; rfl⟩
  · exact .inr ⟨e, he, by rw [herror]; rfl⟩

/-- The findings behind the violations of some files: every draft once, in the order of the
violations. -/
structure Words [m : Memory] (s : RuleSet) (files : List FileDeclarations) (vs : List Violation)
    (fs : List Finding) : Prop where
  drafts : (fs.map Prod.fst).Perm (s.drafts files)
  violations : fs.map Prod.snd = vs
  report : ∀ f ∈ fs, report f.1 = .ok f.2

lemma containers_of_report {x : Rule × Draft} {v : Violation}
    (h : Conformance.report (m := m) x = .ok v) :
    v.containerName = x.2.context.container.map (·.name) ∧
      v.containerKind = x.2.context.container.map (·.kind.word) := by
  obtain ⟨message, -, h⟩ := bind_eq_ok.1 h
  obtain rfl := Except.ok.inj h
  exact ⟨rfl, rfl⟩

lemma sameFinding_of_match {x y : Rule × Draft} {v w : Violation} (hxy : DraftsMatch x y)
    (hv : Conformance.report (m := m) x = .ok v) (hw : Conformance.report (m := n) y = .ok w) :
    SameFinding (x, v) (y, w) := by
  obtain ⟨hrule, hmatch⟩ := hxy
  have hcontext := hmatch.context_eq
  have hkey : draftKey x = draftKey y := by
    rw [draftKey, draftKey, hrule, ← hcontext]
  have hvkey : v.key = draftKey x := (tells_of_report (m := m) hv).key_eq
  have hwkey : w.key = draftKey y := (tells_of_report (m := n) hw).key_eq
  refine ⟨hrule, ?_, congrArg (·.reason) hcontext, fun hforbids => ?_⟩
  · exact hvkey.trans (hkey.trans hwkey.symm)
  · obtain ⟨hvname, hvkind⟩ := containers_of_report hv
    obtain ⟨hwname, hwkind⟩ := containers_of_report hw
    have hcontainer := hmatch.container_eq hforbids
    exact ⟨by rw [hvname, hwname, hcontainer], by rw [hvkind, hwkind, hcontainer]⟩

lemma words_sortFindings {files : List FileDeclarations} {vs : List Violation}
    (h : (s.drafts files).mapM (Conformance.report (m := m)) = .ok vs) :
    s.Words (m := m) files (Violation.sort vs) (sortFindings ((s.drafts files).zip vs)) := by
  have hreports := mapM_eq_ok_iff.1 h
  have hperm := List.mergeSort_perm ((s.drafts files).zip vs) fun f g => f.2.precedes g.2
  refine ⟨?_, ?_, fun f hf => List.forall₂_zip hreports (hperm.mem_iff.1 hf)⟩
  · have hdrafts := hperm.map Prod.fst
    rwa [List.map_fst_zip hreports.length_eq.le] at hdrafts
  · have hsorted : (sortFindings ((s.drafts files).zip vs)).map Prod.snd
        = (((s.drafts files).zip vs).map Prod.snd).mergeSort Violation.precedes :=
      List.map_mergeSort fun _ _ _ _ => rfl
    rw [hsorted, List.map_snd_zip hreports.length_eq.ge]
    rfl

/-- Where the placement rules that name containers look at every container, the violations are the
same findings in the same order whether all containers are followed or only those that the rules
are about; what must not enclose a declaration is the same container.  An evaluation can fail only
in wording a message, where a template asks for more than the types of its fields promise. -/
theorem evaluate_containerFilter (h : ofSpecs (m := l) specs = .ok s)
    (hany : ∀ r ∈ s.rules, ∀ p, r.check = .placement p →
      p.namesContainers = true → p.anyScope = true) (files : List SourceFile) :
    let part := files.map (extract ⟨.stack, s.containerFilter⟩)
    let whole := files.map (extract ⟨.stack, none⟩)
    (∀ found ∈ [part, whole], (∃ vs, s.evaluate (m := m) found = .ok vs) ∨
      ∃ e, (∃ r ∈ s.rules, r.CanFail (m := m) e) ∧
        s.evaluate (m := m) found = .error (.template e)) ∧
    ∀ vs ws, s.evaluate (m := m) part = .ok vs → s.evaluate (m := n) whole = .ok ws →
      vs.map Violation.key = ws.map Violation.key ∧
      ∃ fs gs, s.Words (m := m) part vs fs ∧ s.Words (m := n) whole ws gs ∧
        List.Forall₂ SameFinding fs gs := by
  intro part whole
  refine ⟨fun found _ => evaluate_ok_or h found, fun vs ws hvs hws => ?_⟩
  rw [evaluate_eq (m := m)] at hvs
  rw [evaluate_eq (m := n)] at hws
  obtain ⟨vs', hvs', rfl⟩ := map_eq_ok.1 hvs
  obtain ⟨ws', hws', rfl⟩ := map_eq_ok.1 hws
  have hfound : List.Forall₂ SameFinding ((s.drafts part).zip vs') ((s.drafts whole).zip ws') := by
    refine forall₂_zip_of_mapM (fun _ _ _ _ hxy hv hw => ?_)
      (drafts_containerFilter hany files) hvs' hws'
    exact sameFinding_of_match (m := m) (n := n) hxy hv hw
  have hsorted : List.Forall₂ SameFinding (sortFindings ((s.drafts part).zip vs'))
      (sortFindings ((s.drafts whole).zip ws')) :=
    forall₂_mergeSort (R := SameFinding) (fun _ _ hf _ _ hg => precedes_of_sameFinding hf hg) hfound
  have hpart := words_sortFindings (m := m) hvs'
  have hwhole := words_sortFindings (m := n) hws'
  refine ⟨?_, _, _, hpart, hwhole, hsorted⟩
  rw [← hpart.violations (m := m), ← hwhole.violations (m := n), ← List.forall₂_eq_eq_eq]
  simp only [List.forall₂_map_left_iff, List.forall₂_map_right_iff]
  exact hsorted.imp fun _ _ hfg => hfg.key_eq

end Wording

/-! ### Enumerations inside interfaces -/

/-- No interface encloses an enumeration. -/
def enclosedSpec : RuleSpec :=
  ⟨{ id := "enclosed" }, .placement
    { kinds := ["enum"], forbiddenContainer := ["interface"], containerScope := "any" }⟩

/-- Every enumeration is reported, with the first character of its container. -/
def enumInitialSpec : RuleSpec :=
  ⟨{ id := "initial", message := "\x7bcontainer[0]\x7d" }, .placement { kinds := ["enum"] }⟩

/-- A rule about enumerations when it is accepted. -/
def enumRule (spec : RuleSpec) (forbidden : List ContainerKind) (anyScope : Bool) : Rule where
  heading := spec.heading
  template := Template.read spec.templateText.toList
  check := .placement
    { names := .rounds (.one (.except (.char '\n'))) 0 none .greedy
      patternText := ".*"
      kinds := [.enum]
      required := []
      forbidden, anyScope
      containers := none
      requiredPath := none
      forbiddenPath := none
      requireNamespace := false
      maxCount := none }

/-- The rules when they are accepted. -/
def enclosedRule : Rule := enumRule enclosedSpec [.interface] true

@[inherit_doc enclosedRule]
def enumInitialRule : Rule := enumRule enumInitialSpec [] false

/-- An enumeration in a class in another container. -/
def enclosedFile (kind : ContainerKind) : SourceFile :=
  ⟨"A.cs", ["public " ++ kind.word ++ " A \x7b", "public class B \x7b", "public enum X \x7b \x7d",
    "\x7d \x7d"]⟩

/-- The declarations of such a file. -/
def enclosedDeclarations (kind : ContainerKind) : List Declaration :=
  let column := kind.word.length + 8
  let outer : Frame := ⟨kind, "A", 0, 1, column⟩
  let inner : Frame := ⟨.classType, "B", 1, 2, 13⟩
  let declared (kind : DeclarationKind) (name : String) (line column : Int) : Declaration :=
    { kind, name, path := "A.cs", line, column, modifiers := ["public"] }
  [(declared (.ofContainer kind) "A" 1 column).inside [],
    (declared .type "B" 2 13).inside [outer],
    (declared .enum "X" 3 12).inside [outer, inner]]

lemma extract_enclosedFile {kind : ContainerKind} (hkind : kind ∈ [.interface, .struct]) :
    extract ⟨.stack, none⟩ (enclosedFile kind)
      = ⟨enclosedFile kind, unknownNamespace, enclosedDeclarations kind⟩ := by
  have hfound : ∀ kind ∈ [ContainerKind.interface, .struct],
      namespaceOf (enclosedFile kind).text.toList = unknownNamespace ∧
      attachMembers (enclosedFile kind).lines (Tracker.full.track (enclosedFile kind).lines).scopes
        (foundDeclarations (Tracker.full.track (enclosedFile kind).lines).scopes
          (enclosedFile kind)) = enclosedDeclarations kind ∧
      (enclosedDeclarations kind).Pairwise fun d e => d.precedes e = true := by
    decide +kernel
  obtain ⟨hnamespace, hfound, hsorted⟩ := hfound kind hkind
  simp only [extract]
  rw [hnamespace, show (⟨.stack, none⟩ : Tracker) = Tracker.full from rfl, hfound,
    Declaration.sort, List.mergeSort_of_pairwise hsorted]

/-- Of its containers, only interfaces are followed. -/
def interfacesOnly : ContainerFilter := fun kind _ => kind == .interface

lemma containerFilter_enclosedRule (rest : List Rule)
    (hrest : rest = [] ∨ rest = [enumInitialRule]) :
    RuleSet.containerFilter ⟨enclosedRule :: rest⟩ = some interfacesOnly := by
  rcases hrest with rfl | rfl <;>
  · refine congrArg some (funext fun kind => funext fun name => ?_)
    cases kind <;> rfl

section Plain

attribute [local instance] Host.plain Memory.plain

lemma evaluate_of_report {files : List FileDeclarations} {v : Violation}
    (h : (s.drafts files).mapM Conformance.report = .ok [v]) : s.evaluate files = .ok [v] := by
  rw [evaluate_eq, h]
  exact congrArg Except.ok (List.mergeSort_singleton v)

/-- The class is not followed, and the enumeration is found inside the interface all the same. -/
theorem evaluate_containerFilter_enclosed :
    let s : RuleSet := ⟨[enclosedRule]⟩
    let part := [extract ⟨.stack, s.containerFilter⟩ (enclosedFile .interface)]
    let whole := [extract ⟨.stack, none⟩ (enclosedFile .interface)]
    ofSpecs [enclosedSpec] = .ok s ∧
    ∃ vs ws, s.evaluate part = .ok vs ∧ s.evaluate whole = .ok ws ∧
      ws.map Violation.key = [("A.cs", 3, "enclosed", "X")] ∧
      vs.map Violation.key = ws.map Violation.key ∧
      ∃ fs gs, s.Words part vs fs ∧ s.Words whole ws gs ∧ List.Forall₂ SameFinding fs gs := by
  intro s part whole
  have haccepted : ofSpecs [enclosedSpec] = .ok s := by decide +kernel
  have hany : ∀ r ∈ s.rules, ∀ p, r.check = .placement p →
      p.namesContainers = true → p.anyScope = true := by
    intro r hr p hp _
    obtain rfl := List.mem_singleton.1 hr
    obtain rfl := Check.placement.inj hp
    rfl
  let v : Violation :=
    { path := "A.cs", line := 3, ruleId := "enclosed", subject := "X",
      message := "enum X must not be declared inside interface A",
      containerName := "A", containerKind := "interface", namespaceName := "Unknown" }
  have hpart : s.evaluate part = .ok [v] := by
    refine evaluate_of_report ?_
    simp only [part, s, containerFilter_enclosedRule [] (.inl rfl), extract_restricted,
      @extract_enclosedFile .interface (by decide)]
    decide +kernel
  have hwhole : s.evaluate whole = .ok [v] := by
    refine evaluate_of_report ?_
    simp only [whole, s, @extract_enclosedFile .interface (by decide)]
    decide +kernel
  exact ⟨haccepted, [v], [v], hpart, hwhole, rfl,
    (evaluate_containerFilter haccepted hany [enclosedFile .interface]).2 [v] [v] hpart hwhole⟩

/-- Where no interface encloses the enumeration, no container of it is followed, and a message that
takes the first character of its container fails. -/
theorem message_fails_without_followed_container :
    let s : RuleSet := ⟨[enclosedRule, enumInitialRule]⟩
    ofSpecs [enclosedSpec, enumInitialSpec] = .ok s ∧
    (∀ r ∈ s.rules, ∀ p, r.check = .placement p → p.namesContainers = true → p.anyScope = true) ∧
    (∃ vs, s.evaluate [extract ⟨.stack, none⟩ (enclosedFile .struct)] = .ok vs) ∧
    s.evaluate [extract ⟨.stack, s.containerFilter⟩ (enclosedFile .struct)]
      = .error (.template .indexOutOfRange) := by
  intro s
  refine ⟨by decide +kernel, ?_, ?_, ?_⟩
  · intro r hr p hp hnames
    simp only [s, List.mem_cons, List.not_mem_nil, or_false] at hr
    rcases hr with rfl | rfl
    · obtain rfl := Check.placement.inj hp
      rfl
    · obtain rfl := Check.placement.inj hp
      exact absurd hnames (by decide)
  · let v : Violation :=
      { path := "A.cs", line := 3, ruleId := "initial", subject := "X", message := "B",
        containerName := "B", containerKind := "class", namespaceName := "Unknown" }
    refine ⟨[v], evaluate_of_report ?_⟩
    simp only [s, @extract_enclosedFile .struct (by decide)]
    decide +kernel
  · rw [evaluate_eq]
    simp only [s, containerFilter_enclosedRule [enumInitialRule] (.inr rfl), extract_restricted,
      @extract_enclosedFile .struct (by decide)]
    decide +kernel

end Plain

end RuleSet
end Conformance
