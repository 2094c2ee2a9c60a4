/-
# Findings before they are worded

What a rule reports does not depend on its message.  A *draft* is a finding without its message:
the context of the message and the fields that only this kind of rule has.  Every check lists its
drafts, and then words them one after another; so an evaluation is a step for each draft
(`RuleSet.evaluate_eq`), it fails only where a message fails, and the places and subjects of the
violations are those of the drafts (`RuleSet.keys_of_evaluate`).
-/
import Conformance.Check.Evaluate
import Conformance.Check.Similarity
import Conformance.Proofs.Order
import Conformance.Proofs.Steps

namespace Conformance
open Source

/-- A finding that is not yet worded. -/
structure Draft where
  /-- What the message can tell about any finding. -/
  context : MessageContext
  /-- The fields that only the kind of rule has. -/
  own : FieldValues

/-- Words a draft of a rule. -/
def report [Host] [m : Memory] (x : Rule × Draft) : Except Fault Violation :=
  x.1.violation x.2.context x.2.own

/-- Where a violation is, of which rule, and of what. -/
def Violation.key (v : Violation) : String × Int × String × String :=
  (v.path, v.line, v.ruleId, v.subject)

/-- Where the violation of a draft is, of which rule, and of what. -/
def draftKey (x : Rule × Draft) : String × Int × String × String :=
  (x.2.context.path, x.2.context.line, x.1.id, x.2.context.name)

/-- A violation tells what a draft of a rule does. -/
structure Violation.Tells (v : Violation) (x : Rule × Draft) : Prop where
  /-- It is at the same place, of the same rule, and of the same thing. -/
  key_eq : v.key = draftKey x
  /-- It tells the same namespace. -/
  namespace_eq : v.namespaceName = some x.2.context.namespaceName

lemma tells_of_report [Host] [m : Memory] {x : Rule × Draft} {v : Violation}
    (h : report x = .ok v) : v.Tells x := by
  obtain ⟨message, -, h⟩ := bind_eq_ok.1 h
  obtain rfl := Except.ok.inj h
  exact ⟨rfl, rfl⟩

namespace Violation.Tells

variable {v : Violation} {x : Rule × Draft}

lemma path_eq (h : v.Tells x) : v.path = x.2.context.path :=
  congrArg (·.1) h.key_eq

lemma line_eq (h : v.Tells x) : v.line = x.2.context.line :=
  congrArg (·.2.1) h.key_eq

lemma ruleId_eq (h : v.Tells x) : v.ruleId = x.1.id :=
  congrArg (·.2.2.1) h.key_eq

lemma subject_eq (h : v.Tells x) : v.subject = x.2.context.name :=
  congrArg (·.2.2.2) h.key_eq

end Violation.Tells

/-! ## The drafts of each kind of rule -/

namespace Placement

/-- Declarations that do not live where they should. -/
def drafts (p : Placement) (heading : RuleHeading) (ds : List Declaration) : List Draft :=
  (ds.filter (p.applies heading)).filterMap fun d =>
    (p.problem? d).map fun x => ⟨.ofDeclaration d x.1 x.2, []⟩

/-- Declarations that are too many. -/
def countDrafts (p : Placement) (heading : RuleHeading) (most : Nat) (ds : List Declaration) :
    List Draft :=
  let found := Declaration.sort (ds.filter (p.applies heading))
  if found.length ≤ most then []
  else found.map fun d => ⟨.ofDeclaration d ("is one of " ++ intText found.length ++
    " declarations matching " ++ p.patternText ++ " (max " ++ intText most ++ ")") d.container, []⟩

lemma check_eq [Host] [m : Memory] (p : Placement) (r : Rule) (ds : List Declaration) :
    p.check r ds = (p.drafts r.heading ds).mapM fun d => report (r, d) := by
  refine filterMapM_eq_mapM ?_ ?_
  · intro d _ hd
    rw [Option.map_eq_none_iff] at hd
    simp only [hd]
  · intro d _ draft hd
    obtain ⟨x, hx, rfl⟩ := Option.map_eq_some_iff.1 hd
    simp only [hx]
    rfl

lemma checkCount_eq [Host] [m : Memory] (p : Placement) (r : Rule) (most : Nat)
    (ds : List Declaration) :
    p.checkCount r most ds = (p.countDrafts r.heading most ds).mapM fun d => report (r, d) := by
  simp only [checkCount, countDrafts]
  split
  · rfl
  · rw [List.mapM_map]
    rfl

end Placement

namespace NamespaceSpec

/-- The namespace of a file that does not mirror its folder. -/
def drafts (n : NamespaceSpec) (heading : RuleHeading) (f : FileDeclarations) : List Draft :=
  let found := f.namespaceName
  if found == unknownNamespace || n.exempts f.path then []
  else match n.expected? f.path with
    | none => []
    | some expected =>
      if found == expected || heading.allows found || heading.allows f.path then []
      else [⟨{ name := found
               kind := DeclarationKind.nameSpace.word
               path := f.path
               line := lineOf f
               namespaceName := found
               reason := "expected " ++ expected }, [("expected", .text expected)]⟩]

lemma check_eq [Host] [m : Memory] (n : NamespaceSpec) (r : Rule) (f : FileDeclarations) :
    n.check r f = (n.drafts r.heading f).mapM fun d => report (r, d) := by
  simp only [check, drafts]
  split
  · rfl
  · cases n.expected? f.path with
    | none => rfl
    | some expected =>
      dsimp only
      split
      · rfl
      · rw [List.mapM_cons, List.mapM_nil]
        simp only [report]
        cases r.violation _ _ <;> rfl

end NamespaceSpec

namespace Usage

/-- Lines with a usage. -/
def drafts (u : Usage) (heading : RuleHeading) (f : FileDeclarations) : List Draft :=
  if u.exempts f.file then []
  else (f.file.lines.zipIdx 1).filterMap fun x =>
    (u.subject? heading x.1).map fun subject =>
      ⟨{ name := subject
         kind := "usage"
         path := f.path
         line := x.2
         namespaceName := f.namespaceName
         reason := "forbidden usage" }, [("text", .text (Text.trimmed x.1))]⟩

lemma check_eq [Host] [m : Memory] (u : Usage) (r : Rule) (f : FileDeclarations) :
    u.check r f = (u.drafts r.heading f).mapM fun d => report (r, d) := by
  simp only [check, drafts]
  split
  · rfl
  · refine filterMapM_eq_mapM ?_ ?_
    · intro x _ hx
      rw [Option.map_eq_none_iff] at hx
      simp only [checkLine, hx]
    · intro x _ draft hx
      obtain ⟨subject, hsubject, rfl⟩ := Option.map_eq_some_iff.1 hx
      simp only [checkLine, hsubject]
      rfl

end Usage

namespace Duplication

/-- The members of a group of duplicates. -/
def groupDrafts (g : DuplicateGroup) : List Draft :=
  g.members.map fun d => ⟨.ofDeclaration d ("shares base name " ++ g.base) d.container,
    [("base", .text g.base), ("count", .int g.members.length),
      ("group", .text (", ".intercalate g.names))]⟩

/-- The members of all groups of duplicates. -/
def drafts (d : Duplication) (heading : RuleHeading) (ds : List Declaration) : List Draft :=
  (d.groups heading ds).flatMap groupDrafts

end Duplication

/-! ## Findings of several rules -/

lemma collect_cons_eq {α β : Type} (F : α → Except Fault (List β)) (a : α) (l : List α) :
    collect F (a :: l) = (do
      let xs ← F a
      let ys ← collect F l
      return xs ++ ys) := by
  unfold collect
  rw [List.mapM_cons]
  cases F a with
  | error e => rfl
  | ok xs => cases l.mapM F <;> rfl

lemma collect_eq_mapM {α β γ : Type} {F : α → Except Fault (List β)} {g : α → List γ}
    {f : γ → Except Fault β} {l : List α} (h : ∀ a ∈ l, F a = (g a).mapM f) :
    collect F l = (l.flatMap g).mapM f := by
  induction l with
  | nil => rfl
  | cons a l ih =>
    rw [collect_cons_eq, ih fun b hb => h b (List.mem_cons_of_mem _ hb), h a List.mem_cons_self,
      List.flatMap_cons, List.mapM_append]

lemma Duplication.check_eq [Host] [m : Memory] (d : Duplication) (r : Rule)
    (ds : List Declaration) :
    d.check r ds = (d.drafts r.heading ds).mapM fun x => report (r, x) := by
  refine collect_eq_mapM ?_
  intro g _
  rw [groupDrafts, List.mapM_map]
  rfl

namespace Check

/-- What a rule reports about one file. -/
def fileDrafts (c : Check) (heading : RuleHeading) (f : FileDeclarations) : List Draft :=
  match c with
  | .placement p =>
    if p.hasConstraints || p.reportsEveryMatch then p.drafts heading f.declarations else []
  | .nameSpace n => n.drafts heading f
  | .usage u => u.drafts heading f
  | .duplicate _ => []
  | .similarity _ => []

/-- What a rule reports about all declarations together. -/
def jointDrafts (c : Check) (heading : RuleHeading) (ds : List Declaration) : List Draft :=
  match c with
  | .placement p =>
    match p.maxCount with
    | some most => p.countDrafts heading most ds
    | none => []
  | .duplicate d => d.drafts heading ds
  | .nameSpace _ => []
  | .usage _ => []
  | .similarity _ => []

end Check

namespace RuleSet

/-- The rules of a kind. -/
def ofKind (s : RuleSet) (kind : RuleKind) : List Rule :=
  s.rules.filter fun r => r.check.kind == kind

/-- The drafts about one file: placements, namespaces, usages. -/
def fileDrafts (s : RuleSet) (f : FileDeclarations) : List (Rule × Draft) :=
  (s.ofKind .placement ++ s.ofKind .nameSpace ++ s.ofKind .usage).flatMap fun r =>
    (r.check.fileDrafts r.heading f).map (r, ·)

/-- The drafts about all declarations together: upper bounds, then duplicates. -/
def jointDrafts (s : RuleSet) (ds : List Declaration) : List (Rule × Draft) :=
  (s.ofKind .placement ++ s.ofKind .duplicate).flatMap fun r =>
    (r.check.jointDrafts r.heading ds).map (r, ·)

/-- All drafts about some files. -/
def drafts (s : RuleSet) (files : List FileDeclarations) : List (Rule × Draft) :=
  files.flatMap s.fileDrafts ++ s.jointDrafts (files.flatMap (·.declarations))

/-- The findings of the rules of one kind, which a choice among the rules picks out. -/
lemma collect_ofKind [Host] [m : Memory] {α : Type} {kind : RuleKind} {choose? : Rule → Option α}
    {F : α → Except Fault (List Violation)} {g : Rule → List Draft}
    (h : ∀ r : Rule, (choose? r = none ∧ r.check.kind ≠ kind) ∨
      ∃ a, choose? r = some a ∧ r.check.kind = kind ∧ F a = (g r).mapM fun d => report (r, d))
    (rules : List Rule) :
    collect F (rules.filterMap choose?)
      = ((rules.filter fun r => r.check.kind == kind).flatMap fun r =>
          (g r).map (r, ·)).mapM report := by
  induction rules with
  | nil => rfl
  | cons r rules ih =>
    rcases h r with ⟨hnone, hkind⟩ | ⟨a, ha, hkind, hF⟩
    · rw [List.filterMap_cons_none hnone, List.filter_cons_of_neg (by simpa using hkind), ih]
    · rw [List.filterMap_cons_some ha, List.filter_cons_of_pos (by simpa using hkind),
        collect_cons_eq, ih, hF, List.flatMap_cons, List.mapM_append, List.mapM_map]
      rfl

/-- The evaluation of one file words its drafts. -/
theorem evaluateFile_eq [Host] [m : Memory] (s : RuleSet) (f : FileDeclarations) :
    s.evaluateFile f = (s.fileDrafts f).mapM report := by
  have hplaced : s.checkPlacements f.declarations = ((s.ofKind .placement).flatMap fun r =>
      (r.check.fileDrafts r.heading f).map (r, ·)).mapM report := by
    refine collect_ofKind ?_ s.rules
    intro r
    cases hr : r.check with
    | placement p =>
      refine .inr ⟨(r, p), rfl, rfl, ?_⟩
      simp only [Check.fileDrafts]
      split
      · exact p.check_eq r f.declarations
      · rfl
    | _ => exact .inl ⟨rfl, by simp [Check.kind]⟩
  have hnamed : collect (fun x => x.2.check x.1 f) s.namespaces
      = ((s.ofKind .nameSpace).flatMap fun r =>
          (r.check.fileDrafts r.heading f).map (r, ·)).mapM report := by
    refine collect_ofKind ?_ s.rules
    intro r
    cases hr : r.check with
    | nameSpace n => exact .inr ⟨(r, n), rfl, rfl, n.check_eq r f⟩
    | _ => exact .inl ⟨rfl, by simp [Check.kind]⟩
  have hused : collect (fun x => x.2.check x.1 f) s.usages
      = ((s.ofKind .usage).flatMap fun r =>
          (r.check.fileDrafts r.heading f).map (r, ·)).mapM report := by
    refine collect_ofKind ?_ s.rules
    intro r
    cases hr : r.check with
    | usage u => exact .inr ⟨(r, u), rfl, rfl, u.check_eq r f⟩
    | _ => exact .inl ⟨rfl, by simp [Check.kind]⟩
  rw [evaluateFile, hplaced, hnamed, hused, fileDrafts, List.flatMap_append, List.flatMap_append,
    List.mapM_append, List.mapM_append]
  simp only [bind_assoc, pure_bind]

/-- The evaluation of all declarations together words its drafts. -/
theorem evaluateGlobal_eq [Host] [m : Memory] (s : RuleSet) (ds : List Declaration) :
    s.evaluateGlobal ds = (s.jointDrafts ds).mapM report := by
  have hcounted : collect (fun x => match x.2.maxCount with
        | some most => x.2.checkCount x.1 most ds
        | none => .ok []) s.placements
      = ((s.ofKind .placement).flatMap fun r =>
          (r.check.jointDrafts r.heading ds).map (r, ·)).mapM report := by
    refine collect_ofKind ?_ s.rules
    intro r
    cases hr : r.check with
    | placement p =>
      refine .inr ⟨(r, p), rfl, rfl, ?_⟩
      cases hmost : p.maxCount with
      | none => simp only [Check.jointDrafts, hmost]; rfl
      | some most =>
        simp only [Check.jointDrafts, hmost]
        exact p.checkCount_eq r most ds
    | _ => exact .inl ⟨rfl, by simp [Check.kind]⟩
  have hduplicated : collect (fun x => x.2.check x.1 ds) s.duplications
      = ((s.ofKind .duplicate).flatMap fun r =>
          (r.check.jointDrafts r.heading ds).map (r, ·)).mapM report := by
    refine collect_ofKind ?_ s.rules
    intro r
    cases hr : r.check with
    | duplicate d => exact .inr ⟨(r, d), rfl, rfl, d.check_eq r ds⟩
    | _ => exact .inl ⟨rfl, by simp [Check.kind]⟩
  rw [jointDrafts, List.flatMap_append, List.mapM_append, ← hcounted, ← hduplicated]
  rfl

/-- An evaluation words its drafts and sorts the violations. -/
theorem evaluate_eq [Host] [m : Memory] (s : RuleSet) (files : List FileDeclarations) :
    s.evaluate files = ((s.drafts files).mapM report).map Violation.sort := by
  rw [evaluate, collect_eq_mapM fun f _ => s.evaluateFile_eq f, evaluateGlobal_eq, drafts,
    List.mapM_append]
  cases (files.flatMap s.fileDrafts).mapM report with
  | error e => rfl
  | ok xs => cases (s.jointDrafts (files.flatMap (·.declarations))).mapM report <;> rfl

lemma mem_ofKind {s : RuleSet} {kind : RuleKind} {r : Rule} :
    r ∈ s.ofKind kind ↔ r ∈ s.rules ∧ r.check.kind = kind := by
  rw [ofKind, List.mem_filter, beq_iff_eq]

/-- The drafts of some rules. -/
lemma mem_flatMap_drafts {rules : List Rule} {g : Rule → List Draft} {x : Rule × Draft} :
    x ∈ rules.flatMap (fun r => (g r).map (r, ·)) ↔ x.1 ∈ rules ∧ x.2 ∈ g x.1 := by
  obtain ⟨r, d⟩ := x
  rw [List.mem_flatMap]
  constructor
  · rintro ⟨r', hr', hx⟩
    obtain ⟨d', hd', heq⟩ := List.mem_map.1 hx
    obtain ⟨rfl, rfl⟩ := Prod.mk.inj heq
    exact ⟨hr', hd'⟩
  · rintro ⟨hr, hd⟩
    exact ⟨r, hr, List.mem_map_of_mem hd⟩

/-- The drafts about a file are those of its rules. -/
lemma mem_fileDrafts {s : RuleSet} {f : FileDeclarations} {x : Rule × Draft} :
    x ∈ s.fileDrafts f ↔ x.1 ∈ s.rules ∧ x.2 ∈ x.1.check.fileDrafts x.1.heading f := by
  rw [fileDrafts, mem_flatMap_drafts]
  refine and_congr_left fun hd => ?_
  -- the other kinds of rules have no drafts about a file
  cases hcheck : x.1.check <;>
    simp [hcheck, mem_ofKind, Check.kind, Check.fileDrafts] at hd ⊢

/-- The drafts about all declarations together are those of the rules. -/
lemma mem_jointDrafts {s : RuleSet} {ds : List Declaration} {x : Rule × Draft} :
    x ∈ s.jointDrafts ds ↔ x.1 ∈ s.rules ∧ x.2 ∈ x.1.check.jointDrafts x.1.heading ds := by
  rw [jointDrafts, mem_flatMap_drafts]
  refine and_congr_left fun hd => ?_
  cases hcheck : x.1.check <;>
    simp [hcheck, mem_ofKind, Check.kind, Check.jointDrafts] at hd ⊢

/-- The drafts of a rule among all drafts about some files. -/
lemma mem_drafts {s : RuleSet} {files : List FileDeclarations} {x : Rule × Draft} :
    x ∈ s.drafts files ↔ x.1 ∈ s.rules ∧
      ((∃ f ∈ files, x.2 ∈ x.1.check.fileDrafts x.1.heading f) ∨
        x.2 ∈ x.1.check.jointDrafts x.1.heading (files.flatMap (·.declarations))) := by
  rw [drafts, List.mem_append, List.mem_flatMap, mem_jointDrafts]
  simp only [mem_fileDrafts]
  constructor
  · rintro (⟨f, hf, hr, hd⟩ | ⟨hr, hd⟩)
    · exact ⟨hr, .inl ⟨f, hf, hd⟩⟩
    · exact ⟨hr, .inr hd⟩
  · rintro ⟨hr, ⟨f, hf, hd⟩ | hd⟩
    · exact .inl ⟨f, hf, hr, hd⟩
    · exact .inr ⟨hr, hd⟩

/-- The violations in the order of the drafts. -/
lemma exists_reports_of_evaluate [Host] [m : Memory] {s : RuleSet} {files : List FileDeclarations}
    {vs : List Violation} (h : s.evaluate files = .ok vs) :
    ∃ reported, (s.drafts files).mapM report = .ok reported ∧ vs.Perm reported := by
  rw [evaluate_eq] at h
  obtain ⟨reported, hreported, rfl⟩ := map_eq_ok.1 h
  exact ⟨reported, hreported, List.mergeSort_perm _ _⟩

/-- The violations are those of the drafts. -/
theorem keys_of_evaluate [Host] [m : Memory] {s : RuleSet} {files : List FileDeclarations}
    {vs : List Violation} (h : s.evaluate files = .ok vs) :
    (vs.map Violation.key).Perm ((s.drafts files).map draftKey) := by
  obtain ⟨reported, hreported, hperm⟩ := exists_reports_of_evaluate h
  rw [← map_eq_of_mapM (fun _ _ hx => (tells_of_report hx).key_eq) hreported]
  exact hperm.map _

/-- Every violation is that of a draft. -/
lemma exists_draft_of_mem_evaluate [Host] [m : Memory] {s : RuleSet} {files : List FileDeclarations}
    {vs : List Violation} (h : s.evaluate files = .ok vs) {v : Violation} (hv : v ∈ vs) :
    ∃ x ∈ s.drafts files, v.Tells x := by
  obtain ⟨reported, hreported, hperm⟩ := exists_reports_of_evaluate h
  obtain ⟨x, hx, hv⟩ := exists_of_mem_mapM hreported (hperm.mem_iff.1 hv)
  exact ⟨x, hx, tells_of_report hv⟩

end RuleSet

/-! ## Similarity rules -/

namespace Similarity

/-- A pair with its places and the draft of its message, unless it is allowed. -/
def draft? (heading : RuleHeading) (subjects : List Subject) (p : SimilarPair) :
    Option (SimilarPair × Draft) :=
  match declarationOf subjects p.first, declarationOf subjects p.second with
  | some a, some b =>
    if heading.allowsPair p.first p.second || heading.allowsPair a.name b.name then none
    else some
      ({ p with firstLocation := some (locationOf a), secondLocation := some (locationOf b) },
       ⟨{ MessageContext.ofDeclaration a "overlapping members" a.container with name := p.first },
        [("other", .text p.second), ("ratio", .real p.ratio.real),
          ("shared", .text (", ".intercalate p.sharedMembers))]⟩)
  | _, _ => none

/-- The pairs of a similarity rule that are not yet worded. -/
def drafts (t : Similarity) (r : Rule) (ds : List Declaration) (blockSize : Option Int) :
    List (SimilarPair × Draft) :=
  let subjects := selectSubjects t.kinds t.subjects ds
  (t.pairs r.id subjects blockSize).filterMap (draft? r.heading subjects)

/-- Words a pair. -/
def reportPair [Host] [m : Memory] (r : Rule) (x : SimilarPair × Draft) :
    Except Fault SimilarPair :=
  (r.message x.2.context x.2.own).map fun message => { x.1 with message := message }

lemma finish_eq [Host] [m : Memory] (r : Rule) (subjects : List Subject) (p : SimilarPair) :
    finish r subjects p = match draft? r.heading subjects p with
      | some x => (reportPair r x).map some
      | none => .ok none := by
  unfold finish draft?
  cases declarationOf subjects p.first with
  | none => rfl
  | some a =>
    cases declarationOf subjects p.second with
    | none => rfl
    | some b =>
      dsimp only
      split
      · rfl
      · simp only [reportPair]
        cases r.message _ _ <;> rfl

/-- A similarity rule words its drafts. -/
theorem check_eq [Host] [m : Memory] (t : Similarity) (r : Rule) (ds : List Declaration)
    (blockSize : Option Int) :
    t.check r ds blockSize = (t.drafts r ds blockSize).mapM (reportPair r) := by
  refine filterMapM_eq_mapM ?_ ?_
  · intro p _ hp
    rw [finish_eq, hp]
  · intro p _ x hp
    rw [finish_eq, hp]

end Similarity
end Conformance
