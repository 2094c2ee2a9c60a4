/-
# Innermost containers and all containers

A placement rule looks at the innermost container of a declaration, or at all that enclose it.  In
a file that was read, the innermost container is the last of all (`container_of_mem_extract`), so
the containers that count for the first are among those that count for the second.  A forbidden
container is then more easily met, and a required one less easily missed: a rule without required
containers reports no fewer declarations when it looks at all of them, and one without forbidden
containers no more (`RuleSet.reported_inScope`).
-/
import Conformance.Proofs.Check.Wording
import Conformance.Proofs.Source.Located

namespace Conformance

open Source

/-! ## The scope of a rule -/

/-- The rule as written, for the innermost container or for any. -/
def PlacementSpec.inScope (s : PlacementSpec) (any : Bool) : PlacementSpec :=
  { s with containerScope := if any then "any" else "innermost" }

/-- The rule for the innermost container or for any. -/
def Placement.inScope (p : Placement) (any : Bool) : Placement :=
  { p with anyScope := any }

/-- The rule with another check of placements. -/
def Rule.placing (r : Rule) (p : Placement) : Rule :=
  { r with check := .placement p }

/-- The rule as written is accepted, with what its texts are read as. -/
structure PlacementSpec.Yields (s : PlacementSpec) (id : String) (p : Placement) : Prop where
  names : checkPattern id "pattern" s.pattern = .ok p.names
  containers : checkPattern? id "container_pattern" s.containerPattern = .ok p.containers
  kinds : checkKinds id s.kinds = .ok p.kinds
  kinds_ne_nil : p.kinds ≠ []
  required : checkContainers id "required_container" s.requiredContainer = .ok p.required
  forbidden : checkContainers id "forbidden_container" s.forbiddenContainer = .ok p.forbidden
  scope : s.containerScope = if p.anyScope then "any" else "innermost"
  maxCount_nonneg : 0 ≤ s.maxCount.getD 0
  /-- The other fields are taken as they are written. -/
  kept : (p.patternText, p.requiredPath, p.forbiddenPath, p.requireNamespace, p.maxCount)
    = (s.pattern, nonEmpty s.requiredPath, nonEmpty s.forbiddenPath, s.requireNamespace,
      s.maxCount.map Int.toNat)

lemma PlacementSpec.compile_eq_ok_iff {s : PlacementSpec} {id : String} {p : Placement} :
    s.compile id = .ok p ↔ s.Yields id p := by
  constructor
  · intro h
    obtain ⟨names, hnames, h⟩ := bind_eq_ok.1 h
    obtain ⟨containers, hcontainers, h⟩ := bind_eq_ok.1 h
    obtain ⟨kinds, hkinds, h⟩ := bind_eq_ok.1 h
    obtain ⟨_, hsome, h⟩ := bind_eq_ok.1 h
    obtain ⟨required, hrequired, h⟩ := bind_eq_ok.1 h
    obtain ⟨forbidden, hforbidden, h⟩ := bind_eq_ok.1 h
    obtain ⟨_, hscope, h⟩ := bind_eq_ok.1 h
    obtain ⟨_, hcount, h⟩ := bind_eq_ok.1 h
    obtain rfl := Except.ok.inj h
    refine ⟨hnames, hcontainers, hkinds, ?_, hrequired, hforbidden, ?_, ?_, rfl⟩
    · simpa using demand_eq_ok.1 hsome
    · have hscope := demand_eq_ok.1 hscope
      simp only [Bool.or_eq_true, beq_iff_eq] at hscope
      rcases hscope with hscope | hscope <;> rw [hscope] <;> rfl
    · simpa using demand_eq_ok.1 hcount
  · rintro ⟨hnames, hcontainers, hkinds, hsome, hrequired, hforbidden, hscope, hcount, hkept⟩
    have hany : (s.containerScope == "any") = p.anyScope := by
      rw [hscope]
      cases p.anyScope <;> rfl
    refine bind_eq_ok.2 ⟨_, hnames, bind_eq_ok.2 ⟨_, hcontainers, bind_eq_ok.2 ⟨_, hkinds, ?_⟩⟩⟩
    refine bind_eq_ok.2 ⟨(), demand_eq_ok.2 (by simpa using hsome), ?_⟩
    refine bind_eq_ok.2 ⟨_, hrequired, bind_eq_ok.2 ⟨_, hforbidden, ?_⟩⟩
    refine bind_eq_ok.2 ⟨(), demand_eq_ok.2 (by rw [hscope]; cases p.anyScope <;> rfl), ?_⟩
    refine bind_eq_ok.2 ⟨(), demand_eq_ok.2 (by simpa using hcount), ?_⟩
    simp only [Prod.mk.injEq] at hkept
    obtain ⟨htext, hunder, hnotUnder, hspace, hmax⟩ := hkept
    rw [hany, ← htext, ← hunder, ← hnotUnder, ← hspace, ← hmax]
    rfl

/-- A rule that is accepted is accepted with either scope, and differs in nothing else. -/
lemma PlacementSpec.Yields.inScope {s : PlacementSpec} {id : String} {p : Placement}
    (h : s.Yields id p) (any : Bool) : (s.inScope any).Yields id (p.inScope any) :=
  { h with scope := rfl }

namespace RuleSet

/-- A set of one rule is accepted if the rule is. -/
lemma ofSpecs_singleton [Host] [m : Memory] {spec : RuleSpec} {s : RuleSet} :
    ofSpecs [spec] = .ok s ↔ ∃ r, spec.compile = .ok r ∧ s = ⟨[r]⟩ := by
  have hone : ofSpecs [spec] = spec.compile.map fun r => ⟨[r]⟩ := by
    rw [ofSpecs, compileFrom, compileFrom]
    cases spec.compile <;> rfl
  rw [hone, map_eq_ok]
  simp only [eq_comm]

/-- A placement rule that is accepted alone, and the same rule with either scope. -/
lemma ofSpecs_inScope [Host] [m : Memory] {heading : RuleHeading} {spec : PlacementSpec}
    {s : RuleSet} (h : ofSpecs [⟨heading, .placement spec⟩] = .ok s) :
    ∃ (r : Rule) (p : Placement), spec.Yields heading.id p ∧ r.heading = heading ∧
      ∀ any, ofSpecs [⟨heading, .placement (spec.inScope any)⟩]
        = .ok ⟨[r.placing (p.inScope any)]⟩ := by
  obtain ⟨r, hr, rfl⟩ := ofSpecs_singleton.1 h
  obtain ⟨_, hnamed, hr⟩ := bind_eq_ok.1 hr
  obtain ⟨_, hthreshold, hr⟩ := bind_eq_ok.1 hr
  obtain ⟨template, htemplate, hr⟩ := bind_eq_ok.1 hr
  obtain ⟨check, hcheck, hr⟩ := bind_eq_ok.1 hr
  obtain rfl := Except.ok.inj hr
  obtain ⟨p, hp, -⟩ := map_eq_ok.1 hcheck
  have hp := PlacementSpec.compile_eq_ok_iff.1 hp
  refine ⟨⟨heading, template, check⟩, p, hp, rfl, fun any => ofSpecs_singleton.2 ⟨_, ?_, rfl⟩⟩
  have hcompile := PlacementSpec.compile_eq_ok_iff.2 (hp.inScope any)
  exact bind_eq_ok.2 ⟨_, hnamed, bind_eq_ok.2 ⟨_, hthreshold, bind_eq_ok.2 ⟨template, htemplate,
    bind_eq_ok.2 ⟨_, map_eq_ok.2 ⟨_, hcompile, rfl⟩, rfl⟩⟩⟩⟩

end RuleSet

/-! ## The containers that count -/

/-- The innermost container of a declaration that was read is the last of those around it. -/
lemma Source.container_of_mem_extract {t : Tracker} {file : SourceFile} {d : Declaration}
    (h : d ∈ (extract t file).declarations) : d.container = d.ancestors.getLast? := by
  rw [declarations_eq_located t t] at h
  obtain ⟨e, -, rfl⟩ := List.mem_map.1 h
  rfl

namespace Placement

variable {p : Placement} {d : Declaration}

/-- The innermost container is one of all. -/
lemma frames_innermost_subset (hd : d.container = d.ancestors.getLast?) :
    (p.inScope false).frames d ⊆ (p.inScope true).frames d := by
  have hsub : d.container.toList ⊆ d.ancestors := by
    intro f hf
    exact List.mem_of_getLast? (hd ▸ Option.mem_toList.1 hf)
  simp only [frames, inScope, Bool.false_eq_true, if_false, if_true]
  cases p.containers with
  | none => exact hsub
  | some pattern =>
    intro f hf
    obtain ⟨hmem, hname⟩ := List.mem_filter.1 hf
    exact List.mem_filter.2 ⟨hsub hmem, hname⟩

/-- Whether a container that counts is forbidden. -/
def meetsForbidden (p : Placement) (d : Declaration) : Bool :=
  (p.frames d).any fun f => p.forbidden.contains f.kind

/-- Whether something is wrong with the place apart from the containers. -/
def misplaced (p : Placement) (d : Declaration) : Bool :=
  (p.requiredPath.filter fun part => !under d part).isSome ||
    (p.forbiddenPath.filter (under d)).isSome ||
    (p.requireNamespace && d.namespaceName == unknownNamespace) || p.reportsEveryMatch

/-- A place is wrong for one of three reasons; only the last has nothing to do with containers. -/
lemma isSome_problem? (p : Placement) (d : Declaration) :
    (p.problem? d).isSome = (p.meetsForbidden d || p.lacksRequired d || p.misplaced d) := by
  have hforbidden : p.meetsForbidden d = (p.forbiddenFrame? d).isSome := by
    rw [forbiddenFrame?, List.isSome_find?, List.any_reverse]
    rfl
  rw [hforbidden, problem?, misplaced]
  cases p.forbiddenFrame? d with
  | some f => rfl
  | none =>
    cases p.lacksRequired d with
    | true => rfl
    | false =>
      cases p.requiredPath.filter fun part => !under d part with
      | some part => rfl
      | none =>
        cases p.forbiddenPath.filter (under d) with
        | some part => rfl
        | none =>
          cases hns : p.requireNamespace && d.namespaceName == unknownNamespace with
          | true => simp
          | false => cases hall : p.reportsEveryMatch <;> simp

lemma misplaced_inScope (any : Bool) : (p.inScope any).misplaced d = p.misplaced d := rfl

/-- A forbidden container is more easily met among all containers. -/
lemma meetsForbidden_of_innermost (hd : d.container = d.ancestors.getLast?)
    (h : (p.inScope false).meetsForbidden d = true) :
    (p.inScope true).meetsForbidden d = true := by
  obtain ⟨f, hf, hkind⟩ := List.any_eq_true.1 h
  exact List.any_eq_true.2 ⟨f, frames_innermost_subset hd hf, hkind⟩

/-- A required container is less easily missed among all containers. -/
lemma lacksRequired_of_any (hd : d.container = d.ancestors.getLast?)
    (h : (p.inScope true).lacksRequired d = true) : (p.inScope false).lacksRequired d = true := by
  simp only [lacksRequired, Bool.and_eq_true, Bool.not_eq_true', List.any_eq_false] at h ⊢
  exact ⟨h.1, fun f hf => h.2 f (frames_innermost_subset hd hf)⟩

lemma lacksRequired_eq_false (h : p.required = []) : p.lacksRequired d = false := by
  simp [lacksRequired, h]

lemma meetsForbidden_eq_false (h : p.forbidden = []) : p.meetsForbidden d = false := by
  simp [meetsForbidden, h]

/-- Without required containers, what is wrong for the innermost container is wrong for any. -/
lemma isSome_problem?_any (hd : d.container = d.ancestors.getLast?) (hp : p.required = [])
    (h : ((p.inScope false).problem? d).isSome = true) :
    ((p.inScope true).problem? d).isSome = true := by
  have hnone : ∀ any, (p.inScope any).lacksRequired d = false := fun any =>
    lacksRequired_eq_false hp
  simp only [isSome_problem?, hnone, misplaced_inScope, Bool.or_false, Bool.or_eq_true] at h ⊢
  exact h.imp_left (meetsForbidden_of_innermost hd)

/-- Without forbidden containers, what is wrong for any container is wrong for the innermost. -/
lemma isSome_problem?_innermost (hd : d.container = d.ancestors.getLast?) (hp : p.forbidden = [])
    (h : ((p.inScope true).problem? d).isSome = true) :
    ((p.inScope false).problem? d).isSome = true := by
  have hnone : ∀ any, (p.inScope any).meetsForbidden d = false := fun any =>
    meetsForbidden_eq_false hp
  simp only [isSome_problem?, hnone, misplaced_inScope, Bool.false_or, Bool.or_eq_true] at h ⊢
  exact h.imp_left (lacksRequired_of_any hd)

/-! ## The declarations that are reported -/

/-- The declarations of a file that a placement rule reports, in their order. -/
def reported (p : Placement) (heading : RuleHeading) (ds : List Declaration) : List Declaration :=
  if p.hasConstraints || p.reportsEveryMatch then
    (ds.filter (p.applies heading)).filter fun d => (p.problem? d).isSome
  else []

/-- The declarations of some files that a placement rule reports, file by file. -/
def reportedIn (p : Placement) (heading : RuleHeading) (files : List FileDeclarations) :
    List Declaration :=
  files.flatMap fun f => p.reported heading f.declarations

/-- What is reported with one scope is reported with the other, if every problem with one is a
problem with the other. -/
lemma reported_sublist {heading : RuleHeading} {ds : List Declaration} {a b : Bool}
    (h : ∀ d ∈ ds, ((p.inScope a).problem? d).isSome = true →
      ((p.inScope b).problem? d).isSome = true) :
    ((p.inScope a).reported heading ds).Sublist ((p.inScope b).reported heading ds) := by
  have hall : (p.inScope a).applies heading = (p.inScope b).applies heading := rfl
  have hguard : ((p.inScope a).hasConstraints || (p.inScope a).reportsEveryMatch)
      = ((p.inScope b).hasConstraints || (p.inScope b).reportsEveryMatch) := rfl
  simp only [reported, hall, hguard]
  split
  · -- what the one reports is found among what the other reports
    have hsame : (ds.filter ((p.inScope b).applies heading)).filter
          (fun d => ((p.inScope a).problem? d).isSome)
        = ((ds.filter ((p.inScope b).applies heading)).filter
          fun d => ((p.inScope b).problem? d).isSome).filter
          fun d => ((p.inScope a).problem? d).isSome := by
      conv_rhs => rw [List.filter_filter]
      refine List.filter_congr fun d hd => ?_
      have hd := h d (List.mem_of_mem_filter hd)
      cases ha : ((p.inScope a).problem? d).isSome with
      | false => rfl
      | true => rw [hd ha]; rfl
    rw [hsame]
    exact List.filter_sublist
  · exact List.Sublist.refl _

/-- In files that were read, problems need only be compared for declarations whose innermost
container is the last of those around them. -/
lemma reportedIn_sublist {heading : RuleHeading} {files : List FileDeclarations}
    (hfiles : ∀ f ∈ files, ∃ t, f = extract t f.file) {a b : Bool}
    (h : ∀ d : Declaration, d.container = d.ancestors.getLast? →
      ((p.inScope a).problem? d).isSome = true → ((p.inScope b).problem? d).isSome = true) :
    ((p.inScope a).reportedIn heading files).Sublist ((p.inScope b).reportedIn heading files) := by
  refine List.Sublist.flatMap_right files fun f hf => reported_sublist fun d hd => h d ?_
  obtain ⟨t, ht⟩ := hfiles f hf
  rw [ht] at hd
  exact container_of_mem_extract hd

/-- The declarations of a file that a placement rule reports, with what is wrong with them. -/
def problems (p : Placement) (heading : RuleHeading) (ds : List Declaration) :
    List (Declaration × String × Option Frame) :=
  if p.hasConstraints || p.reportsEveryMatch then
    (ds.filter (p.applies heading)).filterMap fun d => (p.problem? d).map (d, ·)
  else []

/-- The draft about a declaration. -/
def draftOf (x : Declaration × String × Option Frame) : Draft :=
  ⟨.ofDeclaration x.1 x.2.1 x.2.2, []⟩

lemma map_fst_problems (p : Placement) (heading : RuleHeading) (ds : List Declaration) :
    (p.problems heading ds).map (·.1) = p.reported heading ds := by
  have hfst : ∀ d : Declaration, ((p.problem? d).map (d, ·)).map (·.1)
      = Option.guard (fun d => (p.problem? d).isSome) d := by
    intro d
    cases hd : p.problem? d <;> simp [Option.guard, hd]
  unfold problems reported
  split
  · rw [List.map_filterMap, funext hfst, List.filterMap_eq_filter]
  · rfl

lemma fileDrafts_eq (p : Placement) (heading : RuleHeading) (f : FileDeclarations) :
    (Check.placement p).fileDrafts heading f
      = (p.problems heading f.declarations).map draftOf := by
  simp only [Check.fileDrafts, problems]
  split
  · rw [drafts, List.map_filterMap]
    simp only [Option.map_map]
    rfl
  · rfl

end Placement

section Reports

variable [Host] [m : Memory]

/-- A violation of a rule is about a declaration, for some reason and in some container. -/
def Violation.TellsOf (v : Violation) (r : Rule) (d : Declaration) : Prop :=
  ∃ reason container, r.violation (.ofDeclaration d reason container) [] = .ok v

/-- A rule, evaluated file by file, reports some declarations one after another; or its message
fails for one of them, with a fault that it can have. -/
def Rule.Reports (r : Rule) (files : List FileDeclarations) (ds : List Declaration) : Prop :=
  (∃ vs, collect (RuleSet.mk [r]).evaluateFile files = .ok vs ∧
    List.Forall₂ (fun v d => v.TellsOf r d) vs ds) ∨
  ∃ e, r.CanFail e ∧ collect (RuleSet.mk [r]).evaluateFile files = .error (.template e) ∧
    ∃ d ∈ ds, ∃ reason container,
      r.message (.ofDeclaration d reason container) [] = .error (.template e)

end Reports

namespace RuleSet

variable {files : List FileDeclarations}

/-- A single placement rule words its problems, file by file. -/
lemma collect_evaluateFile_placing [Host] [m : Memory] {r : Rule} {p : Placement}
    (hr : r.check = .placement p) (files : List FileDeclarations) :
    collect (RuleSet.mk [r]).evaluateFile files
      = (files.flatMap fun f => p.problems r.heading f.declarations).mapM
        fun x => report (r, Placement.draftOf x) := by
  refine collect_eq_mapM fun f _ => ?_
  have hplaced : RuleSet.ofKind ⟨[r]⟩ .placement = [r] := by simp [ofKind, hr, Check.kind]
  have hnamed : RuleSet.ofKind ⟨[r]⟩ .nameSpace = [] := by simp [ofKind, hr, Check.kind]
  have hused : RuleSet.ofKind ⟨[r]⟩ .usage = [] := by simp [ofKind, hr, Check.kind]
  rw [evaluateFile_eq, fileDrafts, hplaced, hnamed, hused, List.append_nil, List.append_nil,
    List.flatMap_singleton, hr, p.fileDrafts_eq, List.map_map, List.mapM_map]
  rfl

/-- An accepted placement rule reports what `Placement.reportedIn` lists. -/
lemma reports_placing [Host] {m n : Memory} {specs : List RuleSpec} {r : Rule} {p : Placement}
    (h : ofSpecs (m := m) specs = .ok ⟨[r]⟩) (hr : r.check = .placement p)
    (files : List FileDeclarations) :
    r.Reports (m := n) files (p.reportedIn r.heading files) := by
  have hreported : p.reportedIn r.heading files
      = (files.flatMap fun f => p.problems r.heading f.declarations).map (·.1) := by
    rw [Placement.reportedIn, List.map_flatMap]
    simp only [p.map_fst_problems]
  rw [hreported, Rule.Reports, collect_evaluateFile_placing hr]
  have hproblems : ∀ x ∈ files.flatMap fun f => p.problems r.heading f.declarations,
      (Placement.draftOf x).Fits r.check.kind := by
    intro x hx
    obtain ⟨f, -, hx⟩ := List.mem_flatMap.1 hx
    have hdraft : Placement.draftOf x ∈ (Check.placement p).fileDrafts r.heading f := by
      rw [p.fileDrafts_eq]
      exact List.mem_map_of_mem hx
    rw [hr]
    exact Check.fits_of_mem_fileDrafts hdraft
  generalize (files.flatMap fun f => p.problems r.heading f.declarations) = problems at *
  cases hwords : problems.mapM fun x => report (r, Placement.draftOf x) with
  | ok vs =>
    refine .inl ⟨vs, rfl, List.forall₂_map_right_iff.2 ?_⟩
    exact (mapM_eq_ok_iff.1 hwords).flip.imp fun v x hv => ⟨_, _, hv⟩
  | error fault =>
    obtain ⟨x, hx, hreport⟩ := exists_of_mapM_error hwords
    obtain ⟨e, rfl, he, hmessage⟩ :=
      message_error_of_report h (List.mem_singleton_self r) (hproblems x hx) hreport
    exact .inr ⟨e, he, rfl, x.1, List.mem_map_of_mem hx, _, _, hmessage⟩

/-- Let a placement rule be accepted, and some files be read.  The rule is accepted with either
scope for its containers, and reports, file by file and in every memory, the declarations that
`Placement.reportedIn` lists.  Without required containers those reported for the innermost
container are reported for any; without forbidden containers those reported for any are reported
for the innermost; without both they are the same. -/
theorem reported_inScope [Host] [m : Memory] {heading : RuleHeading} {spec : PlacementSpec}
    {s : RuleSet} (h : ofSpecs [⟨heading, .placement spec⟩] = .ok s)
    {files : List FileDeclarations} (hfiles : ∀ f ∈ files, ∃ t, f = extract t f.file) :
    ∃ (r : Rule) (p : Placement),
      (∀ any, ofSpecs [⟨heading, .placement (spec.inScope any)⟩]
          = .ok ⟨[r.placing (p.inScope any)]⟩ ∧
        ∀ n : Memory, (r.placing (p.inScope any)).Reports (m := n) files
          ((p.inScope any).reportedIn heading files)) ∧
      (spec.requiredContainer = [] →
        ((p.inScope false).reportedIn heading files).Sublist
          ((p.inScope true).reportedIn heading files)) ∧
      (spec.forbiddenContainer = [] →
        ((p.inScope true).reportedIn heading files).Sublist
          ((p.inScope false).reportedIn heading files)) ∧
      (spec.requiredContainer = [] → spec.forbiddenContainer = [] →
        (p.inScope false).reportedIn heading files
          = (p.inScope true).reportedIn heading files) := by
  obtain ⟨r, p, hp, rfl, hscopes⟩ := ofSpecs_inScope h
  have hinner : spec.requiredContainer = [] →
      ((p.inScope false).reportedIn r.heading files).Sublist
        ((p.inScope true).reportedIn r.heading files) := by
    intro hnone
    have hrequired := hp.required
    rw [hnone] at hrequired
    have hnone : p.required = [] := (Except.ok.inj hrequired).symm
    exact Placement.reportedIn_sublist hfiles fun d hd => Placement.isSome_problem?_any hd hnone
  have hany : spec.forbiddenContainer = [] →
      ((p.inScope true).reportedIn r.heading files).Sublist
        ((p.inScope false).reportedIn r.heading files) := by
    intro hnone
    have hforbidden := hp.forbidden
    rw [hnone] at hforbidden
    have hnone : p.forbidden = [] := (Except.ok.inj hforbidden).symm
    exact Placement.reportedIn_sublist hfiles fun d hd =>
      Placement.isSome_problem?_innermost hd hnone
  exact ⟨r, p, fun any => ⟨hscopes any, fun _ => reports_placing (hscopes any) rfl files⟩, hinner,
    hany, fun hrequired hforbidden => (hinner hrequired).antisymm (hany hforbidden)⟩

/-- No enumeration may stand in an interface. -/
def noEnumSpec : PlacementSpec :=
  { kinds := ["enum"], forbiddenContainer := ["interface"] }

/-- An enumeration in a class in an interface. -/
def deepFile : FileDeclarations :=
  extract Tracker.full ⟨"Nested.cs", ["public interface IOuter \x7b", "public class Inner \x7b",
    "public enum Deep \x7b A \x7d", "\x7d \x7d"]⟩

section Plain

attribute [local instance] Host.plain Memory.plain

/-- The rule requires no container, so what it reports for the innermost container it reports for
any. -/
theorem reported_inScope_deep :
    ∃ (r : Rule) (p : Placement),
      (∀ any, (r.placing (p.inScope any)).Reports [deepFile]
        ((p.inScope any).reportedIn { id := "nested" } [deepFile])) ∧
      ((p.inScope false).reportedIn { id := "nested" } [deepFile]).Sublist
        ((p.inScope true).reportedIn { id := "nested" } [deepFile]) := by
  have haccepted : (ofSpecs [⟨{ id := "nested" }, .placement noEnumSpec⟩]).toOption.isSome = true :=
    by decide +kernel
  obtain ⟨s, hs⟩ := exists_ok_of_isSome haccepted
  have hread : ∀ f ∈ [deepFile], ∃ t, f = extract t f.file := by
    intro f hf
    obtain rfl := List.mem_singleton.1 hf
    exact ⟨Tracker.full, rfl⟩
  obtain ⟨r, p, hscopes, hsublist, -⟩ := reported_inScope hs hread
  exact ⟨r, p, fun any => (hscopes any).2 Memory.plain, hsublist rfl⟩

end Plain

end RuleSet
end Conformance
