/-
# What is found in a file

A line declares the types whose headers stand on it, some of them once more as the payloads of
events, and at most one method and one property.  What a line can declare is told once, by cases
(`declaredOn_of_mem`), and so is what a file declares (`mem_foundDeclarations`, `mem_extract`).  A
fact about every declaration is proved from these cases.
-/
import Mathlib.Tactic
import Conformance.Source.Declaration

namespace Conformance.Source

/-- A declaration on a line: a type, the same type as the payload of an event, a method or a
property. -/
inductive DeclaredOn (path ns : String) (scope : LineScope) : Declaration → Prop
  | type (h : ContainerHeader) (hmem : h ∈ containerHeaders scope.text.toList) :
    DeclaredOn path ns scope (containerDeclaration scope path ns h)
  | payload (h : ContainerHeader) (hmem : h ∈ containerHeaders scope.text.toList)
      (hkind : h.kind ≠ .enum) :
    DeclaredOn path ns scope { containerDeclaration scope path ns h with kind := .eventPayload }
  | method (m : MemberHeader) (hm : methodHeader? scope.text.toList = some m)
      (hdeclares : m.declaresMember = true) :
    DeclaredOn path ns scope (memberDeclaration .method scope path ns m)
  | property (m : MemberHeader) (hm : propertyHeader? scope.text.toList = some m)
      (hdeclares : m.declaresMember = true) :
    DeclaredOn path ns scope (memberDeclaration .property scope path ns m)

lemma declaredOn_of_mem {path ns : String} {scope : LineScope} {d : Declaration}
    (hd : d ∈ lineDeclarations path ns scope) : DeclaredOn path ns scope d := by
  simp only [lineDeclarations, List.mem_append, List.mem_flatMap, List.mem_map,
    Option.mem_toList, Option.filter_eq_some_iff] at hd
  rcases hd with (⟨h, hmem, hd⟩ | ⟨m, ⟨hm, hdeclares⟩, rfl⟩) | ⟨m, ⟨hm, hdeclares⟩, rfl⟩
  · unfold containerDeclarations at hd
    split at hd
    · rename_i htwin
      have hkind : h.kind ≠ .enum := bne_iff_ne.1 (Bool.and_eq_true_iff.1 htwin).2
      simp only [List.mem_cons, List.not_mem_nil, or_false] at hd
      rcases hd with rfl | rfl
      · exact .type h hmem
      · exact .payload h hmem hkind
    · obtain rfl := List.mem_singleton.1 hd
      exact .type h hmem
  · exact .method m hm hdeclares
  · exact .property m hm hdeclares

/-! ## The members on a line -/

section Members

variable {path ns : String} {scope : LineScope}

lemma kind_containerDeclaration (h : ContainerHeader) :
    (containerDeclaration scope path ns h).kind ≠ .method ∧
      (containerDeclaration scope path ns h).kind ≠ .property := by
  simp only [containerDeclaration]
  cases h.kind <;> decide

/-- The header of a type declares no member. -/
lemma kind_containerDeclarations {h : ContainerHeader} {d : Declaration}
    (hd : d ∈ containerDeclarations scope path ns h) : d.kind ≠ .method ∧ d.kind ≠ .property := by
  unfold containerDeclarations at hd
  split at hd
  · simp only [List.mem_cons, List.not_mem_nil, or_false] at hd
    rcases hd with rfl | rfl
    · exact kind_containerDeclaration h
    · exact ⟨by simp, by simp⟩
  · obtain rfl := List.mem_singleton.1 hd
    exact kind_containerDeclaration h

lemma filter_kind_memberDeclarations (kind kind' : DeclarationKind) (hs : List MemberHeader) :
    (hs.map (memberDeclaration kind scope path ns)).filter (·.kind == kind')
      = if kind = kind' then hs.map (memberDeclaration kind scope path ns) else [] := by
  rw [List.filter_map]
  split
  · rename_i hkind
    exact congrArg _ (List.filter_eq_self.2 fun h _ => by simp [memberDeclaration, hkind])
  · rename_i hkind
    exact List.map_eq_nil_iff.2
      (List.filter_eq_nil_iff.2 fun h _ => by simp [memberDeclaration, hkind])

/-- A line declares at most one method. -/
lemma filter_method_lineDeclarations (path ns : String) (scope : LineScope) :
    (lineDeclarations path ns scope).filter (·.kind == .method)
      = ((methodHeader? scope.text.toList).filter (·.declaresMember)).toList.map
        (memberDeclaration .method scope path ns) := by
  have htypes : ((containerHeaders scope.text.toList).flatMap
      (containerDeclarations scope path ns)).filter (·.kind == .method) = [] := by
    refine List.filter_eq_nil_iff.2 fun d hd => ?_
    obtain ⟨h, -, hd⟩ := List.mem_flatMap.1 hd
    simpa using (kind_containerDeclarations hd).1
  rw [lineDeclarations, List.filter_append, List.filter_append, htypes,
    filter_kind_memberDeclarations, filter_kind_memberDeclarations, if_pos rfl, if_neg (by decide),
    List.nil_append, List.append_nil]

/-- A line declares at most one property. -/
lemma filter_property_lineDeclarations (path ns : String) (scope : LineScope) :
    (lineDeclarations path ns scope).filter (·.kind == .property)
      = ((propertyHeader? scope.text.toList).filter (·.declaresMember)).toList.map
        (memberDeclaration .property scope path ns) := by
  have htypes : ((containerHeaders scope.text.toList).flatMap
      (containerDeclarations scope path ns)).filter (·.kind == .property) = [] := by
    refine List.filter_eq_nil_iff.2 fun d hd => ?_
    obtain ⟨h, -, hd⟩ := List.mem_flatMap.1 hd
    simpa using (kind_containerDeclarations hd).2
  rw [lineDeclarations, List.filter_append, List.filter_append, htypes,
    filter_kind_memberDeclarations, filter_kind_memberDeclarations, if_neg (by decide), if_pos rfl,
    List.nil_append, List.nil_append]

end Members

/-! ## The declarations of a file -/

/-- What is found in a file is its namespace, or is declared on a line. -/
lemma mem_foundDeclarations {scopes : List LineScope} {file : SourceFile} {d : Declaration} :
    d ∈ foundDeclarations scopes file ↔
      namespaceDeclaration? file.path file.text.toList = some d ∨
      ∃ scope ∈ scopes, d ∈ lineDeclarations file.path (namespaceOf file.text.toList) scope := by
  rw [foundDeclarations, List.mem_append, Option.mem_toList, List.mem_flatMap]

lemma mem_enumMemberDeclarations {d e : Declaration} : d ∈ enumMemberDeclarations e ↔
    e.kind = .enum ∧ ∃ m ∈ e.members,
      { kind := .enumMember, name := m, path := e.path, line := e.line,
        namespaceName := e.namespaceName, column := e.column } = d := by
  unfold enumMemberDeclarations
  split <;> simp_all

/-- A declaration that is found in a file, with its members. -/
def SourceFile.complete (file : SourceFile) (t : Tracker) (d : Declaration) : Declaration :=
  withMembers file.lines (ownedProperties (Tracker.full.track file.lines).scopes
    (foundDeclarations (t.track file.lines).scopes file)) d

/-- A declaration of a file is one that is found, with its members, or a member of an enumeration
that is found. -/
lemma mem_extract {t : Tracker} {file : SourceFile} {d : Declaration} :
    d ∈ (extract t file).declarations ↔
      ∃ e ∈ foundDeclarations (t.track file.lines).scopes file,
        file.complete t e = d ∨ d ∈ enumMemberDeclarations (file.complete t e) := by
  refine (List.mergeSort_perm _ _).mem_iff.trans ?_
  simp only [attachMembers, List.mem_append, List.mem_map, List.mem_flatMap]
  constructor
  · rintro (⟨e, he, rfl⟩ | ⟨_, ⟨e, he, rfl⟩, hd⟩)
    · exact ⟨e, he, .inl rfl⟩
    · exact ⟨e, he, .inr hd⟩
  · rintro ⟨e, he, rfl | hd⟩
    · exact .inl ⟨e, he, rfl⟩
    · exact .inr ⟨_, ⟨e, he, rfl⟩, hd⟩

end Conformance.Source
