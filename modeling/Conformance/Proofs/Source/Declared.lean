/-
# Names of declarations

The name of a declaration is a text of word characters, and that of a namespace may hold dots as
well; every declaration of a file carries the path and the namespace of the file.  So no name and no
namespace holds the sign that stands before the path in a key, and no name of another kind holds
the dot that stands behind a namespace (`declaredIn_of_mem_extract`).
-/
import Conformance.Proofs.Source.HeaderMatch
import Conformance.Proofs.Source.Located

namespace Conformance.Source
open Pattern

/-! ## Captured names -/

lemma toList_partText {m : Match Part} {part : Part} {capture : Capture}
    (h : m.capture? part = some capture) : (partText m part).toList = capture.text := by
  simp [partText, Match.captured?, h]

/-- The parts of the header of a type before the name. -/
def beforeTypeName : List HeaderPattern :=
  [alt
      (concat [.anchor .textStart, gap, attributes,
        .group .visibility (alt visibilityRun (word "file")), gap1])
      (concat [.behind true 1 (.one (.chars ['{', '}', ';'])), gap, attributes,
        opt (seq (.group .nestedVisibility visibilityRun) gap1)]),
    .group .modifiers (star (seq typeModifier gap1)),
    .group .keyword containerKeyword,
    gap1]

lemma isWord_of_mem_containerName {line : List Char} {h : ContainerHeader}
    (hh : h ∈ containerHeaders line) : IsWord h.name.toList := by
  obtain ⟨m, hm, rfl⟩ := List.mem_map.1 hh
  obtain ⟨-, consuming, hmatch⟩ := exists_matchAt?_of_mem_allFrom hm
  -- the name is the last part of the pattern
  have hsplit : containerPattern = concat (beforeTypeName ++ .group .name nameWord :: []) := rfl
  rw [hsplit] at hmatch
  obtain ⟨capture, hcapture, htext⟩ := exists_capture?_of_matchAt? List.not_mem_nil hmatch
  rw [ContainerHeader.ofMatch, toList_partText hcapture]
  exact isWord_of_mem_nameWord htext

/-- The parts of the header of a member before the name. -/
def beforeMemberName : List HeaderPattern :=
  memberStart.take 8

lemma isWord_of_memberName {line : List Char} {ps : List HeaderPattern} {m : Match Part}
    (hps : (concat (gap :: ps)).keys = [])
    (hm : (concat (memberStart ++ ps)).matchStart? line = some m) :
    IsWord (MemberHeader.ofMatch m).name.toList := by
  have hsplit : memberStart ++ ps = beforeMemberName ++ .group .name nameWord :: (gap :: ps) := rfl
  rw [hsplit] at hm
  obtain ⟨capture, hcapture, htext⟩ := exists_capture?_of_matchAt? (by simp [hps]) hm
  rw [MemberHeader.ofMatch, toList_partText hcapture]
  exact isWord_of_mem_nameWord htext

lemma isWord_of_methodName {line : List Char} {h : MemberHeader}
    (hh : methodHeader? line = some h) : IsWord h.name.toList := by
  obtain ⟨m, hm, rfl⟩ := Option.map_eq_some_iff.1 hh
  exact isWord_of_memberName rfl hm

lemma isWord_of_propertyName {line : List Char} {h : MemberHeader}
    (hh : propertyHeader? line = some h) : IsWord h.name.toList := by
  obtain ⟨m, hm, rfl⟩ := Option.map_eq_some_iff.1 hh
  exact isWord_of_memberName rfl hm

/-- A namespace is made of word characters and dots. -/
lemma isWord_or_eq_dot_of_mem_namespaceOf {text : List Char} {c : Char}
    (hc : c ∈ (namespaceOf text).toList) : Text.isWord c = true ∨ c = '.' := by
  unfold namespaceOf at hc
  cases hheader : namespaceHeader? text with
  | none =>
    rw [hheader] at hc
    have hunknown : IsWord unknownNamespace.toList := by decide
    exact .inl (hunknown.2 c hc)
  | some h =>
    rw [hheader] at hc
    obtain ⟨m, hm, rfl⟩ := Option.map_eq_some_iff.1 hheader
    obtain ⟨-, consuming, hmatch⟩ := exists_matchAt?_of_searchAlong? hm
    have hsplit : namespacePattern = concat ([word "namespace", gap1] ++
        .group .name (plus (.one (.either (.word false) (.char '.')))) ::
          [gap, .one (.chars [';', '{'])]) := rfl
    rw [hsplit] at hmatch
    obtain ⟨capture, hcapture, htext⟩ := exists_capture?_of_matchAt? (by decide) hmatch
    have hname : (partText m .name).toList = capture.text := toList_partText hcapture
    have hmem : c ∈ capture.text := hname ▸ hc
    simpa [CharTest.accepts] using (accepts_of_mem_language_rounds htext).2 c hmem

/-! ## Where a declaration comes from -/

/-- What a declaration of a file carries: the path and the namespace of the file, and a name. -/
structure Declaration.DeclaredIn (file : SourceFile) (d : Declaration) : Prop where
  path_eq : d.path = file.path
  namespaceName_eq : d.namespaceName = namespaceOf file.text.toList
  name_eq : d.kind = .nameSpace → d.name = d.namespaceName
  isWord_of_mem_name : d.kind ≠ .nameSpace → ∀ c ∈ d.name.toList, Text.isWord c = true

lemma namespaceName_of_mem_lineDeclarations {path ns : String} {scope : LineScope}
    {d : Declaration} (h : d ∈ lineDeclarations path ns scope) : d.namespaceName = ns := by
  cases declaredOn_of_mem h <;> rfl

lemma isWord_of_mem_lineDeclarations {path ns : String} {scope : LineScope} {d : Declaration}
    (h : d ∈ lineDeclarations path ns scope) : IsWord d.name.toList := by
  cases declaredOn_of_mem h with
  | type _ hmem => exact isWord_of_mem_containerName hmem
  | payload _ hmem => exact isWord_of_mem_containerName hmem
  | method _ hm => exact isWord_of_methodName hm
  | property _ hm => exact isWord_of_propertyName hm

lemma declaredIn_of_mem_lineDeclarations {file : SourceFile} {scope : LineScope} {d : Declaration}
    (h : d ∈ lineDeclarations file.path (namespaceOf file.text.toList) scope) :
    d.DeclaredIn file :=
  ⟨path_of_mem_lineDeclarations h, namespaceName_of_mem_lineDeclarations h,
    fun hns => absurd hns (kind_of_mem_lineDeclarations h).2.1,
    fun _ => (isWord_of_mem_lineDeclarations h).2⟩

lemma declaredIn_of_mem_foundDeclarations {scopes : List LineScope} {file : SourceFile}
    {d : Declaration} (h : d ∈ foundDeclarations scopes file) : d.DeclaredIn file := by
  rcases mem_foundDeclarations.1 h with h | ⟨scope, -, h⟩
  · obtain ⟨n, hn, rfl⟩ := Option.map_eq_some_iff.1 h
    have hns : n.name = namespaceOf file.text.toList := by
      rw [namespaceOf, hn]
      rfl
    exact ⟨rfl, hns, fun _ => rfl, fun hne => absurd rfl hne⟩
  · exact declaredIn_of_mem_lineDeclarations h

lemma isName_of_mem_enumMembersAt {lines : List String} {index column : Nat} {m : String}
    (h : m ∈ enumMembersAt lines index column) : isName m.toList = true := by
  unfold enumMembersAt at h
  split at h
  · obtain ⟨name, hname, rfl⟩ := List.mem_map.1 h
    obtain ⟨entry, -, hentry⟩ := List.mem_filterMap.1 hname
    obtain ⟨hisName, heq⟩ := Option.ite_none_right_eq_some.1 hentry
    rwa [String.toList_ofList, ← Option.some.inj heq]
  · exact absurd h List.not_mem_nil

/-- **What a declaration of a file carries.** -/
theorem declaredIn_of_mem_extract {t : Tracker} {file : SourceFile} {d : Declaration}
    (h : d ∈ (extract t file).declarations) : d.DeclaredIn file := by
  obtain ⟨e, he, ⟨ms, rfl⟩ | ⟨m, hm, rfl⟩⟩ := exists_found_of_mem_extract h
  · obtain ⟨hpath, hns, hname, hword⟩ := declaredIn_of_mem_foundDeclarations he
    exact ⟨hpath, hns, hname, hword⟩
  · obtain ⟨hpath, hns, -, -⟩ := declaredIn_of_mem_foundDeclarations he
    refine ⟨hpath, hns, fun hkind => absurd hkind (by simp), fun _ c hc => ?_⟩
    exact isWord_of_mem_name (isName_of_mem_enumMembersAt hm) hc

end Conformance.Source
