/-
# Declarations and where they stand

The scopes of a file decide in which containers its declarations stand, and about nothing else:
what is declared, and with which members, is read off the lines and the owners of properties.  So
the declarations under one tracker are those under any other, each put into the containers of its
own place (`declarations_eq_located`), and agree with them in everything else
(`extract_agrees_apart`).  With a filter these are the containers that the filter accepts
(`declarations_restricted`).
-/
import Conformance.Proofs.Order
import Conformance.Proofs.Source.Found
import Conformance.Proofs.Source.Restriction

namespace Conformance.Source

/-! ## One scope for each line -/

/-- The text and the number of a line. -/
def LineScope.place (s : LineScope) : String × Nat :=
  (s.text, s.number)

namespace Tracker

variable (t : Tracker)

lemma places_stackFrom (total number : Nat) (s : StackState) (lines : List String) :
    (t.stackFrom total number s lines).scopes.map (·.place) = lines.zipIdx number := by
  induction lines generalizing number s with
  | nil => rfl
  | cons text rest ih =>
    rw [List.zipIdx_cons, ← ih (number + 1)]
    rfl

lemma places_singleFrom (total number : Nat) (depth : Int) (active : Option Frame)
    (lines : List String) :
    (t.singleFrom total number depth active lines).scopes.map (·.place) = lines.zipIdx number := by
  induction lines generalizing number depth active with
  | nil => cases active <;> rfl
  | cons text rest ih =>
    rw [List.zipIdx_cons, ← ih (number + 1) (text.toList.foldl braceStep depth)
      (t.singleNext number depth active text.toList)]
    cases active <;> rfl

/-- The scopes are those of the lines, one after another. -/
lemma places_track (lines : List String) :
    (t.track lines).scopes.map (·.place) = lines.zipIdx 1 := by
  unfold track
  cases t.mode with
  | stack => exact t.places_stackFrom _ _ _ _
  | single => exact t.places_singleFrom _ _ _ _ _

lemma getElem?_of_mem_scopes {lines : List String} {scope : LineScope}
    (h : scope ∈ (t.track lines).scopes) :
    (t.track lines).scopes[scope.number - 1]? = some scope ∧
      lines[scope.number - 1]? = some scope.text ∧ 1 ≤ scope.number := by
  obtain ⟨i, hi⟩ := List.mem_iff_getElem?.1 h
  have hplace : ((t.track lines).scopes.map (·.place))[i]? = some scope.place := by
    rw [List.getElem?_map, hi]
    rfl
  rw [places_track, List.getElem?_zipIdx] at hplace
  obtain ⟨text, htext, hplace⟩ := Option.map_eq_some_iff.1 hplace
  obtain ⟨htext', hnumber⟩ := Prod.mk.inj hplace
  have hindex : scope.number - 1 = i := by
    have : scope.number = 1 + i := hnumber.symm
    omega
  refine ⟨by rw [hindex]; exact hi, by rw [hindex, htext, htext'], ?_⟩
  have : scope.number = 1 + i := hnumber.symm
  omega

end Tracker

/-! ## Declarations inside containers -/

namespace Declaration

/-- The declaration inside given containers, outermost first. -/
def inside (fs : List Frame) (d : Declaration) : Declaration :=
  { d with container := fs.getLast?, ancestors := fs }

/-- The containers that scopes give for the place of a declaration.  Namespaces and the members of
enumerations are in none. -/
def containersIn (scopes : List LineScope) (d : Declaration) : List Frame :=
  match d.kind with
  | .nameSpace | .enumMember => []
  | _ => (scopes[(d.line - 1).toNat]?.map (·.enclosingAt d.column)).getD []

/-- The declaration inside the containers of its place. -/
def located (scopes : List LineScope) (d : Declaration) : Declaration :=
  d.inside (d.containersIn scopes)

/-- The order of declarations does not look at their containers. -/
lemma sort_map_inside (containers : Declaration → List Frame) (ds : List Declaration) :
    sort (ds.map fun d => d.inside (containers d))
      = (sort ds).map fun d => d.inside (containers d) := by
  have hprecedes : ∀ a ∈ ds, ∀ b ∈ ds,
      a.precedes b = (a.inside (containers a)).precedes (b.inside (containers b)) :=
    fun _ _ _ _ => rfl
  exact (List.map_mergeSort hprecedes).symm

end Declaration

open Declaration

lemma containerDeclarations_inside {scope scope' : LineScope}
    (hnumber : scope.number = scope'.number) (path ns : String) (h : ContainerHeader) :
    containerDeclarations scope path ns h = (containerDeclarations scope' path ns h).map
      fun d => d.inside (scope.enclosingAt d.column) := by
  have hone : containerDeclaration scope path ns h
      = (containerDeclaration scope' path ns h).inside (scope.enclosingAt h.nameColumn) := by
    simp only [containerDeclaration, inside, hnumber]
    rfl
  unfold containerDeclarations
  split
  · rw [hone]
    rfl
  · rw [hone]
    rfl

lemma memberDeclaration_inside {scope scope' : LineScope}
    (hnumber : scope.number = scope'.number) (kind : DeclarationKind) (path ns : String)
    (h : MemberHeader) :
    memberDeclaration kind scope path ns h
      = (memberDeclaration kind scope' path ns h).inside (scope.enclosingAt h.nameColumn) := by
  simp only [memberDeclaration, inside, hnumber]
  rfl

/-- Two scopes of a line give the same declarations, in different containers. -/
lemma lineDeclarations_inside {scope scope' : LineScope} (hplace : scope.place = scope'.place)
    (path ns : String) :
    lineDeclarations path ns scope = (lineDeclarations path ns scope').map
      fun d => d.inside (scope.enclosingAt d.column) := by
  obtain ⟨htext, hnumber⟩ := Prod.mk.inj hplace
  have hmember : ∀ (kind : DeclarationKind) (hs : List MemberHeader),
      hs.map (memberDeclaration kind scope path ns)
        = (hs.map (memberDeclaration kind scope' path ns)).map
          fun d => d.inside (scope.enclosingAt d.column) := by
    intro kind hs
    rw [List.map_map]
    exact List.map_congr_left fun h _ => memberDeclaration_inside hnumber kind path ns h
  have hcontainer : ∀ hs : List ContainerHeader,
      hs.flatMap (containerDeclarations scope path ns)
        = (hs.flatMap (containerDeclarations scope' path ns)).map
          fun d => d.inside (scope.enclosingAt d.column) := by
    intro hs
    rw [List.map_flatMap]
    exact congrArg (hs.flatMap ·) (funext (containerDeclarations_inside hnumber path ns))
  simp only [lineDeclarations, htext, List.map_append, hcontainer, hmember]

lemma kind_of_mem_lineDeclarations {path ns : String} {scope : LineScope} {d : Declaration}
    (h : d ∈ lineDeclarations path ns scope) :
    d.line = scope.number ∧ d.kind ≠ .nameSpace ∧ d.kind ≠ .enumMember := by
  cases declaredOn_of_mem h with
  | type hd _ =>
    have hkind : ∀ k, DeclarationKind.ofContainer k ≠ .nameSpace ∧
        DeclarationKind.ofContainer k ≠ .enumMember := by
      intro k
      cases k <;> decide
    exact ⟨rfl, hkind hd.kind⟩
  | payload => exact ⟨rfl, by simp, by simp⟩
  | method => exact ⟨rfl, by simp [memberDeclaration], by simp [memberDeclaration]⟩
  | property => exact ⟨rfl, by simp [memberDeclaration], by simp [memberDeclaration]⟩

/-- What is declared on a line stands where the scope of the line says. -/
lemma containersIn_of_line {scopes : List LineScope} {scope : LineScope} {d : Declaration}
    (hscope : scopes[scope.number - 1]? = some scope) (hline : d.line = scope.number)
    (hkind : d.kind ≠ .nameSpace ∧ d.kind ≠ .enumMember) :
    d.containersIn scopes = scope.enclosingAt d.column := by
  have hindex : (d.line - 1).toNat = scope.number - 1 := by omega
  unfold containersIn
  split
  · rename_i hns
    exact absurd hns hkind.1
  · rename_i hmember
    exact absurd hmember hkind.2
  · rw [hindex, hscope]
    rfl

/-- A list of steps that agree item by item, up to a function of their results. -/
lemma flatMap_eq_map_flatMap {α β γ : Type} {f : α → List γ} {g : β → List γ} {k : γ → γ}
    {l : List α} {l' : List β} (h : List.Forall₂ (fun a b => f a = (g b).map k) l l') :
    l.flatMap f = (l'.flatMap g).map k := by
  induction h with
  | nil => rfl
  | cons hab _ ih => rw [List.flatMap_cons, List.flatMap_cons, List.map_append, hab, ih]

lemma foundDeclarations_located (t t' : Tracker) (file : SourceFile) :
    foundDeclarations (t.track file.lines).scopes file
      = (foundDeclarations (t'.track file.lines).scopes file).map
        (located (t.track file.lines).scopes) := by
  have hplaces : List.Forall₂ (fun scope scope' : LineScope => scope.place = scope'.place)
      (t.track file.lines).scopes (t'.track file.lines).scopes := by
    have hsame : List.Forall₂ (· = ·) ((t.track file.lines).scopes.map (·.place))
        ((t'.track file.lines).scopes.map (·.place)) := by
      rw [List.forall₂_eq_eq_eq, t.places_track, t'.places_track]
    exact List.forall₂_map_right_iff.1 (List.forall₂_map_left_iff.1 hsame)
  have hlines := (List.forall₂_and_left _ _).2
    ⟨fun scope hscope => (t.getElem?_of_mem_scopes hscope).1, hplaces⟩
  -- a namespace is in no container
  have hnamespace : (namespaceDeclaration? file.path file.text.toList).toList
      = (namespaceDeclaration? file.path file.text.toList).toList.map
        (located (t.track file.lines).scopes) := by
    cases hns : namespaceDeclaration? file.path file.text.toList with
    | none => rfl
    | some d =>
      obtain ⟨h, -, rfl⟩ := Option.map_eq_some_iff.1 hns
      rfl
  simp only [foundDeclarations, List.map_append]
  refine congrArg₂ (· ++ ·) hnamespace (flatMap_eq_map_flatMap (hlines.imp ?_))
  rintro scope scope' ⟨hscope, hplace⟩
  rw [lineDeclarations_inside hplace]
  refine List.map_congr_left fun d hd => ?_
  obtain ⟨hline, hkind⟩ := kind_of_mem_lineDeclarations hd
  have hline' : d.line = scope.number := by
    rw [hline, (Prod.mk.inj hplace).2]
  rw [located, containersIn_of_line hscope hline' hkind]

/-! ## Members -/

/-- Attaching members changes nothing else. -/
lemma exists_withMembers_eq (lines : List String) (owned : List OwnedProperty) (d : Declaration) :
    ∃ ms, withMembers lines owned d = { d with members := ms } := by
  unfold withMembers
  split
  · exact ⟨_, rfl⟩
  · split <;> exact ⟨_, rfl⟩
  · split <;> exact ⟨_, rfl⟩
  · split <;> exact ⟨_, rfl⟩
  · exact ⟨d.members, rfl⟩

/-- The members of a declaration do not depend on its containers. -/
lemma withMembers_inside (lines : List String) (owned : List OwnedProperty) (fs : List Frame)
    (d : Declaration) :
    withMembers lines owned (d.inside fs) = (withMembers lines owned d).inside fs := by
  have hproperties : propertiesOf owned (d.inside fs) = propertiesOf owned d := rfl
  have hkind : (d.inside fs).kind = d.kind := rfl
  unfold withMembers
  rw [hproperties, hkind]
  split
  · rfl
  · split <;> rfl
  · split <;> rfl
  · split <;> rfl
  · rfl

lemma containersIn_withMembers (scopes : List LineScope) (lines : List String)
    (owned : List OwnedProperty) (d : Declaration) :
    (withMembers lines owned d).containersIn scopes = d.containersIn scopes := by
  unfold withMembers
  split
  · simp only [containersIn]
  · split <;> simp only [containersIn]
  · split <;> simp only [containersIn]
  · split <;> simp only [containersIn]
  · rfl

lemma withMembers_located (scopes : List LineScope) (lines : List String)
    (owned : List OwnedProperty) (d : Declaration) :
    withMembers lines owned (d.located scopes) = (withMembers lines owned d).located scopes := by
  rw [located, withMembers_inside, located, containersIn_withMembers]

/-- The members of an enumeration are in no container. -/
lemma map_located_enumMemberDeclarations (scopes : List LineScope) (d : Declaration) :
    (enumMemberDeclarations d).map (located scopes) = enumMemberDeclarations d := by
  unfold enumMemberDeclarations
  split
  · rw [List.map_map]
    rfl
  · rfl

lemma attachMembers_located (lines : List String) (owners scopes : List LineScope)
    (ds : List Declaration) :
    attachMembers lines owners (ds.map (located scopes))
      = (attachMembers lines owners ds).map (located scopes) := by
  have howned : ownedProperties owners (ds.map (located scopes)) = ownedProperties owners ds := by
    rw [ownedProperties, List.filterMap_map]
    rfl
  have hcomplete : ∀ owned, (ds.map (located scopes)).map (withMembers lines owned)
      = (ds.map (withMembers lines owned)).map (located scopes) := by
    intro owned
    rw [List.map_map, List.map_map]
    exact List.map_congr_left fun d _ => withMembers_located scopes lines owned d
  simp only [attachMembers, howned, hcomplete, List.map_append, List.map_flatMap,
    List.flatMap_map, map_located_enumMemberDeclarations]
  rfl

/-! ## Files -/

/-- **Which containers are followed decides about the containers of declarations only.** -/
theorem declarations_eq_located (t t' : Tracker) (file : SourceFile) :
    (extract t file).declarations = (extract t' file).declarations.map
      (located (t.track file.lines).scopes) := by
  simp only [extract]
  rw [foundDeclarations_located t t', attachMembers_located]
  exact sort_map_inside (containersIn (t.track file.lines).scopes) _

lemma path_of_mem_lineDeclarations {path ns : String} {scope : LineScope} {d : Declaration}
    (h : d ∈ lineDeclarations path ns scope) : d.path = path := by
  cases declaredOn_of_mem h <;> rfl

/-- A declaration of a file is one that is found, with its members, or a member of an enumeration
that is found. -/
lemma exists_found_of_mem_extract {t : Tracker} {file : SourceFile} {d : Declaration}
    (h : d ∈ (extract t file).declarations) :
    ∃ e ∈ foundDeclarations (t.track file.lines).scopes file,
      (∃ ms, d = { e with members := ms }) ∨
      ∃ m ∈ enumMembersAt file.lines (e.line - 1).toNat e.column.toNat,
        d = { kind := .enumMember, name := m, path := e.path, line := e.line,
              namespaceName := e.namespaceName, column := e.column } := by
  obtain ⟨e, he, rfl | h⟩ := mem_extract.1 h
  · exact ⟨e, he, .inl (exists_withMembers_eq file.lines _ e)⟩
  · obtain ⟨hkind, m, hm, rfl⟩ := mem_enumMemberDeclarations.1 h
    obtain ⟨ms, hms⟩ : ∃ ms, file.complete t e = { e with members := ms } :=
      exists_withMembers_eq file.lines _ e
    have hkind' : e.kind = .enum := by rwa [hms] at hkind
    refine ⟨e, he, .inr ⟨m, ?_, by rw [hms]⟩⟩
    simpa [SourceFile.complete, withMembers, hkind'] using hm

/-- What is declared in a file carries its path. -/
lemma path_of_mem_extract {t : Tracker} {file : SourceFile} {d : Declaration}
    (h : d ∈ (extract t file).declarations) : d.path = file.path := by
  have hfound : ∀ e ∈ foundDeclarations (t.track file.lines).scopes file, e.path = file.path := by
    intro e he
    rcases mem_foundDeclarations.1 he with he | ⟨scope, -, he⟩
    · obtain ⟨n, -, rfl⟩ := Option.map_eq_some_iff.1 he
      rfl
    · exact path_of_mem_lineDeclarations he
  obtain ⟨e, he, ⟨ms, rfl⟩ | ⟨m, -, rfl⟩⟩ := exists_found_of_mem_extract h
  · exact hfound e he
  · exact hfound e he

/-- Two declarations agree in everything but their containers. -/
def Declaration.AgreesApart (d d' : Declaration) : Prop :=
  { d with container := d'.container, ancestors := d'.ancestors } = d'

/-- Any two trackers give the same declarations of a file, in the same order; they agree in
everything but their containers. -/
theorem extract_agrees_apart (t t' : Tracker) (file : SourceFile) :
    (extract t file).file = (extract t' file).file ∧
    (extract t file).namespaceName = (extract t' file).namespaceName ∧
    List.Forall₂ AgreesApart (extract t file).declarations (extract t' file).declarations := by
  refine ⟨rfl, rfl, ?_⟩
  rw [declarations_eq_located t t', List.forall₂_map_left_iff, List.forall₂_same]
  intro d _
  rfl

lemma located_eq_self_of_mem {t : Tracker} {file : SourceFile} {d : Declaration}
    (h : d ∈ (extract t file).declarations) : d.located (t.track file.lines).scopes = d := by
  have hself := declarations_eq_located t t file
  obtain ⟨i, hi⟩ := List.mem_iff_getElem?.1 h
  have hmap := congrArg (·[i]?) hself
  simp only [List.getElem?_map, hi] at hmap
  exact (Option.some.inj hmap).symm

/-- The declaration inside those of its containers that a test accepts. -/
def Declaration.restricted (keep : Frame → Bool) (d : Declaration) : Declaration :=
  d.inside (d.ancestors.filter keep)

lemma Declaration.sort_map_restricted (keep : Frame → Bool) (ds : List Declaration) :
    sort (ds.map (restricted keep)) = (sort ds).map (restricted keep) :=
  sort_map_inside (fun d => d.ancestors.filter keep) ds

/-- With a filter, declarations stand in those of their containers that it accepts. -/
theorem declarations_restricted (filter : ContainerFilter) (file : SourceFile) :
    (extract ⟨.stack, some filter⟩ file).declarations
      = (extract ⟨.stack, none⟩ file).declarations.map (restricted filter.keeps) := by
  have hscopes := (restriction_stackFrom filter file.lines.length 1 .initial file.lines).1
  have hcontainers : ∀ d : Declaration,
      d.containersIn ((Tracker.mk .stack (some filter)).track file.lines).scopes
        = (d.containersIn ((Tracker.mk .stack none).track file.lines).scopes).filter
          filter.keeps := by
    intro d
    unfold containersIn
    split
    · rfl
    · rfl
    · -- either both have a scope for the line or none has
      rcases hpart : ((Tracker.mk .stack (some filter)).track file.lines).scopes[
          (d.line - 1).toNat]? with _ | part
      · have hlen := List.getElem?_eq_none_iff.1 hpart
        have hsame : _ = _ := hscopes.length_eq
        rw [List.getElem?_eq_none_iff.2 (hsame ▸ hlen)]
        rfl
      · obtain ⟨hi, hpart'⟩ := List.getElem?_eq_some_iff.1 hpart
        have hlt : (d.line - 1).toNat
            < ((Tracker.mk .stack none).track file.lines).scopes.length :=
          hscopes.length_eq ▸ hi
        have hrestricts := hscopes.get hi hlt
        rw [List.getElem?_eq_getElem hlt]
        simp only [Option.map_some, Option.getD_some]
        rw [← hpart']
        exact hrestricts.enclosing_eq _
  rw [declarations_eq_located _ ⟨.stack, none⟩ file]
  refine List.map_congr_left fun d hd => ?_
  have hself := located_eq_self_of_mem hd
  have hancestors : d.containersIn ((Tracker.mk .stack none).track file.lines).scopes
      = d.ancestors := congrArg Declaration.ancestors hself
  rw [located, hcontainers, hancestors]
  rfl

/-- The declarations of a file inside those of their containers that a test accepts. -/
def FileDeclarations.restricted (keep : Frame → Bool) (f : FileDeclarations) : FileDeclarations :=
  { f with declarations := f.declarations.map (Declaration.restricted keep) }

lemma extract_restricted (filter : ContainerFilter) (file : SourceFile) :
    extract ⟨.stack, some filter⟩ file = (extract ⟨.stack, none⟩ file).restricted filter.keeps := by
  rw [FileDeclarations.restricted, ← declarations_restricted]
  rfl

end Conformance.Source
