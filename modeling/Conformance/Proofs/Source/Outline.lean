/-
# A layout gives its outline back

The declarations that are extracted from the layout of a forest, without properties, methods and
the like, are those of its types in the order of the headers: each with its kind, name and line, the
containers around it and its own members (`extract_layout`).

A type owns a property if the frame around the property has the line and the name of the type.  No
two types of a layout start on one line, so every property goes to the type that holds it.
-/
import Conformance.Proofs.Order
import Conformance.Proofs.Source.EnumBody
import Conformance.Proofs.Source.Found
import Conformance.Proofs.Source.LayoutDeclarations

namespace Conformance.Source

/-! ## Types at their places -/

lemma Head.lines_length_pos (kind : ContainerKind) (h : Head) : 0 < (h.lines kind).length := by
  unfold Head.lines
  split <;> simp

lemma TypeTree.lines_length_pos (t : TypeTree) : 0 < t.lines.length := by
  cases t with
  | type sort head properties children closing =>
    have := head.lines_length_pos sort.kind
    simp only [TypeTree.lines, List.length_append]
    omega
  | enum head members closing => simp [TypeTree.lines]

mutual

/-- The lines of a type stand together, from the line of its place on. -/
theorem exists_lines_of_mem_placed (t : TypeTree) {number : Nat} {above : List Frame} {p : Placed}
    (h : p ∈ t.placed number above) :
    ∃ before after, t.lines = before ++ (p.tree.lines ++ after) ∧
      p.line = number + before.length := by
  match t with
  | .type sort head properties children closing =>
    rcases List.mem_cons.1 h with rfl | h
    · exact ⟨[], [], by simp, rfl⟩
    · obtain ⟨before, after, hlines, hline⟩ := exists_lines_of_mem_forest children h
      refine ⟨head.lines sort.kind ++ properties.map .property ++ before,
        after ++ [.closing closing], ?_, ?_⟩
      · simp [TypeTree.lines, hlines]
      · rw [hline]
        simp only [List.length_append, List.length_map]
        omega
  | .enum head members closing =>
    obtain rfl := List.mem_singleton.1 h
    exact ⟨[], [], by simp, rfl⟩

theorem exists_lines_of_mem_forest (ts : List TypeTree) {number : Nat} {above : List Frame}
    {p : Placed} (h : p ∈ forestPlaced number above ts) :
    ∃ before after, forestLines ts = before ++ (p.tree.lines ++ after) ∧
      p.line = number + before.length := by
  match ts with
  | [] => exact absurd h (by simp [forestPlaced])
  | t :: ts =>
    rcases List.mem_append.1 h with h | h
    · obtain ⟨before, after, hlines, hline⟩ := exists_lines_of_mem_placed t h
      exact ⟨before, after ++ forestLines ts, by simp [forestLines, hlines], hline⟩
    · obtain ⟨before, after, hlines, hline⟩ := exists_lines_of_mem_forest ts h
      refine ⟨t.lines ++ before, after, by simp [forestLines, hlines], ?_⟩
      rw [hline, List.length_append]
      omega

end

mutual

/-- No two types of a layout start on one line. -/
theorem placed_pairwise (t : TypeTree) (number : Nat) (above : List Frame) :
    (t.placed number above).Pairwise fun p q => p.line < q.line := by
  match t with
  | .type sort head properties children closing =>
    refine List.pairwise_cons.2 ⟨?_, forest_pairwise children _ _⟩
    intro p hp
    obtain ⟨before, after, -, hline⟩ := exists_lines_of_mem_forest children hp
    have := head.lines_length_pos sort.kind
    simp only
    omega
  | .enum head members closing => exact List.pairwise_singleton _ _

theorem forest_pairwise (ts : List TypeTree) (number : Nat) (above : List Frame) :
    (forestPlaced number above ts).Pairwise fun p q => p.line < q.line := by
  match ts with
  | [] => exact List.Pairwise.nil
  | t :: ts =>
    refine List.pairwise_append.2 ⟨placed_pairwise t _ _, forest_pairwise ts _ _, ?_⟩
    intro p hp q hq
    obtain ⟨before, after, hlines, hline⟩ := exists_lines_of_mem_placed t hp
    obtain ⟨before', after', -, hline'⟩ := exists_lines_of_mem_forest ts hq
    have hlength := congrArg List.length hlines
    have := p.tree.lines_length_pos
    simp only [List.length_append] at hlength
    omega

end

/-! ## Owners of properties -/

/-- A declaration tells the line and the innermost container of its place. -/
lemma container_of_mem_lineDeclarations {path ns : String} {scope : LineScope} {d : Declaration}
    (h : d ∈ lineDeclarations path ns scope) :
    d.line = scope.number ∧ d.container = scope.containerAt d.column := by
  cases declaredOn_of_mem h <;> exact ⟨rfl, rfl⟩

/-- The scopes of lines are numbered one after another. -/
lemma number_of_stackFrom (t : Tracker) (total number : Nat) (s : StackState) (lines : List String)
    {i : Nat} {scope : LineScope}
    (h : (t.stackFrom total number s lines).scopes[i]? = some scope) :
    scope.number = number + i := by
  induction lines generalizing number s i with
  | nil => exact absurd h (by simp [Tracker.stackFrom])
  | cons text rest ih =>
    cases i with
    | zero =>
      obtain rfl := Option.some.inj h
      rfl
    | succ i =>
      rw [ih (number + 1) _ h]
      omega

/-- What a property tells of its owner. -/
def ownedProperty? (d : Declaration) : Option OwnedProperty :=
  if d.kind == .property then d.container.map fun owner => ⟨owner.startLine, owner.name, d.name⟩
  else none

/-- The owner of a property is the container that its declaration tells. -/
lemma ownedProperties_foundDeclarations (file : SourceFile) :
    ownedProperties (Tracker.full.track file.lines).scopes
        (foundDeclarations (Tracker.full.track file.lines).scopes file)
      = (foundDeclarations (Tracker.full.track file.lines).scopes file).filterMap
        ownedProperty? := by
  refine List.filterMap_congr ?_
  intro d hd
  unfold ownedProperty?
  split
  · rename_i hkind
    rcases mem_foundDeclarations.1 hd with hd | ⟨scope, hscope, hd⟩
    · -- a namespace is not a property
      obtain ⟨h, -, rfl⟩ := Option.map_eq_some_iff.1 hd
      exact absurd hkind (by simp)
    · -- the line of the declaration leads back to the scope in which it was found
      obtain ⟨i, hi⟩ := List.mem_iff_getElem?.1 hscope
      obtain ⟨hline, hcontainer⟩ := container_of_mem_lineDeclarations hd
      have hnumber : scope.number = 1 + i := number_of_stackFrom _ _ _ _ _ hi
      have hindex : (d.line - 1).toNat = i := by
        rw [hline, hnumber]
        omega
      rw [hindex, hi, hcontainer]
      rfl
  · rfl

/-! ## The declarations of a layout -/

section Layout

variable (path : String) (forest : List TypeTree)

/-- The file with the layout of a forest. -/
def layoutFile : SourceFile :=
  ⟨path, render (forestLines forest)⟩

/-- The declarations found in the layout of a forest, without their members. -/
def layoutFound : List Declaration :=
  foundDeclarations (Tracker.full.track (layoutFile path forest).lines).scopes
    (layoutFile path forest)

lemma filter_counts_layoutFound :
    (layoutFound path forest).filter (·.counts) = (forestPlaced 1 [] forest).flatMap
      (·.declarations path (namespaceOf (layoutFile path forest).text.toList)) := by
  have hnests : Nests [] := by simp [Nests]
  have hleads :=
    leads_forest path (namespaceOf (layoutFile path forest).text.toList) forest 1 hnests
  have hinitial : StackState.initial = nested [] := rfl
  have hnamespace : (namespaceDeclaration? path (layoutFile path forest).text.toList).toList.filter
      (·.counts) = [] := by
    refine List.filter_eq_nil_iff.2 ?_
    intro d hd
    obtain ⟨h, -, rfl⟩ := Option.map_eq_some_iff.1 (Option.mem_toList.1 hd)
    simp [Declaration.counts, Declaration.isOutlined]
  have htrack : Tracker.full.track (layoutFile path forest).lines
      = Tracker.full.stackFrom (layoutFile path forest).lines.length 1 StackState.initial
        (render (forestLines forest)) := rfl
  have hpath : (layoutFile path forest).path = path := rfl
  rw [layoutFound, foundDeclarations, htrack, List.filter_append, filter_counts_scopes, hpath,
    hnamespace, hinitial, hleads.found_eq, List.nil_append]

lemma filterMap_ownedProperty?_properties (path ns : String) (above : List Frame) (f : Frame)
    (line : Nat) (ps : List Property) :
    (propertyDeclarations path ns (above ++ [f]) line ps).filterMap ownedProperty?
      = ps.map fun p => ⟨f.startLine, f.name, String.ofList p.name.chars⟩ := by
  induction ps generalizing line with
  | nil => rfl
  | cons p ps ih =>
    have hfirst : ownedProperty? (p.declaration path ns line (above ++ [f]))
        = some ⟨f.startLine, f.name, String.ofList p.name.chars⟩ := by
      simp [ownedProperty?, Property.declaration]
    rw [propertyDeclarations, List.filterMap_cons_some hfirst, ih, List.map_cons]

/-- The properties that a type at its place owns. -/
def Placed.owned (p : Placed) : List OwnedProperty :=
  p.tree.properties.map fun q => ⟨p.line, p.tree.name, String.ofList q.name.chars⟩

lemma filterMap_ownedProperty?_declarations (path ns : String) (p : Placed) :
    (p.declarations path ns).filterMap ownedProperty? = p.owned := by
  have hheader : ownedProperty? (p.tree.head.declaration path ns p.tree.kind p.line p.above)
      = none := by
    simp only [ownedProperty?, Head.declaration]
    cases p.tree.kind <;> rfl
  rw [Placed.declarations, List.filterMap_cons_none hheader, filterMap_ownedProperty?_properties]
  rfl

lemma filterMap_ownedProperty?_filter (ds : List Declaration) :
    (ds.filter (·.counts)).filterMap ownedProperty? = ds.filterMap ownedProperty? := by
  induction ds with
  | nil => rfl
  | cons d ds ih =>
    cases hd : d.counts with
    | true => rw [List.filter_cons_of_pos hd, List.filterMap_cons, List.filterMap_cons, ih]
    | false =>
      have hkind : ownedProperty? d = none := by
        simp only [Declaration.counts, Bool.or_eq_false_iff] at hd
        simp [ownedProperty?, hd.2]
      rw [List.filter_cons_of_neg (by simp [hd]), ih, List.filterMap_cons_none hkind]

lemma ownedProperties_layoutFound :
    ownedProperties (Tracker.full.track (layoutFile path forest).lines).scopes
        (layoutFound path forest)
      = (forestPlaced 1 [] forest).flatMap Placed.owned := by
  rw [layoutFound, ownedProperties_foundDeclarations, ← layoutFound,
    ← filterMap_ownedProperty?_filter, filter_counts_layoutFound, List.filterMap_flatMap]
  simp only [filterMap_ownedProperty?_declarations]

end Layout

/-- Of values in lists with distinct keys, those with the key of one list are that list. -/
lemma filter_flatMap_of_pairwise {α β : Type} {key : α → Nat} {l : List α} (g : α → List β)
    (p : α → β → Bool) (hl : l.Pairwise fun a b => key a < key b)
    (hother : ∀ a b, key a ≠ key b → ∀ x ∈ g b, p a x = false)
    (hself : ∀ a, ∀ x ∈ g a, p a x = true) {a : α} (ha : a ∈ l) :
    (l.flatMap g).filter (p a) = g a := by
  induction l with
  | nil => exact absurd ha (by simp)
  | cons b l ih =>
    obtain ⟨hb, hl⟩ := List.pairwise_cons.1 hl
    rw [List.flatMap_cons, List.filter_append]
    rcases List.mem_cons.1 ha with rfl | ha
    · have hrest : (l.flatMap g).filter (p a) = [] := by
        refine List.filter_eq_nil_iff.2 ?_
        intro x hx
        obtain ⟨c, hc, hx⟩ := List.mem_flatMap.1 hx
        simp [hother a c (Nat.ne_of_lt (hb c hc)) x hx]
      rw [hrest, List.append_nil]
      exact List.filter_eq_self.2 (hself a)
    · have hfirst : (g b).filter (p a) = [] := by
        refine List.filter_eq_nil_iff.2 ?_
        intro x hx
        simp [hother a b (Nat.ne_of_gt (hb a ha)) x hx]
      rw [hfirst, List.nil_append, ih hl ha]

/-! ## Members -/

lemma distinct_eq_eraseDups (names : List String) : distinct names = names.eraseDups := by
  have hloop : ∀ seen : List String,
      (names.foldl (fun seen n => if seen.contains n then seen else n :: seen) seen).reverse
        = List.eraseDupsBy.loop (· == ·) names seen := by
    induction names with
    | nil => exact fun _ => rfl
    | cons n names ih =>
      intro seen
      rw [List.foldl_cons, ih, List.eraseDupsBy.loop, List.contains_eq_any_beq]
      cases seen.any (n == ·) <;> rfl
  exact hloop []

/-- A type owns the properties that it holds itself. -/
lemma propertiesOf_placed {forest : List TypeTree} {p : Placed} (hp : p ∈ forestPlaced 1 [] forest)
    (path ns : String) :
    propertiesOf ((forestPlaced 1 [] forest).flatMap Placed.owned)
        (p.tree.head.declaration path ns p.tree.kind p.line p.above)
      = p.tree.properties.map fun q => String.ofList q.name.chars := by
  have hfilter := filter_flatMap_of_pairwise Placed.owned
    (fun a x => (x.ownerLine : Int) == (a.line : Int) && x.ownerName == a.tree.name)
    (forest_pairwise forest 1 []) ?_ ?_ hp
  · have hdeclaration : (fun x : OwnedProperty =>
        (x.ownerLine : Int) == (p.tree.head.declaration path ns p.tree.kind p.line p.above).line &&
          x.ownerName == (p.tree.head.declaration path ns p.tree.kind p.line p.above).name)
        = fun x => (x.ownerLine : Int) == (p.line : Int) && x.ownerName == p.tree.name := rfl
    rw [propertiesOf, hdeclaration, hfilter, Placed.owned, List.map_map]
    rfl
  · intro a b hne x hx
    obtain ⟨q, -, rfl⟩ := List.mem_map.1 hx
    have hline : ((b.line : Int) == (a.line : Int)) = false := by
      simpa using fun h => hne h.symm
    simp [hline]
  · intro a x hx
    obtain ⟨q, -, rfl⟩ := List.mem_map.1 hx
    simp

/-- The text of a type starts at its place. -/
lemma drop_render_of_mem {forest : List TypeTree} {p : Placed} (hp : p ∈ forestPlaced 1 [] forest) :
    ∃ rest, (render (forestLines forest)).drop (p.line - 1) = render p.tree.lines ++ rest := by
  obtain ⟨before, after, hlines, hline⟩ := exists_lines_of_mem_forest forest hp
  refine ⟨render after, ?_⟩
  have hindex : p.line - 1 = (render before).length := by
    rw [hline, render, List.length_map]
    omega
  have hrender : render (forestLines forest)
      = render before ++ (render p.tree.lines ++ render after) := by
    rw [hlines, render, List.map_append, List.map_append]
    rfl
  rw [hindex, hrender, List.drop_left]

/-- The declaration of a type at its place, with its members. -/
def Placed.complete (path ns : String) (p : Placed) : Declaration :=
  { p.tree.head.declaration path ns p.tree.kind p.line p.above with members := p.tree.memberNames }

/-- A type that starts without members gets the properties that it owns, each once. -/
lemma withMembers_of_type {d : Declaration} (hkind : d.kind = .type ∨ d.kind = .interface)
    (hmembers : d.members = []) (lines : List String) (owned : List OwnedProperty) :
    withMembers lines owned d = { d with members := distinct (propertiesOf owned d) } := by
  obtain ⟨⟩ := d
  simp only at hkind hmembers
  subst hmembers
  rcases hkind with rfl | rfl
  all_goals
    simp only [withMembers]
    split
    · rename_i hnone
      rw [hnone]
      rfl
    · rw [List.nil_append]

lemma withMembers_placed {forest : List TypeTree} {p : Placed} (hp : p ∈ forestPlaced 1 [] forest)
    (path ns : String) :
    withMembers (render (forestLines forest)) ((forestPlaced 1 [] forest).flatMap Placed.owned)
        (p.tree.head.declaration path ns p.tree.kind p.line p.above) = p.complete path ns := by
  have hproperties := propertiesOf_placed hp path ns
  obtain ⟨rest, hrest⟩ := drop_render_of_mem hp
  obtain ⟨line, above, tree⟩ := p
  cases tree with
  | type sort head properties children closing =>
    have hkind : DeclarationKind.ofContainer sort.kind = .type ∨
        DeclarationKind.ofContainer sort.kind = .interface := by
      cases sort <;> simp [TypeSort.kind, DeclarationKind.ofContainer]
    rw [withMembers_of_type hkind rfl, hproperties, distinct_eq_eraseDups]
    rfl
  | enum head members closing =>
    have hmembers := enumMembersAt_enum hrest
    have hindex : ((line : Int) - 1).toNat = line - 1 := by omega
    have hdeclaration : withMembers (render (forestLines forest))
        ((forestPlaced 1 [] forest).flatMap Placed.owned)
        (head.declaration path ns .enum line above)
        = { head.declaration path ns .enum line above with
            members := enumMembersAt (render (forestLines forest)) ((line : Int) - 1).toNat
              (head.nameColumn .enum) } := rfl
    rw [hindex, hmembers] at hdeclaration
    exact hdeclaration

/-! ## The outline -/

lemma kind_withMembers (lines : List String) (owned : List OwnedProperty) (d : Declaration) :
    (withMembers lines owned d).kind = d.kind := by
  unfold withMembers
  split
  · rfl
  · split <;> rfl
  · split <;> rfl
  · split <;> rfl
  · rfl

/-- Attaching members leaves the declarations of which an outline tells in their order. -/
lemma filter_isOutlined_attachMembers (lines : List String) (scopes : List LineScope)
    (ds : List Declaration) :
    (attachMembers lines scopes ds).filter (·.isOutlined)
      = (ds.filter (·.isOutlined)).map (withMembers lines (ownedProperties scopes ds)) := by
  have hmembers : ((ds.map (withMembers lines (ownedProperties scopes ds))).flatMap
      enumMemberDeclarations).filter (·.isOutlined) = [] := by
    refine List.filter_eq_nil_iff.2 ?_
    intro d hd
    obtain ⟨e, -, hd⟩ := List.mem_flatMap.1 hd
    obtain ⟨-, m, -, rfl⟩ := mem_enumMemberDeclarations.1 hd
    simp [Declaration.isOutlined]
  have hkind : (Declaration.isOutlined ∘ withMembers lines (ownedProperties scopes ds))
      = Declaration.isOutlined := by
    funext d
    simp only [Function.comp_apply, Declaration.isOutlined, kind_withMembers]
  rw [attachMembers, List.filter_append, hmembers, List.append_nil, List.filter_map, hkind]

/-- Of a type and its properties, an outline tells of the type. -/
lemma filter_isOutlined_declarations (path ns : String) (p : Placed) :
    (p.declarations path ns).filter (·.isOutlined)
      = [p.tree.head.declaration path ns p.tree.kind p.line p.above] := by
  have hproperties : ∀ (above : List Frame) (line : Nat) (ps : List Property),
      (propertyDeclarations path ns above line ps).filter (·.isOutlined) = [] := by
    intro above line ps
    induction ps generalizing line with
    | nil => rfl
    | cons q ps ih => rw [propertyDeclarations, List.filter_cons_of_neg (by simp
        [Declaration.isOutlined, Property.declaration]), ih]
  have hheader :
      (p.tree.head.declaration path ns p.tree.kind p.line p.above).isOutlined = true := by
    simp only [Declaration.isOutlined, Head.declaration]
    cases p.tree.kind <;> rfl
  rw [Placed.declarations, List.filter_cons_of_pos hheader, hproperties]

lemma filter_isOutlined_layoutFound (path : String) (forest : List TypeTree) :
    (layoutFound path forest).filter (·.isOutlined)
      = (forestPlaced 1 [] forest).map fun p => p.tree.head.declaration path
        (namespaceOf (layoutFile path forest).text.toList) p.tree.kind p.line p.above := by
  have hcounts : (layoutFound path forest).filter (·.isOutlined)
      = ((layoutFound path forest).filter (·.counts)).filter (·.isOutlined) := by
    rw [List.filter_filter]
    refine List.filter_congr ?_
    intro d _
    simp only [Declaration.counts]
    cases d.isOutlined <;> rfl
  rw [hcounts, filter_counts_layoutFound, List.filter_flatMap]
  simp only [filter_isOutlined_declarations]
  exact List.map_eq_flatMap.symm

/-- What an outline tells of a declaration. -/
def Declaration.entry (d : Declaration) : Entry where
  kind := d.kind
  name := d.name
  line := d.line
  container := d.container
  ancestors := d.ancestors
  members := d.members

/-- The layout of a forest gives its outline back: of classes, structs, records, interfaces and
enumerations, exactly those of the forest are extracted, in the order of their headers, each with
its kind, name and line, with the containers around it and with its own members. -/
theorem extract_layout (path : String) (forest : List TypeTree) :
    ((extract Tracker.full ⟨path, render (forestLines forest)⟩).declarations.filter
      (·.isOutlined)).map Declaration.entry = outline forest := by
  have hfound := filter_isOutlined_layoutFound path forest
  have hcomplete : (attachMembers (render (forestLines forest))
      (Tracker.full.track (render (forestLines forest))).scopes (layoutFound path forest)).filter
        (·.isOutlined)
      = (forestPlaced 1 [] forest).map
        (·.complete path (namespaceOf (layoutFile path forest).text.toList)) := by
    have howned := ownedProperties_layoutFound path forest
    simp only [layoutFile] at howned
    rw [filter_isOutlined_attachMembers, hfound, howned, List.map_map]
    refine List.map_congr_left ?_
    intro p hp
    exact withMembers_placed hp path _
  -- headers stand on different lines, so sorting cannot change their order
  have hordered : ((forestPlaced 1 [] forest).map
      (·.complete path (namespaceOf (layoutFile path forest).text.toList))).Pairwise
        fun a b => Declaration.precedes a b = true := by
    refine List.pairwise_map.2 ((forest_pairwise forest 1 []).imp ?_)
    intro p q hpq
    have hline : (p.line : Int) ≠ q.line := by omega
    simp [Declaration.precedes, Placed.complete, Head.declaration, hline]
    omega
  have hsorted := filter_mergeSort isOrderTest_declarations (hcomplete ▸ hordered)
  rw [hcomplete] at hsorted
  have hextract : (extract Tracker.full ⟨path, render (forestLines forest)⟩).declarations
      = (attachMembers (render (forestLines forest))
        (Tracker.full.track (render (forestLines forest))).scopes
        (layoutFound path forest)).mergeSort Declaration.precedes := rfl
  rw [hextract, hsorted, List.map_map]
  rfl

end Conformance.Source
