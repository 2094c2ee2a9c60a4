/-
# The declarations along a layout

What is found on each line of a layout: a type on the line of a header, a property on its line, and
nothing on the lines of braces and of enumeration members, apart from methods and event payloads,
which an outline does not tell of.  Line by line, the declarations of a layout are those of its
types at their places (`leads_forest`).
-/
import Conformance.Proofs.Source.LayoutScopes

namespace Conformance.Source

open Pattern

/-! ## Declarations that matter for an outline -/

/-- Whether an outline tells of a declaration. -/
def Declaration.isOutlined (d : Declaration) : Bool :=
  match d.kind with
  | .type | .interface | .enum => true
  | _ => false

/-- Whether a declaration matters for an outline: it is told of, or it is a member of what is. -/
def Declaration.counts (d : Declaration) : Bool :=
  d.isOutlined || d.kind == .property

/-- The declaration of a type that starts on a line, in the given containers. -/
def Head.declaration (path ns : String) (kind : ContainerKind) (line : Nat) (above : List Frame)
    (h : Head) : Declaration where
  kind := DeclarationKind.ofContainer kind
  name := String.ofList h.name.chars
  path := path
  line := line
  namespaceName := ns
  container := above.getLast?
  column := h.nameColumn kind
  modifiers := ["public"]
  ancestors := above

/-- The declaration of a property on a line, in the given containers. -/
def Property.declaration (path ns : String) (line : Nat) (above : List Frame) (p : Property) :
    Declaration where
  kind := .property
  name := String.ofList p.name.chars
  path := path
  line := line
  namespaceName := ns
  container := above.getLast?
  column := (p.indent.chars.length + 11 : Nat)
  modifiers := ["public"]
  ancestors := above

/-- The declarations of properties on lines one after another. -/
def propertyDeclarations (path ns : String) (above : List Frame) :
    (line : Nat) → List Property → List Declaration
  | _, [] => []
  | line, p :: ps =>
    p.declaration path ns line above :: propertyDeclarations path ns above (line + 1) ps

/-- The declarations of a type at its place and of its properties. -/
def Placed.declarations (path ns : String) (p : Placed) : List Declaration :=
  p.tree.head.declaration path ns p.tree.kind p.line p.above ::
    propertyDeclarations path ns (p.above ++ [p.tree.head.frame p.tree.kind p.line p.above])
      (p.line + (p.tree.head.lines p.tree.kind).length) p.tree.properties

/-! ## One line -/

section Lines

variable (path ns : String) (number : Nat)

/-- The declarations on a line that matter for an outline. -/
def lineFound (s : StackState) (text : String) : List Declaration :=
  (lineDeclarations path ns (Tracker.full.lineScope number s text)).filter (·.counts)

lemma filter_counts_methods (scope : LineScope) (hs : List MemberHeader) :
    (hs.map (memberDeclaration .method scope path ns)).filter (·.counts) = [] := by
  refine List.filter_eq_nil_iff.2 ?_
  intro d hd
  obtain ⟨h, -, rfl⟩ := List.mem_map.1 hd
  simp [Declaration.counts, Declaration.isOutlined, memberDeclaration]

/-- Of a type that is also the payload of an event, only the type counts. -/
lemma filter_counts_containerDeclarations (scope : LineScope) (h : ContainerHeader) :
    (containerDeclarations scope path ns h).filter (·.counts)
      = [containerDeclaration scope path ns h] := by
  have hkind : (containerDeclaration scope path ns h).counts = true := by
    simp only [Declaration.counts, Declaration.isOutlined, containerDeclaration]
    cases h.kind <;> rfl
  have hpayload : Declaration.counts { containerDeclaration scope path ns h with
      kind := .eventPayload } = false := rfl
  unfold containerDeclarations
  split
  · simp [hkind, hpayload]
  · simp [hkind]

/-- The declarations of a line, sort by sort. -/
lemma lineFound_eq (s : StackState) (chars : List Char) :
    lineFound path ns number s (String.ofList chars)
      = (containerHeaders chars).map (containerDeclaration
          (Tracker.full.lineScope number s (String.ofList chars)) path ns) ++
        ((propertyHeader? chars).filter (·.declaresMember)).toList.map (memberDeclaration .property
          (Tracker.full.lineScope number s (String.ofList chars)) path ns) := by
  have htext : (Tracker.full.lineScope number s (String.ofList chars)).text.toList = chars :=
    String.toList_ofList
  simp only [lineFound, lineDeclarations, htext, List.filter_append, filter_counts_methods,
    List.append_nil, List.filter_flatMap, filter_counts_containerDeclarations]
  congr 1
  · exact List.map_eq_flatMap.symm
  · refine List.filter_eq_self.2 ?_
    intro d hd
    obtain ⟨h, -, rfl⟩ := List.mem_map.1 hd
    rfl

/-- Behind the name of a header of a layout stand no parameters and no base types. -/
lemma readTypeTail_rest (h : Head) : readTypeTail h.rest = ⟨[], []⟩ := by
  have hmem : ∀ x ∈ h.rest, Text.isBlank x = true ∨ x = '{' := by
    obtain ⟨indent, name, brace⟩ := h
    cases brace with
    | sameLine gap =>
      intro x hx
      rcases List.mem_append.1 hx with hx | hx
      · exact Or.inl (gap.valid x hx)
      · exact Or.inr (List.mem_singleton.1 hx)
    | nextLine indent' => simp [Head.rest]
  have hnot : ∀ y, Text.isBlank y = false → y ≠ '{' → y ∉ h.rest := by
    intro y hy hne hyrest
    rcases hmem y hyrest with hblank | hbrace
    · exact absurd hblank (by simp [hy])
    · exact hne hbrace
  have hgeneric : genericPattern.matchStart? h.rest = none :=
    matchStart?_eq_none_of_needs (x := '<') (by decide) (hnot '<' rfl (by decide))
  have hpositional : positionalPattern.matchStart? h.rest = none :=
    matchStart?_eq_none_of_needs (x := '(') (by decide) (hnot '(' rfl (by decide))
  have hbases : basesPattern.matchStart? h.rest = none :=
    matchStart?_eq_none_of_needs (x := ':') (by decide) (hnot ':' rfl (by decide))
  simp [readTypeTail, skip, partAtStart?, hgeneric, hpositional, hbases]

/-- A line whose only brace or arrow is its last character, if it has one, holds no property. -/
lemma propertyHeader?_eq_none_of_plain {u w : List Char} (hu : ∀ x ∈ u, x ≠ '{' ∧ x ≠ '=')
    (hw : w = [] ∨ w = ['{']) : propertyHeader? (u ++ w) = none := by
  refine propertyHeader?_eq_none ?_ ?_
  · intro hmem
    rcases List.mem_append.1 hmem with hmem | hmem
    · exact (hu '=' hmem).2 rfl
    · rcases hw with rfl | rfl <;> simp at hmem
  · intro u' v h
    rcases List.append_eq_append_iff.1 h with ⟨m, -, hm⟩ | ⟨m, rfl, hm⟩
    · rcases hw with rfl | rfl
      · simp at hm
      · rcases List.append_eq_singleton_iff.1 hm.symm with ⟨-, h'⟩ | ⟨-, h'⟩
        · exact (List.cons.inj h').2
        · simp at h'
    · cases m with
      | nil =>
        rcases hw with rfl | rfl
        · simp at hm
        · exact (List.cons.inj hm).2
      | cons y m =>
        obtain ⟨rfl, -⟩ := List.cons.inj hm
        exact absurd rfl (hu '{' (by simp)).1

lemma plain_of_isBlank {x : Char} (h : Text.isBlank x = true) : x ≠ '{' ∧ x ≠ '=' :=
  ⟨Text.ne_of_isBlank h rfl, Text.ne_of_isBlank h rfl⟩

lemma plain_of_isWord {x : Char} (h : Text.isWord x = true) : x ≠ '{' ∧ x ≠ '=' :=
  ⟨Text.ne_of_isWord h rfl, Text.ne_of_isWord h rfl⟩

lemma propertyHeader?_header (kind : ContainerKind) (head : Head) :
    propertyHeader? (Line.header kind head).chars = none := by
  have hstart : ∀ x ∈ typeLine head.indent.chars kind head.name.chars [], x ≠ '{' ∧ x ≠ '=' :=
    fun _ hx => (isBlank_or_isWord_of_mem_typeLine hx).elim plain_of_isBlank plain_of_isWord
  rw [Line.chars, typeLine_eq_append]
  cases hbrace : head.brace with
  | sameLine gap =>
    have hrest : head.rest = gap.chars ++ ['{'] := by simp [Head.rest, hbrace]
    rw [hrest, ← List.append_assoc]
    refine propertyHeader?_eq_none_of_plain ?_ (Or.inr rfl)
    intro x hx
    rcases List.mem_append.1 hx with hx | hx
    · exact hstart x hx
    · exact plain_of_isBlank (gap.valid x hx)
  | nextLine indent =>
    have hrest : head.rest = [] := by simp [Head.rest, hbrace]
    rw [hrest]
    exact propertyHeader?_eq_none_of_plain hstart (Or.inl rfl)

/-- The containers around the name of a header. -/
lemma enclosingAt_header {fs : List Frame} (h : Nests fs) (kind : ContainerKind) (head : Head) :
    (Tracker.full.lineScope number (nested fs) (String.ofList (Line.header kind head).chars)
      ).enclosingAt (head.nameColumn kind) = fs := by
  have hstate : StackRun.stateAt (Tracker.full.headers (Line.header kind head).chars) number 0
      (nested fs) (Line.header kind head).chars (head.nameColumn kind)
        = (nested fs).enter (head.frame kind number fs) := by
    rw [stateAt_header, StackState.read_of_not_marks]
    intro x hx
    have hle :
        head.nameColumn kind ≤ (typeLine head.indent.chars kind head.name.chars []).length := by
      simp [typeLine, Head.nameColumn, String.length_toList]
      omega
    rw [Line.chars, typeLine_eq_append, List.take_append_of_le_length hle] at hx
    exact not_marks_of_mem_typeLine (List.mem_of_mem_take hx)
  rw [Tracker.enclosingAt_lineScope, String.toList_ofList, hstate, filter_encloses_enter h rfl]

/-- On the line of a header its type is found. -/
lemma lineFound_header {fs : List Frame} (h : Nests fs) (kind : ContainerKind) (head : Head) :
    lineFound path ns number (nested fs) (String.ofList (Line.header kind head).chars)
      = [head.declaration path ns kind number fs] := by
  have hheaders : containerHeaders (Line.header kind head).chars
      = [typeHeader head.indent.chars kind head.name.chars head.rest] :=
    containerHeaders_typeLine kind head.indent.valid head.name.valid head.endsName_rest
  have henclosing := enclosingAt_header number h kind head
  have hmodifiers : modifierWords (some "public") "" = ["public"] := by decide
  rw [lineFound_eq, hheaders, propertyHeader?_header]
  simp only [List.map_singleton, Option.filter_none, Option.toList_none, List.map_nil,
    List.append_nil, List.cons.injEq, and_true]
  have hcolumn : (typeHeader head.indent.chars kind head.name.chars head.rest).nameColumn
      = head.nameColumn kind := rfl
  simp only [containerDeclaration, LineScope.containerAt, hcolumn, henclosing]
  simp [typeHeader, readTypeTail_rest, hmodifiers, Head.declaration, Tracker.lineScope,
    fileModifier]

/-- The containers around the name of a property. -/
lemma enclosingAt_property {fs : List Frame} (h : Nests fs) (p : Property) :
    (Tracker.full.lineScope number (nested fs) (String.ofList (Line.property p).chars)
      ).enclosingAt ((p.indent.chars.length + 11 : Nat) : Int) = fs := by
  have hname : ∀ x ∈ p.name.chars, Text.isWord x = true :=
    fun x hx => isWord_of_mem_name p.name.valid hx
  have hnone : containerHeaders (Line.property p).chars = [] :=
    containerHeaders_propertyLine p.indent.valid hname
  have hle : p.indent.chars.length + 11 ≤ (propertyStart p.indent.chars p.name.chars).length := by
    simp [propertyStart]
  have hstate : StackRun.stateAt (Tracker.full.headers (Line.property p).chars) number 0
      (nested fs) (Line.property p).chars (p.indent.chars.length + 11) = nested fs := by
    rw [headers_full, hnone, StackRun.stateAt_nil, StackState.read_of_not_marks]
    intro x hx
    rw [Line.chars, propertyLine_eq, List.take_append_of_le_length hle] at hx
    exact marks_of_mem_propertyStart p.indent.valid hname (List.mem_of_mem_take hx)
  rw [Tracker.enclosingAt_lineScope, String.toList_ofList, hstate, frames_nested]
  exact filter_encloses_of_nests h

/-- On the line of a property it is found. -/
lemma lineFound_property {fs : List Frame} (h : Nests fs) (p : Property) :
    lineFound path ns number (nested fs) (String.ofList (Line.property p).chars)
      = [p.declaration path ns number fs] := by
  have hnone : containerHeaders (Line.property p).chars = [] :=
    containerHeaders_propertyLine p.indent.valid fun x hx => isWord_of_mem_name p.name.valid hx
  have hheader : propertyHeader? (Line.property p).chars
      = some (propertyHeader p.indent.chars p.name.chars) :=
    propertyHeader?_propertyLine p.indent.valid p.name.valid
  have hmember : (propertyHeader p.indent.chars p.name.chars).declaresMember = true := by
    have htypes : (!nonMemberTypes.contains "int") = true := by decide
    exact htypes
  have hmodifiers : modifierWords (some "public") "" = ["public"] := by decide
  have henclosing := enclosingAt_property number h p
  have hcolumn : (propertyHeader p.indent.chars p.name.chars).nameColumn
      = p.indent.chars.length + 11 := rfl
  rw [lineFound_eq, hnone, hheader, Option.filter_some, if_pos hmember]
  simp only [List.map_nil, Option.toList_some, List.map_singleton, List.nil_append,
    List.cons.injEq, and_true]
  simp only [memberDeclaration, LineScope.containerAt, hcolumn, henclosing]
  simp [propertyHeader, hmodifiers, Property.declaration, Tracker.lineScope]

/-- A line without the header of a type or of a property. -/
lemma lineFound_eq_nil {chars : List Char} (h : containerHeaders chars = [])
    (h' : propertyHeader? chars = none) (s : StackState) :
    lineFound path ns number s (String.ofList chars) = [] := by
  rw [lineFound_eq, h, h']
  rfl

lemma lineFound_opening (indent : Blanks) (s : StackState) :
    lineFound path ns number s (String.ofList (Line.opening indent).chars) = [] := by
  refine lineFound_eq_nil path ns number (containerHeaders_brace rfl) ?_ s
  exact propertyHeader?_eq_none_of_plain (fun x hx => plain_of_isBlank (indent.valid x hx))
    (Or.inr rfl)

lemma lineFound_closing (indent : Blanks) (s : StackState) :
    lineFound path ns number s (String.ofList (Line.closing indent).chars) = [] := by
  refine lineFound_eq_nil path ns number (containerHeaders_brace rfl) ?_ s
  rw [← List.append_nil (indent.chars ++ ['}'])]
  refine propertyHeader?_eq_none_of_plain ?_ (Or.inl rfl)
  intro x hx
  rcases List.mem_append.1 hx with hx | hx
  · exact plain_of_isBlank (indent.valid x hx)
  · rw [List.mem_singleton.1 hx]
    decide

lemma lineFound_members (m : MemberList) (s : StackState) :
    lineFound path ns number s (String.ofList (Line.members m).chars) = [] := by
  refine lineFound_eq_nil path ns number (containerHeaders_members m) ?_ s
  rw [← List.append_nil (Line.members m).chars]
  refine propertyHeader?_eq_none_of_plain ?_ (Or.inl rfl)
  intro x hx
  rcases List.mem_append.1 hx with hx | hx
  · exact plain_of_isBlank (m.indent.valid x hx)
  · rcases listing_commaSeparated m.gap m.names x hx with hx | hx | rfl
    · exact plain_of_isWord hx
    · exact plain_of_isBlank hx
    · decide

end Lines

/-! ## Several lines -/

section Layout

variable (path ns : String)

/-- The declarations on lines that matter for an outline. -/
def linesFound : (number : Nat) → StackState → List String → List Declaration
  | _, _, [] => []
  | number, s, text :: rest => lineFound path ns number s text ++
      linesFound (number + 1) (Tracker.full.lineState number s text) rest

lemma filter_counts_scopes (total number : Nat) (s : StackState) (lines : List String) :
    ((Tracker.full.stackFrom total number s lines).scopes.flatMap
      (lineDeclarations path ns)).filter (·.counts) = linesFound path ns number s lines := by
  induction lines generalizing number s with
  | nil => rfl
  | cons text rest ih =>
    have hcons : (Tracker.full.stackFrom total number s (text :: rest)).scopes
        = Tracker.full.lineScope number s text :: (Tracker.full.stackFrom total (number + 1)
          (Tracker.full.lineState number s text) rest).scopes := rfl
    rw [hcons, List.flatMap_cons, List.filter_append, ih]
    rfl

lemma linesFound_append (number : Nat) (s : StackState) (xs ys : List String) :
    linesFound path ns number s (xs ++ ys) = linesFound path ns number s xs ++
      linesFound path ns (number + xs.length) (Tracker.full.stateAfter number s xs) ys := by
  induction xs generalizing number s with
  | nil => rfl
  | cons x xs ih =>
    have hnumber : number + (x :: xs).length = number + 1 + xs.length := by
      simp only [List.length_cons]
      omega
    rw [List.cons_append, linesFound, linesFound, ih, hnumber, List.append_assoc]
    rfl

/-- What lines of a layout lead to, in the containers around them: the declarations found on them,
and the state, which is again that between two lines. -/
structure Leads (number : Nat) (fs : List Frame) (ls : List Line) (found : List Declaration)
    (fs' : List Frame) : Prop where
  found_eq : linesFound path ns number (nested fs) (render ls) = found
  state_eq : Tracker.full.stateAfter number (nested fs) (render ls) = nested fs'

variable {fs fs' fs'' : List Frame}

variable {path ns} in
lemma Leads.append {number : Nat} {ls ls' : List Line} {found found' : List Declaration}
    (h : Leads path ns number fs ls found fs')
    (h' : Leads path ns (number + ls.length) fs' ls' found' fs'') :
    Leads path ns number fs (ls ++ ls') (found ++ found') fs'' := by
  have hrender : render (ls ++ ls') = render ls ++ render ls' := List.map_append
  have hlength : (render ls).length = ls.length := List.length_map _
  refine ⟨?_, ?_⟩
  · rw [hrender, linesFound_append, h.found_eq, h.state_eq, hlength, h'.found_eq]
  · rw [hrender, Tracker.stateAfter_append, h.state_eq, hlength, h'.state_eq]

lemma leads_head (number : Nat) (h : Nests fs) (kind : ContainerKind) (head : Head) :
    Leads path ns number fs (head.lines kind) [head.declaration path ns kind number fs]
      (fs ++ [head.frame kind number fs]) := by
  refine ⟨?_, stateAfter_head number kind head fs⟩
  have hheader := lineFound_header path ns number h kind head
  cases hbrace : head.brace with
  | sameLine gap =>
    have hlines : render (head.lines kind) = [String.ofList (Line.header kind head).chars] := by
      simp [render, Head.lines, hbrace]
    rw [hlines, linesFound, linesFound, hheader, List.append_nil]
  | nextLine indent =>
    have hlines : render (head.lines kind) = [String.ofList (Line.header kind head).chars,
        String.ofList (Line.opening indent).chars] := by
      simp [render, Head.lines, hbrace]
    rw [hlines, linesFound, linesFound, linesFound, hheader, lineFound_opening, List.append_nil,
      List.append_nil]

lemma leads_properties (number : Nat) (h : Nests fs) (ps : List Property) :
    Leads path ns number fs (ps.map .property) (propertyDeclarations path ns fs number ps) fs := by
  induction ps generalizing number with
  | nil => exact ⟨rfl, rfl⟩
  | cons p ps ih =>
    have hone : Leads path ns number fs [.property p] [p.declaration path ns number fs] fs := by
      refine ⟨?_, lineState_property number h p⟩
      have hfound := lineFound_property path ns number h p
      simp only [render, List.map_singleton, linesFound, hfound, List.append_nil]
    exact hone.append (ih (number + 1))

lemma leads_members (number : Nat) (m : MemberList) :
    Leads path ns number fs [.members m] [] fs := by
  refine ⟨?_, lineState_members number _ m⟩
  simp only [render, List.map_singleton, linesFound, lineFound_members, List.append_nil]

lemma leads_closing (number : Nat) (h : Nests fs) {f : Frame} (hf : f.startDepth = fs.length)
    (indent : Blanks) : Leads path ns number (fs ++ [f]) [.closing indent] [] fs := by
  refine ⟨?_, lineState_closing number h hf indent⟩
  simp only [render, List.map_singleton, linesFound, lineFound_closing, List.append_nil]

mutual

/-- The lines of a type lead back to the containers around it, and on them the type and all inside
it are found. -/
theorem leads_tree (t : TypeTree) (number : Nat) {fs : List Frame} (h : Nests fs) :
    Leads path ns number fs t.lines ((t.placed number fs).flatMap (·.declarations path ns)) fs := by
  match t with
  | .type sort head properties children closing =>
    have hinside : Nests (fs ++ [head.frame sort.kind number fs]) := h.concat rfl
    have hhead := leads_head path ns number h sort.kind head
    have hproperties := leads_properties path ns (number + (head.lines sort.kind).length) hinside
      properties
    have hchildren := leads_forest children
      (number + (head.lines sort.kind).length + (properties.map Line.property).length) hinside
    have hclosing := leads_closing path ns (number + (head.lines sort.kind).length
      + (properties.map Line.property).length + (forestLines children).length) h
      (show (head.frame sort.kind number fs).startDepth = fs.length from rfl) closing
    -- the parts join because each starts where the one before it leads
    have hall := hhead.append (hproperties.append (hchildren.append hclosing))
    rw [List.length_map, List.append_nil] at hall
    exact hall
  | .enum head members closing =>
    have hhead := leads_head path ns number h .enum head
    have hmembers : Leads path ns (number + (head.lines .enum).length)
        (fs ++ [head.frame .enum number fs]) [.members members] []
        (fs ++ [head.frame .enum number fs]) := leads_members path ns _ members
    have hclosing := leads_closing path ns (number + (head.lines .enum).length + 1) h
      (show (head.frame .enum number fs).startDepth = fs.length from rfl) closing
    exact hhead.append (hmembers.append hclosing)

theorem leads_forest (ts : List TypeTree) (number : Nat) {fs : List Frame} (h : Nests fs) :
    Leads path ns number fs (forestLines ts)
      ((forestPlaced number fs ts).flatMap (·.declarations path ns)) fs := by
  match ts with
  | [] => exact ⟨rfl, rfl⟩
  | t :: ts =>
    have hfirst := leads_tree t number h
    have hrest := leads_forest ts (number + t.lines.length) h
    have hboth := hfirst.append hrest
    rw [← List.flatMap_append] at hboth
    exact hboth

end

end Layout

end Conformance.Source
