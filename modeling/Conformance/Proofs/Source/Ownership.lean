/-
# Who owns a property

A property belongs to the innermost container around it when every container is followed.  The
members of types are attached through a table that knows an owner by its line and its name only.
If no line declares two types of one name, this tells owners apart as well as their places do, and
every class, struct, record and interface has just its positional parameters and its own
properties (`members_of_types`).
-/
import Conformance.Proofs.Source.Declared
import Conformance.Proofs.Source.Membership
import Conformance.Proofs.Source.Outline

namespace Conformance.Source

/-! ## The headers of declarations -/

/-- A header declares a type, or the same type as the payload of an event. -/
structure PlacedHeader.Declares (h : PlacedHeader) (d : Declaration) : Prop where
  line_eq : d.line = (h.line : Int) + 1
  column_eq : d.column = (h.header.nameColumn : Int)
  name_eq : d.name = h.header.name
  kind_eq : d.kind = DeclarationKind.ofContainer h.header.kind ∨
    (d.kind = .eventPayload ∧ h.header.kind ≠ .enum)

/-- Types on one line have their names at different columns. -/
lemma eq_of_nameColumn_eq {chars : List Char} {h h' : ContainerHeader}
    (hh : h ∈ containerHeaders chars) (hh' : h' ∈ containerHeaders chars)
    (hcolumn : h.nameColumn = h'.nameColumn) : h = h' := by
  obtain ⟨x⟩ := exists_typeText hh
  have hle : h.column ≤ h'.nameColumn := by
    rw [← hcolumn, x.nameColumn_eq, x.column_eq]
    omega
  rcases eq_or_nameColumn_lt hh hh' hle with heq | hlt
  · exact heq
  · omega

/-- A place has one header. -/
lemma PlacedHeader.eq_of_place_eq {t : Tracker} {lines : List String} {h h' : PlacedHeader}
    (hh : h ∈ placedHeaders t lines) (hh' : h' ∈ placedHeaders t lines)
    (hline : h.line = h'.line) (hcolumn : h.header.nameColumn = h'.header.nameColumn) : h = h' := by
  obtain ⟨text, htext, hmem⟩ := exists_of_mem_placedHeaders hh
  obtain ⟨text', htext', hmem'⟩ := exists_of_mem_placedHeaders hh'
  rw [← hline] at htext'
  obtain rfl := Option.some.inj (htext.symm.trans htext')
  obtain ⟨line, header⟩ := h
  obtain ⟨line', header'⟩ := h'
  obtain rfl : line = line' := hline
  exact congrArg _
    (eq_of_nameColumn_eq (List.mem_filter.1 hmem).1 (List.mem_filter.1 hmem').1 hcolumn)

/-- The names of the positional parameters of a record; other types have none. -/
def ContainerHeader.parameterNames (h : ContainerHeader) : List String :=
  if h.kind == .record then (readTypeTail h.tail).params.map String.ofList else []

lemma mem_placedHeaders_full {lines : List String} {line : Nat} {text : String}
    (htext : lines[line]? = some text) {h : ContainerHeader}
    (hh : h ∈ containerHeaders text.toList) : ⟨line, h⟩ ∈ placedHeaders .full lines :=
  List.mem_flatMap.2 ⟨(text, line), List.mem_zipIdx_iff_getElem?.2 htext,
    List.mem_map.2 ⟨h, List.mem_filter.2 ⟨hh, rfl⟩, rfl⟩⟩

/-- A declaration of a class, struct, record or interface, which owns the properties in its
body. -/
def Declaration.OwnsProperties (d : Declaration) : Prop :=
  d.kind = .type ∨ d.kind = .interface ∨ d.kind = .eventPayload

lemma DeclaredOn.header_or_member {path ns : String} {scope : LineScope} {d : Declaration}
    (hd : DeclaredOn path ns scope d) :
    ((d.OwnsProperties ∨ d.kind = .enum) ∧ ∃ h ∈ containerHeaders scope.text.toList,
      d.line = scope.number ∧ d.column = h.nameColumn ∧ d.name = h.name ∧
      d.members = h.parameterNames ∧ (d.kind = DeclarationKind.ofContainer h.kind ∨
        (d.kind = .eventPayload ∧ h.kind ≠ .enum))) ∨
    ((d.kind = .method ∨ d.kind = .property) ∧ d.members = []) := by
  cases hd with
  | type h hmem =>
    refine .inl ⟨?_, h, hmem, rfl, rfl, rfl, rfl, .inl rfl⟩
    have hkind : (containerDeclaration scope path ns h).kind
      = DeclarationKind.ofContainer h.kind := rfl
    rw [Declaration.OwnsProperties, hkind]
    cases h.kind <;> simp [DeclarationKind.ofContainer]
  | payload h hmem hkind =>
    exact .inl ⟨.inl (.inr (.inr rfl)), h, hmem, rfl, rfl, rfl, rfl, .inr ⟨rfl, hkind⟩⟩
  | method => exact .inr ⟨.inl rfl, rfl⟩
  | property => exact .inr ⟨.inr rfl, rfl⟩

/-- A type that is found has a header, and the parameters of the header for members. -/
lemma exists_declares_of_found {t : Tracker} {file : SourceFile} {e : Declaration}
    (he : e ∈ foundDeclarations (t.track file.lines).scopes file)
    (hkind : e.OwnsProperties ∨ e.kind = .enum) :
    ∃ h ∈ placedHeaders .full file.lines, h.Declares e ∧ e.members = h.header.parameterNames := by
  rcases mem_foundDeclarations.1 he with he | ⟨scope, hscope, he⟩
  · obtain ⟨n, -, rfl⟩ := Option.map_eq_some_iff.1 he
    simp [Declaration.OwnsProperties] at hkind
  · obtain ⟨-, htext, hone⟩ := t.getElem?_of_mem_scopes hscope
    rcases (declaredOn_of_mem he).header_or_member with
      ⟨-, h, hmem, hline, hcolumn, hname, hmembers, hsort⟩ | ⟨hmember, -⟩
    · refine ⟨⟨scope.number - 1, h⟩, mem_placedHeaders_full htext hmem, ⟨?_, hcolumn, hname, hsort⟩,
        hmembers⟩
      rw [hline]
      simp only
      omega
    · rcases hmember with hm | hm <;> simp [Declaration.OwnsProperties, hm] at hkind

/-! ## Owners -/

/-- The container that owns what is declared at a place when every container is followed. -/
def Declaration.owner? (lines : List String) (d : Declaration) : Option Frame :=
  ((Tracker.full.track lines).scopeOf? d.line).bind (·.containerAt d.column)

/-- The container starts with the name of the declaration. -/
def Frame.StartsAt (f : Frame) (d : Declaration) : Prop :=
  (f.startLine : Int) = d.line ∧ (f.startColumn : Int) = d.column

instance (f : Frame) (d : Declaration) : Decidable (f.StartsAt d) :=
  inferInstanceAs (Decidable (_ ∧ _))

/-- No line declares two types of one name. -/
def SourceFile.NamesTypesApart (file : SourceFile) : Prop :=
  ∀ line ∈ file.lines, ((containerHeaders line.toList).map (·.name)).Nodup

instance (file : SourceFile) : Decidable file.NamesTypesApart :=
  inferInstanceAs (Decidable (∀ line ∈ file.lines, _))

lemma Trace.scopeOf?_of_pos {trace : Trace} {line : Int} (h : 1 ≤ line) :
    trace.scopeOf? line = trace.scopes[(line - 1).toNat]? := by
  have hlow : ¬ line < 1 := by omega
  have hplace : ¬ line - 1 < 0 := by omega
  simp only [Trace.scopeOf?, if_neg hlow, if_neg hplace]

/-- An owner is the container of a header. -/
lemma exists_header_of_owner? {lines : List String} {p : Declaration} {column : Nat}
    (hline : 1 ≤ p.line) (hcolumn : p.column = column) {f : Frame}
    (hf : p.owner? lines = some f) :
    ∃ h ∈ placedHeaders .full lines, f = h.frame lines := by
  obtain ⟨scope, hscope, hf⟩ := Option.bind_eq_some_iff.1 hf
  rw [Trace.scopeOf?_of_pos hline] at hscope
  have hmem := mem_frames_of_mem_enclosingAt (List.mem_of_getLast? hf)
  rw [hcolumn] at hmem
  obtain ⟨-, h, hplaced, -, hframe⟩ :=
    exists_placedHeader_of_mem_stack rfl (List.mem_of_getElem? hscope) hmem.1
  exact ⟨h, hplaced, hframe⟩

/-- Of the types on a line, none of the same name, the name tells as much as the place. -/
lemma SourceFile.NamesTypesApart.name_eq_iff {file : SourceFile} (hnames : file.NamesTypesApart)
    {h h' : PlacedHeader} (hh : h ∈ placedHeaders .full file.lines)
    (hh' : h' ∈ placedHeaders .full file.lines) (hline : h.line = h'.line) :
    h.header.name = h'.header.name ↔ h.header.nameColumn = h'.header.nameColumn := by
  constructor
  · intro hname
    obtain ⟨text, htext, hmem⟩ := exists_of_mem_placedHeaders hh
    obtain ⟨text', htext', hmem'⟩ := exists_of_mem_placedHeaders hh'
    rw [← hline] at htext'
    obtain rfl := Option.some.inj (htext.symm.trans htext')
    have hnodup := hnames text (List.mem_of_getElem? htext)
    rw [List.inj_on_of_nodup_map hnodup (List.mem_filter.1 hmem).1 (List.mem_filter.1 hmem').1
      hname]
  · intro hcolumn
    rw [PlacedHeader.eq_of_place_eq hh hh' hline hcolumn]

/-- The names of the properties among declarations whose owner starts with a declared type. -/
def ownProperties (lines : List String) (ds : List Declaration) (d : Declaration) : List String :=
  ((ds.filter (·.kind == .property)).filter fun p =>
    (p.owner? lines).any fun f => f.StartsAt d).map (·.name)

/-- A property stands on a line, at a column of it. -/
lemma place_of_property {t : Tracker} {file : SourceFile} {p : Declaration}
    (hp : p ∈ foundDeclarations (t.track file.lines).scopes file) (hkind : p.kind = .property) :
    1 ≤ p.line ∧ ∃ column : Nat, p.column = column := by
  rcases mem_foundDeclarations.1 hp with hp | ⟨scope, hscope, hp⟩
  · obtain ⟨n, -, rfl⟩ := Option.map_eq_some_iff.1 hp
    exact absurd hkind (by simp)
  · obtain ⟨-, -, hone⟩ := t.getElem?_of_mem_scopes hscope
    have hline := (kind_of_mem_lineDeclarations hp).1
    obtain ⟨column, hcolumn, -⟩ := nameColumn_lt_or_own hp
    exact ⟨by omega, column, hcolumn⟩

/-- The line and the name of a container tell it apart as well as its place does. -/
lemma SourceFile.NamesTypesApart.startsAt_iff {file : SourceFile} (hnames : file.NamesTypesApart)
    {h h' : PlacedHeader} (hh : h ∈ placedHeaders .full file.lines)
    (hh' : h' ∈ placedHeaders .full file.lines) {d : Declaration} (hd : h.Declares d) :
    (h'.frame file.lines).StartsAt d ↔
      ((h'.frame file.lines).startLine : Int) = d.line ∧
        (h'.frame file.lines).name = d.name := by
  have hline : ((h'.line + 1 : Nat) : Int) = d.line ↔ h.line = h'.line := by
    rw [hd.line_eq]
    omega
  have hcolumn : (h'.header.nameColumn : Int) = d.column ↔
      h.header.nameColumn = h'.header.nameColumn := by
    rw [hd.column_eq]
    omega
  change _ = _ ∧ (h'.header.nameColumn : Int) = d.column ↔ _ ∧ h'.header.name = d.name
  rw [hcolumn, hd.name_eq, eq_comm (a := h'.header.name)]
  refine and_congr_right fun hsame => ?_
  exact (hnames.name_eq_iff hh hh' (hline.1 hsame)).symm

/-- The table of owners gives a type its own properties. -/
lemma propertiesOf_eq_ownProperties {t : Tracker} {file : SourceFile}
    (hnames : file.NamesTypesApart) {d : Declaration} {h : PlacedHeader}
    (hh : h ∈ placedHeaders .full file.lines) (hd : h.Declares d) :
    propertiesOf (ownedProperties (Tracker.full.track file.lines).scopes
        (foundDeclarations (t.track file.lines).scopes file)) d
      = ownProperties file.lines (foundDeclarations (t.track file.lines).scopes file) d := by
  have hmap : ∀ l : List Declaration, l.map (·.name) = l.filterMap fun p => some p.name :=
    fun l => by rw [List.filterMap_eq_map']
  rw [propertiesOf, ownedProperties, ownProperties, List.filter_filterMap, List.map_filterMap, hmap,
    List.filterMap_filter, List.filterMap_filter]
  -- both lists take a property or leave it, one by its owner's line and name, one by its place
  refine List.filterMap_congr fun p hp => ?_
  by_cases hkind : p.kind = .property
  · obtain ⟨hline, column, hcolumn⟩ := place_of_property hp hkind
    have howner : p.owner? file.lines
        = (Tracker.full.track file.lines).scopes[(p.line - 1).toNat]?.bind
          (·.containerAt p.column) := by
      rw [Declaration.owner?, Trace.scopeOf?_of_pos hline]
    rw [← howner]
    cases hf : p.owner? file.lines with
    | none => simp [hkind]
    | some f =>
      obtain ⟨h', hh', rfl⟩ := exists_header_of_owner? hline hcolumn hf
      have hsame := hnames.startsAt_iff hh hh' hd
      simp [hkind, hsame, Option.filter_some]
  · simp [hkind]

/-! ## Properties in the order of their lines -/

lemma pairwise_number_track (t : Tracker) (lines : List String) :
    (t.track lines).scopes.Pairwise fun s s' => s.number < s'.number := by
  have hnumbers : (t.track lines).scopes.map (·.number) = List.range' 1 lines.length := by
    have hplaces := congrArg (List.map Prod.snd) (t.places_track lines)
    rwa [List.map_map, List.zipIdx_map_snd] at hplaces
  exact List.pairwise_map.1 (hnumbers ▸ List.pairwise_lt_range')

/-- The properties of a file stand on different lines. -/
lemma pairwise_property_found (t : Tracker) (file : SourceFile) :
    ((foundDeclarations (t.track file.lines).scopes file).filter
      (·.kind == .property)).Pairwise fun p q => p.line < q.line := by
  have hnamespace : (namespaceDeclaration? file.path file.text.toList).toList.filter
      (·.kind == .property) = [] := by
    refine List.filter_eq_nil_iff.2 fun d hd => ?_
    obtain ⟨n, -, rfl⟩ := Option.map_eq_some_iff.1 (Option.mem_toList.1 hd)
    simp
  rw [foundDeclarations, List.filter_append, hnamespace, List.nil_append, List.filter_flatMap]
  refine List.pairwise_flatMap.2 ⟨fun scope _ => ?_, (pairwise_number_track t file.lines).imp ?_⟩
  · rw [filter_property_lineDeclarations]
    cases (propertyHeader? scope.text.toList).filter (·.declaresMember) <;> simp
  · intro scope scope' hlt p hp q hq
    have hline := (kind_of_mem_lineDeclarations (List.mem_filter.1 hp).1).1
    have hline' := (kind_of_mem_lineDeclarations (List.mem_filter.1 hq).1).1
    omega

/-- Attaching members and sorting leave the properties of a file as they are found. -/
lemma filter_property_extract (t : Tracker) (file : SourceFile) :
    (extract t file).declarations.filter (·.kind == .property)
      = (foundDeclarations (t.track file.lines).scopes file).filter (·.kind == .property) := by
  set found := foundDeclarations (t.track file.lines).scopes file
  set owned := ownedProperties (Tracker.full.track file.lines).scopes found
  have hkeep : ∀ d ∈ found.filter (·.kind == .property), withMembers file.lines owned d = d := by
    intro d hd
    have hkind : d.kind = .property := beq_iff_eq.1 (List.mem_filter.1 hd).2
    simp only [withMembers, hkind]
  have hcomplete : (found.map (withMembers file.lines owned)).filter (·.kind == .property)
      = found.filter (·.kind == .property) := by
    rw [List.filter_map]
    have hkind : ((fun d : Declaration => d.kind == .property) ∘ withMembers file.lines owned)
        = fun d => d.kind == .property := by
      funext d
      simp only [Function.comp_apply, kind_withMembers]
    rw [hkind]
    exact (List.map_congr_left hkeep).trans (List.map_id' _)
  have hmembers : ((found.map (withMembers file.lines owned)).flatMap
      enumMemberDeclarations).filter (·.kind == .property) = [] := by
    refine List.filter_eq_nil_iff.2 fun d hd => ?_
    obtain ⟨e, -, hd⟩ := List.mem_flatMap.1 hd
    obtain ⟨-, m, -, rfl⟩ := mem_enumMemberDeclarations.1 hd
    simp
  have hattached : (attachMembers file.lines (Tracker.full.track file.lines).scopes found).filter
      (·.kind == .property) = found.filter (·.kind == .property) := by
    rw [attachMembers, List.filter_append, hmembers, List.append_nil, hcomplete]
  -- properties stand on different lines, so sorting cannot change their order
  have hsorted : (found.filter (·.kind == .property)).Pairwise fun p q => p.precedes q = true := by
    refine (pairwise_property_found t file).imp_of_mem ?_
    intro p q hp hq hlt
    have hpath := (declaredIn_of_mem_foundDeclarations (List.mem_filter.1 hp).1).path_eq
    have hpath' := (declaredIn_of_mem_foundDeclarations (List.mem_filter.1 hq).1).path_eq
    simp [Declaration.precedes, hpath, hpath', hlt, hlt.ne]
  have hsort := filter_mergeSort isOrderTest_declarations (hattached ▸ hsorted)
  exact hsort.trans hattached

/-! ## Members -/

/-- The members of a type: its parameters if it owns no property, else its parameters and its
properties, each name once. -/
def joinMembers (parameters properties : List String) : List String :=
  if properties = [] then parameters else (parameters ++ properties).eraseDups

/-- What the members of the declarations of a file are. -/
structure OwnMembers (t : Tracker) (file : SourceFile) : Prop where
  /-- The properties come in the order of their lines. -/
  properties_pairwise : ((extract t file).declarations.filter
    (·.kind == .property)).Pairwise fun p q => p.line < q.line
  /-- A type has its parameters and its own properties. -/
  members_of_type : ∀ d ∈ (extract t file).declarations, d.OwnsProperties →
    ∃ h ∈ placedHeaders .full file.lines, h.Declares d ∧
      d.members = joinMembers h.header.parameterNames
        (ownProperties file.lines (extract t file).declarations d)
  /-- The payload of an event has the members of its type. -/
  members_of_payload : ∀ d ∈ (extract t file).declarations, d.OwnsProperties →
    ∀ d' ∈ (extract t file).declarations, d'.kind = .eventPayload → d'.line = d.line →
      d'.column = d.column → d'.members = d.members
  /-- An enumeration has what stands in its body. -/
  members_of_enum : ∀ d ∈ (extract t file).declarations, d.kind = .enum →
    d.members = enumMembersAt file.lines (d.line - 1).toNat d.column.toNat
  /-- Nothing else has members. -/
  members_of_other : ∀ d ∈ (extract t file).declarations, ¬ d.OwnsProperties → d.kind ≠ .enum →
    d.members = []

lemma members_withMembers_of_ownsProperties {d : Declaration} (hd : d.OwnsProperties)
    (lines : List String) (owned : List OwnedProperty) :
    (withMembers lines owned d).members = joinMembers d.members (propertiesOf owned d) := by
  unfold withMembers joinMembers
  rcases hd with hkind | hkind | hkind
  all_goals
    rw [hkind]
    cases propertiesOf owned d with
    | nil => rfl
    | cons p ps => simp [distinct_eq_eraseDups]

lemma withMembers_eq_self {d : Declaration} (howns : ¬ d.OwnsProperties) (henum : d.kind ≠ .enum)
    (lines : List String) (owned : List OwnedProperty) : withMembers lines owned d = d := by
  unfold withMembers
  cases hkind : d.kind <;> simp_all [Declaration.OwnsProperties]

/-- Nothing but types is found with members. -/
lemma members_of_found {t : Tracker} {file : SourceFile} {e : Declaration}
    (he : e ∈ foundDeclarations (t.track file.lines).scopes file) (howns : ¬ e.OwnsProperties)
    (henum : e.kind ≠ .enum) : e.members = [] := by
  rcases mem_foundDeclarations.1 he with he | ⟨scope, -, he⟩
  · obtain ⟨n, -, rfl⟩ := Option.map_eq_some_iff.1 he
    rfl
  · rcases (declaredOn_of_mem he).header_or_member with ⟨htype | htype, -⟩ | ⟨-, hmembers⟩
    · exact absurd htype howns
    · exact absurd htype henum
    · exact hmembers

lemma SourceFile.kind_complete (file : SourceFile) (t : Tracker) (d : Declaration) :
    (file.complete t d).kind = d.kind :=
  kind_withMembers _ _ _

lemma SourceFile.ownsProperties_complete (file : SourceFile) (t : Tracker) (d : Declaration) :
    (file.complete t d).OwnsProperties ↔ d.OwnsProperties := by
  rw [Declaration.OwnsProperties, file.kind_complete, Declaration.OwnsProperties]

/-- A declaration is found, and then gets its members, or is a member of an enumeration. -/
lemma exists_complete_of_mem_extract {t : Tracker} {file : SourceFile} {d : Declaration}
    (hd : d ∈ (extract t file).declarations) :
    (∃ e ∈ foundDeclarations (t.track file.lines).scopes file, d = file.complete t e) ∨
    (d.kind = .enumMember ∧ d.members = []) := by
  obtain ⟨e, he, rfl | hd⟩ := mem_extract.1 hd
  · exact .inl ⟨e, he, rfl⟩
  · obtain ⟨-, m, -, rfl⟩ := mem_enumMemberDeclarations.1 hd
    exact .inr ⟨rfl, rfl⟩

/-- What a type owns is told by its place. -/
lemma ownProperties_congr {lines : List String} {ds : List Declaration} {d d' : Declaration}
    (hline : d'.line = d.line) (hcolumn : d'.column = d.column) :
    ownProperties lines ds d' = ownProperties lines ds d := by
  have hstarts : ∀ f : Frame, decide (f.StartsAt d') = decide (f.StartsAt d) := by
    intro f
    rw [decide_eq_decide, Frame.StartsAt, hline, hcolumn, Frame.StartsAt]
  simp only [ownProperties, hstarts]

/-- What is declared at one place has one header. -/
lemma PlacedHeader.Declares.header_eq {lines : List String} {h h' : PlacedHeader}
    (hh : h ∈ placedHeaders .full lines) (hh' : h' ∈ placedHeaders .full lines)
    {d d' : Declaration} (hd : h.Declares d) (hd' : h'.Declares d') (hline : d'.line = d.line)
    (hcolumn : d'.column = d.column) : h = h' := by
  rw [hd.line_eq, hd'.line_eq] at hline
  rw [hd.column_eq, hd'.column_eq] at hcolumn
  exact eq_of_place_eq hh hh' (by omega) (by omega)

lemma PlacedHeader.Declares.complete {h : PlacedHeader} {e : Declaration} (he : h.Declares e)
    (file : SourceFile) (t : Tracker) : h.Declares (file.complete t e) := by
  obtain ⟨ms, hms⟩ : ∃ ms, file.complete t e = { e with members := ms } :=
    exists_withMembers_eq _ _ e
  rw [hms]
  exact ⟨he.line_eq, he.column_eq, he.name_eq, he.kind_eq⟩

/-- A type of a file has a header. -/
lemma exists_header_of_mem_extract {t : Tracker} {file : SourceFile} {d : Declaration}
    (hd : d ∈ (extract t file).declarations) (hkind : d.OwnsProperties ∨ d.kind = .enum) :
    ∃ h ∈ placedHeaders .full file.lines, h.Declares d := by
  rcases exists_complete_of_mem_extract hd with ⟨e, he, rfl⟩ | ⟨hmember, -⟩
  · rw [file.ownsProperties_complete, file.kind_complete] at hkind
    obtain ⟨h, hh, hdeclares, -⟩ := exists_declares_of_found he hkind
    exact ⟨h, hh, hdeclares.complete file t⟩
  · simp [Declaration.OwnsProperties, hmember] at hkind

/-- The members of a type, with the header that tells its parameters. -/
lemma exists_members_of_mem_extract {t : Tracker} {file : SourceFile}
    (hnames : file.NamesTypesApart) {d : Declaration} (hd : d ∈ (extract t file).declarations)
    (howns : d.OwnsProperties) :
    ∃ h ∈ placedHeaders .full file.lines, h.Declares d ∧
      d.members = joinMembers h.header.parameterNames
        (ownProperties file.lines (extract t file).declarations d) := by
  rcases exists_complete_of_mem_extract hd with ⟨e, he, rfl⟩ | ⟨hkind, -⟩
  · rw [file.ownsProperties_complete] at howns
    obtain ⟨h, hh, hdeclares, hmembers⟩ := exists_declares_of_found he (.inl howns)
    have hfinal := hdeclares.complete file t
    have hjoin : (file.complete t e).members = joinMembers e.members (propertiesOf _ e) :=
      members_withMembers_of_ownsProperties howns _ _
    have hsame : ownProperties file.lines (extract t file).declarations (file.complete t e)
        = ownProperties file.lines (foundDeclarations (t.track file.lines).scopes file) e := by
      rw [ownProperties_congr (hfinal.line_eq.trans hdeclares.line_eq.symm)
        (hfinal.column_eq.trans hdeclares.column_eq.symm), ownProperties, ownProperties,
        filter_property_extract]
    refine ⟨h, hh, hfinal, ?_⟩
    rw [hjoin, hmembers, propertiesOf_eq_ownProperties hnames hh hdeclares, hsame]
  · simp [Declaration.OwnsProperties, hkind] at howns

/-- **Every property goes to the type around it, and to no other.**  If no line declares two types
of one name, each class, struct, record and interface has for members its positional parameters
and the properties that it encloses as the innermost container when all are followed, in the order
of their lines and each name once; a type without properties has its parameters as they are.  The
payload of an event has the members of its type, and no property reaches anything else. -/
theorem members_of_types (t : Tracker) (file : SourceFile) (hnames : file.NamesTypesApart) :
    OwnMembers t file where
  properties_pairwise := by
    rw [filter_property_extract]
    exact pairwise_property_found t file
  members_of_type _ hd howns := exists_members_of_mem_extract hnames hd howns
  members_of_payload d hd howns d' hd' hkind hline hcolumn := by
    obtain ⟨h, hh, hdeclares, hmembers⟩ := exists_members_of_mem_extract hnames hd howns
    obtain ⟨h', hh', hdeclares', hmembers'⟩ :=
      exists_members_of_mem_extract hnames hd' (.inr (.inr hkind))
    rw [hmembers, hmembers', hdeclares.header_eq hh hh' hdeclares' hline hcolumn,
      ownProperties_congr hline hcolumn]
  members_of_enum d hd hkind := by
    rcases exists_complete_of_mem_extract hd with ⟨e, -, rfl⟩ | ⟨hmember, -⟩
    · rw [file.kind_complete] at hkind
      simp only [SourceFile.complete, withMembers, hkind]
    · rw [hkind] at hmember
      cases hmember
  members_of_other d hd howns henum := by
    rcases exists_complete_of_mem_extract hd with ⟨e, he, rfl⟩ | ⟨-, hmembers⟩
    · rw [file.ownsProperties_complete] at howns
      rw [file.kind_complete] at henum
      rw [SourceFile.complete, withMembers_eq_self howns henum]
      exact members_of_found he howns henum
    · exact hmembers

/-- A record for the payload of an event, with a class inside it. -/
def recordFile : SourceFile :=
  ⟨"R.cs", ["public record PaidEventArgs(int Id) \x7b", "public int Sum \x7b get; \x7d",
    "public class Line \x7b", "public int Tax \x7b get; \x7d \x7d \x7d"]⟩

/-- The declaration of the record. -/
def recordDeclaration : Declaration :=
  { kind := .type, name := "PaidEventArgs", path := "R.cs", line := 1, column := 14
    modifiers := ["public"], members := ["Id", "Sum"] }

/-- The declaration of the class. -/
def innerDeclaration : Declaration :=
  { kind := .type, name := "Line", path := "R.cs", line := 3, column := 13
    container := some ⟨.record, "PaidEventArgs", 0, 1, 14⟩
    ancestors := [⟨.record, "PaidEventArgs", 0, 1, 14⟩]
    modifiers := ["public"], members := ["Tax"] }

/-- The record has its parameter and its own properties, the class inside has the one in its
body. -/
theorem members_of_types_record :
    recordFile.NamesTypesApart ∧
    recordDeclaration ∈ (extract .full recordFile).declarations ∧
    { recordDeclaration with kind := .eventPayload } ∈ (extract .full recordFile).declarations ∧
    innerDeclaration ∈ (extract .full recordFile).declarations ∧
    OwnMembers .full recordFile := by
  have hnames : recordFile.NamesTypesApart := by decide +kernel
  have htypes : (attachMembers recordFile.lines (Tracker.full.track recordFile.lines).scopes
      (foundDeclarations (Tracker.full.track recordFile.lines).scopes recordFile)).filter
        (·.kind != .property)
      = [recordDeclaration, { recordDeclaration with kind := .eventPayload },
        innerDeclaration] := by
    decide +kernel
  have hmem : ∀ d ∈ [recordDeclaration, { recordDeclaration with kind := .eventPayload },
      innerDeclaration], d ∈ (extract .full recordFile).declarations := by
    intro d hd
    rw [← htypes] at hd
    exact (List.mergeSort_perm _ _).mem_iff.2 (List.mem_filter.1 hd).1
  refine ⟨hnames, hmem _ ?_, hmem _ ?_, hmem _ ?_, members_of_types _ _ hnames⟩ <;> simp

end Conformance.Source
