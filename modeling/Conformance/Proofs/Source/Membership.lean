/-
# Declarations and the containers around them

A container encloses a place if it has been entered and the depth there exceeds the depth at its
start.  So it was entered before the place: on an earlier line, or by a header on the same line that
starts by the place and since whose start more braces were opened than closed (`EnteredBefore`).
Both disciplines keep this along every run (`enteredBefore_of_mem_enclosingAt`).

A declaration has its place at its name, and a container is entered where its header starts.  Of two
headers on a line, the one that starts first has its name first, whatever they declare; but the
header of a type is entered before its own name, and the attributes in it may hold braces.  The main
statement is `ancestors_before_or_own`: what encloses a declaration stands strictly before it, but
for the container that it declares itself, in case of such braces.
-/
import Conformance.Proofs.Source.HeaderMatch
import Conformance.Proofs.Source.Located

namespace Conformance.Source

/-! ## Braces since a column -/

/-- The braces that a line opens between two columns, less those that it closes. -/
def bracesBetween (line : List Char) (first last : Nat) : Int :=
  braceDepth ((line.take last).drop first)

lemma braceDepth_take {line : List Char} {first last : Nat} (h : first ≤ last) :
    braceDepth (line.take last) = braceDepth (line.take first) + bracesBetween line first last := by
  rw [bracesBetween, ← braceDepth_append]
  congr 1
  have hsplit := List.take_append_drop first (line.take last)
  rwa [List.take_take, Nat.min_eq_left h, eq_comm] at hsplit

/-! ## How a container was entered -/

/-- A container was entered before a column of a line: on an earlier line, or by a header on the
line that starts by the column and since whose start more braces were opened than closed. -/
inductive EnteredBefore (scope : LineScope) (column : Nat) (f : Frame) : Prop
  | earlier (hline : f.startLine < scope.number)
  | onLine (h : ContainerHeader) (hmem : h ∈ containerHeaders scope.text.toList)
      (hle : h.column ≤ column) (hframe : f = Frame.ofHeader h f.startDepth scope.number)
      (hopen : 0 < bracesBetween scope.text.toList h.column column)

lemma mem_frames_of_mem_enclosingAt {scope : LineScope} {column : Int} {f : Frame}
    (h : f ∈ scope.enclosingAt column) :
    f ∈ (scope.pointAt column).frames ∧ f.startDepth < scope.depthAt column := by
  obtain ⟨hmem, hdepth⟩ := List.mem_filter.1 h
  exact ⟨hmem, of_decide_eq_true hdepth⟩

/-! ### On the stack -/

lemma exists_of_mem_placedHeaders {t : Tracker} {lines : List String} {h : PlacedHeader}
    (hh : h ∈ placedHeaders t lines) :
    ∃ text, lines[h.line]? = some text ∧ h.header ∈ t.headers text.toList := by
  obtain ⟨⟨text, n⟩, hn, hh⟩ := List.mem_flatMap.1 hh
  obtain ⟨hd, hhd, rfl⟩ := List.mem_map.1 hh
  exact ⟨text, List.mem_zipIdx_iff_getElem?.1 hn, hhd⟩

/-- The text before a place of a line, from the text before an earlier place of it. -/
lemma braceDepth_textBefore {lines : List String} {line : Nat} {text : String}
    (htext : lines[line]? = some text) {first last : Nat} (h : first ≤ last) :
    braceDepth (textBefore lines line last)
      = braceDepth (textBefore lines line first) + bracesBetween text.toList first last := by
  simp only [textBefore, htext, Option.getD_some, braceDepth_append, braceDepth_take h]
  omega

/-- What the stack gives for a place is told by the text before it. -/
lemma exists_placedHeader_of_mem_stack {t : Tracker} (hmode : t.mode = .stack)
    {lines : List String} {scope : LineScope} (hscope : scope ∈ (t.track lines).scopes)
    {column : Nat} {f : Frame} (hf : f ∈ (scope.pointAt column).frames) :
    scope.depthAt column = braceDepth (textBefore lines (scope.number - 1) column) ∧
    ∃ h ∈ placedHeaders t lines, h.StartsBy (scope.number - 1) column ∧ f = h.frame lines := by
  obtain ⟨hget, htext, -⟩ := t.getElem?_of_mem_scopes hscope
  have hi : scope.number - 1 < lines.length := (List.getElem?_eq_some_iff.1 htext).1
  obtain ⟨scope', hscope', hpoints⟩ :=
    exists_scope_agrees t lines.length [] lines .initial Agrees.initial hi
  have htrack : (t.track lines).scopes = (t.stackFrom lines.length 1 .initial lines).scopes := by
    rw [Tracker.track, hmode]
  rw [htrack] at hget
  obtain rfl := Option.some.inj (hscope'.symm.trans hget)
  obtain ⟨s, ⟨hdepth, hframes⟩, hagree⟩ := hpoints column
  simp only [List.nil_append, List.length_nil, Nat.zero_add] at hagree
  refine ⟨hdepth.trans hagree.depth_eq, ?_⟩
  rw [hframes, hagree.frames_eq] at hf
  obtain ⟨e, he, rfl⟩ := List.mem_map.1 hf
  obtain ⟨h, hh, rfl⟩ := List.mem_map.1 (List.mem_filter.1 he).1
  obtain ⟨hplaced, hstarts⟩ := List.mem_filter.1 hh
  exact ⟨h, hplaced, of_decide_eq_true hstarts, rfl⟩

lemma enteredBefore_of_mem_stack {t : Tracker} (hmode : t.mode = .stack) {lines : List String}
    {scope : LineScope} (hscope : scope ∈ (t.track lines).scopes) {column : Nat} {f : Frame}
    (hf : f ∈ scope.enclosingAt column) : EnteredBefore scope column f := by
  obtain ⟨-, htext, hone⟩ := t.getElem?_of_mem_scopes hscope
  obtain ⟨hmem, hlt⟩ := mem_frames_of_mem_enclosingAt hf
  obtain ⟨hdepth, h, hplaced, hstarts, rfl⟩ := exists_placedHeader_of_mem_stack hmode hscope hmem
  have hstartLine : (h.frame lines).startLine = h.line + 1 := rfl
  rcases hstarts with hline | ⟨hline, hle⟩
  · exact .earlier (by omega)
  · obtain ⟨text, htext', hheader⟩ := exists_of_mem_placedHeaders hplaced
    rw [hline, htext] at htext'
    obtain rfl := Option.some.inj htext'
    have hnumber : scope.number = h.line + 1 := by omega
    refine .onLine h.header (List.mem_filter.1 hheader).1 hle (by rw [hnumber]; rfl) ?_
    have hstartDepth : (h.frame lines).startDepth
        = braceDepth (textBefore lines (scope.number - 1) h.header.column) := by
      rw [← hline]
      rfl
    have hbetween := braceDepth_textBefore htext hle
    omega

/-! ### With a single container -/

lemma lt_column_of_mem_bracePoints {frames : List Frame} {column : Nat} {depth : Int}
    {cs : List Char} {p : Point} (h : p ∈ bracePoints frames column depth cs) :
    column < p.column := by
  induction cs generalizing column depth with
  | nil => exact absurd h (by simp [bracePoints])
  | cons c cs ih =>
    simp only [bracePoints] at h
    split at h
    · rcases List.mem_cons.1 h with rfl | h
      · exact Nat.lt_succ_self column
      · exact (Nat.lt_succ_self column).trans (ih h)
    · exact (Nat.lt_succ_self column).trans (ih h)

/-- The point at a column has the containers of the line and the depth after what stands before
the column. -/
lemma lastUpTo_bracePoints {frames : List Frame} {column query : Nat} (hq : column ≤ query)
    {cur : Point} (hframes : cur.frames = frames) (cs : List Char) :
    (LineScope.lastUpTo query cur (bracePoints frames column cur.depth cs)).frames = frames ∧
    (LineScope.lastUpTo query cur (bracePoints frames column cur.depth cs)).depth
      = (cs.take (query - column)).foldl braceStep cur.depth := by
  induction cs generalizing column cur with
  | nil => simp [bracePoints, LineScope.lastUpTo, hframes]
  | cons c cs ih =>
    rcases Nat.eq_or_lt_of_le hq with rfl | hlt
    · have hnone : ∀ p ∈ bracePoints frames column cur.depth (c :: cs),
          (column : Int) < p.column := fun p hp => by
        exact_mod_cast lt_column_of_mem_bracePoints hp
      rw [LineScope.lastUpTo_of_forall_lt hnone]
      simp [hframes]
    · obtain ⟨n, rfl⟩ := Nat.exists_eq_add_of_lt hlt
      have hsub : column + n + 1 - column = n + 1 := by omega
      have hrest : column + n + 1 - (column + 1) = n := by omega
      have hle : column + 1 ≤ column + n + 1 := by omega
      rw [hsub, List.take_succ_cons, List.foldl_cons]
      simp only [bracePoints]
      split
      · -- a brace adds a point, which the column lies behind
        have hpassed : ¬ ((column + n + 1 : Nat) : Int) < ((column + 1 : Nat) : Int) := by omega
        rw [LineScope.lastUpTo, if_neg hpassed]
        have hpoint : (Point.mk (column + 1) (braceStep cur.depth c) frames).frames = frames := rfl
        have hnext := ih hle hpoint
        rwa [hrest] at hnext
      · have hsame : braceStep cur.depth c = cur.depth := by
          simp_all [braceStep]
        have hnext := ih hle hframes
        rwa [hrest, ← hsame] at hnext

lemma LineScope.pointAt_natCast {s : LineScope} (h : s.first.column = 0) (column : Nat) :
    s.pointAt column = lastUpTo column s.first s.more := by
  rw [pointAt, if_neg]
  omega

namespace Tracker

variable (t : Tracker)

/-- The scope of a line. -/
def singleScope (number : Nat) (depth : Int) (active : Option Frame) (text : String) : LineScope :=
  let frames := (t.singleHeld number depth active text.toList).toList
  ⟨number, text, depth, text.toList.foldl braceStep depth, ⟨0, depth, frames⟩,
    bracePoints frames 0 depth text.toList⟩

lemma scopes_singleFrom_cons (total number : Nat) (depth : Int) (active : Option Frame)
    (text : String) (rest : List String) :
    (t.singleFrom total number depth active (text :: rest)).scopes
      = t.singleScope number depth active text ::
        (t.singleFrom total (number + 1) (text.toList.foldl braceStep depth)
          (t.singleNext number depth active text.toList) rest).scopes := by
  cases active <;> rfl

lemma pointAt_singleScope (number : Nat) (depth : Int) (active : Option Frame) (text : String)
    (column : Nat) :
    ((t.singleScope number depth active text).pointAt column).frames
      = (t.singleHeld number depth active text.toList).toList ∧
    (t.singleScope number depth active text).depthAt column
      = depth + braceDepth (text.toList.take column) := by
  have hfirst : (t.singleScope number depth active text).first.frames
      = (t.singleHeld number depth active text.toList).toList := rfl
  rw [LineScope.depthAt, LineScope.pointAt_natCast rfl, ← foldl_braceStep]
  exact lastUpTo_bracePoints (Nat.zero_le column) hfirst text.toList

/-- The container that is held along a line was held before it, or is that of a header at the start
of the line. -/
lemma mem_singleHeld {number : Nat} {depth : Int} {active : Option Frame} {chars : List Char}
    {f : Frame} (h : f ∈ t.singleHeld number depth active chars) :
    f ∈ active ∨
      ∃ h ∈ containerHeaders chars, h.column = 0 ∧ f = Frame.ofHeader h depth number := by
  rcases Option.or_eq_some_iff.1 h with h | ⟨rfl, h⟩
  · exact .inl h
  · right
    have hentered : t.lineStartFrame? number depth chars = some f := h
    obtain ⟨hd, hfind, rfl⟩ := Option.map_eq_some_iff.1 hentered
    have hmem := List.mem_of_find?_eq_some hfind
    have hstarts := List.find?_some hfind
    simp only [Bool.and_eq_true] at hstarts
    obtain ⟨text⟩ := exists_typeText hmem
    refine ⟨hd, hmem, ?_, rfl⟩
    rw [text.column_eq, text.before_eq hstarts.1]
    rfl

lemma startLine_lt_of_mem_singleNext {number : Nat} {depth : Int} {active : Option Frame}
    (hactive : ∀ f ∈ active, f.startLine < number) {chars : List Char} {f : Frame}
    (h : f ∈ t.singleNext number depth active chars) : f.startLine < number + 1 := by
  unfold singleNext at h
  split at h
  · exact absurd h (by simp)
  · rcases t.mem_singleHeld h with h | ⟨hd, -, -, rfl⟩
    · exact (hactive f h).trans (Nat.lt_succ_self number)
    · exact Nat.lt_succ_self number

end Tracker

lemma enteredBefore_of_mem_singleFrom (t : Tracker) {total number : Nat} {depth : Int}
    {active : Option Frame} (hactive : ∀ f ∈ active, f.startLine < number) {lines : List String}
    {scope : LineScope} (hscope : scope ∈ (t.singleFrom total number depth active lines).scopes)
    {column : Nat} {f : Frame} (hf : f ∈ scope.enclosingAt column) :
    EnteredBefore scope column f := by
  induction lines generalizing number depth active with
  | nil => exact absurd hscope (by cases active <;> simp [Tracker.singleFrom])
  | cons text rest ih =>
    rw [t.scopes_singleFrom_cons] at hscope
    rcases List.mem_cons.1 hscope with rfl | hscope
    · obtain ⟨hmem, hlt⟩ := mem_frames_of_mem_enclosingAt hf
      obtain ⟨hframes, hdepth⟩ := t.pointAt_singleScope number depth active text column
      rw [hframes, Option.mem_toList] at hmem
      rcases t.mem_singleHeld hmem with hheld | ⟨h, hh, hstart, rfl⟩
      · exact .earlier (hactive f hheld)
      · refine .onLine h hh (by omega) rfl ?_
        have hstartDepth : (Frame.ofHeader h depth number).startDepth = depth := rfl
        have hopen : 0 < braceDepth (text.toList.take column) := by omega
        rwa [hstart, bracesBetween, List.drop_zero]
    · exact ih (fun g hg => t.startLine_lt_of_mem_singleNext hactive hg) hscope

/-- **A container that encloses a place was entered before it**, in either discipline. -/
theorem enteredBefore_of_mem_enclosingAt {t : Tracker} {lines : List String} {scope : LineScope}
    (hscope : scope ∈ (t.track lines).scopes) {column : Nat} {f : Frame}
    (hf : f ∈ scope.enclosingAt column) : EnteredBefore scope column f := by
  cases hmode : t.mode with
  | stack => exact enteredBefore_of_mem_stack hmode hscope hf
  | single =>
    rw [Tracker.track, hmode] at hscope
    exact enteredBefore_of_mem_singleFrom t (by simp) hscope hf

/-! ## What a line declares -/

/-- The headers of types on a line do not overlap. -/
lemma containerHeaders_disjoint (chars : List Char) :
    (containerHeaders chars).Pairwise fun h h' => h.endColumn ≤ h'.column :=
  List.pairwise_map.2 (Pattern.all_disjoint containerPattern_consumes chars)

/-- Of the headers of types on a line, the one that starts first has its name first. -/
lemma eq_or_nameColumn_lt {chars : List Char} {h h' : ContainerHeader}
    (hh : h ∈ containerHeaders chars) (hh' : h' ∈ containerHeaders chars)
    (hle : h.column ≤ h'.nameColumn) : h = h' ∨ h.nameColumn < h'.nameColumn := by
  have hname : ∀ h ∈ containerHeaders chars,
      h.column ≤ h.nameColumn ∧ h.nameColumn < h.endColumn := by
    intro h hh
    obtain ⟨x⟩ := exists_typeText hh
    have hpos : 0 < x.name.length := List.length_pos_iff.2 x.isName.1
    rw [x.endColumn_eq, x.nameColumn_eq, x.column_eq]
    omega
  have hcolumns := hname h hh
  have hcolumns' := hname h' hh'
  obtain ⟨i, hi, rfl⟩ := List.mem_iff_getElem.1 hh
  obtain ⟨j, hj, rfl⟩ := List.mem_iff_getElem.1 hh'
  have hdisjoint := List.pairwise_iff_getElem.1 (containerHeaders_disjoint chars)
  rcases Nat.lt_trichotomy i j with hij | rfl | hij
  · have hbehind := hdisjoint i j hi hj hij
    omega
  · exact .inl rfl
  · have hbehind := hdisjoint j i hj hi hij
    omega

/-- A type whose header starts by the place of a declaration has its name before that place, unless
it is what is declared. -/
lemma nameColumn_lt_or_own {path ns : String} {scope : LineScope} {d : Declaration}
    (h : d ∈ lineDeclarations path ns scope) :
    ∃ column : Nat, d.column = column ∧ ∀ h ∈ containerHeaders scope.text.toList,
      h.column ≤ column → h.nameColumn < column ∨ (h.nameColumn = column ∧ h.name = d.name) := by
  have hmember : ∀ {m : MemberHeader}, Nonempty (MemberText scope.text.toList m) →
      m.declaresMember = true → ∀ h ∈ containerHeaders scope.text.toList,
        h.column ≤ m.nameColumn → h.nameColumn < m.nameColumn := by
    rintro m ⟨y⟩ hdeclares h hh hle
    obtain ⟨x⟩ := exists_typeText hh
    exact x.nameColumn_lt y hdeclares hle
  have htype : ∀ h' ∈ containerHeaders scope.text.toList, ∀ h ∈ containerHeaders scope.text.toList,
      h.column ≤ h'.nameColumn →
        h.nameColumn < h'.nameColumn ∨ (h.nameColumn = h'.nameColumn ∧ h.name = h'.name) := by
    intro h' hh' h hh hle
    rcases eq_or_nameColumn_lt hh hh' hle with rfl | hlt
    · exact .inr ⟨rfl, rfl⟩
    · exact .inl hlt
  cases declaredOn_of_mem h with
  | type h' hmem => exact ⟨h'.nameColumn, rfl, htype h' hmem⟩
  | payload h' hmem => exact ⟨h'.nameColumn, rfl, htype h' hmem⟩
  | method m hm hdeclares =>
    refine ⟨m.nameColumn, rfl, fun h hh hle => .inl ?_⟩
    exact hmember (exists_memberText_of_method hm) hdeclares h hh hle
  | property m hm hdeclares =>
    refine ⟨m.nameColumn, rfl, fun h hh hle => .inl ?_⟩
    exact hmember (exists_memberText_of_property hm) hdeclares h hh hle

/-- What is declared on a line stands in what the scope of the line gives for its place. -/
lemma ancestors_of_mem_lineDeclarations {path ns : String} {scope : LineScope} {d : Declaration}
    (h : d ∈ lineDeclarations path ns scope) :
    d.ancestors = scope.enclosingAt d.column ∧ d.container = d.ancestors.getLast? := by
  rw [lineDeclarations_inside (rfl : scope.place = scope.place)] at h
  obtain ⟨d', -, rfl⟩ := List.mem_map.1 h
  exact ⟨rfl, rfl⟩

/-! ## Membership -/

/-- The container starts strictly before the declaration. -/
def Frame.StartsBefore (f : Frame) (d : Declaration) : Prop :=
  (f.startLine : Int) < d.line ∨ ((f.startLine : Int) = d.line ∧ (f.startColumn : Int) < d.column)

instance (f : Frame) (d : Declaration) : Decidable (f.StartsBefore d) :=
  inferInstanceAs (Decidable (_ ∨ _))

/-- The container is what is declared, by a header on the given line that opens more braces before
the name than it closes. -/
def Frame.IsOwn (f : Frame) (text : String) (d : Declaration) : Prop :=
  ∃ h ∈ containerHeaders text.toList, f = Frame.ofHeader h f.startDepth f.startLine ∧
    (f.startLine : Int) = d.line ∧ (f.startColumn : Int) = d.column ∧ f.name = d.name ∧
    0 < bracesBetween text.toList h.column h.nameColumn

lemma startsBefore_or_isOwn {t : Tracker} {lines : List String} {scope : LineScope}
    (hscope : scope ∈ (t.track lines).scopes) {path ns : String} {d : Declaration}
    (hd : d ∈ lineDeclarations path ns scope) {f : Frame} (hf : f ∈ d.ancestors) :
    f.StartsBefore d ∨ f.IsOwn scope.text d := by
  obtain ⟨hline, -⟩ := kind_of_mem_lineDeclarations hd
  obtain ⟨column, hcolumn, hheaders⟩ := nameColumn_lt_or_own hd
  rw [(ancestors_of_mem_lineDeclarations hd).1, hcolumn] at hf
  cases enteredBefore_of_mem_enclosingAt hscope hf with
  | earlier hbefore => exact .inl (.inl (by omega))
  | onLine h hh hle hframe hopen =>
    have hstartLine : f.startLine = scope.number := congrArg Frame.startLine hframe
    have hstartColumn : f.startColumn = h.nameColumn := congrArg Frame.startColumn hframe
    have hname : f.name = h.name := congrArg Frame.name hframe
    rcases hheaders h hh hle with hlt | ⟨rfl, hown⟩
    · exact .inl (.inr ⟨by omega, by omega⟩)
    · rw [← hstartLine] at hframe
      exact .inr ⟨h, hh, hframe, by omega, by omega, hname.trans hown, hopen⟩

/-- A declaration is in no container, or is found on a line. -/
lemma exists_line_of_mem_extract {t : Tracker} {file : SourceFile} {d : Declaration}
    (h : d ∈ (extract t file).declarations) :
    (d.ancestors = [] ∧ d.container = none) ∨
    ∃ scope ∈ (t.track file.lines).scopes,
      ∃ d' ∈ lineDeclarations file.path (namespaceOf file.text.toList) scope,
        ∃ ms, d = { d' with members := ms } := by
  obtain ⟨e, he, ⟨ms, rfl⟩ | ⟨member, -, rfl⟩⟩ := exists_found_of_mem_extract h
  · rcases mem_foundDeclarations.1 he with he | ⟨scope, hscope, he⟩
    · obtain ⟨n, -, rfl⟩ := Option.map_eq_some_iff.1 he
      exact .inl ⟨rfl, rfl⟩
    · exact .inr ⟨scope, hscope, e, he, ms, rfl⟩
  · exact .inl ⟨rfl, rfl⟩

/-- The scope of a line is found by its number. -/
lemma scopeOf?_of_mem_scopes {t : Tracker} {lines : List String} {scope : LineScope}
    (h : scope ∈ (t.track lines).scopes) :
    (t.track lines).scopeOf? scope.number = some scope := by
  obtain ⟨hget, -, hone⟩ := t.getElem?_of_mem_scopes h
  have hpositive : ¬ (scope.number : Int) < 1 := by omega
  have hplace : (scope.number : Int) - 1 = ((scope.number - 1 : Nat) : Int) := by omega
  have hnonneg : ¬ ((scope.number - 1 : Nat) : Int) < 0 := by omega
  simp only [Trace.scopeOf?, if_neg hpositive, hplace, if_neg hnonneg, Int.toNat_natCast]
  exact hget

/-- **What encloses a declaration stands before it, or is what it declares.**  For every text, in
either discipline and with every filter, the innermost container of a declaration is the last of its
ancestors.  The depth at the declaration exceeds the depth at the start of each ancestor.  The name
of an ancestor stands strictly before the declaration, unless the ancestor is the declared container
itself; and then the header of that container, up to its name, opens more braces than it closes. -/
theorem ancestors_before_or_own (t : Tracker) (file : SourceFile) {d : Declaration}
    (hd : d ∈ (extract t file).declarations) :
    d.container = d.ancestors.getLast? ∧
    ∀ f ∈ d.ancestors, ∃ scope, (t.track file.lines).scopeOf? d.line = some scope ∧
      f.startDepth < scope.depthAt d.column ∧ (f.StartsBefore d ∨ f.IsOwn scope.text d) := by
  rcases exists_line_of_mem_extract hd with
    ⟨hancestors, hcontainer⟩ | ⟨scope, hscope, d', hd', ms, rfl⟩
  · rw [hancestors, hcontainer]
    simp
  · obtain ⟨hancestors, hcontainer⟩ := ancestors_of_mem_lineDeclarations hd'
    refine ⟨hcontainer, fun f hf => ⟨scope, ?_, ?_, ?_⟩⟩
    · have hline : d'.line = scope.number := (kind_of_mem_lineDeclarations hd').1
      exact (congrArg _ hline).trans (scopeOf?_of_mem_scopes hscope)
    · have hmem : f ∈ scope.enclosingAt d'.column := hancestors ▸ hf
      exact (mem_frames_of_mem_enclosingAt hmem).2
    · exact startsBefore_or_isOwn hscope hd' hf

/-- A class with a brace in its attribute, behind the given lines. -/
def attributeFile (lines : List String) : SourceFile :=
  ⟨"B.cs", lines ++ ["[A(\"\x7b\")] public class B"]⟩

/-- The frame of that class. -/
def attributeFrame (depth : Int) (line : Nat) : Frame :=
  ⟨.classType, "B", depth, line, 22⟩

/-- The declaration of that class. -/
def attributeDeclaration (line : Int) (ancestors : List Frame) : Declaration :=
  { kind := .type, name := "B", path := "B.cs", line := line, column := 22
    container := ancestors.getLast?, ancestors := ancestors, modifiers := ["public"] }

/-- A class around it. -/
def outerFrame : Frame :=
  ⟨.classType, "A", 0, 1, 13⟩

lemma mem_attributeFile_nested :
    attributeDeclaration 2 [outerFrame, attributeFrame 1 2]
      ∈ (extract ⟨.stack, none⟩ (attributeFile ["public class A \x7b"])).declarations := by
  refine (List.mergeSort_perm _ _).mem_iff.2 ?_
  decide +kernel

/-- The outer class stands before the inner one, which is its own container too. -/
theorem ancestors_before_or_own_attribute :
    let file := attributeFile ["public class A \x7b"]
    let d := attributeDeclaration 2 [outerFrame, attributeFrame 1 2]
    d ∈ (extract ⟨.stack, none⟩ file).declarations ∧ outerFrame.StartsBefore d ∧
    ¬ (attributeFrame 1 2).StartsBefore d ∧
    d.container = d.ancestors.getLast? ∧
    ∀ f ∈ d.ancestors, ∃ scope,
      ((Tracker.mk .stack none).track file.lines).scopeOf? d.line = some scope ∧
      f.startDepth < scope.depthAt d.column ∧ (f.StartsBefore d ∨ f.IsOwn scope.text d) :=
  ⟨mem_attributeFile_nested, by decide, by decide,
    ancestors_before_or_own _ _ mem_attributeFile_nested⟩

/-- In both disciplines, a class whose attribute holds a brace is its own container. -/
theorem own_container_of_brace_in_attribute :
    ∃ d, d ∈ (extract ⟨.stack, none⟩ (attributeFile [])).declarations ∧
      d ∈ (extract ⟨.single, none⟩ (attributeFile [])).declarations ∧
      ∃ f ∈ d.ancestors, d.container = some f ∧ ¬ f.StartsBefore d := by
  have hmem : ∀ mode, attributeDeclaration 1 [attributeFrame 0 1]
      ∈ (extract ⟨mode, none⟩ (attributeFile [])).declarations := by
    intro mode
    refine (List.mergeSort_perm _ _).mem_iff.2 ?_
    cases mode <;> decide +kernel
  exact ⟨_, hmem .stack, hmem .single, attributeFrame 0 1, List.mem_singleton_self _, rfl,
    by decide⟩

end Conformance.Source
