/-
# The scopes along a layout

Between two lines of a layout the containers entered are exactly those whose bodies enclose the
place, all of them open: the state is `nested`.  A header enters one more, its opening brace opens
it, the closing brace leaves it, and the other lines change nothing.
-/
import Conformance.Proofs.Source.Layout
import Conformance.Proofs.Source.StackPoints

namespace Conformance.Source

/-! ## Reading without headers -/

namespace StackState

/-- The state after some characters at which no container is entered. -/
def read (s : StackState) (cs : List Char) : StackState :=
  cs.foldl (fun s c => (s.onChar c).1) s

lemma read_append (s : StackState) (u v : List Char) : s.read (u ++ v) = (s.read u).read v :=
  List.foldl_append

lemma read_of_not_marks {u : List Char} (h : ∀ x ∈ u, marks x = false) (s : StackState) :
    s.read u = s := by
  induction u with
  | nil => rfl
  | cons x u ih =>
    have hx : (s.onChar x).1 = s := StackRun.onChar_of_not_marks (h x List.mem_cons_self) s
    have hu := ih fun y hy => h y (List.mem_cons_of_mem _ hy)
    rw [read, List.foldl_cons, hx]
    exact hu

end StackState

namespace StackRun

lemma enterAt_of_passed {headers : List ContainerHeader} {column : Nat}
    (h : ∀ x ∈ headers, x.column < column) (number : Nat) (s : StackState) :
    (enterAt headers number column s).state = s := by
  have hnone : headers.find? (·.column == column) = none := by
    refine List.find?_eq_none.2 ?_
    intro x hx
    have := h x hx
    simp only [beq_iff_eq]
    omega
  rw [enterAt, hnone]

/-- Behind the last header of a line only its characters count. -/
lemma stateAt_of_passed {headers : List ContainerHeader} {column : Nat}
    (h : ∀ x ∈ headers, x.column < column) (number : Nat) (s : StackState) (query : Nat)
    (cs : List Char) :
    stateAt headers number column s cs (column + query) = s.read (cs.take query) := by
  induction cs generalizing column s query with
  | nil => simp [stateAt, StackState.read]
  | cons c cs ih =>
    have hentered := enterAt_of_passed h number s
    cases query with
    | zero => rw [stateAt, if_pos (Nat.add_zero _), hentered, List.take_zero, StackState.read,
        List.foldl_nil]
    | succ query =>
      have hquery : column + (query + 1) = column + 1 + query := by omega
      have hstep : (step headers number column s c).state = (s.onChar c).1 := by
        simp only [step, hentered]
      rw [stateAt, if_neg (by omega), hquery, hstep,
        ih (fun x hx => Nat.lt_succ_of_lt (h x hx))]
      rfl

lemma stateAt_nil (number : Nat) (s : StackState) (query : Nat) (cs : List Char) :
    stateAt [] number 0 s cs query = s.read (cs.take query) := by
  have hnone : ∀ x ∈ ([] : List ContainerHeader), x.column < 0 := by simp
  have h := stateAt_of_passed hnone number s query cs
  rwa [Nat.zero_add] at h

/-- A header at the start of a line is entered before anything is read. -/
lemma stateAt_singleton {h : ContainerHeader} (hcolumn : h.column = 0) (number : Nat)
    (s : StackState) {cs : List Char} (hcs : cs ≠ []) (query : Nat) :
    stateAt [h] number 0 s cs query
      = (s.enter (Frame.ofHeader h s.depth number)).read (cs.take query) := by
  obtain ⟨c, cs, rfl⟩ := List.exists_cons_of_ne_nil hcs
  have hentered : (enterAt [h] number 0 s).state = s.enter (Frame.ofHeader h s.depth number) := by
    simp [enterAt, hcolumn]
  cases query with
  | zero =>
    rw [stateAt, if_pos rfl, hentered]
    rfl
  | succ query =>
    have hstep : (step [h] number 0 s c).state
        = ((s.enter (Frame.ofHeader h s.depth number)).onChar c).1 := by
      simp only [step, hentered]
    have hquery : query + 1 = 0 + 1 + query := by omega
    rw [stateAt, if_neg (by omega), hstep, hquery, stateAt_of_passed (by simp [hcolumn])]
    rw [Nat.zero_add, Nat.add_comm 1 query]
    rfl

end StackRun

/-! ## The scope of one line -/

namespace Tracker

/-- The state after a line. -/
def lineState (t : Tracker) (number : Nat) (s : StackState) (text : String) : StackState :=
  (StackRun.line (t.headers text.toList) number 0 s text.toList).state

/-- The scope of a line. -/
def lineScope (t : Tracker) (number : Nat) (s : StackState) (text : String) : LineScope where
  number := number
  text := text
  depthBefore := s.depth
  depthAfter := (t.lineState number s text).depth
  first := s.pointAt 0
  more := (StackRun.line (t.headers text.toList) number 0 s text.toList).points

/-- The state after lines, the first of which has the given number. -/
def stateAfter (t : Tracker) : (number : Nat) → StackState → List String → StackState
  | _, s, [] => s
  | number, s, text :: rest => t.stateAfter (number + 1) (t.lineState number s text) rest

lemma stateAfter_append (t : Tracker) (number : Nat) (s : StackState) (xs ys : List String) :
    t.stateAfter number s (xs ++ ys)
      = t.stateAfter (number + xs.length) (t.stateAfter number s xs) ys := by
  induction xs generalizing number s with
  | nil => rfl
  | cons x xs ih =>
    have hnumber : number + (x :: xs).length = number + 1 + xs.length := by
      simp only [List.length_cons]
      omega
    rw [List.cons_append, stateAfter, stateAfter, ih, hnumber]

lemma enclosingAt_lineScope (t : Tracker) (number : Nat) (s : StackState) (text : String)
    (query : Nat) : (t.lineScope number s text).enclosingAt query =
      (StackRun.stateAt (t.headers text.toList) number 0 s text.toList query).frames.filter
        (·.encloses
          (StackRun.stateAt (t.headers text.toList) number 0 s text.toList query).depth) := by
  have hshows := StackRun.shows_lastUpTo (t.headers text.toList) number
    (show (s.pointAt 0).Shows s from ⟨rfl, rfl⟩) (Nat.zero_le query) text.toList
  have hpoint : (t.lineScope number s text).pointAt query
      = LineScope.lastUpTo query (s.pointAt 0)
        (StackRun.line (t.headers text.toList) number 0 s text.toList).points := by
    have hcolumn : ¬ (query : Int) < ((s.pointAt 0).column : Int) := by
      simp [StackState.pointAt]
    exact if_neg hcolumn
  rw [LineScope.enclosingAt, hpoint, Point.enclosing, hshows.1, hshows.2]

end Tracker

/-! ## The headers of a line -/

/-- Behind blanks and one brace, or behind nothing, no name is left. -/
lemma Head.endsName_rest (h : Head) : EndsName h.rest := by
  obtain ⟨indent, name, brace⟩ := h
  cases brace with
  | sameLine gap =>
    refine ⟨?_, ?_⟩
    · intro x rest hrest
      cases hgap : gap.chars with
      | nil =>
        simp only [Head.rest, hgap, List.nil_append, List.cons.injEq] at hrest
        rw [← hrest.1]
        rfl
      | cons y ys =>
        simp only [Head.rest, hgap, List.cons_append, List.cons.injEq] at hrest
        rw [← hrest.1]
        exact Text.isWord_eq_false_of_isBlank (gap.valid y (by rw [hgap]; exact List.mem_cons_self))
    · intro x hx
      rcases List.mem_append.1 hx with hx | hx
      · exact isNameStart_of_isBlank (gap.valid x hx)
      · rw [List.mem_singleton.1 hx]
        rfl
  | nextLine indent' => exact ⟨CharTest.refusesStart_nil _, by simp [Head.rest]⟩

/-- The first of several names, and nothing or a comma behind it. -/
lemma commaSeparated_cons (gap : List Char) (n : Name) (ns : List Name) :
    ∃ t, commaSeparated gap (n :: ns) = n.chars ++ t ∧ (t = [] ∨ ∃ rest, t = ',' :: rest) := by
  cases ns with
  | nil => exact ⟨[], by simp [commaSeparated], Or.inl rfl⟩
  | cons n' ns => exact ⟨_, rfl, Or.inr ⟨_, rfl⟩⟩

lemma marks_of_mem_members {m : MemberList} {x : Char} (hx : x ∈ (Line.members m).chars) :
    StackState.marks x = false := by
  rcases List.mem_append.1 hx with hx | hx
  · exact marks_of_isBlank (m.indent.valid x hx)
  · rcases listing_commaSeparated m.gap m.names x hx with hx | hx | rfl
    · exact marks_of_isWord hx
    · exact marks_of_isBlank hx
    · rfl

lemma containerHeaders_brace {indent : Blanks} {x : Char} (hx : Text.isNameStart x = false) :
    containerHeaders (indent.chars ++ [x]) = [] := by
  refine containerHeaders_eq_nil_of_no_name ?_
  intro y hy
  rcases List.mem_append.1 hy with hy | hy
  · exact isNameStart_of_isBlank (indent.valid y hy)
  · rwa [List.mem_singleton.1 hy]

lemma containerHeaders_members (m : MemberList) : containerHeaders (Line.members m).chars = [] := by
  obtain ⟨indent, gap, names⟩ := m
  cases names with
  | nil =>
    refine containerHeaders_eq_nil_of_no_name ?_
    intro x hx
    simp only [Line.chars, commaSeparated, List.append_nil] at hx
    exact isNameStart_of_isBlank (indent.valid x hx)
  | cons n ns =>
    refine containerHeaders_eq_nil ?_ ?_
    · obtain ⟨t, ht, hcomma⟩ := commaSeparated_cons gap.chars n ns
      have hrefuses :
          (CharTest.blank false).RefusesStart t ∧ (CharTest.word false).RefusesStart t := by
        rcases hcomma with rfl | ⟨rest, rfl⟩
        · exact ⟨CharTest.refusesStart_nil _, CharTest.refusesStart_nil _⟩
        · exact ⟨CharTest.refusesStart_cons.2 rfl, CharTest.refusesStart_cons.2 rfl⟩
      simp only [Line.chars, ht]
      refine containerPattern_failsAt_start indent.valid ?_ (noBlankBehindWord_append
        (fun x hx => isWord_of_mem_name n.valid hx) hrefuses.1 hrefuses.2)
      obtain ⟨c, rest, hchars, hc, -⟩ := isName_iff.1 n.valid
      rw [hchars, List.cons_append]
      refine CharTest.refusesStart_cons.2 ?_
      have hne : c ≠ '[' := Text.ne_of_isWord (Text.isWord_of_isNameStart hc) rfl
      simpa [CharTest.accepts] using hne
    · -- no character of the line could stand before a header
      intro u x v htext hx
      have hmem : x ∈ (Line.members ⟨indent, gap, n :: ns⟩).chars := by
        rw [htext]
        simp
      exact absurd hx (by simp [marks_of_mem_members hmem])

lemma headers_full (chars : List Char) : Tracker.full.headers chars = containerHeaders chars :=
  List.filter_eq_self.2 fun _ _ => rfl

/-! ## The state between two lines -/

/-- All of the given containers are entered and open, and no other brace is. -/
def nested (fs : List Frame) : StackState :=
  ⟨fs.length, (fs.map (⟨·, true⟩)).reverse⟩

/-- Containers start at smaller depths than their number. -/
def Nests (fs : List Frame) : Prop :=
  ∀ f ∈ fs, f.startDepth < fs.length

lemma Nests.concat {fs : List Frame} (h : Nests fs) {f : Frame} (hf : f.startDepth = fs.length) :
    Nests (fs ++ [f]) := by
  intro g hg
  rw [List.length_append, List.length_singleton]
  rcases List.mem_append.1 hg with hg | hg
  · have := h g hg
    omega
  · rw [List.mem_singleton.1 hg, hf]
    omega

lemma frames_nested (fs : List Frame) : (nested fs).frames = fs := by
  simp [nested, StackState.frames, Function.comp_def]

lemma filter_encloses_of_nests {fs : List Frame} (h : Nests fs) :
    fs.filter (·.encloses (fs.length : Int)) = fs :=
  List.filter_eq_self.2 fun f hf => decide_eq_true (h f hf)

/-- The frame of a header does not enclose the header itself. -/
lemma filter_encloses_enter {fs : List Frame} (h : Nests fs) {f : Frame}
    (hf : f.startDepth = fs.length) :
    ((nested fs).enter f).frames.filter (·.encloses ((nested fs).enter f).depth) = fs := by
  have hself : f.encloses (fs.length : Int) = false := by simp [Frame.encloses, hf]
  have hdepth : ((nested fs).enter f).depth = fs.length := rfl
  rw [StackState.frames_enter, frames_nested, hdepth, List.filter_append,
    filter_encloses_of_nests h, List.filter_singleton, hself]
  simp

/-- The opening brace opens the container that has just been entered. -/
lemma read_opening {fs : List Frame} {f : Frame} (hf : f.startDepth = fs.length) :
    ((nested fs).enter f).read ['{'] = nested (fs ++ [f]) := by
  simp [StackState.read, StackState.onChar, StackState.enter, StackState.openTop, nested, hf]

lemma mem_nested {fs : List Frame} {g : OpenFrame} (h : g ∈ (nested fs).stack) :
    g.frame ∈ fs ∧ g.opened = true := by
  obtain ⟨f, hf, rfl⟩ := List.mem_map.1 (List.mem_reverse.1 h)
  exact ⟨hf, rfl⟩

/-- Containers that start at smaller depths are not left. -/
lemma dropWhile_closes_nested {fs : List Frame} (h : Nests fs) :
    (nested fs).stack.dropWhile (StackState.closes fs.length) = (nested fs).stack := by
  cases hstack : (nested fs).stack with
  | nil => rfl
  | cons g gs =>
    have hg := (mem_nested (hstack ▸ List.mem_cons_self : g ∈ (nested fs).stack)).1
    have hstays : StackState.closes fs.length g = false :=
      decide_eq_false (not_le.2 (h g.frame hg))
    rw [List.dropWhile_cons, hstays]
    simp

/-- A semicolon leaves no open container. -/
lemma dropWhile_ends_nested (fs : List Frame) (depth : Int) :
    (nested fs).stack.dropWhile (StackState.ends depth) = (nested fs).stack := by
  cases hstack : (nested fs).stack with
  | nil => rfl
  | cons g gs =>
    have hg := (mem_nested (hstack ▸ List.mem_cons_self : g ∈ (nested fs).stack)).2
    have hstays : StackState.ends depth g = false := by simp [StackState.ends, hg]
    rw [List.dropWhile_cons, hstays]
    simp

/-- A further brace opens no container. -/
lemma openTop_nested (fs : List Frame) (depth : Int) :
    StackState.openTop depth (nested fs).stack = (nested fs).stack := by
  cases hstack : (nested fs).stack with
  | nil => rfl
  | cons g gs =>
    have hg := (mem_nested (hstack ▸ List.mem_cons_self : g ∈ (nested fs).stack)).2
    simp [StackState.openTop, hg]

/-- The closing brace leaves the innermost container and no other. -/
lemma read_closing {fs : List Frame} (h : Nests fs) {f : Frame} (hf : f.startDepth = fs.length) :
    (nested (fs ++ [f])).read ['}'] = nested fs := by
  have hleaves : StackState.closes fs.length ⟨f, true⟩ = true :=
    decide_eq_true (le_of_eq hf.symm)
  have hstack : (nested (fs ++ [f])).stack = ⟨f, true⟩ :: (nested fs).stack := by simp [nested]
  have hdepth : (nested (fs ++ [f])).depth - 1 = fs.length := by simp [nested]
  have hread : (nested (fs ++ [f])).read ['}'] = ⟨(nested (fs ++ [f])).depth - 1,
      (nested (fs ++ [f])).stack.dropWhile
        (StackState.closes ((nested (fs ++ [f])).depth - 1))⟩ := rfl
  rw [hread, hdepth, hstack, List.dropWhile_cons, hleaves, if_pos rfl, dropWhile_closes_nested h]
  rfl

/-- The accessors of a property open and close a brace of their own. -/
lemma read_accessors {fs : List Frame} (h : Nests fs) : (nested fs).read accessors = nested fs := by
  have hplain : ∀ c, StackState.marks c = false → ∀ s : StackState, (s.onChar c).1 = s :=
    fun c hc s => StackRun.onChar_of_not_marks hc s
  have hopen : ((nested fs).onChar '{').1 = ⟨fs.length + 1, (nested fs).stack⟩ := by
    have hchar : ((nested fs).onChar '{').1
        = ⟨fs.length + 1, StackState.openTop fs.length (nested fs).stack⟩ := rfl
    rw [hchar, openTop_nested]
  have hsemicolon : ((⟨fs.length + 1, (nested fs).stack⟩ : StackState).onChar ';').1
      = ⟨fs.length + 1, (nested fs).stack⟩ := by
    have hchar : ((⟨fs.length + 1, (nested fs).stack⟩ : StackState).onChar ';').1
        = ⟨fs.length + 1, (nested fs).stack.dropWhile (StackState.ends (fs.length + 1))⟩ := rfl
    rw [hchar, dropWhile_ends_nested]
  have hclose : ((⟨fs.length + 1, (nested fs).stack⟩ : StackState).onChar '}').1 = nested fs := by
    have hchar : ((⟨fs.length + 1, (nested fs).stack⟩ : StackState).onChar '}').1
        = ⟨fs.length + 1 - 1,
          (nested fs).stack.dropWhile (StackState.closes (fs.length + 1 - 1))⟩ :=
      rfl
    rw [hchar, Int.add_sub_cancel, dropWhile_closes_nested h]
    rfl
  have hchars : accessors
      = [' ', '{', ' ', 'g', 'e', 't', ';', ' ', 's', 'e', 't', ';', ' ', '}'] := rfl
  simp only [hchars, StackState.read, List.foldl_cons, List.foldl_nil, hplain ' ' rfl,
    hplain 'g' rfl, hplain 'e' rfl, hplain 't' rfl, hplain 's' rfl, hopen, hsemicolon, hclose]

/-! ## The lines of a layout -/

section Lines

variable (number : Nat) (s : StackState)

lemma lineState_eq_read {chars : List Char} (h : containerHeaders chars = []) :
    Tracker.full.lineState number s (String.ofList chars) = s.read chars := by
  rw [Tracker.lineState, StackRun.line_state, String.toList_ofList, headers_full, h,
    StackRun.stateAt_nil, Nat.zero_add, List.take_length]

lemma isWord_of_mem_kind (kind : ContainerKind) : ∀ x ∈ kind.word.toList, Text.isWord x = true :=
  List.all_eq_true.1 (by cases kind <;> decide)

lemma isBlank_or_isWord_of_mem_typeLine {indent : Blanks} {kind : ContainerKind} {name : Name}
    {x : Char} (hx : x ∈ typeLine indent.chars kind name.chars []) :
    Text.isBlank x = true ∨ Text.isWord x = true := by
  rw [typeLine, List.append_nil] at hx
  exact isBlank_or_isWord_of_mem indent.valid (isWord_of_mem_kind kind)
    (fun _ hy => isWord_of_mem_name name.valid hy) hx

/-- Up to the end of its name, the line of a header only enters the container. -/
lemma not_marks_of_mem_typeLine {indent : Blanks} {kind : ContainerKind} {name : Name} {x : Char}
    (hx : x ∈ typeLine indent.chars kind name.chars []) : StackState.marks x = false :=
  (isBlank_or_isWord_of_mem_typeLine hx).elim marks_of_isBlank marks_of_isWord

lemma typeLine_eq_append (indent : List Char) (kind : ContainerKind) (name rest : List Char) :
    typeLine indent kind name rest = typeLine indent kind name [] ++ rest := by
  simp [typeLine]

lemma stateAt_header (kind : ContainerKind) (head : Head) (fs : List Frame) (query : Nat) :
    StackRun.stateAt (Tracker.full.headers (Line.header kind head).chars) number 0 (nested fs)
        (Line.header kind head).chars query
      = ((nested fs).enter (head.frame kind number fs)).read
        ((Line.header kind head).chars.take query) := by
  have hheaders : containerHeaders (Line.header kind head).chars
      = [typeHeader head.indent.chars kind head.name.chars head.rest] :=
    containerHeaders_typeLine kind head.indent.valid head.name.valid head.endsName_rest
  have hne : (Line.header kind head).chars ≠ [] := by
    simp [Line.chars, typeLine]
  rw [headers_full, hheaders, StackRun.stateAt_singleton rfl number (nested fs) hne]
  rfl

/-- The line of a header enters its container. -/
lemma lineState_header (kind : ContainerKind) (head : Head) (fs : List Frame) :
    Tracker.full.lineState number (nested fs) (String.ofList (Line.header kind head).chars)
      = ((nested fs).enter (head.frame kind number fs)).read head.rest := by
  rw [Tracker.lineState, StackRun.line_state, String.toList_ofList, stateAt_header, Nat.zero_add,
    List.take_length]
  have hchars : (Line.header kind head).chars
      = typeLine head.indent.chars kind head.name.chars [] ++ head.rest :=
    typeLine_eq_append _ _ _ _
  rw [hchars, StackState.read_append,
    StackState.read_of_not_marks fun x hx => not_marks_of_mem_typeLine hx]

/-- The lines up to the opening brace of a body enter and open its container. -/
lemma stateAfter_head (kind : ContainerKind) (head : Head) (fs : List Frame) :
    Tracker.full.stateAfter number (nested fs) (render (head.lines kind))
      = nested (fs ++ [head.frame kind number fs]) := by
  have hblanks : ∀ (w : Blanks) (s : StackState), s.read (w.chars ++ ['{']) = s.read ['{'] := by
    intro w s
    rw [StackState.read_append,
      StackState.read_of_not_marks fun x hx => marks_of_isBlank (w.valid x hx)]
  have hheader := lineState_header number kind head fs
  cases hbrace : head.brace with
  | sameLine gap =>
    have hlines : render (head.lines kind) = [String.ofList (Line.header kind head).chars] := by
      simp [render, Head.lines, hbrace]
    have hrest : head.rest = gap.chars ++ ['{'] := by simp [Head.rest, hbrace]
    rw [hlines, Tracker.stateAfter, Tracker.stateAfter, hheader, hrest, hblanks, read_opening rfl]
  | nextLine indent =>
    have hlines : render (head.lines kind) = [String.ofList (Line.header kind head).chars,
        String.ofList (indent.chars ++ ['{'])] := by
      simp [render, Head.lines, hbrace, Line.chars]
    have hrest : head.rest = [] := by simp [Head.rest, hbrace]
    have hopening : containerHeaders (indent.chars ++ ['{']) = [] := containerHeaders_brace rfl
    rw [hlines, Tracker.stateAfter, Tracker.stateAfter, Tracker.stateAfter, hheader, hrest,
      lineState_eq_read _ _ hopening, hblanks]
    exact read_opening rfl

lemma lineState_property {fs : List Frame} (h : Nests fs) (p : Property) :
    Tracker.full.lineState number (nested fs) (String.ofList (Line.property p).chars)
      = nested fs := by
  have hname : ∀ x ∈ p.name.chars, Text.isWord x = true :=
    fun x hx => isWord_of_mem_name p.name.valid hx
  have hnone : containerHeaders (Line.property p).chars = [] :=
    containerHeaders_propertyLine p.indent.valid hname
  have hstart := fun x hx => marks_of_mem_propertyStart (x := x) p.indent.valid hname hx
  rw [lineState_eq_read _ _ hnone, Line.chars, propertyLine_eq, StackState.read_append,
    StackState.read_of_not_marks hstart, read_accessors h]

lemma lineState_members (m : MemberList) :
    Tracker.full.lineState number s (String.ofList (Line.members m).chars) = s := by
  rw [lineState_eq_read _ _ (containerHeaders_members m),
    StackState.read_of_not_marks fun x hx => marks_of_mem_members hx]

lemma lineState_closing {fs : List Frame} (h : Nests fs) {f : Frame}
    (hf : f.startDepth = fs.length) (indent : Blanks) :
    Tracker.full.lineState number (nested (fs ++ [f])) (String.ofList (Line.closing indent).chars)
      = nested fs := by
  have hnone : containerHeaders (Line.closing indent).chars = [] := containerHeaders_brace rfl
  rw [lineState_eq_read _ _ hnone, Line.chars, StackState.read_append,
    StackState.read_of_not_marks fun x hx => marks_of_isBlank (indent.valid x hx),
    read_closing h hf]

end Lines

end Conformance.Source
