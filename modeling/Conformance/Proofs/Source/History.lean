/-
# The stack of containers without a stack

The stack discipline marks containers as open, tests the top of its stack and pops.  None of this
shows in its answers.  A container that has been entered is still on the stack exactly if, since
its header, no closing brace brought the depth back to that of the header or below, and no
semicolon stood at that depth.

This is kept along every run (`Agrees`): by a character, since what it ends always stands on top of
the stack, and by a header, since what is entered has not ended yet.  The main statement is
`stack_scope_eq_history`.
-/
import Conformance.Proofs.Source.StackPoints

namespace Conformance.Source

/-! ## Depth and history -/

/-- The brace depth after a text.  It may be negative. -/
def braceDepth (text : List Char) : Int :=
  (text.count '{' : Int) - (text.count '}' : Int)

lemma braceDepth_append_singleton (text : List Char) (c : Char) :
    braceDepth (text ++ [c]) = braceStep (braceDepth text) c := by
  unfold braceDepth braceStep
  rw [List.count_append, List.count_append]
  by_cases h₁ : c = '{'
  · subst h₁
    simp
    omega
  · by_cases h₂ : c = '}'
    · subst h₂
      simp
      omega
    · simp [h₁, h₂]

/-- The text before a place: the earlier lines, and what stands before a column of its own line.
Line breaks are left out, since they change no depth. -/
def textBefore (lines : List String) (line column : Nat) : List Char :=
  (lines.take line).flatMap String.toList ++ (lines[line]?.getD "").toList.take column

/-- A container whose header stands behind the text `start` has ended after the text `since`: a
closing brace brought the depth to that of the header or below, or a semicolon stood at just that
depth. -/
def Ends (start since : List Char) : Prop :=
  ∃ k < since.length,
    (since[k]? = some '}' ∧ braceDepth (start ++ since.take (k + 1)) ≤ braceDepth start) ∨
    (since[k]? = some ';' ∧ braceDepth (start ++ since.take k) = braceDepth start)

instance (start since : List Char) : Decidable (Ends start since) :=
  inferInstanceAs (Decidable (∃ k < since.length, _))

/-- The header of a container and the place of its line, counted from zero. -/
structure PlacedHeader where
  /-- The number of lines before the header. -/
  line : Nat
  /-- The header. -/
  header : ContainerHeader

namespace PlacedHeader

/-- The text before a header. -/
def start (lines : List String) (h : PlacedHeader) : List Char :=
  textBefore lines h.line h.header.column

/-- The frame of a header: its depth is that of the text before it. -/
def frame (lines : List String) (h : PlacedHeader) : Frame :=
  Frame.ofHeader h.header (braceDepth (h.start lines)) (h.line + 1)

/-- The header starts at a place or before it. -/
def StartsBy (h : PlacedHeader) (line column : Nat) : Prop :=
  h.line < line ∨ (h.line = line ∧ h.header.column ≤ column)

instance (h : PlacedHeader) (line column : Nat) : Decidable (h.StartsBy line column) :=
  inferInstanceAs (Decidable (_ ∨ _))

/-- The characters from a header up to a place. -/
def since (lines : List String) (h : PlacedHeader) (line column : Nat) : List Char :=
  (textBefore lines line column).drop (h.start lines).length

end PlacedHeader

/-- The headers of the containers that are followed, in the order of a text. -/
def placedHeaders (t : Tracker) (lines : List String) : List PlacedHeader :=
  lines.zipIdx.flatMap fun (text, n) => (t.headers text.toList).map (⟨n, ·⟩)

/-- The containers that a place lies behind and that have not ended before it, told from the text
alone. -/
def liveFrames (t : Tracker) (lines : List String) (line column : Nat) : List Frame :=
  ((placedHeaders t lines).filter fun h => decide (h.StartsBy line column) &&
    !decide (Ends (h.start lines) (h.since lines line column))).map (·.frame lines)

/-- One more character ends a container or leaves it as it was. -/
lemma ends_append_singleton (start since : List Char) (c : Char) :
    Ends start (since ++ [c]) ↔ Ends start since ∨
      (c = '}' ∧ braceDepth (start ++ since ++ [c]) ≤ braceDepth start) ∨
      (c = ';' ∧ braceDepth (start ++ since) = braceDepth start) := by
  constructor
  · rintro ⟨k, hk, h⟩
    rcases Nat.lt_or_ge k since.length with hlt | hge
    · left
      refine ⟨k, hlt, ?_⟩
      rwa [List.getElem?_append_left hlt, List.take_append_of_le_length hlt,
        List.take_append_of_le_length (Nat.le_of_lt hlt)] at h
    · right
      have hk' : k = since.length := by
        simp only [List.length_append, List.length_singleton] at hk
        omega
      subst hk'
      simpa [List.take_of_length_le] using h
  · rintro (⟨k, hk, h⟩ | h)
    · refine ⟨k, by simp; omega, ?_⟩
      rwa [List.getElem?_append_left hk, List.take_append_of_le_length hk,
        List.take_append_of_le_length (Nat.le_of_lt hk)]
    · refine ⟨since.length, by simp, ?_⟩
      simpa [List.take_of_length_le] using h

lemma not_ends_nil (start : List Char) : ¬ Ends start [] := by
  rintro ⟨k, hk, -⟩
  exact absurd hk (by simp)

/-! ## The state and the history agree -/

/-- A container that has been entered: its frame, and the text before its header. -/
structure Entered where
  /-- The frame. -/
  frame : Frame
  /-- The text before the header. -/
  start : List Char

/-- The container has not ended after a text. -/
def Entered.isLive (text : List Char) (e : Entered) : Bool :=
  !decide (Ends e.start (text.drop e.start.length))

lemma Entered.isLive_append_singleton {e : Entered} {text : List Char} (h : e.start <+: text)
    (c : Char) : e.isLive (text ++ [c]) =
      (e.isLive text && !StackState.endsAt (braceDepth text) c (braceDepth e.start)) := by
  obtain ⟨since, rfl⟩ := h
  have h₁ : (e.start ++ since ++ [c]).drop e.start.length = since ++ [c] := by simp
  have h₂ : (e.start ++ since).drop e.start.length = since := by simp
  have hstep := braceDepth_append_singleton (e.start ++ since) c
  rw [isLive, isLive, h₁, h₂, Bool.eq_iff_iff]
  simp only [Bool.not_eq_true', decide_eq_false_iff_not, ends_append_singleton, Bool.and_eq_true,
    StackState.endsAt, Bool.or_eq_false_iff, Bool.and_eq_false_iff, not_or, not_and]
  refine and_congr_right fun _ => and_congr ?_ ?_
  · by_cases hc : c = '}'
    · subst hc
      rw [hstep]
      simp [braceStep]
    · simp [hc]
  · by_cases hc : c = ';'
    · subst hc
      simp [@eq_comm _ (braceDepth e.start)]
    · simp [hc]

/-- The state after a text agrees with the containers entered in it, in their order. -/
structure Agrees (s : StackState) (es : List Entered) (text : List Char) : Prop where
  ordered : s.Ordered
  depth_eq : s.depth = braceDepth text
  frames_eq : s.frames = (es.filter (·.isLive text)).map (·.frame)
  start_isPrefix : ∀ e ∈ es, e.start <+: text
  startDepth_eq : ∀ e ∈ es, e.frame.startDepth = braceDepth e.start

namespace Agrees

variable {s : StackState} {es : List Entered} {text : List Char}

lemma initial : Agrees StackState.initial [] [] :=
  ⟨StackState.ordered_initial, rfl, rfl, by simp, by simp⟩

lemma enter (h : Agrees s es text) {f : Frame} (hf : f.startDepth = s.depth) :
    Agrees (s.enter f) (es ++ [⟨f, text⟩]) text := by
  have hlive : (Entered.mk f text).isLive text = true := by
    simp [Entered.isLive, not_ends_nil]
  refine ⟨h.ordered.enter hf, h.depth_eq, ?_, ?_, ?_⟩
  · rw [StackState.frames_enter, h.frames_eq]
    simp [List.filter_append, hlive]
  · intro e he
    rcases List.mem_append.1 he with he | he
    · exact h.start_isPrefix e he
    · rw [List.mem_singleton.1 he]
  · intro e he
    rcases List.mem_append.1 he with he | he
    · exact h.startDepth_eq e he
    · rw [List.mem_singleton.1 he]
      exact hf.trans h.depth_eq

lemma onChar (h : Agrees s es text) (c : Char) : Agrees (s.onChar c).1 es (text ++ [c]) := by
  refine ⟨h.ordered.onChar c, ?_, ?_, ?_, h.startDepth_eq⟩
  · rw [StackState.onChar_depth, h.depth_eq, braceDepth_append_singleton]
  · rw [StackState.onChar_frames h.ordered, h.frames_eq, List.filter_map, List.filter_filter,
      h.depth_eq]
    congr 1
    refine List.filter_congr ?_
    intro e he
    rw [Entered.isLive_append_singleton (h.start_isPrefix e he), ← h.startDepth_eq e he,
      Bool.and_comm]
    rfl
  · intro e he
    exact (h.start_isPrefix e he).trans (List.prefix_append _ _)

end Agrees

/-! ## One line -/

/-- Of items in strictly increasing order, those up to a bound are those below it and the one at
it. -/
lemma filter_le_eq_append_find? {α : Type} (f : α → Nat) {l : List α}
    (h : l.Pairwise fun a b => f a < f b) (n : Nat) :
    l.filter (fun a => f a ≤ n) =
      l.filter (fun a => f a < n) ++ (l.find? fun a => f a == n).toList := by
  induction l with
  | nil => rfl
  | cons a l ih =>
    obtain ⟨ha, hl⟩ := List.pairwise_cons.1 h
    rcases Nat.lt_trichotomy (f a) n with hlt | heq | hgt
    · have hne : (f a == n) = false := by simp; omega
      simp [hlt, Nat.le_of_lt hlt, hne, ih hl]
    · -- this is the one at the bound, and all others are above it
      have hle : l.filter (fun b => f b ≤ n) = [] := by
        rw [List.filter_eq_nil_iff]
        intro b hb
        have := ha b hb
        simp
        omega
      have hlt : l.filter (fun b => f b < n) = [] := by
        rw [List.filter_eq_nil_iff]
        intro b hb
        have := ha b hb
        simp
        omega
      simp [heq, hle, hlt]
    · have hne : (f a == n) = false := by simp; omega
      have h₁ : ¬ f a ≤ n := by omega
      have h₂ : ¬ f a < n := by omega
      simp [h₁, h₂, hne, ih hl]

namespace StackRun

/-- The container of a header on a line, entered behind the text before it. -/
def entered (number : Nat) (before chars : List Char) (h : ContainerHeader) : Entered :=
  ⟨Frame.ofHeader h (braceDepth (before ++ chars.take h.column)) number,
    before ++ chars.take h.column⟩

variable (number : Nat) {headers : List ContainerHeader} {before chars : List Char}
  {es : List Entered}

lemma agrees_enterAt (hord : headers.Pairwise fun h h' => h.column < h'.column) {s : StackState}
    {read rest : List Char} (hchars : chars = read ++ rest)
    (h : Agrees s
      (es ++ (headers.filter (·.column < read.length)).map (entered number before chars))
      (before ++ read)) :
    Agrees (enterAt headers number read.length s).state
      (es ++ (headers.filter (·.column ≤ read.length)).map (entered number before chars))
      (before ++ read) := by
  rw [filter_le_eq_append_find? ContainerHeader.column hord]
  unfold enterAt
  cases hfind : headers.find? (·.column == read.length) with
  | none => simpa using h
  | some hd =>
    have hcol : hd.column = read.length := by
      simpa using List.find?_some hfind
    have hentry : entered number before chars hd =
        ⟨Frame.ofHeader hd s.depth number, before ++ read⟩ := by
      rw [entered, hcol, hchars, List.take_left, h.depth_eq]
    simp only [Option.toList_some, List.map_append, List.map_cons, List.map_nil, hentry]
    rw [← List.append_assoc]
    exact h.enter rfl

/-- **The state at a column agrees with the headers up to it.**  The induction is on what is left
of the line; `read` is what has been read of it. -/
lemma agrees_stateAt (hord : headers.Pairwise fun h h' => h.column < h'.column)
    (hlt : ∀ h ∈ headers, h.column < chars.length) {s : StackState} {read rest : List Char}
    (hchars : chars = read ++ rest)
    (h : Agrees s
      (es ++ (headers.filter (·.column < read.length)).map (entered number before chars))
      (before ++ read)) {query : Nat} (hq : read.length ≤ query) :
    Agrees (stateAt headers number read.length s rest query)
      (es ++ (headers.filter (·.column ≤ query)).map (entered number before chars))
      (before ++ chars.take query) := by
  induction rest generalizing s read with
  | nil =>
    -- the query is past the end of the line, and no header starts there
    have hread : chars = read := by simpa using hchars
    have htake : chars.take query = read := by
      rw [hread, List.take_of_length_le hq]
    have hfilter : headers.filter (·.column ≤ query) = headers.filter (·.column < read.length) := by
      refine List.filter_congr ?_
      intro hd hhd
      have := hlt hd hhd
      rw [hread] at this
      have hle : hd.column ≤ query := by omega
      simp [this, hle]
    rw [htake, hfilter]
    exact h
  | cons c rest ih =>
    have hin := agrees_enterAt number hord hchars h
    unfold stateAt
    split
    · rename_i heq
      subst heq
      have htake : chars.take read.length = read := by rw [hchars, List.take_left]
      rw [htake]
      exact hin
    · rename_i hne
      -- the headers up to this column are those before the next one
      have hnext := hin.onChar c
      have hlen : (read ++ [c]).length = read.length + 1 := by simp
      have hfilter : headers.filter (·.column ≤ read.length)
          = headers.filter (·.column < (read ++ [c]).length) := by
        refine List.filter_congr ?_
        intro hd _
        rw [hlen, decide_eq_decide]
        omega
      rw [hfilter, List.append_assoc] at hnext
      have hstep := ih (by simpa using hchars) hnext (by omega)
      rw [hlen] at hstep
      exact hstep

end StackRun

/-! ## The lines of a text -/

/-- A placed header as a container that has been entered. -/
def PlacedHeader.entered (lines : List String) (h : PlacedHeader) : Entered :=
  ⟨h.frame lines, h.start lines⟩

lemma textBefore_middle (done : List String) (text : String) (rest : List String) (column : Nat) :
    textBefore (done ++ text :: rest) done.length column
      = done.flatMap String.toList ++ text.toList.take column := by
  simp [textBefore]

lemma entered_middle (done : List String) (text : String) (rest : List String)
    (h : ContainerHeader) :
    StackRun.entered (done.length + 1) (done.flatMap String.toList) text.toList h
      = PlacedHeader.entered (done ++ text :: rest) ⟨done.length, h⟩ := by
  simp only [StackRun.entered, PlacedHeader.entered, PlacedHeader.frame, PlacedHeader.start,
    textBefore_middle]

lemma placedHeaders_append (t : Tracker) (xs ys : List String) :
    placedHeaders t (xs ++ ys) = placedHeaders t xs ++ (ys.zipIdx xs.length).flatMap
      fun (text, n) => (t.headers text.toList).map (⟨n, ·⟩) := by
  simp [placedHeaders, List.zipIdx_append]

lemma line_lt_of_mem_placedHeaders {t : Tracker} {lines : List String} {h : PlacedHeader}
    (hh : h ∈ placedHeaders t lines) : h.line < lines.length := by
  obtain ⟨⟨text, n⟩, hn, hh⟩ := List.mem_flatMap.1 hh
  obtain ⟨hd, -, rfl⟩ := List.mem_map.1 hh
  have := List.snd_lt_of_mem_zipIdx hn
  simpa using this

/-- The headers up to a place of a line: those of the earlier lines, and those of the line up to
the column. -/
lemma filter_startsBy_placedHeaders (t : Tracker) (done : List String) (text : String)
    (rest : List String) (column : Nat) :
    (placedHeaders t (done ++ text :: rest)).filter (·.StartsBy done.length column)
      = placedHeaders t done ++
        ((t.headers text.toList).filter (·.column ≤ column)).map (⟨done.length, ·⟩) := by
  rw [placedHeaders_append, List.zipIdx_cons, List.flatMap_cons, List.filter_append,
    List.filter_append]
  have hdone : (placedHeaders t done).filter (·.StartsBy done.length column)
      = placedHeaders t done := by
    refine List.filter_eq_self.2 ?_
    intro h hh
    exact decide_eq_true (Or.inl (line_lt_of_mem_placedHeaders hh))
  have hrest : ((rest.zipIdx (done.length + 1)).flatMap fun (text, n) =>
      (t.headers text.toList).map (PlacedHeader.mk n)).filter (·.StartsBy done.length column)
      = [] := by
    rw [List.filter_eq_nil_iff]
    intro h hh
    obtain ⟨⟨text', n⟩, hn, hh⟩ := List.mem_flatMap.1 hh
    obtain ⟨hd, -, rfl⟩ := List.mem_map.1 hh
    have hle : done.length + 1 ≤ n := List.le_snd_of_mem_zipIdx hn
    intro hst
    rcases of_decide_eq_true hst with hst | ⟨hst, -⟩
    · exact absurd hst (by simp only; omega)
    · exact absurd hst (by simp only; omega)
  have hline : ((t.headers text.toList).map (PlacedHeader.mk done.length)).filter
      (·.StartsBy done.length column)
      = ((t.headers text.toList).filter (·.column ≤ column)).map (⟨done.length, ·⟩) := by
    rw [List.filter_map]
    congr 1
    refine List.filter_congr ?_
    intro h _
    simp [PlacedHeader.StartsBy]
  rw [hdone, hrest, hline, List.append_nil]

/-- The lines are read one after another; `done` are those that have been read. -/
lemma exists_scope_agrees (t : Tracker) (total : Nat) (done rest : List String) (s : StackState)
    (h : Agrees s ((placedHeaders t done).map (·.entered (done ++ rest)))
      (done.flatMap String.toList)) {i : Nat} (hi : i < rest.length) :
    ∃ scope, (t.stackFrom total (done.length + 1) s rest).scopes[i]? = some scope ∧
      ∀ column : Nat, ∃ s', (scope.pointAt column).Shows s' ∧
        Agrees s' (((placedHeaders t (done ++ rest)).filter
            (·.StartsBy (done.length + i) column)).map (·.entered (done ++ rest)))
          (textBefore (done ++ rest) (done.length + i) column) := by
  induction rest generalizing done s i with
  | nil => exact absurd hi (by simp)
  | cons text rest ih =>
    have hord := headers_pairwise t text.toList
    have hlt : ∀ hd ∈ t.headers text.toList, hd.column < text.toList.length :=
      fun hd hhd => column_lt_of_mem_headers hhd
    have hstart : Agrees s ((placedHeaders t done).map (·.entered (done ++ text :: rest)) ++
        ((t.headers text.toList).filter (·.column < ([] : List Char).length)).map
          (StackRun.entered (done.length + 1) (done.flatMap String.toList) text.toList))
        (done.flatMap String.toList ++ []) := by
      simpa using h
    -- the state at a column, in the terms of the whole text
    have hat : ∀ column : Nat, Agrees
        (StackRun.stateAt (t.headers text.toList) (done.length + 1) 0 s text.toList column)
        (((placedHeaders t (done ++ text :: rest)).filter
          (·.StartsBy done.length column)).map (·.entered (done ++ text :: rest)))
        (textBefore (done ++ text :: rest) done.length column) := by
      intro column
      have hchars : text.toList = [] ++ text.toList := rfl
      have := StackRun.agrees_stateAt (done.length + 1) hord hlt hchars hstart (Nat.zero_le column)
      rw [filter_startsBy_placedHeaders, List.map_append, List.map_map, textBefore_middle]
      refine cast ?_ this
      congr 3
      funext hd
      exact entered_middle done text rest hd
    cases i with
    | zero =>
      refine ⟨_, rfl, fun column => ?_⟩
      refine ⟨_, ?_, hat column⟩
      have hnonneg : ¬ ((column : Int) < ((s.pointAt 0).column : Int)) := by
        simp [StackState.pointAt]
      rw [LineScope.pointAt, if_neg hnonneg]
      exact StackRun.shows_lastUpTo _ _ ⟨rfl, rfl⟩ (Nat.zero_le column) _
    | succ i =>
      have hdone : done ++ text :: rest = (done ++ [text]) ++ rest := by simp
      have hlen : (done ++ [text]).length = done.length + 1 := by simp
      have hnext := ih (done ++ [text])
        (StackRun.line (t.headers text.toList) (done.length + 1) 0 s text.toList).state ?_
        (i := i) (by simpa using hi)
      · rw [← hdone, hlen] at hnext
        rw [show done.length + (i + 1) = done.length + 1 + i by omega]
        exact hnext
      · -- the end of the line is the state at the column behind its last character
        rw [← hdone, StackRun.line_state, Nat.zero_add]
        have hend := hat text.toList.length
        rw [filter_startsBy_placedHeaders, textBefore_middle, List.take_length] at hend
        have hall : (t.headers text.toList).filter (·.column ≤ text.toList.length)
            = t.headers text.toList := by
          refine List.filter_eq_self.2 ?_
          intro hd hhd
          simpa using Nat.le_of_lt (hlt hd hhd)
        rw [hall] at hend
        simpa [placedHeaders_append] using hend

/-! ## The meaning of the stack -/

/-- The containers told from the text alone, in the terms of a run. -/
lemma liveFrames_eq (t : Tracker) (lines : List String) (line column : Nat) :
    liveFrames t lines line column
      = ((((placedHeaders t lines).filter (·.StartsBy line column)).map
          (·.entered lines)).filter (·.isLive (textBefore lines line column))).map (·.frame) := by
  rw [List.filter_map, List.filter_filter, List.map_map, liveFrames]
  congr 1
  refine List.filter_congr ?_
  intro h _
  rw [Bool.and_comm]
  rfl

/-- Where depths do not decrease, the containers below a depth come first. -/
lemma filter_encloses_eq_takeWhile {fs : List Frame} (depth : Int)
    (h : fs.Pairwise fun f g => f.startDepth ≤ g.startDepth) :
    fs.filter (·.encloses depth) = fs.takeWhile (·.encloses depth) := by
  induction fs with
  | nil => rfl
  | cons f fs ih =>
    obtain ⟨hf, hfs⟩ := List.pairwise_cons.1 h
    by_cases henc : f.encloses depth = true
    · rw [List.filter_cons, if_pos henc, List.takeWhile_cons, if_pos henc, ih hfs]
    · rw [List.filter_cons, if_neg henc, List.takeWhile_cons, if_neg henc, List.filter_eq_nil_iff]
      intro g hg
      have := hf g hg
      simp only [Frame.encloses, decide_eq_true_eq] at henc ⊢
      omega

/-- **The stack tells of the text alone.**  At every place of a text, however its braces are
balanced, the depth is the number of opening braces less that of closing ones before the place; the
containers are those whose headers start by the place and which nothing since has ended, in the
order of the text; and those that enclose the place are the first of them, up to the depth. -/
theorem stack_scope_eq_history (filter : Option ContainerFilter) (lines : List String)
    {line : Nat} (hline : line < lines.length) (column : Nat) :
    ∃ scope, ((Tracker.mk .stack filter).track lines).scopes[line]? = some scope ∧
      scope.depthAt column = braceDepth (textBefore lines line column) ∧
      (scope.pointAt column).frames = liveFrames ⟨.stack, filter⟩ lines line column ∧
      scope.enclosingAt column = (liveFrames ⟨.stack, filter⟩ lines line column).takeWhile
        (·.encloses (braceDepth (textBefore lines line column))) := by
  obtain ⟨scope, hscope, hpoints⟩ := exists_scope_agrees ⟨.stack, filter⟩ lines.length []
    lines .initial Agrees.initial hline
  obtain ⟨s, ⟨hdepth, hframes⟩, hagree⟩ := hpoints column
  simp only [List.nil_append, List.length_nil, Nat.zero_add] at hscope hagree
  have hdepth' : scope.depthAt column = braceDepth (textBefore lines line column) :=
    hdepth.trans hagree.depth_eq
  have hframes' :
      (scope.pointAt column).frames = liveFrames ⟨.stack, filter⟩ lines line column := by
    rw [hframes, hagree.frames_eq, liveFrames_eq]
  refine ⟨scope, hscope, hdepth', hframes', ?_⟩
  have hsorted := hagree.ordered.frames_sorted
  rw [← hframes, hframes'] at hsorted
  rw [← filter_encloses_eq_takeWhile _ hsorted, ← hdepth', ← hframes']
  rfl

/-- A class whose brace opens on the next line, and a record that a semicolon ends at once. -/
def pendingLines : List String :=
  ["public class A", "\x7b public record B(int X);", "int y; \x7d"]

theorem stack_scope_eq_history_pending :
    2 < pendingLines.length ∧
    ∃ scope, ((Tracker.mk .stack none).track pendingLines).scopes[2]? = some scope ∧
      scope.depthAt 4 = 1 ∧
      (scope.pointAt 4).frames = [⟨.classType, "A", 0, 1, 13⟩] ∧
      scope.enclosingAt 4 = [⟨.classType, "A", 0, 1, 13⟩] := by
  have hline : 2 < pendingLines.length := by decide
  have hlive : liveFrames ⟨.stack, none⟩ pendingLines 2 4 = [⟨.classType, "A", 0, 1, 13⟩] := by
    decide +kernel
  have h := stack_scope_eq_history none pendingLines hline 4
  rw [hlive] at h
  exact ⟨hline, h⟩

end Conformance.Source
