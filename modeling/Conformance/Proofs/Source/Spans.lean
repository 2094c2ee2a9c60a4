/-
# The spans of the single discipline

The single discipline cuts spans of lines out of a text, one for each container that it enters.  A
span starts with a line whose header is followed and stands at its start, and ends with the first
line after which the depth has fallen back to that before the span, or with the last line of the
text.  Spans do not meet, and a header inside a span is passed over.

The lines are read one after another.  What a line adds to the spans of the lines behind it depends
on whether a container is held along it and whether it is left (`SpansFrom.pass`, `SpansFrom.stay`,
`SpansFrom.leave`).  The main statement is `single_track_spans`.
-/
import Conformance.Proofs.Source.Membership

namespace Conformance.Source

/-! ## Spans -/

/-- The brace depth after the first lines of a text. -/
def depthPast (lines : List String) (n : Nat) : Int :=
  braceDepth ((lines.take n).flatMap String.toList)

/-- The headers that stand at the start of a line and whose containers are followed. -/
def lineStarts (t : Tracker) (lines : List String) : List PlacedHeader :=
  (placedHeaders t lines).filter (·.header.visibility.isSome)

/-- The container is that of a header at the start of a line, with the depth before the line. -/
def Frame.StartsLine (t : Tracker) (lines : List String) (f : Frame) : Prop :=
  ∃ h ∈ lineStarts t lines, f = Frame.ofHeader h.header (depthPast lines h.line) (h.line + 1)

/-- Lines along which one container is held, from the line of its header on.  Lines are counted from
one. -/
structure Span where
  /-- The container. -/
  frame : Frame
  /-- The last line. -/
  last : Nat

namespace Span

/-- The first line of a span. -/
def first (s : Span) : Nat :=
  s.frame.startLine

/-- A line is one of the span. -/
def Covers (s : Span) (number : Nat) : Prop :=
  s.first ≤ number ∧ number ≤ s.last

instance (s : Span) (number : Nat) : Decidable (s.Covers number) :=
  inferInstanceAs (Decidable (_ ∧ _))

/-- What happens in a span: the container is entered on the first line and left on the last one. -/
def events (s : Span) : List ScopeEvent :=
  [.enter s.frame s.first, .exit s.frame s.last]

/-- The span ends with the first line after which the depth is that before the span or below, or
with the last line of the text. -/
structure EndsIn (lines : List String) (s : Span) : Prop where
  first_le : s.first ≤ s.last
  last_le : s.last ≤ lines.length
  /-- After the lines before the last one, the depth is above that before the span. -/
  above : ∀ n, s.first ≤ n → n < s.last → s.frame.startDepth < depthPast lines n
  /-- After the last line it is not, if there are more lines. -/
  back : depthPast lines s.last ≤ s.frame.startDepth ∨ s.last = lines.length

end Span

/-- The containers of the spans that a line belongs to. -/
def framesOn (spans : List Span) (number : Nat) : List Frame :=
  (spans.filter fun s => decide (s.Covers number)).map (·.frame)

lemma framesOn_eq_nil {spans : List Span} {number : Nat}
    (h : ∀ s ∈ spans, ¬ s.Covers number) : framesOn spans number = [] := by
  rw [framesOn, List.filter_eq_nil_iff.2 fun s hs => by simpa using h s hs, List.map_nil]

lemma framesOn_cons_of_covers {s : Span} {spans : List Span} {number : Nat}
    (hs : s.Covers number) (hrest : ∀ s' ∈ spans, ¬ s'.Covers number) :
    framesOn (s :: spans) number = [s.frame] := by
  have hnil := framesOn_eq_nil hrest
  rw [framesOn] at hnil ⊢
  rw [List.filter_cons, if_pos (decide_eq_true hs), List.map_cons, hnil]

lemma framesOn_cons_of_not_covers {s : Span} {number : Nat} (hs : ¬ s.Covers number)
    (spans : List Span) : framesOn (s :: spans) number = framesOn spans number := by
  rw [framesOn, List.filter_cons, if_neg (by simpa using hs), framesOn]

/-- Of spans that do not meet, at most one has a line. -/
lemma eq_of_covers {spans : List Span} (hapart : spans.Pairwise fun s s' => s.last < s'.first)
    {s s' : Span} (hs : s ∈ spans) (hs' : s' ∈ spans) {number : Nat} (h : s.Covers number)
    (h' : s'.Covers number) : s = s' := by
  have hsame : spans.Pairwise fun x y => x.Covers number → y.Covers number → x = y := by
    refine hapart.imp fun hlt hx hy => ?_
    exact absurd (hx.2.trans_lt hlt) (not_lt.2 hy.1)
  have hsymm : Std.Symm fun x y : Span => x.Covers number → y.Covers number → x = y :=
    ⟨fun _ _ hxy hy hx => (hxy hx hy).symm⟩
  exact hsame.forall_of_forall (fun _ _ _ _ => rfl) hs hs' h h'

lemma framesOn_eq_singleton {spans : List Span}
    (hapart : spans.Pairwise fun s s' => s.last < s'.first) {s : Span} (hs : s ∈ spans)
    {number : Nat} (h : s.Covers number) : framesOn spans number = [s.frame] := by
  induction spans with
  | nil => exact absurd hs (by simp)
  | cons x spans ih =>
    obtain ⟨-, hrest⟩ := List.pairwise_cons.1 hapart
    by_cases hx : x.Covers number
    · obtain rfl := eq_of_covers hapart hs List.mem_cons_self h hx
      refine framesOn_cons_of_covers h fun s' hs' hcovers => ?_
      have := (List.pairwise_cons.1 hapart).1 s' hs'
      exact absurd (h.2.trans_lt this) (not_lt.2 hcovers.1)
    · rw [framesOn_cons_of_not_covers hx]
      rcases List.mem_cons.1 hs with rfl | hs
      · exact absurd h hx
      · exact ih hrest hs

/-! ## The container along a line -/

/-- A container is held on a line: its header stands at the start of that line or an earlier one,
and after no line from there on has the depth fallen back. -/
structure Held (t : Tracker) (lines : List String) (number : Nat) (f : Frame) : Prop where
  starts : f.StartsLine t lines
  startLine_le : f.startLine ≤ number
  above : ∀ n, f.startLine ≤ n → n < number → f.startDepth < depthPast lines n

lemma Held.next {t : Tracker} {lines : List String} {number : Nat} {f : Frame}
    (h : Held t lines number f) (habove : f.startDepth < depthPast lines number) :
    Held t lines (number + 1) f := by
  refine ⟨h.starts, h.startLine_le.trans (Nat.le_succ number), fun n hn hlt => ?_⟩
  rcases Nat.lt_succ_iff_lt_or_eq.1 hlt with hlt | rfl
  · exact h.above n hn hlt
  · exact habove

lemma Held.endsIn {t : Tracker} {lines : List String} {number : Nat} {f : Frame}
    (h : Held t lines number f) (hnumber : number ≤ lines.length)
    (hback : depthPast lines number ≤ f.startDepth ∨ number = lines.length) :
    Span.EndsIn lines ⟨f, number⟩ :=
  ⟨h.startLine_le, hnumber, h.above, hback⟩

lemma mem_lineStarts {t : Tracker} {lines : List String} {h : PlacedHeader} :
    h ∈ lineStarts t lines ↔ ∃ text, lines[h.line]? = some text ∧
      h.header ∈ t.headers text.toList ∧ h.header.visibility.isSome = true := by
  constructor
  · intro hh
    obtain ⟨hplaced, hvisibility⟩ := List.mem_filter.1 hh
    obtain ⟨text, htext, hheader⟩ := exists_of_mem_placedHeaders hplaced
    exact ⟨text, htext, hheader, hvisibility⟩
  · rintro ⟨text, htext, hheader, hvisibility⟩
    refine List.mem_filter.2 ⟨?_, hvisibility⟩
    refine List.mem_flatMap.2 ⟨(text, h.line), List.mem_zipIdx_iff_getElem?.2 htext, ?_⟩
    exact List.mem_map.2 ⟨h.header, hheader, rfl⟩

namespace Tracker

variable (t : Tracker)

lemma startsLine_of_lineStartFrame? {lines : List String} {n : Nat} {text : String}
    (htext : lines[n]? = some text) {f : Frame}
    (h : t.lineStartFrame? (n + 1) (depthPast lines n) text.toList = some f) :
    f.StartsLine t lines ∧ f.startLine = n + 1 := by
  obtain ⟨hd, hfind, rfl⟩ := Option.map_eq_some_iff.1 h
  have hboth := List.find?_some hfind
  simp only [Bool.and_eq_true] at hboth
  obtain ⟨hvisibility, hfollows⟩ := hboth
  refine ⟨⟨⟨n, hd⟩, mem_lineStarts.2 ⟨text, htext, ?_, hvisibility⟩, rfl⟩, rfl⟩
  exact List.mem_filter.2 ⟨List.mem_of_find?_eq_some hfind, hfollows⟩

/-- What is held along a line was held before it and not left, or starts with it. -/
lemma held_of_mem_singleHeld {lines : List String} {n : Nat} {text : String}
    (htext : lines[n]? = some text) {active : Option Frame}
    (hactive : ∀ f ∈ active, Held t lines n f ∧ f.startDepth < depthPast lines n) {f : Frame}
    (h : f ∈ t.singleHeld (n + 1) (depthPast lines n) active text.toList) :
    Held t lines (n + 1) f := by
  rcases Option.or_eq_some_iff.1 h with h | ⟨rfl, h⟩
  · obtain ⟨hheld, habove⟩ := hactive f h
    exact hheld.next habove
  · obtain ⟨hstarts, hline⟩ := t.startsLine_of_lineStartFrame? htext h
    exact ⟨hstarts, hline.le, fun m hm hlt => absurd hlt (not_lt.2 (hline ▸ hm))⟩

/-- Along a line with a header at its start that is followed, some container is held. -/
lemma singleHeld_ne_none {lines : List String} {h : PlacedHeader} (hh : h ∈ lineStarts t lines)
    {text : String} (htext : lines[h.line]? = some text) (number : Nat) (depth : Int)
    (active : Option Frame) : t.singleHeld number depth active text.toList ≠ none := by
  obtain ⟨text', htext', hheader, hvisibility⟩ := mem_lineStarts.1 hh
  obtain rfl := Option.some.inj (htext.symm.trans htext')
  obtain ⟨hmem, hfollows⟩ := List.mem_filter.1 hheader
  intro hnone
  obtain ⟨rfl, hentered⟩ := Option.or_eq_none_iff.1 hnone
  have hfind := Option.map_eq_none_iff.1 hentered
  exact List.find?_eq_none.1 hfind h.header hmem (by simp [hvisibility, hfollows])

/-- The events of a line, behind those by which its container was entered before. -/
lemma enters_append_singleEvents (number : Nat) (depth : Int) (active : Option Frame)
    (chars : List Char) :
    active.toList.map (fun f => .enter f f.startLine) ++ t.singleEvents number depth active chars
      = (t.singleHeld number depth active chars).toList.map (fun f => .enter f f.startLine) ++
        (t.singleLeft number depth active chars).toList.map (.exit · number) := by
  rw [singleEvents, ← List.append_assoc]
  congr 1
  cases active with
  | some f => rfl
  | none =>
    rw [singleHeld, Option.none_or]
    cases hentered : t.singleEntered number depth none chars with
    | none => rfl
    | some f =>
      have hline : f.startLine = number := startLine_of_lineStartFrame? t hentered
      simp [hline]

lemma frames_of_mem_bracePoints {frames : List Frame} {column : Nat} {depth : Int}
    {cs : List Char} {p : Point} (h : p ∈ bracePoints frames column depth cs) :
    p.frames = frames := by
  induction cs generalizing column depth with
  | nil => exact absurd h (by simp [bracePoints])
  | cons c cs ih =>
    simp only [bracePoints] at h
    split at h
    · rcases List.mem_cons.1 h with rfl | h
      · rfl
      · exact ih h
    · exact ih h

lemma frames_of_mem_singleScope {number : Nat} {depth : Int} {active : Option Frame}
    {text : String} {p : Point} (h : p ∈ (t.singleScope number depth active text).points) :
    p.frames = (t.singleHeld number depth active text.toList).toList := by
  rcases List.mem_cons.1 h with rfl | h
  · rfl
  · exact frames_of_mem_bracePoints h

lemma le_number_of_mem_singleFrom {total number : Nat} {depth : Int} {active : Option Frame}
    {lines : List String} {scope : LineScope}
    (h : scope ∈ (t.singleFrom total number depth active lines).scopes) :
    number ≤ scope.number := by
  have hplace := List.mem_map_of_mem (f := LineScope.place) h
  rw [places_singleFrom] at hplace
  exact (List.mem_zipIdx hplace).1

end Tracker

/-! ## From a line on -/

/-- What the lines behind the first `done` ones add, when a container or none is held before them:
the spans that are not yet over, and the scopes and events of these lines. -/
structure SpansFrom (t : Tracker) (lines : List String) (done : Nat) (active : Option Frame)
    (trace : Trace) (spans : List Span) : Prop where
  starts : ∀ s ∈ spans, s.frame.StartsLine t lines
  ends : ∀ s ∈ spans, s.EndsIn lines
  apart : spans.Pairwise fun s s' => s.last < s'.first
  /-- The span of the container that is held goes on. -/
  goesOn : ∀ f ∈ active, ∃ s ∈ spans, s.frame = f ∧ done ≤ s.last
  /-- No other span has begun. -/
  begins : ∀ s ∈ spans, s.first ≤ done → active = some s.frame
  covers : ∀ h ∈ lineStarts t lines, done ≤ h.line → ∃ s ∈ spans, s.Covers (h.line + 1)
  events_eq : active.toList.map (fun f => .enter f f.startLine) ++ trace.events
    = spans.flatMap Span.events
  frames_eq : ∀ scope ∈ trace.scopes, ∀ p ∈ scope.points, p.frames = framesOn spans scope.number

/-- The trace from a line on, when a container or none is held before it. -/
def Tracker.traceFrom (t : Tracker) (done rest : List String) (active : Option Frame) : Trace :=
  t.singleFrom (done ++ rest).length (done.length + 1) (depthPast (done ++ rest) done.length)
    active rest

namespace SpansFrom

variable {t : Tracker} {done rest : List String} {text : String} {active : Option Frame}
  {spans : List Span}

lemma depthPast_succ (done : List String) (text : String) (rest : List String) :
    depthPast (done ++ text :: rest) (done.length + 1)
      = text.toList.foldl braceStep (depthPast (done ++ text :: rest) done.length) := by
  have hsucc : (done ++ text :: rest).take (done.length + 1) = done ++ [text] := by
    simp [List.take_append]
  rw [foldl_braceStep, depthPast, depthPast, hsucc, List.take_left, List.flatMap_append,
    braceDepth_append]
  simp

lemma getElem?_middle (done : List String) (text : String) (rest : List String) :
    (done ++ text :: rest)[done.length]? = some text := by
  simp

lemma scopes_traceFrom_cons :
    (t.traceFrom done (text :: rest) active).scopes
      = t.singleScope (done.length + 1) (depthPast (done ++ text :: rest) done.length) active text
        :: (t.traceFrom (done ++ [text]) rest (t.singleNext (done.length + 1)
          (depthPast (done ++ text :: rest) done.length) active text.toList)).scopes := by
  have hdone : (done ++ [text]) ++ rest = done ++ text :: rest := by simp
  have hlength : (done ++ [text]).length = done.length + 1 := by simp
  rw [Tracker.traceFrom, Tracker.scopes_singleFrom_cons, Tracker.traceFrom, hdone, hlength,
    depthPast_succ]

lemma events_traceFrom_cons :
    (t.traceFrom done (text :: rest) active).events
      = t.singleEvents (done.length + 1) (depthPast (done ++ text :: rest) done.length) active
          text.toList
        ++ (t.traceFrom (done ++ [text]) rest (t.singleNext (done.length + 1)
          (depthPast (done ++ text :: rest) done.length) active text.toList)).events := by
  have hdone : (done ++ [text]) ++ rest = done ++ text :: rest := by simp
  have hlength : (done ++ [text]).length = done.length + 1 := by simp
  rw [Tracker.traceFrom, Tracker.events_singleFrom_cons, Tracker.traceFrom, hdone, hlength,
    depthPast_succ]

/-- The scopes of a line and of those behind it carry the frames of the spans, if the scope of the
line does. -/
lemma frames_eq_cons {next : Option Frame} {spans' : List Span}
    (h : SpansFrom t (done ++ text :: rest) (done.length + 1) next
      (t.traceFrom (done ++ [text]) rest next) spans)
    (hnext : t.singleNext (done.length + 1) (depthPast (done ++ text :: rest) done.length) active
      text.toList = next)
    (hhere : (t.singleHeld (done.length + 1) (depthPast (done ++ text :: rest) done.length) active
      text.toList).toList = framesOn spans' (done.length + 1))
    (hlater : ∀ n, done.length + 1 < n → framesOn spans' n = framesOn spans n) :
    ∀ scope ∈ (t.traceFrom done (text :: rest) active).scopes, ∀ p ∈ scope.points,
      p.frames = framesOn spans' scope.number := by
  rw [scopes_traceFrom_cons, hnext]
  intro scope hscope p hp
  rcases List.mem_cons.1 hscope with rfl | hscope
  · rw [t.frames_of_mem_singleScope hp, hhere]
    rfl
  · have hnumber := t.le_number_of_mem_singleFrom hscope
    rw [List.length_append, List.length_singleton] at hnumber
    rw [h.frames_eq scope hscope p hp, hlater _ hnumber]

/-- A line along which nothing is held. -/
lemma pass (h : SpansFrom t (done ++ text :: rest) (done.length + 1) none
      (t.traceFrom (done ++ [text]) rest none) spans)
    (hheld : t.singleHeld (done.length + 1) (depthPast (done ++ text :: rest) done.length) active
      text.toList = none) :
    SpansFrom t (done ++ text :: rest) done.length active (t.traceFrom done (text :: rest) active)
      spans := by
  have hleft : t.singleLeft (done.length + 1) (depthPast (done ++ text :: rest) done.length) active
      text.toList = none := by
    rw [Tracker.singleLeft, hheld]
    rfl
  have hnext : t.singleNext (done.length + 1) (depthPast (done ++ text :: rest) done.length) active
      text.toList = none := by
    rw [Tracker.singleNext, hleft, hheld]
    rfl
  obtain ⟨rfl, -⟩ := Option.or_eq_none_iff.1 hheld
  have hlater : ∀ s ∈ spans, done.length + 1 < s.first := by
    intro s hs
    by_contra hle
    exact absurd (h.begins s hs (not_lt.1 hle)) (by simp)
  refine ⟨h.starts, h.ends, h.apart, by simp, ?_, ?_, ?_, ?_⟩
  · intro s hs hle
    have := hlater s hs
    omega
  · intro hd hhd hle
    rcases Nat.eq_or_lt_of_le hle with heq | hlt
    · have htext : (done ++ text :: rest)[hd.line]? = some text := by
        rw [← heq]
        exact getElem?_middle done text rest
      exact absurd hheld (t.singleHeld_ne_none hhd htext _ _ _)
    · exact h.covers hd hhd hlt
  · rw [events_traceFrom_cons, ← List.append_assoc, t.enters_append_singleEvents, hheld, hleft,
      hnext]
    exact h.events_eq
  · refine h.frames_eq_cons hnext ?_ fun _ _ => rfl
    rw [hheld, framesOn_eq_nil fun s hs hcovers => absurd (hlater s hs) (not_lt.2 hcovers.1)]
    rfl

variable {f : Frame}

/-- A line along which a container is held that is not left. -/
lemma stay (h : SpansFrom t (done ++ text :: rest) (done.length + 1) (some f)
      (t.traceFrom (done ++ [text]) rest (some f)) spans)
    (hheld : t.singleHeld (done.length + 1) (depthPast (done ++ text :: rest) done.length) active
      text.toList = some f)
    (hleft : t.singleLeft (done.length + 1) (depthPast (done ++ text :: rest) done.length) active
      text.toList = none)
    (hline : f.startLine ≤ done.length + 1) (hnew : active = none → f.startLine = done.length + 1) :
    SpansFrom t (done ++ text :: rest) done.length active (t.traceFrom done (text :: rest) active)
      spans := by
  have hnext : t.singleNext (done.length + 1) (depthPast (done ++ text :: rest) done.length) active
      text.toList = some f := by
    rw [Tracker.singleNext, hleft, hheld]
    rfl
  obtain ⟨s₀, hs₀, rfl, hlast⟩ := h.goesOn f rfl
  have hcovers : s₀.Covers (done.length + 1) := ⟨hline, hlast⟩
  have hactive : ∀ g ∈ active, g = s₀.frame := by
    rintro g rfl
    exact Option.some.inj hheld
  refine ⟨h.starts, h.ends, h.apart, ?_, ?_, ?_, ?_, ?_⟩
  · intro g hg
    exact ⟨s₀, hs₀, (hactive g hg).symm, by omega⟩
  · intro s hs hle
    have hsame := Option.some.inj (h.begins s hs (by omega))
    cases active with
    | none =>
      have := hnew rfl
      rw [hsame] at this
      exact absurd hle (by rw [Span.first, this]; omega)
    | some g => rw [hactive g rfl, hsame]
  · intro hd hhd hle
    rcases Nat.eq_or_lt_of_le hle with heq | hlt
    · exact ⟨s₀, hs₀, heq ▸ hcovers⟩
    · exact h.covers hd hhd hlt
  · rw [events_traceFrom_cons, ← List.append_assoc, t.enters_append_singleEvents, hheld, hleft,
      hnext, ← h.events_eq]
    simp
  · refine h.frames_eq_cons hnext ?_ fun _ _ => rfl
    rw [hheld, framesOn_eq_singleton h.apart hs₀ hcovers]
    rfl

/-- A line along which a container is held that is left at its end. -/
lemma leave (h : SpansFrom t (done ++ text :: rest) (done.length + 1) none
      (t.traceFrom (done ++ [text]) rest none) spans)
    (hheld : t.singleHeld (done.length + 1) (depthPast (done ++ text :: rest) done.length) active
      text.toList = some f)
    (hleft : t.singleLeft (done.length + 1) (depthPast (done ++ text :: rest) done.length) active
      text.toList = some f)
    (hf : Held t (done ++ text :: rest) (done.length + 1) f)
    (hback : depthPast (done ++ text :: rest) (done.length + 1) ≤ f.startDepth)
    (hnew : active = none → f.startLine = done.length + 1) :
    SpansFrom t (done ++ text :: rest) done.length active (t.traceFrom done (text :: rest) active)
      (⟨f, done.length + 1⟩ :: spans) := by
  have hnext : t.singleNext (done.length + 1) (depthPast (done ++ text :: rest) done.length) active
      text.toList = none := by
    rw [Tracker.singleNext, hleft]
    rfl
  have hlater : ∀ s ∈ spans, done.length + 1 < s.first := by
    intro s hs
    by_contra hle
    exact absurd (h.begins s hs (not_lt.1 hle)) (by simp)
  have hcovers : (Span.mk f (done.length + 1)).Covers (done.length + 1) :=
    ⟨hf.startLine_le, le_refl _⟩
  refine ⟨?_, ?_, List.pairwise_cons.2 ⟨hlater, h.apart⟩, ?_, ?_, ?_, ?_, ?_⟩
  · exact List.forall_mem_cons.2 ⟨hf.starts, h.starts⟩
  · exact List.forall_mem_cons.2 ⟨hf.endsIn (by simp) (.inl hback), h.ends⟩
  · rintro g rfl
    exact ⟨_, List.mem_cons_self, (Option.some.inj hheld).symm, Nat.le_succ _⟩
  · intro s hs hle
    rcases List.mem_cons.1 hs with rfl | hs
    · cases active with
      | none => exact absurd (hnew rfl) (by simp only [Span.first] at hle; omega)
      | some g => exact hheld
    · have := hlater s hs
      omega
  · intro hd hhd hle
    rcases Nat.eq_or_lt_of_le hle with heq | hlt
    · exact ⟨_, List.mem_cons_self, heq ▸ hcovers⟩
    · obtain ⟨s, hs, hcovered⟩ := h.covers hd hhd hlt
      exact ⟨s, List.mem_cons_of_mem _ hs, hcovered⟩
  · rw [events_traceFrom_cons, ← List.append_assoc, t.enters_append_singleEvents, hheld, hleft,
      hnext, List.flatMap_cons, ← h.events_eq]
    simp [Span.events, Span.first]
  · refine h.frames_eq_cons hnext ?_ fun n hn => ?_
    · rw [hheld, framesOn_cons_of_covers hcovers
        fun s hs hcovered => absurd (hlater s hs) (not_lt.2 hcovered.1)]
      rfl
    · exact framesOn_cons_of_not_covers (fun hcovered => absurd hcovered.2 (not_le.2 hn)) spans

/-- At the end of a text, the container that is held has its span up to the last line. -/
lemma atEnd (hactive : ∀ f ∈ active, Held t done done.length f) :
    ∃ spans, SpansFrom t (done ++ []) done.length active (t.traceFrom done [] active) spans := by
  have hnone : ∀ h ∈ lineStarts t done, ¬ done.length ≤ h.line := by
    intro h hh hle
    obtain ⟨text, htext, -⟩ := mem_lineStarts.1 hh
    exact absurd (List.getElem?_eq_some_iff.1 htext).1 (not_lt.2 hle)
  rw [List.append_nil]
  cases active with
  | none =>
    refine ⟨[], by simp, by simp, List.Pairwise.nil, by simp, by simp, ?_, rfl, ?_⟩
    · exact fun h hh hle => absurd hle (hnone h hh)
    · exact fun scope hscope => absurd hscope (by simp [Tracker.traceFrom, Tracker.singleFrom])
  | some f =>
    have hf := hactive f rfl
    refine ⟨[⟨f, done.length⟩], ?_, ?_, List.pairwise_singleton _ _, ?_, ?_, ?_, ?_, ?_⟩
    · exact List.forall_mem_singleton.2 hf.starts
    · exact List.forall_mem_singleton.2 (hf.endsIn (le_refl _) (.inr rfl))
    · intro g hg
      exact ⟨_, List.mem_cons_self, Option.some.inj hg, le_refl _⟩
    · intro s hs _
      rw [List.mem_singleton.1 hs]
    · exact fun h hh hle => absurd hle (hnone h hh)
    · simp [Tracker.traceFrom, Tracker.singleFrom, Span.events, Span.first]
    · exact fun scope hscope => absurd hscope (by simp [Tracker.traceFrom, Tracker.singleFrom])

end SpansFrom

/-- The lines are read one after another; `done` are those that have been read. -/
lemma exists_spansFrom (t : Tracker) (done rest : List String) (active : Option Frame)
    (hactive : ∀ f ∈ active, Held t (done ++ rest) done.length f ∧
      f.startDepth < depthPast (done ++ rest) done.length) :
    ∃ spans, SpansFrom t (done ++ rest) done.length active (t.traceFrom done rest active)
      spans := by
  induction rest generalizing done active with
  | nil =>
    rw [List.append_nil] at hactive
    exact SpansFrom.atEnd fun f hf => (hactive f hf).1
  | cons text rest ih =>
    have hdone : (done ++ [text]) ++ rest = done ++ text :: rest := by simp
    have hlength : (done ++ [text]).length = done.length + 1 := by simp
    have hnext : ∀ next : Option Frame,
        (∀ f ∈ next, Held t (done ++ text :: rest) (done.length + 1) f ∧
          f.startDepth < depthPast (done ++ text :: rest) (done.length + 1)) →
        ∃ spans, SpansFrom t (done ++ text :: rest) (done.length + 1) next
          (t.traceFrom (done ++ [text]) rest next) spans := by
      intro next h
      have := ih (done ++ [text]) next (by rwa [hdone, hlength])
      rwa [hdone, hlength] at this
    have htext := SpansFrom.getElem?_middle done text rest
    cases hheld : t.singleHeld (done.length + 1) (depthPast (done ++ text :: rest) done.length)
        active text.toList with
    | none =>
      obtain ⟨spans, h⟩ := hnext none (by simp)
      exact ⟨spans, h.pass hheld⟩
    | some f =>
      have hf : Held t (done ++ text :: rest) (done.length + 1) f :=
        t.held_of_mem_singleHeld htext hactive hheld
      have hnew : active = none → f.startLine = done.length + 1 := by
        rintro rfl
        exact t.startLine_of_lineStartFrame? hheld
      have hleft := congrArg (Option.filter fun f => !f.encloses
        (text.toList.foldl braceStep (depthPast (done ++ text :: rest) done.length))) hheld
      rw [← SpansFrom.depthPast_succ] at hleft
      by_cases hencloses : f.encloses (depthPast (done ++ text :: rest) (done.length + 1)) = true
      · obtain ⟨spans, h⟩ := hnext (some f) (by
          intro g hg
          obtain rfl := Option.some.inj hg
          exact ⟨hf, of_decide_eq_true hencloses⟩)
        refine ⟨spans, h.stay hheld ?_ hf.startLine_le hnew⟩
        rw [Tracker.singleLeft, ← SpansFrom.depthPast_succ, hleft]
        simp [hencloses]
      · obtain ⟨spans, h⟩ := hnext none (by simp)
        refine ⟨_, h.leave hheld ?_ hf ?_ hnew⟩
        · rw [Tracker.singleLeft, ← SpansFrom.depthPast_succ, hleft]
          simp [hencloses]
        · exact not_lt.1 fun hlt => hencloses (decide_eq_true hlt)

/-! ## Depths -/

/-- The depths of a scope are those that the lines have: before it, after it, and at each column.
A column to the left of the line is its start. -/
structure LineScope.HasDepths (lines : List String) (scope : LineScope) : Prop where
  before : scope.depthBefore = depthPast lines (scope.number - 1)
  after : scope.depthAfter = depthPast lines scope.number
  depthAt : ∀ column : Int,
    scope.depthAt column = scope.depthBefore + braceDepth (scope.text.toList.take column.toNat)

lemma depthAt_singleScope (t : Tracker) (number : Nat) (depth : Int) (active : Option Frame)
    (text : String) (column : Int) :
    (t.singleScope number depth active text).depthAt column
      = depth + braceDepth (text.toList.take column.toNat) := by
  rcases lt_or_ge column 0 with hneg | hnonneg
  · -- the point at the start of the line holds
    have hpoint : (t.singleScope number depth active text).pointAt column
        = (t.singleScope number depth active text).first := if_pos hneg
    rw [LineScope.depthAt, hpoint, Int.toNat_of_nonpos hneg.le, List.take_zero]
    simp [Tracker.singleScope, braceDepth]
  · obtain ⟨n, rfl⟩ := Int.eq_ofNat_of_zero_le hnonneg
    exact (t.pointAt_singleScope number depth active text n).2

lemma hasDepths_traceFrom (t : Tracker) (done rest : List String) (active : Option Frame) :
    ∀ scope ∈ (t.traceFrom done rest active).scopes, scope.HasDepths (done ++ rest) := by
  induction rest generalizing done active with
  | nil => cases active <;> exact fun scope hscope => absurd hscope List.not_mem_nil
  | cons text rest ih =>
    intro scope hscope
    rw [SpansFrom.scopes_traceFrom_cons] at hscope
    rcases List.mem_cons.1 hscope with rfl | hscope
    · exact ⟨rfl, (SpansFrom.depthPast_succ done text rest).symm,
        depthAt_singleScope t _ _ active text⟩
    · have := ih (done ++ [text]) _ scope hscope
      rwa [List.append_assoc] at this

/-! ## The spans of a text -/

/-- The trace of a text is that of spans of lines, each with one container. -/
structure Trace.CutInto (t : Tracker) (lines : List String) (trace : Trace) (spans : List Span) :
    Prop where
  /-- The containers are entered and left as the spans begin and end. -/
  events_eq : trace.events = spans.flatMap Span.events
  /-- The spans do not meet. -/
  apart : spans.Pairwise fun s s' => s.last < s'.first
  /-- A span begins with a header at the start of its first line, at the depth before that line. -/
  starts : ∀ s ∈ spans, s.frame.StartsLine t lines
  ends : ∀ s ∈ spans, s.EndsIn lines
  /-- A header at the start of a line is in one span. -/
  covers : ∀ h ∈ lineStarts t lines, ∃! s, s ∈ spans ∧ s.Covers (h.line + 1)
  /-- There is one scope for each line. -/
  places : trace.scopes.map (·.place) = lines.zipIdx 1
  /-- On the lines of a span, every point is in its container and in no other. -/
  inside : ∀ scope ∈ trace.scopes, ∀ s ∈ spans, s.Covers scope.number →
    ∀ p ∈ scope.points, p.frames = [s.frame]
  /-- On the other lines no point is in a container. -/
  outside : ∀ scope ∈ trace.scopes, (∀ s ∈ spans, ¬ s.Covers scope.number) →
    ∀ p ∈ scope.points, p.frames = []
  depths : ∀ scope ∈ trace.scopes, scope.HasDepths lines

lemma SpansFrom.cutInto {t : Tracker} {lines : List String} {trace : Trace} {spans : List Span}
    (h : SpansFrom t lines 0 none trace spans)
    (hplaces : trace.scopes.map (·.place) = lines.zipIdx 1)
    (hdepths : ∀ scope ∈ trace.scopes, scope.HasDepths lines) :
    trace.CutInto t lines spans := by
  refine ⟨h.events_eq, h.apart, h.starts, h.ends, ?_, hplaces, ?_, ?_, hdepths⟩
  · intro hd hhd
    obtain ⟨s, hs, hcovers⟩ := h.covers hd hhd (Nat.zero_le _)
    exact ⟨s, ⟨hs, hcovers⟩, fun s' hs' => eq_of_covers h.apart hs'.1 hs hs'.2 hcovers⟩
  · intro scope hscope s hs hcovers p hp
    rw [h.frames_eq scope hscope p hp, framesOn_eq_singleton h.apart hs hcovers]
  · intro scope hscope hnone p hp
    rw [h.frames_eq scope hscope p hp, framesOn_eq_nil hnone]

/-- The single discipline cuts spans out of a text: each begins with a line that has a followed
header at its start, and ends with the first line after which the depth has fallen back, or with
the last one; every line with such a header is in one span; along a line of a span every point has
its container, and along the other lines none; and the depth at a column is that before the line
with the braces up to the column. -/
theorem single_track_spans (filter : Option ContainerFilter) (lines : List String) :
    ∃ spans, (Tracker.track ⟨.single, filter⟩ lines).CutInto ⟨.single, filter⟩ lines spans := by
  have htrack : Tracker.track ⟨.single, filter⟩ lines
      = Tracker.traceFrom ⟨.single, filter⟩ [] lines none := rfl
  obtain ⟨spans, h⟩ := exists_spansFrom ⟨.single, filter⟩ [] lines none (by simp)
  refine ⟨spans, SpansFrom.cutInto ?_ (Tracker.places_track _ lines) ?_⟩
  · rw [htrack]
    exact h
  · rw [htrack]
    exact hasDepths_traceFrom _ [] lines none

end Conformance.Source
