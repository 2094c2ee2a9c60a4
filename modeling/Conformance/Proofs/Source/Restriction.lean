/-
# Following fewer containers

A filter leaves containers out while a text is read, and what a brace or a semicolon does is decided
at the top of the stack that is left.  Even so no container decides about another: a character ends
those that its effect on the depth calls for, so that leaving some out and reading the text commute.

`Restricts` is what two runs keep between any two characters, one with a filter and one without.
From it the points of each line and the events follow; the main statement is
`track_filter_eq_restriction`.
-/
import Conformance.Proofs.Source.Replay

namespace Conformance.Source

/-- Whether a filter accepts a container. -/
def ContainerFilter.keeps (filter : ContainerFilter) (f : Frame) : Bool :=
  filter f.kind f.name

/-- On a list where the test only ever turns from true to false, taking while it holds is
filtering. -/
lemma takeWhile_eq_filter {α : Type} {p : α → Bool} {l : List α}
    (h : l.Pairwise fun a b => p b = true → p a = true) : l.takeWhile p = l.filter p := by
  induction l with
  | nil => rfl
  | cons a l ih =>
    obtain ⟨ha, hl⟩ := List.pairwise_cons.1 h
    by_cases hp : p a = true
    · simp [hp, ih hl]
    · have hnone : ∀ b ∈ l, ¬ p b = true := fun b hb hpb => hp (ha b hb hpb)
      rw [List.takeWhile_cons, if_neg hp, List.filter_cons, if_neg hp,
        List.filter_eq_nil_iff.2 hnone]

/-- Of items that are found at most once, the one found among those that pass a test is the one
found among all, if it passes. -/
lemma find?_filter_eq {α : Type} {p q : α → Bool} {l : List α}
    (h : l.Pairwise fun a b => q a = true → q b = false) :
    (l.filter p).find? q = (l.find? q).filter p := by
  induction l with
  | nil => rfl
  | cons a l ih =>
    obtain ⟨ha, hl⟩ := List.pairwise_cons.1 h
    by_cases hq : q a = true
    · by_cases hp : p a = true
      · rw [List.filter_cons, if_pos hp, List.find?_cons_of_pos hq, List.find?_cons_of_pos hq,
          Option.filter_some_pos hp]
      · have hnone : l.find? q = none := by
          rw [List.find?_eq_none]
          intro b hb
          simp [ha b hb hq]
        rw [List.filter_cons, if_neg hp, ih hl, hnone, List.find?_cons_of_pos hq,
          Option.filter_some_neg (Bool.eq_false_of_not_eq_true hp)]
        rfl
    · rw [List.find?_cons_of_neg hq, ← ih hl]
      by_cases hp : p a = true
      · rw [List.filter_cons, if_pos hp, List.find?_cons_of_neg hq]
      · rw [List.filter_cons, if_neg hp]

namespace StackState

/-- What a test takes off the top, if it only ever turns from true to false. -/
lemma left_leave {s : StackState} {test : OpenFrame → Bool} {ended : Frame → Bool}
    (hsorted : s.stack.Pairwise fun f g => test g = true → test f = true)
    (htest : ∀ f ∈ s.stack, test f = ended f.frame) :
    (leave test s).2 = s.frames.reverse.filter ended := by
  have hfilter : s.stack.filter test = s.stack.filter (ended ·.frame) :=
    List.filter_congr htest
  simp only [leave, takeWhile_eq_filter hsorted, hfilter, frames_reverse, List.filter_map]
  rfl

/-- **A character leaves exactly the containers that it ends**, the innermost first. -/
lemma onChar_left {s : StackState} (h : s.Ordered) (c : Char) :
    (s.onChar c).2 = s.frames.reverse.filter fun f => endsAt s.depth c f.startDepth := by
  unfold onChar
  by_cases h₁ : c = '{'
  · subst h₁
    simp [endsAt]
  · by_cases h₂ : c = '}'
    · subst h₂
      simp only [Char.reduceBEq, Bool.false_eq_true, if_false, if_true]
      refine left_leave (s := { s with depth := s.depth - 1 }) (h.closes_pairwise _) ?_
      intro f _
      simp [closes, endsAt]
    · by_cases h₃ : c = ';'
      · subst h₃
        simp only [Char.reduceBEq, Bool.false_eq_true, if_false, if_true]
        refine left_leave h.ends_pairwise ?_
        intro f hf
        rw [h.ends_eq hf]
        simp [endsAt]
      · have hb₂ : (c == '}') = false := beq_eq_false_iff_ne.2 h₂
        have hb₃ : (c == ';') = false := beq_eq_false_iff_ne.2 h₃
        simp [h₁, endsAt, hb₂, hb₃]

/-- The second state has the depth of the first, and of its containers those that a test
accepts. -/
structure Restricts (keep : Frame → Bool) (whole part : StackState) : Prop where
  ordered_whole : whole.Ordered
  ordered_part : part.Ordered
  depth_eq : part.depth = whole.depth
  frames_eq : part.frames = whole.frames.filter keep

namespace Restricts

variable {keep : Frame → Bool} {whole part : StackState}

lemma initial : Restricts keep .initial .initial :=
  ⟨ordered_initial, ordered_initial, rfl, rfl⟩

lemma onChar (h : Restricts keep whole part) (c : Char) :
    Restricts keep (whole.onChar c).1 (part.onChar c).1 := by
  refine ⟨h.ordered_whole.onChar c, h.ordered_part.onChar c, ?_, ?_⟩
  · rw [onChar_depth, onChar_depth, h.depth_eq]
  · rw [onChar_frames h.ordered_part, onChar_frames h.ordered_whole, h.frames_eq, h.depth_eq,
      List.filter_filter, List.filter_filter]
    exact List.filter_congr fun f _ => Bool.and_comm _ _

lemma left_onChar (h : Restricts keep whole part) (c : Char) :
    (part.onChar c).2 = (whole.onChar c).2.filter keep := by
  rw [onChar_left h.ordered_part, onChar_left h.ordered_whole, h.frames_eq, h.depth_eq,
    ← List.filter_reverse, List.filter_filter, List.filter_filter]
  exact List.filter_congr fun f _ => Bool.and_comm _ _

/-- A container that is accepted is entered by both. -/
lemma enter_both (h : Restricts keep whole part) {f : Frame} (hf : f.startDepth = whole.depth)
    (hkeep : keep f = true) : Restricts keep (whole.enter f) (part.enter f) := by
  refine ⟨h.ordered_whole.enter hf, h.ordered_part.enter (hf.trans h.depth_eq.symm),
    h.depth_eq, ?_⟩
  rw [frames_enter, frames_enter, List.filter_append, h.frames_eq]
  simp [hkeep]

/-- A container that is not accepted is entered by the first only. -/
lemma enter_whole (h : Restricts keep whole part) {f : Frame} (hf : f.startDepth = whole.depth)
    (hkeep : keep f = false) : Restricts keep (whole.enter f) part := by
  refine ⟨h.ordered_whole.enter hf, h.ordered_part, h.depth_eq, ?_⟩
  rw [frames_enter, List.filter_append, h.frames_eq]
  simp [hkeep]

end Restricts

end StackState

open StackState

namespace StackRun

variable (filter : ContainerFilter) (headers : List ContainerHeader) (number : Nat)

/-- The headers of the containers that a filter accepts. -/
def accepted : List ContainerHeader :=
  headers.filter fun h => filter h.kind h.name

variable {headers} {whole part : StackState}

/-- At a column the run with the filter enters what the other enters, if the filter accepts it. -/
lemma restricts_enterAt (hord : headers.Pairwise fun h h' => h.column < h'.column)
    (h : Restricts filter.keeps whole part) (column : Nat) :
    Restricts filter.keeps (enterAt headers number column whole).state
        (enterAt (accepted filter headers) number column part).state ∧
      (enterAt (accepted filter headers) number column part).events
        = (enterAt headers number column whole).events.filter (filter.keeps ·.frame) := by
  have honce : headers.Pairwise fun h h' =>
      (h.column == column) = true → (h'.column == column) = false := by
    refine hord.imp ?_
    intro h h' hlt heq
    rw [beq_iff_eq] at heq
    rw [beq_eq_false_iff_ne]
    omega
  unfold enterAt accepted
  rw [find?_filter_eq honce]
  cases headers.find? (·.column == column) with
  | none => exact ⟨h, rfl⟩
  | some hd =>
    by_cases hkeep : filter hd.kind hd.name = true
    · have hframe : filter.keeps (Frame.ofHeader hd whole.depth number) = true := hkeep
      simp only [Option.filter_some, hkeep, if_true, h.depth_eq]
      refine ⟨h.enter_both rfl hframe, ?_⟩
      simp [ScopeEvent.frame, hframe]
    · have hframe : filter.keeps (Frame.ofHeader hd whole.depth number) = false :=
        Bool.eq_false_of_not_eq_true hkeep
      simp only [Option.filter_some, hkeep]
      refine ⟨h.enter_whole rfl hframe, ?_⟩
      simp [ScopeEvent.frame, hframe]

lemma filter_exits (keep : Frame → Bool) (fs : List Frame) :
    (fs.map (ScopeEvent.exit · number)).filter (keep ·.frame)
      = (fs.filter keep).map (ScopeEvent.exit · number) := by
  rw [List.filter_map]
  rfl

lemma restricts_step (hord : headers.Pairwise fun h h' => h.column < h'.column)
    (h : Restricts filter.keeps whole part) (column : Nat) (c : Char) :
    Restricts filter.keeps (step headers number column whole c).state
        (step (accepted filter headers) number column part c).state ∧
      (step (accepted filter headers) number column part c).events
        = (step headers number column whole c).events.filter (filter.keeps ·.frame) := by
  obtain ⟨hin, hevents⟩ := restricts_enterAt filter number hord h column
  refine ⟨hin.onChar c, ?_⟩
  simp only [step]
  rw [List.filter_append, filter_exits, hevents, hin.left_onChar c]

lemma restricts_line (hord : headers.Pairwise fun h h' => h.column < h'.column)
    (h : Restricts filter.keeps whole part) (column : Nat) (cs : List Char) :
    Restricts filter.keeps (line headers number column whole cs).state
        (line (accepted filter headers) number column part cs).state ∧
      (line (accepted filter headers) number column part cs).events
        = (line headers number column whole cs).events.filter (filter.keeps ·.frame) := by
  induction cs generalizing whole part column with
  | nil => exact ⟨h, rfl⟩
  | cons c cs ih =>
    obtain ⟨hone, hevents⟩ := restricts_step filter number hord h column c
    obtain ⟨hrest, hmore⟩ := ih hone (column + 1)
    refine ⟨hrest, ?_⟩
    simp only [line]
    rw [List.filter_append, hevents, hmore]

/-- The states at a column. -/
lemma restricts_stateAt (hord : headers.Pairwise fun h h' => h.column < h'.column)
    (h : Restricts filter.keeps whole part) (column : Nat) (cs : List Char) (query : Nat) :
    Restricts filter.keeps (stateAt headers number column whole cs query)
      (stateAt (accepted filter headers) number column part cs query) := by
  induction cs generalizing whole part column with
  | nil => exact h
  | cons c cs ih =>
    unfold stateAt
    split
    · exact (restricts_enterAt filter number hord h column).1
    · exact ih (restricts_step filter number hord h column c).1 (column + 1)

end StackRun

/-! ## Lines -/

/-- The scope of the same line with the same depths, and of the containers at each column those
that a test accepts. -/
structure LineScope.IsRestriction (keep : Frame → Bool) (part whole : LineScope) : Prop where
  number_eq : part.number = whole.number
  text_eq : part.text = whole.text
  depth_eq : ∀ column, part.depthAt column = whole.depthAt column
  frames_eq : ∀ column, (part.pointAt column).frames = (whole.pointAt column).frames.filter keep
  enclosing_eq : ∀ column, part.enclosingAt column = (whole.enclosingAt column).filter keep

/-- Points of a line that show a state and its restriction at every column. -/
lemma LineScope.isRestriction_of_shows {keep : Frame → Bool} {part whole : LineScope}
    (hnumber : part.number = whole.number) (htext : part.text = whole.text)
    (h : ∀ column, ∃ s s', Restricts keep s s' ∧ (whole.pointAt column).Shows s ∧
      (part.pointAt column).Shows s') : part.IsRestriction keep whole := by
  have hdepth : ∀ column, (part.pointAt column).depth = (whole.pointAt column).depth := by
    intro column
    obtain ⟨s, s', hs, hwhole, hpart⟩ := h column
    rw [hpart.1, hwhole.1, hs.depth_eq]
  have hframes : ∀ column,
      (part.pointAt column).frames = (whole.pointAt column).frames.filter keep := by
    intro column
    obtain ⟨s, s', hs, hwhole, hpart⟩ := h column
    rw [hpart.2, hwhole.2, hs.frames_eq]
  refine ⟨hnumber, htext, hdepth, hframes, ?_⟩
  intro column
  rw [enclosingAt, enclosingAt, Point.enclosing, Point.enclosing, hdepth, hframes,
    List.filter_filter, List.filter_filter]
  exact List.filter_congr fun f _ => Bool.and_comm _ _

/-- The point of a line at a column shows the state there; to the left of the line, the state
before it. -/
lemma LineScope.shows_pointAt (t : Tracker) (number : Nat) (text : String) (before after : Int)
    (s : StackState) (column : Int) :
    ((LineScope.mk number text before after (s.pointAt 0)
        (StackRun.line (t.headers text.toList) number 0 s text.toList).points).pointAt column).Shows
      (if column < 0 then s
        else StackRun.stateAt (t.headers text.toList) number 0 s text.toList column.toNat) := by
  have hfirst : ((s.pointAt 0).column : Int) = 0 := rfl
  rw [LineScope.pointAt]
  simp only [hfirst]
  split
  · exact ⟨rfl, rfl⟩
  · rename_i hcolumn
    obtain ⟨n, rfl⟩ := Int.eq_ofNat_of_zero_le (not_lt.1 hcolumn)
    exact StackRun.shows_lastUpTo _ _ ⟨rfl, rfl⟩ (Nat.zero_le n) _

lemma headers_some (filter : ContainerFilter) (chars : List Char) :
    (Tracker.mk .stack (some filter)).headers chars
      = StackRun.accepted filter ((Tracker.mk .stack none).headers chars) := by
  have hall : (Tracker.mk .stack none).headers chars = containerHeaders chars :=
    List.filter_eq_self.2 fun _ _ => rfl
  rw [hall]
  rfl

/-- What holds between two runs through lines, one with a filter and one without. -/
lemma restriction_stackFrom (filter : ContainerFilter) (total number : Nat)
    {whole part : StackState} (h : Restricts filter.keeps whole part) (lines : List String) :
    List.Forall₂ (LineScope.IsRestriction filter.keeps)
        ((Tracker.mk .stack (some filter)).stackFrom total number part lines).scopes
        ((Tracker.mk .stack none).stackFrom total number whole lines).scopes ∧
      ((Tracker.mk .stack (some filter)).stackFrom total number part lines).events
        = ((Tracker.mk .stack none).stackFrom total number whole lines).events.filter
          (filter.keeps ·.frame) := by
  induction lines generalizing number whole part with
  | nil =>
    refine ⟨.nil, ?_⟩
    have hexits : ∀ s : StackState, (s.stack.map fun f => ScopeEvent.exit f.frame total)
        = s.frames.reverse.map (ScopeEvent.exit · total) := by
      intro s
      rw [frames_reverse, List.map_map]
      rfl
    simp only [Tracker.stackFrom]
    rw [hexits, hexits, StackRun.filter_exits, h.frames_eq, List.filter_reverse]
  | cons text rest ih =>
    have hord := headers_pairwise (Tracker.mk .stack none) text.toList
    obtain ⟨hend, hevents⟩ := StackRun.restricts_line filter number hord h 0 text.toList
    rw [← headers_some] at hend hevents
    obtain ⟨hscopes, hlater⟩ := ih (number + 1) hend
    refine ⟨.cons (LineScope.isRestriction_of_shows rfl rfl ?_) hscopes, ?_⟩
    · intro column
      refine ⟨_, _, ?_, LineScope.shows_pointAt _ number text _ _ whole column,
        LineScope.shows_pointAt _ number text _ _ part column⟩
      split
      · exact h
      · rw [headers_some]
        exact StackRun.restricts_stateAt filter number hord h 0 text.toList _
    · simp only [Tracker.stackFrom]
      rw [List.filter_append, hevents, hlater]

/-- **Leaving containers out commutes with following them.**  The stack with a filter gives a scope
for each line, with the depths of the stack without one at every column; its containers, those that
enclose a column and its events are those without the filter, restricted to the containers that the
filter accepts. -/
theorem track_filter_eq_restriction (filter : ContainerFilter) (lines : List String) :
    ((Tracker.mk .stack (some filter)).track lines).scopes.length = lines.length ∧
    List.Forall₂ (LineScope.IsRestriction filter.keeps)
      ((Tracker.mk .stack (some filter)).track lines).scopes
      ((Tracker.mk .stack none).track lines).scopes ∧
    ((Tracker.mk .stack (some filter)).track lines).events
      = ((Tracker.mk .stack none).track lines).events.filter (filter.keeps ·.frame) := by
  refine ⟨?_, restriction_stackFrom filter lines.length 1 .initial lines⟩
  have hnumbers := Tracker.numbers_stackFrom ⟨.stack, some filter⟩ lines.length 1 .initial lines
  have hlength := congrArg List.length hnumbers
  rw [List.length_map, List.length_range'] at hlength
  exact hlength

end Conformance.Source
