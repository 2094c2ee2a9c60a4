/-
# The order of the stack

The stack discipline marks containers as open, tests the top of its stack and pops.  What it keeps
between any two characters is an order: the depths of the containers do not decrease from the
bottom of the stack to its top, none exceeds the current depth, and an open container lies strictly
below it.  So the containers that a character ends always stand on top, and the mark of the others
does not matter (`StackState.onChar_frames`).
-/
import Mathlib.Tactic
import Conformance.Source.Scope

namespace Conformance.Source

/-- On a list where the test only ever turns from true to false, dropping while it holds is
filtering. -/
lemma dropWhile_eq_filter_not {α : Type} {p : α → Bool} {l : List α}
    (h : l.Pairwise fun a b => p b = true → p a = true) : l.dropWhile p = l.filter (!p ·) := by
  induction l with
  | nil => rfl
  | cons a l ih =>
    obtain ⟨ha, hl⟩ := List.pairwise_cons.1 h
    by_cases hp : p a = true
    · simp [hp, ih hl]
    · have hall : ∀ b ∈ l, (!p b) = true := by
        intro b hb
        have hb' : ¬ p b = true := fun hpb => hp (ha b hb hpb)
        simpa using hb'
      simp only [List.dropWhile_cons, hp, Bool.false_eq_true, if_false, Bool.not_false,
        List.filter_cons_of_pos, List.cons.injEq, true_and]
      exact (List.filter_eq_self.2 hall).symm

namespace StackState

/-- What holds of the stack between any two characters: depths do not decrease from the bottom to
the top, none exceeds the current depth, and an open container lies strictly below it. -/
structure Ordered (s : StackState) : Prop where
  sorted : s.stack.Pairwise fun f g => g.frame.startDepth ≤ f.frame.startDepth
  bounded : ∀ f ∈ s.stack, f.frame.startDepth ≤ s.depth
  opened_lt : ∀ f ∈ s.stack, f.opened = true → f.frame.startDepth < s.depth

lemma ordered_initial : Ordered initial :=
  ⟨List.Pairwise.nil, by simp [initial], by simp [initial]⟩

/-- Whether a character, read at a depth, ends a container that starts at a given depth. -/
def endsAt (depth : Int) (c : Char) (startDepth : Int) : Bool :=
  (c == '}' && decide (depth - 1 ≤ startDepth)) || (c == ';' && startDepth == depth)

lemma map_frame_openTop (depth : Int) (fs : List OpenFrame) :
    (openTop depth fs).map (·.frame) = fs.map (·.frame) := by
  cases fs with
  | nil => rfl
  | cons f fs =>
    simp only [openTop]
    split <;> rfl

lemma mem_openTop {depth : Int} {fs : List OpenFrame} {f : OpenFrame} (h : f ∈ openTop depth fs) :
    ∃ g ∈ fs, g.frame = f.frame := by
  have hf : f.frame ∈ fs.map (·.frame) := by
    rw [← map_frame_openTop depth fs]
    exact List.mem_map_of_mem h
  obtain ⟨g, hg, hgf⟩ := List.mem_map.1 hf
  exact ⟨g, hg, hgf⟩

/-- Leaving by a test that only ever turns from true to false removes just what it holds for. -/
lemma frames_leave {s : StackState} {test : OpenFrame → Bool} {ended : Frame → Bool}
    (hsorted : s.stack.Pairwise fun f g => test g = true → test f = true)
    (htest : ∀ f ∈ s.stack, test f = ended f.frame) :
    (leave test s).1.frames = s.frames.filter (!ended ·) := by
  have hfilter : s.stack.filter (!test ·) = s.stack.filter (fun f => !ended f.frame) := by
    refine List.filter_congr ?_
    intro f hf
    rw [htest f hf]
  simp only [frames, leave, dropWhile_eq_filter_not hsorted, hfilter, List.filter_reverse,
    List.filter_map]
  rfl

lemma Ordered.leave {s : StackState} (h : s.Ordered) (test : OpenFrame → Bool) :
    (leave test s).1.Ordered := by
  have hsub : (s.stack.dropWhile test).Sublist s.stack := List.dropWhile_sublist test
  exact ⟨h.sorted.sublist hsub, fun f hf => h.bounded f (hsub.mem hf),
    fun f hf => h.opened_lt f (hsub.mem hf)⟩

/-- What a closing brace ends lies on top. -/
lemma Ordered.closes_pairwise {s : StackState} (h : s.Ordered) (depth : Int) :
    s.stack.Pairwise fun f g => closes depth g = true → closes depth f = true := by
  refine h.sorted.imp ?_
  intro f g hgf hg
  simp only [closes, decide_eq_true_eq] at hg ⊢
  exact le_trans hg hgf

/-- A container at the current depth has not opened, so a semicolon ends it. -/
lemma Ordered.ends_eq {s : StackState} (h : s.Ordered) {f : OpenFrame} (hf : f ∈ s.stack) :
    ends s.depth f = (f.frame.startDepth == s.depth) := by
  unfold ends
  cases hopen : f.opened with
  | false => simp
  | true =>
    have hlt := h.opened_lt f hf hopen
    have hne : ¬ f.frame.startDepth = s.depth := by omega
    simp [hne]

lemma Ordered.ends_pairwise {s : StackState} (h : s.Ordered) :
    s.stack.Pairwise fun f g => ends s.depth g = true → ends s.depth f = true := by
  refine List.Pairwise.imp_of_mem ?_ h.sorted
  intro f g hf hg hgf hends
  rw [h.ends_eq hg, beq_iff_eq] at hends
  rw [h.ends_eq hf, beq_iff_eq]
  have := h.bounded f hf
  omega

/-- **A character ends exactly the containers that its effect on the depth calls for**, whatever
their marks and their places on the stack. -/
lemma onChar_frames {s : StackState} (h : s.Ordered) (c : Char) :
    (s.onChar c).1.frames = s.frames.filter fun f => !endsAt s.depth c f.startDepth := by
  unfold onChar
  by_cases h₁ : c = '{'
  · subst h₁
    simp [endsAt, frames, map_frame_openTop]
  · by_cases h₂ : c = '}'
    · subst h₂
      simp only [Char.reduceBEq, Bool.false_eq_true, if_false, if_true]
      refine frames_leave (s := { s with depth := s.depth - 1 }) (h.closes_pairwise _) ?_
      intro f _
      simp [closes, endsAt]
    · by_cases h₃ : c = ';'
      · subst h₃
        simp only [Char.reduceBEq, Bool.false_eq_true, if_false, if_true]
        refine frames_leave h.ends_pairwise ?_
        intro f hf
        rw [h.ends_eq hf]
        simp [endsAt]
      · have hb₂ : (c == '}') = false := beq_eq_false_iff_ne.2 h₂
        have hb₃ : (c == ';') = false := beq_eq_false_iff_ne.2 h₃
        simp [h₁, endsAt, hb₂, hb₃]

lemma onChar_depth (s : StackState) (c : Char) : (s.onChar c).1.depth = braceStep s.depth c := by
  unfold onChar braceStep
  by_cases h₁ : c = '{'
  · simp [h₁]
  · by_cases h₂ : c = '}'
    · simp [h₂, leave]
    · by_cases h₃ : c = ';'
      · simp [h₃, leave]
      · simp [h₁, h₂, h₃]

lemma Ordered.onChar {s : StackState} (h : s.Ordered) (c : Char) : (s.onChar c).1.Ordered := by
  unfold StackState.onChar
  by_cases h₁ : c = '{'
  · -- every container lies below the new depth, so nothing depends on the mark
    subst h₁
    simp only [Char.reduceBEq, if_true]
    have hlt : ∀ f ∈ openTop s.depth s.stack, f.frame.startDepth < s.depth + 1 := by
      intro f hf
      obtain ⟨g, hg, hgf⟩ := mem_openTop hf
      have := h.bounded g hg
      rw [hgf] at this
      omega
    refine ⟨?_, fun f hf => le_of_lt (hlt f hf), fun f hf _ => hlt f hf⟩
    have hs : (s.stack.map (·.frame)).Pairwise fun f g => g.startDepth ≤ f.startDepth :=
      List.pairwise_map.2 h.sorted
    rw [← map_frame_openTop s.depth] at hs
    exact List.pairwise_map.1 hs
  · by_cases h₂ : c = '}'
    · subst h₂
      simp only [Char.reduceBEq, Bool.false_eq_true, if_false, if_true]
      -- what stays on the stack was not ended, so it lies below the new depth
      have hkeep : ∀ f ∈ s.stack.dropWhile (closes (s.depth - 1)),
          f.frame.startDepth < s.depth - 1 := by
        intro f hf
        rw [dropWhile_eq_filter_not (h.closes_pairwise _)] at hf
        obtain ⟨-, hf⟩ := List.mem_filter.1 hf
        simp only [closes, Bool.not_eq_true', decide_eq_false_iff_not] at hf
        omega
      exact ⟨h.sorted.sublist (List.dropWhile_sublist _), fun f hf => le_of_lt (hkeep f hf),
        fun f hf _ => hkeep f hf⟩
    · by_cases h₃ : c = ';'
      · subst h₃
        simp only [Char.reduceBEq, Bool.false_eq_true, if_false, if_true]
        exact h.leave _
      · simpa [h₁, h₂, h₃] using h

lemma Ordered.enter {s : StackState} (h : s.Ordered) {f : Frame} (hf : f.startDepth = s.depth) :
    (s.enter f).Ordered := by
  refine ⟨?_, ?_, ?_⟩
  · refine List.Pairwise.cons ?_ h.sorted
    intro g hg
    rw [hf]
    exact h.bounded g hg
  · intro g hg
    rcases List.mem_cons.1 hg with rfl | hg
    · exact le_of_eq hf
    · exact h.bounded g hg
  · intro g hg hopen
    rcases List.mem_cons.1 hg with rfl | hg
    · exact absurd hopen (by simp)
    · exact h.opened_lt g hg hopen

lemma frames_enter (s : StackState) (f : Frame) : (s.enter f).frames = s.frames ++ [f] := by
  simp [enter, frames]

/-- From the bottom to the top, depths do not decrease. -/
lemma Ordered.frames_sorted {s : StackState} (h : s.Ordered) :
    s.frames.Pairwise fun f g => f.startDepth ≤ g.startDepth := by
  rw [frames, List.pairwise_reverse, List.pairwise_map]
  exact h.sorted

end StackState

end Conformance.Source
