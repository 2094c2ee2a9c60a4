/-
# The states along a line

Reading a line gives points: one where a container is entered, one behind every brace and
semicolon.  The point that is found for a column shows the state that holds there, when the
characters before the column have been read and a container whose header starts at it has been
entered (`StackRun.shows_lastUpTo`).
-/
import Conformance.Proofs.Pattern.Forward
import Conformance.Proofs.Source.StackOrder

namespace Conformance.Source

/-! ## The headers of a line -/

lemma containerPattern_consumes : containerPattern.consumes = true := by
  decide

lemma headers_pairwise (t : Tracker) (chars : List Char) :
    (t.headers chars).Pairwise fun h h' => h.column < h'.column := by
  refine List.Pairwise.filter _ ?_
  exact List.pairwise_map.2 (Pattern.all_pairwise containerPattern_consumes chars)

lemma column_lt_of_mem_headers {t : Tracker} {chars : List Char} {h : ContainerHeader}
    (hh : h ∈ t.headers chars) : h.column < chars.length := by
  obtain ⟨m, hm, rfl⟩ := List.mem_map.1 (List.mem_filter.1 hh).1
  exact Pattern.column_lt_of_mem_all containerPattern_consumes hm

/-! ## The state at a column -/

namespace StackRun

/-- The state that holds at a column of a line: the characters before it have been read, and a
container whose header starts there has been entered. -/
def stateAt (headers : List ContainerHeader) (number : Nat) :
    (column : Nat) → StackState → List Char → (query : Nat) → StackState
  | _, s, [], _ => s
  | column, s, c :: cs, query =>
    if query = column then (enterAt headers number column s).state
    else stateAt headers number (column + 1) (step headers number column s c).state cs query

variable (headers : List ContainerHeader) (number : Nat)

lemma line_state (column : Nat) (s : StackState) (cs : List Char) :
    (line headers number column s cs).state
      = stateAt headers number column s cs (column + cs.length) := by
  induction cs generalizing column s with
  | nil => rfl
  | cons c cs ih =>
    have hne : ¬ column + (c :: cs).length = column := by simp
    have hlen : column + (c :: cs).length = column + 1 + cs.length := by
      simp only [List.length_cons]
      omega
    rw [stateAt, if_neg hne, hlen, ← ih]
    rfl

end StackRun

/-! ## The points of a line -/

/-- A point tells the depth and the containers of a state. -/
def Point.Shows (p : Point) (s : StackState) : Prop :=
  p.depth = s.depth ∧ p.frames = s.frames

namespace LineScope

lemma lastUpTo_of_forall_lt {column : Int} {cur : Point} {ps : List Point}
    (h : ∀ p ∈ ps, column < p.column) : lastUpTo column cur ps = cur := by
  cases ps with
  | nil => rfl
  | cons p ps => rw [lastUpTo, if_pos (h p List.mem_cons_self)]

lemma lastUpTo_append {column : Int} {cur : Point} {ps qs : List Point}
    (h : ∀ p ∈ ps, (p.column : Int) ≤ column) :
    lastUpTo column cur (ps ++ qs) = lastUpTo column (ps.getLast?.getD cur) qs := by
  induction ps generalizing cur with
  | nil => rfl
  | cons p ps ih =>
    have hp := h p List.mem_cons_self
    rw [List.cons_append, lastUpTo, if_neg (by omega),
      ih fun q hq => h q (List.mem_cons_of_mem _ hq), List.getLast?_cons, Option.getD_some]

end LineScope

namespace StackRun

variable (headers : List ContainerHeader) (number : Nat)

lemma enterAt_points (column : Nat) (s : StackState) :
    ∀ p ∈ (enterAt headers number column s).points, p.column = column := by
  intro p hp
  unfold enterAt at hp
  split at hp
  · exact absurd hp (by simp)
  · rw [List.mem_singleton.1 hp]
    rfl

lemma shows_enterAt {cur : Point} {s : StackState} (h : cur.Shows s) (column : Nat) :
    ((enterAt headers number column s).points.getLast?.getD cur).Shows
      (enterAt headers number column s).state := by
  unfold enterAt
  split
  · exact h
  · exact ⟨rfl, rfl⟩

lemma onChar_of_not_marks {c : Char} (h : StackState.marks c = false) (s : StackState) :
    (s.onChar c).1 = s := by
  simp only [StackState.marks, Bool.or_eq_false_iff] at h
  simp [StackState.onChar, h.1.1, h.1.2, h.2]

lemma step_points_le (column : Nat) (s : StackState) (c : Char) :
    ∀ p ∈ (step headers number column s c).points, p.column ≤ column + 1 := by
  intro p hp
  rcases List.mem_append.1 hp with hp | hp
  · rw [enterAt_points headers number column s p hp]
    omega
  · split at hp
    · rw [List.mem_singleton.1 hp]
      exact le_refl _
    · exact absurd hp (by simp)

lemma line_points_ge (column : Nat) (s : StackState) (cs : List Char) :
    ∀ p ∈ (line headers number column s cs).points, column ≤ p.column := by
  induction cs generalizing column s with
  | nil => simp [line]
  | cons c cs ih =>
    intro p hp
    rcases List.mem_append.1 hp with hp | hp
    · rcases List.mem_append.1 hp with hp | hp
      · exact le_of_eq (enterAt_points headers number column s p hp).symm
      · split at hp
        · rw [List.mem_singleton.1 hp]
          exact Nat.le_succ _
        · exact absurd hp (by simp)
    · exact le_trans (Nat.le_succ _) (ih _ _ p hp)

/-- At a column there is at most the point of a container that is entered; all others come
later. -/
lemma line_points_cons (column : Nat) (s : StackState) (c : Char) (cs : List Char) :
    ∃ late, (line headers number column s (c :: cs)).points
        = (enterAt headers number column s).points ++ late ∧
      ∀ p ∈ late, column + 1 ≤ p.column := by
  refine ⟨_, List.append_assoc _ _ _, ?_⟩
  intro p hp
  rcases List.mem_append.1 hp with hp | hp
  · split at hp
    · rw [List.mem_singleton.1 hp]
      exact le_refl _
    · exact absurd hp (by simp)
  · exact line_points_ge headers number _ _ _ p hp

lemma shows_step {cur : Point} {s : StackState} (h : cur.Shows s) (column : Nat) (c : Char) :
    ((step headers number column s c).points.getLast?.getD cur).Shows
      (step headers number column s c).state := by
  have hin := shows_enterAt headers number h column
  simp only [step]
  split
  · rw [List.getLast?_append, List.getLast?_singleton, Option.some_or, Option.getD_some]
    exact ⟨rfl, rfl⟩
  · rename_i hmark
    rw [List.append_nil, onChar_of_not_marks (by simpa using hmark)]
    exact hin

/-- The point that is found for a column shows the state there. -/
lemma shows_lastUpTo {cur : Point} {s : StackState} (h : cur.Shows s) {column query : Nat}
    (hq : column ≤ query) (cs : List Char) :
    (LineScope.lastUpTo query cur (line headers number column s cs).points).Shows
      (stateAt headers number column s cs query) := by
  induction cs generalizing cur s column with
  | nil => exact h
  | cons c cs ih =>
    unfold stateAt
    split
    · rename_i heq
      -- of the points from here on, only that of a container entered here is not too late
      subst heq
      obtain ⟨late, hpoints, hlate⟩ := line_points_cons headers number query s c cs
      have hpast : ∀ p ∈ late, (query : Int) < p.column := by
        intro p hp
        have := hlate p hp
        omega
      rw [hpoints, LineScope.lastUpTo_append, LineScope.lastUpTo_of_forall_lt hpast]
      · exact shows_enterAt headers number h query
      · intro p hp
        rw [enterAt_points headers number query s p hp]
    · rename_i hne
      have hpoints : (line headers number column s (c :: cs)).points
          = (step headers number column s c).points ++
            (line headers number (column + 1) (step headers number column s c).state cs).points :=
        rfl
      have hle : ∀ p ∈ (step headers number column s c).points, (p.column : Int) ≤ query := by
        intro p hp
        have := step_points_le headers number column s c p hp
        omega
      rw [hpoints, LineScope.lastUpTo_append hle]
      exact ih (shows_step headers number h column c) (by omega)

end StackRun

end Conformance.Source
