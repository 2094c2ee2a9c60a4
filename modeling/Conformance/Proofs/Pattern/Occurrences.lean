/-
# Occurrences of a pattern

Where the match at a place depends only on the text ahead, all matches in a text are found by
reading it from left to right: where nothing is taken, a character is passed.  The derivation
`Occurrences` has one rule for each of these; it gives the texts of the matches
(`Takes.texts_eq`), and the text without them (`Takes.removeFrom_eq`).  So removing the matches can
be followed along the parts of a text; parts without the marks that a match starts with are kept
(`Takes.removeFrom_append`).
-/
import Conformance.Proofs.Pattern.Language

namespace Conformance.Pattern

/-- A match at a place is what a function takes from the start of the text ahead. -/
structure Takes {κ : Type} [DecidableEq κ] (p : Pattern κ)
    (take : List Char → Option (List Char × List Char)) : Prop where
  eq_append : ∀ {u w v}, take u = some (w, v) → u = w ++ v ∧ w ≠ []
  matchAt?_eq : ∀ b u, p.matchAt? false (Cursor.amid b u) = (take u).map fun (w, v) =>
    ⟨Cursor.amid b u, Progress.amid (w.reverse ++ b) v []⟩

/-- The preferred match at a place is what the pattern reads with nothing left to do. -/
lemma matchAt?_amid {κ : Type} [DecidableEq κ] {p : Pattern κ} {b u : List Char} :
    p.matchAt? false (Cursor.amid b u)
      = (p.run (Progress.amid b u []) some).map (⟨Cursor.amid b u, ·⟩) := by
  simp only [matchAt?, Bool.false_and, Bool.false_eq_true, if_false]
  rfl

/-- The preferred match at the start of a text. -/
lemma matchStart?_eq {κ : Type} [DecidableEq κ] {p : Pattern κ} {u : List Char} :
    p.matchStart? u = (p.run (Progress.amid [] u []) some).map (⟨Cursor.start u, ·⟩) :=
  matchAt?_amid

/-- Searching finds the first of all matches in a text. -/
lemma head?_all {κ : Type} [DecidableEq κ] (p : Pattern κ) (text : List Char) :
    (p.all text).head? = p.search? text := by
  rw [all, allFrom, search?]
  cases p.searchFrom? false (Cursor.start text) <;> rfl

/-- A text with what is taken from it, one after another, and what is left. -/
inductive Occurrences (take : List Char → Option (List Char × List Char)) :
    List Char → List (List Char) → List Char → Prop
  | nil : take [] = none → Occurrences take [] [] []
  | pass {x u ws left} : take (x :: u) = none → Occurrences take u ws left →
      Occurrences take (x :: u) ws (x :: left)
  | take {u w v ws left} : take u = some (w, v) → Occurrences take v ws left →
      Occurrences take u (w :: ws) left

section Takes

variable {κ : Type} [DecidableEq κ] {p : Pattern κ}
  {take : List Char → Option (List Char × List Char)}

/-- Something is taken from every text, or nothing. -/
lemma Takes.exists_occurrences (h : p.Takes take) (u : List Char) :
    ∃ ws left, Occurrences take u ws left := by
  induction hn : u.length using Nat.strong_induction_on generalizing u with
  | _ n ih =>
    cases htake : take u with
    | some taken =>
      obtain ⟨w, v⟩ := taken
      obtain ⟨rfl, hne⟩ := h.eq_append htake
      have hlt : v.length < n := by
        have := List.length_pos_iff.2 hne
        rw [← hn, List.length_append]
        omega
      obtain ⟨ws, left, hv⟩ := ih _ hlt v rfl
      exact ⟨w :: ws, left, .take htake hv⟩
    | none =>
      cases u with
      | nil => exact ⟨[], [], .nil htake⟩
      | cons x u =>
        obtain ⟨ws, left, hu⟩ := ih u.length (by simp [← hn]) u rfl
        exact ⟨ws, x :: left, .pass htake hu⟩

lemma Takes.matchAt?_eq_none (h : p.Takes take) {u : List Char} (hu : take u = none)
    (b : List Char) : p.matchAt? false (Cursor.amid b u) = none := by
  rw [h.matchAt?_eq, hu, Option.map_none]

/-! ## Matches one after another -/

lemma Takes.allFrom_nil (h : p.Takes take) (hnil : take [] = none) (fuel : Nat) (b : List Char) :
    p.allFrom fuel false (Cursor.amid b []) = [] := by
  have hsearch : p.searchFrom? false (Cursor.amid b []) = none := h.matchAt?_eq_none hnil b
  cases fuel with
  | zero => rfl
  | succ fuel => rw [allFrom, hsearch]

lemma Takes.allFrom_of_none (h : p.Takes take) {u : List Char} {x : Char}
    (htake : take (x :: u) = none) (fuel : Nat) (b : List Char) :
    p.allFrom fuel false (Cursor.amid b (x :: u))
      = p.allFrom fuel false (Cursor.amid (x :: b) u) := by
  cases fuel with
  | zero => rfl
  | succ fuel =>
    have hsearch : p.searchFrom? false (Cursor.amid b (x :: u))
        = p.searchFrom? false (Cursor.amid (x :: b) u) := by
      rw [searchFrom?, Cursor.after_amid, searchAlong?, h.matchAt?_eq_none htake]
      rfl
    rw [allFrom, hsearch, allFrom]

lemma Takes.allFrom_of_some (h : p.Takes take) {u w v : List Char} (htake : take u = some (w, v))
    (fuel : Nat) (b : List Char) : p.allFrom (fuel + 1) false (Cursor.amid b u)
      = ⟨Cursor.amid b u, Progress.amid (w.reverse ++ b) v []⟩ ::
        p.allFrom fuel false (Cursor.amid (w.reverse ++ b) v) := by
  obtain ⟨rfl, hne⟩ := h.eq_append htake
  have hmatch := h.matchAt?_eq b (w ++ v)
  rw [htake, Option.map_some] at hmatch
  have hempty : (Match.mk (Cursor.amid b (w ++ v))
      (Progress.amid (κ := κ) (w.reverse ++ b) v [])).isEmpty = false := by
    have := List.length_pos_iff.2 hne
    simp only [Match.isEmpty, Progress.cursor_amid, Cursor.left_amid, List.length_append,
      beq_eq_false_iff_ne]
    omega
  rw [allFrom, searchFrom?_of_matchAt? hmatch]
  simp only [hempty]
  rfl

/-- The texts of the matches from a place on are what is taken. -/
lemma Takes.texts_allFrom (h : p.Takes take) {u : List Char} {ws : List (List Char)}
    {left : List Char} (hu : Occurrences take u ws left) {fuel : Nat} (hfuel : u.length < fuel)
    (b : List Char) : (p.allFrom fuel false (Cursor.amid b u)).map (·.text) = ws := by
  induction hu generalizing fuel b with
  | nil hnone =>
    rw [h.allFrom_nil hnone]
    rfl
  | pass hnone _ ih =>
    rw [h.allFrom_of_none hnone]
    exact ih (Nat.lt_of_succ_lt hfuel) _
  | take htake _ ih =>
    obtain ⟨rfl, hne⟩ := h.eq_append htake
    obtain ⟨fuel, rfl⟩ := Nat.exists_eq_succ_of_ne_zero (Nat.ne_of_gt (Nat.zero_lt_of_lt hfuel))
    have hlength := List.length_pos_iff.2 hne
    rw [List.length_append] at hfuel
    rw [h.allFrom_of_some htake, List.map_cons, ih (by omega)]
    congr 1
    exact Cursor.textSince_amid _ _ _ _

omit [DecidableEq κ] in
/-- A character that is passed before all matches is outside of them. -/
lemma outside_cons {b u : List Char} {x : Char} {ms : List (Match κ)}
    (h : ∀ m ∈ ms, ∃ v, (Cursor.amid (x :: b) u).Reads v m.start) :
    outside (Cursor.amid b (x :: u)) ms = x :: outside (Cursor.amid (x :: b) u) ms := by
  have hx : (Cursor.amid b (x :: u)).Reads [x] (Cursor.amid (x :: b) u) := ⟨rfl, rfl⟩
  cases ms with
  | nil => rfl
  | cons m ms =>
    obtain ⟨v, hv⟩ := h m List.mem_cons_self
    rw [outside, outside, hv.textSince_eq, (hx.trans hv).textSince_eq]
    rfl

/-- The text outside the matches from a place on is what is left. -/
lemma Takes.outside_allFrom (h : p.Takes take) {u : List Char} {ws : List (List Char)}
    {left : List Char} (hu : Occurrences take u ws left) {fuel : Nat} (hfuel : u.length < fuel)
    (b : List Char) :
    outside (Cursor.amid b u) (p.allFrom fuel false (Cursor.amid b u)) = left := by
  induction hu generalizing fuel b with
  | nil hnone =>
    rw [h.allFrom_nil hnone]
    rfl
  | pass hnone _ ih =>
    rw [h.allFrom_of_none hnone, outside_cons fun m hm => (exists_matchAt?_of_mem_allFrom hm).1,
      ih (Nat.lt_of_succ_lt hfuel)]
  | take htake _ ih =>
    obtain ⟨rfl, hne⟩ := h.eq_append htake
    obtain ⟨fuel, rfl⟩ := Nat.exists_eq_succ_of_ne_zero (Nat.ne_of_gt (Nat.zero_lt_of_lt hfuel))
    have hlength := List.length_pos_iff.2 hne
    rw [List.length_append] at hfuel
    rw [h.allFrom_of_some htake, outside, (Cursor.Reads.refl _).textSince_eq, List.nil_append]
    exact ih (by omega) _

/-! ## All matches in a text -/

theorem Takes.texts_eq (h : p.Takes take) {u : List Char} {ws : List (List Char)}
    {left : List Char} (hu : Occurrences take u ws left) : (p.all u).map (·.text) = ws :=
  h.texts_allFrom hu (by omega) []

theorem Takes.removeFrom_eq (h : p.Takes take) {u : List Char} {ws : List (List Char)}
    {left : List Char} (hu : Occurrences take u ws left) : p.removeFrom u = left :=
  h.outside_allFrom hu (by omega) []

end Takes

/-! ## Removal along the parts of a text -/

section Takes

variable {κ : Type} [DecidableEq κ] {p : Pattern κ}
  {take : List Char → Option (List Char × List Char)}

/-- What is taken is removed. -/
lemma Takes.removeFrom_of_some (h : p.Takes take) {u w v : List Char}
    (htake : take u = some (w, v)) : p.removeFrom u = p.removeFrom v := by
  obtain ⟨ws, left, hv⟩ := h.exists_occurrences v
  rw [h.removeFrom_eq (.take htake hv), h.removeFrom_eq hv]

/-- Where nothing is taken a character is kept. -/
lemma Takes.removeFrom_cons (h : p.Takes take) {x : Char} {u : List Char}
    (htake : take (x :: u) = none) : p.removeFrom (x :: u) = x :: p.removeFrom u := by
  obtain ⟨ws, left, hu⟩ := h.exists_occurrences u
  rw [h.removeFrom_eq (.pass htake hu), h.removeFrom_eq hu]

/-- Two marks that stand together in a text with one more character stand together in the text,
unless the character is the second of them. -/
lemma not_infix_concat {a b c : Char} {u : List Char} (hu : ¬ [a, b] <:+: u)
    (hc : u.getLast? = some a → c ≠ b) : ¬ [a, b] <:+: u ++ [c] := by
  rw [List.infix_concat_iff, not_or]
  refine ⟨?_, hu⟩
  rintro ⟨w, hw⟩
  have hsplit : (w ++ [a]) ++ [b] = u ++ [c] := by simpa using hw
  obtain ⟨rfl, hlast⟩ := List.append_inj' hsplit rfl
  exact hc (by simp) (List.cons.inj hlast).1.symm

lemma not_infix_append_take {a b : Char} {u v : List Char} (hu : ¬ [a, b] <:+: u)
    (hv : u.getLast? = some a → v.head? ≠ some b) : ¬ [a, b] <:+: u ++ v.take 1 := by
  cases v with
  | nil => simpa using hu
  | cons c v => exact not_infix_concat hu fun hlast heq => hv hlast (congrArg some heq)

/-- Two marks must stand together where something is taken. -/
def StartsWith (take : List Char → Option (List Char × List Char)) (a b : Char) : Prop :=
  ∀ u, ¬ [a, b] <+: u → take u = none

lemma Takes.removeFrom_cons_of_ne (h : p.Takes take) {a b x : Char} (hstart : StartsWith take a b)
    (hx : x ≠ a) (u : List Char) : p.removeFrom (x :: u) = x :: p.removeFrom u := by
  refine h.removeFrom_cons (hstart _ fun hprefix => hx ?_)
  exact (List.cons_prefix_cons.1 hprefix).1.symm

/-- A text in which the two marks do not stand together is kept, unless it ends with the first mark
and the second one follows. -/
lemma Takes.removeFrom_append (h : p.Takes take) {a b : Char} (hstart : StartsWith take a b)
    {u v : List Char} (hu : ¬ [a, b] <:+: u) (hv : u.getLast? = some a → v.head? ≠ some b) :
    p.removeFrom (u ++ v) = u ++ p.removeFrom v := by
  replace hu := not_infix_append_take hu hv
  clear hv
  induction u with
  | nil => rfl
  | cons x u ih =>
    rw [List.cons_append, List.infix_cons_iff, not_or] at hu
    rw [List.cons_append, h.removeFrom_cons (hstart _ fun hprefix => hu.1 ?_), ih hu.2]
    · rfl
    · obtain ⟨rfl, hnext⟩ := List.cons_prefix_cons.1 hprefix
      refine List.cons_prefix_cons.2 ⟨rfl, ?_⟩
      cases u with
      | nil =>
        obtain ⟨rest, hrest⟩ := hnext
        rw [List.nil_append] at hrest
        rw [← hrest]
        exact List.prefix_rfl
      | cons y u =>
        obtain ⟨rfl, -⟩ := List.cons_prefix_cons.1 hnext
        simp

end Takes

end Conformance.Pattern
