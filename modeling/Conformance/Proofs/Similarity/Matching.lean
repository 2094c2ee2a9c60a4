/-
# Matching characters

The characters that match are found run by run: a longest run that frequent characters do not start,
made longer on both sides, and then the runs before it and behind it.  So the runs stand in both
texts one behind another, and the characters that match are a common subsequence of the texts
(`exists_sublist_matchesFrom`): there are never more of them than in either text.  Of a text and the
same text all characters match, whichever of them are frequent, since the first of the longest runs
stands at the same place in both (`matchCount_self`).  So the exact quotient lies between zero and
one, and is one just for equal texts (`quotient_eq_one_iff`).
-/
import Conformance.Proofs.Similarity.CommonRuns

namespace Conformance.Sequence

variable {seeds : Char → Bool} {a b : List Char}

/-! ## Runs of equal characters -/

/-- Equal characters stand where a run does, whether or not they start runs. -/
abbrev IsRun (a b : List Char) (r : Run) : Prop :=
  IsSeedRun (fun _ => true) a b r

/-- The text of a run is the same in both texts. -/
lemma IsSeedRun.text_eq {r : Run} (h : IsRun a b r) :
    (a.drop r.left).take r.size = (b.drop r.right).take r.size := by
  refine List.ext_getElem? fun k => ?_
  rw [List.getElem?_take, List.getElem?_take]
  split
  · rename_i hk
    obtain ⟨c, ha, hb, -⟩ := h k hk
    rw [List.getElem?_drop, List.getElem?_drop, ha, hb]
  · rfl

lemma getElem?_of_lt_commonStart {u v : List Char} {k : Nat} (h : k < commonStart u v) :
    ∃ c, u[k]? = some c ∧ v[k]? = some c := by
  induction u generalizing v k with
  | nil => cases v <;> exact absurd h (Nat.not_lt_zero _)
  | cons x u ih =>
    cases v with
    | nil => exact absurd h (Nat.not_lt_zero _)
    | cons y v =>
      rw [commonStart] at h
      split at h
      · rename_i hxy
        cases k with
        | zero => exact ⟨x, rfl, congrArg some (beq_iff_eq.1 hxy).symm⟩
        | succ k => exact ih (Nat.lt_of_succ_lt_succ h)
      · exact absurd h (Nat.not_lt_zero _)

/-- The characters before two places, read backwards as far as they agree. -/
lemma getElem?_before_of_lt_commonStart {i j k : Nat} (hi : i ≤ a.length) (hj : j ≤ b.length)
    (h : k < commonStart (a.take i).reverse (b.take j).reverse) :
    ∃ c, a[i - 1 - k]? = some c ∧ b[j - 1 - k]? = some c := by
  obtain ⟨c, ha, hb⟩ := getElem?_of_lt_commonStart h
  have hback : ∀ {u : List Char} {n : Nat}, n ≤ u.length → (u.take n).reverse[k]? = some c →
      u[n - 1 - k]? = some c := by
    intro u n hn hu
    have hlength : (u.take n).length = n := List.length_take_of_le hn
    have hk : k < n := by simpa [hlength] using (List.getElem?_eq_some_iff.1 hu).1
    rwa [List.getElem?_reverse (by omega), hlength, List.getElem?_take_of_lt (by omega)] at hu
  exact ⟨c, hback hi ha, hback hj hb⟩

/-- A run that is made longer is a run. -/
lemma IsSeedRun.extend {r : Run} (h : IsSeedRun seeds a b r) (ha : r.left + r.size ≤ a.length)
    (hb : r.right + r.size ≤ b.length) : IsRun a b (extend a b r) := by
  have hleft : r.left ≤ a.length := by omega
  have hright : r.right ≤ b.length := by omega
  have hback : commonStart (a.take r.left).reverse (b.take r.right).reverse ≤ r.left := by
    simpa [hleft] using commonStart_le (a.take r.left).reverse (b.take r.right).reverse
  have hback' : commonStart (a.take r.left).reverse (b.take r.right).reverse ≤ r.right := by
    rw [commonStart_comm]
    simpa [hright] using commonStart_le (b.take r.right).reverse (a.take r.left).reverse
  intro k hk
  simp only [Sequence.extend] at hk ⊢
  set back := commonStart (a.take r.left).reverse (b.take r.right).reverse
  suffices h' : ∃ c, a[r.left - back + k]? = some c ∧ b[r.right - back + k]? = some c by
    obtain ⟨c, hac, hbc⟩ := h'
    exact ⟨c, hac, hbc, trivial⟩
  rcases Nat.lt_or_ge k back with hbefore | hinside
  · -- counted from the run backwards
    have hchar := getElem?_before_of_lt_commonStart (k := back - 1 - k) hleft hright (by omega)
    have hi : r.left - 1 - (back - 1 - k) = r.left - back + k := by omega
    have hj : r.right - 1 - (back - 1 - k) = r.right - back + k := by omega
    rwa [hi, hj] at hchar
  rcases Nat.lt_or_ge k (back + r.size) with hrun | hbehind
  · obtain ⟨c, hac, hbc, -⟩ := h (k - back) (by omega)
    have hi : r.left + (k - back) = r.left - back + k := by omega
    have hj : r.right + (k - back) = r.right - back + k := by omega
    rw [hi] at hac
    rw [hj] at hbc
    exact ⟨c, hac, hbc⟩
  · have hchar := getElem?_of_lt_commonStart (u := a.drop (r.left + r.size))
      (v := b.drop (r.right + r.size)) (k := k - (back + r.size)) (by omega)
    have hi : r.left + r.size + (k - (back + r.size)) = r.left - back + k := by omega
    have hj : r.right + r.size + (k - (back + r.size)) = r.right - back + k := by omega
    rwa [List.getElem?_drop, List.getElem?_drop, hi, hj] at hchar

lemma FirstLongest.right_le {r : Run} (h : FirstLongest seeds a b r) :
    r.right + r.size ≤ b.length := by
  rcases Nat.eq_zero_or_pos r.size with hzero | hpos
  · -- an empty run is found at the start
    rcases h.first ⟨0, 0, 0⟩ (.of_size_eq_zero rfl) hzero.symm with hlt | ⟨-, hright⟩
    · exact absurd hlt (Nat.not_lt_zero _)
    · have hright' : r.right ≤ 0 := hright
      omega
  · exact h.run.right_le hpos

lemma isRun_longest (seeds : Char → Bool) (a b : List Char) : IsRun a b (longest seeds a b) := by
  have h := firstLongest_seedFrom seeds a b
  exact h.run.extend h.left_le h.right_le

/-! ## The characters that match -/

/-- The texts before a run and behind it, with the run between them. -/
lemma take_append_run_append_drop (u : List Char) (i n : Nat) :
    u.take i ++ ((u.drop i).take n ++ u.drop (i + n)) = u := by
  rw [← List.drop_drop, List.take_append_drop, List.take_append_drop]

/-- **The characters that match are a common subsequence of the two texts.** -/
theorem exists_sublist_matchesFrom (seeds : Char → Bool) (fuel : Nat) (a b : List Char) :
    ∃ m : List Char, m.length = matchesFrom seeds fuel a b ∧ m.Sublist a ∧ m.Sublist b := by
  induction fuel generalizing a b with
  | zero => exact ⟨[], rfl, List.nil_sublist _, List.nil_sublist _⟩
  | succ fuel ih =>
    by_cases hsize : (longest seeds a b).size = 0
    · exact ⟨[], (matchesFrom_eq_zero hsize _).symm, List.nil_sublist _, List.nil_sublist _⟩
    · have hrun := isRun_longest seeds a b
      have hsize' : 0 < (longest seeds a b).size := Nat.pos_of_ne_zero hsize
      have hleft := hrun.left_le hsize'
      have htext := hrun.text_eq
      rw [matchesFrom_succ fuel hsize]
      generalize longest seeds a b = r at hleft htext
      obtain ⟨m, hm, hma, hmb⟩ := ih (a.take r.left) (b.take r.right)
      obtain ⟨m', hm', hma', hmb'⟩ :=
        ih (a.drop (r.left + r.size)) (b.drop (r.right + r.size))
      refine ⟨m ++ ((a.drop r.left).take r.size ++ m'), ?_, ?_, ?_⟩
      · have hblock : ((a.drop r.left).take r.size).length = r.size := by
          rw [List.length_take, List.length_drop]
          omega
        rw [List.length_append, List.length_append, hblock, hm, hm']
        omega
      · have h := hma.append ((List.Sublist.refl ((a.drop r.left).take r.size)).append hma')
        rwa [take_append_run_append_drop] at h
      · have h := hmb.append ((List.Sublist.refl ((b.drop r.right).take r.size)).append hmb')
        rwa [take_append_run_append_drop, ← htext] at h

lemma exists_sublist_matchCount (a b : List Char) :
    ∃ m : List Char, m.length = matchCount a b ∧ m.Sublist a ∧ m.Sublist b := by
  rw [matchCount_eq]
  exact exists_sublist_matchesFrom _ _ a b

lemma matchCount_le_left (a b : List Char) : matchCount a b ≤ a.length := by
  obtain ⟨m, hm, ha, -⟩ := exists_sublist_matchCount a b
  exact hm ▸ ha.length_le

lemma matchCount_le_right (a b : List Char) : matchCount a b ≤ b.length := by
  obtain ⟨m, hm, -, hb⟩ := exists_sublist_matchCount a b
  exact hm ▸ hb.length_le

/-- Texts of which all characters match are equal. -/
lemma eq_of_matchCount (ha : matchCount a b = a.length) (hb : matchCount a b = b.length) :
    a = b := by
  obtain ⟨m, hm, hma, hmb⟩ := exists_sublist_matchCount a b
  rw [← hma.eq_of_length (hm.trans ha), hmb.eq_of_length (hm.trans hb)]

/-! ## A text and the same text -/

/-- In a text and the same text, the first of the longest runs stands at one place. -/
lemma FirstLongest.left_eq_right {r : Run} (h : FirstLongest seeds a a r) : r.left = r.right := by
  -- the run is found at each of its two places in both texts
  have hleft : IsSeedRun seeds a a ⟨r.left, r.left, r.size⟩ := fun k hk => by
    obtain ⟨c, hc, -, hseed⟩ := h.run k hk
    exact ⟨c, hc, hc, hseed⟩
  have hright : IsSeedRun seeds a a ⟨r.right, r.right, r.size⟩ := fun k hk => by
    obtain ⟨c, -, hc, hseed⟩ := h.run k hk
    exact ⟨c, hc, hc, hseed⟩
  have hle : r.right ≤ r.left := by
    rcases h.first _ hleft rfl with hlt | ⟨-, hle⟩
    · exact absurd hlt (lt_irrefl r.left)
    · exact hle
  have hge : r.left ≤ r.right := by
    rcases h.first _ hright rfl with hlt | ⟨heq, -⟩
    · exact le_of_lt hlt
    · exact le_of_eq heq
  exact le_antisymm hge hle

lemma commonStart_self (u : List Char) : commonStart u u = u.length := by
  induction u with
  | nil => rfl
  | cons x u ih => rw [commonStart, if_pos (beq_self_eq_true x), ih, List.length_cons]

/-- It is made longer until it is the whole text. -/
lemma longest_self (seeds : Char → Bool) (a : List Char) :
    longest seeds a a = ⟨0, 0, a.length⟩ := by
  have h := firstLongest_seedFrom seeds a a
  have hle := h.left_le
  have hsame := h.left_eq_right
  rw [h.longest_eq]
  generalize seedFrom seeds a 0 [] ⟨0, 0, 0⟩ a = r at hle hsame
  simp only [extend, ← hsame, commonStart_self, List.length_reverse, List.length_take,
    List.length_drop, Run.mk.injEq]
  omega

lemma matchesFrom_nil (fuel : Nat) (b : List Char) : matchesFrom seeds fuel [] b = 0 := by
  obtain ⟨m, hm, hnil, -⟩ := exists_sublist_matchesFrom seeds fuel [] b
  rw [← hm, List.sublist_nil.1 hnil]
  rfl

/-- **All characters of a text match those of the same text.** -/
theorem matchCount_self (a : List Char) : matchCount a a = a.length := by
  rw [matchCount_eq]
  cases a with
  | nil => rfl
  | cons x a =>
    have hlongest := longest_self (seedsIn (x :: a)) (x :: a)
    have hsize : (longest (seedsIn (x :: a)) (x :: a) (x :: a)).size ≠ 0 := by
      rw [hlongest]
      exact Nat.succ_ne_zero _
    rw [List.length_cons, matchesFrom_succ _ hsize, hlongest]
    simp [matchesFrom_nil]

lemma matchCount_eq_iff : matchCount a b = a.length ∧ matchCount a b = b.length ↔ a = b := by
  refine ⟨fun ⟨ha, hb⟩ => eq_of_matchCount ha hb, ?_⟩
  rintro rfl
  exact ⟨matchCount_self a, matchCount_self a⟩

/-! ## The exact quotient -/

/-- Twice the number of matching characters divided by the number of all, as an exact quotient; one
if there are none. -/
def quotient (a b : List Char) : ℚ :=
  if a.length + b.length = 0 then 1
  else (2 * matchCount a b : ℕ) / (a.length + b.length : ℕ)

lemma quotient_nonneg (a b : List Char) : 0 ≤ quotient a b := by
  unfold quotient
  split
  · exact zero_le_one
  · positivity

lemma two_matchCount_le (a b : List Char) : 2 * matchCount a b ≤ a.length + b.length := by
  have ha := matchCount_le_left a b
  have hb := matchCount_le_right a b
  omega

lemma quotient_le_one (a b : List Char) : quotient a b ≤ 1 := by
  unfold quotient
  split
  · exact le_refl 1
  · exact div_le_one_of_le₀ (by exact_mod_cast two_matchCount_le a b) (Nat.cast_nonneg _)

lemma two_matchCount_eq_iff : 2 * matchCount a b = a.length + b.length ↔ a = b := by
  rw [← matchCount_eq_iff]
  have ha := matchCount_le_left a b
  have hb := matchCount_le_right a b
  omega

/-- **The quotient is one just for equal texts.** -/
theorem quotient_eq_one_iff : quotient a b = 1 ↔ a = b := by
  unfold quotient
  split
  · rename_i hlength
    obtain ⟨ha, hb⟩ := Nat.add_eq_zero_iff.1 hlength
    simp [List.length_eq_zero_iff.1 ha, List.length_eq_zero_iff.1 hb]
  · rename_i hlength
    have hne : ((a.length + b.length : ℕ) : ℚ) ≠ 0 := Nat.cast_ne_zero.2 hlength
    rw [div_eq_one_iff_eq hne, Nat.cast_inj, two_matchCount_eq_iff]

end Conformance.Sequence
