/-
# The order of two compared names

The search for a longest common run goes through the first text, and for each of its characters
through the second, with a table of the lengths of the runs that end there (`Reach`).  What it finds
is a longest run that comes first in the first text, and then in the second
(`firstLongest_seedFrom`).  So in the other order another one of the longest runs may be found, and
then other texts are left to compare before and behind it.  If at every stage one run comes first in
both texts, and frequent characters start no runs in either text or in both, the order of the names
makes no difference (`nameSimilarity_comm`).
-/
import Mathlib.Tactic
import Conformance.Similarity.Names

namespace Conformance.Sequence

variable {seeds seeds' : Char → Bool} {a b : List Char}

/-! ## Common runs -/

/-- Characters that start runs stand in both texts, one after another, where the run does. -/
def IsSeedRun (seeds : Char → Bool) (a b : List Char) (r : Run) : Prop :=
  ∀ k < r.size, ∃ c, a[r.left + k]? = some c ∧ b[r.right + k]? = some c ∧ seeds c = true

/-- The same run, with the texts in the other order. -/
def Run.swap (r : Run) : Run :=
  ⟨r.right, r.left, r.size⟩

/-- A run comes before another one: in the first text, or at one place of it in the second. -/
def Run.Before (r r' : Run) : Prop :=
  r.left < r'.left ∨ (r.left = r'.left ∧ r.right ≤ r'.right)

namespace IsSeedRun

variable {r : Run}

lemma swap (h : IsSeedRun seeds a b r) : IsSeedRun seeds b a r.swap := by
  intro k hk
  obtain ⟨c, ha, hb, hc⟩ := h k hk
  exact ⟨c, hb, ha, hc⟩

lemma of_size_eq_zero (h : r.size = 0) : IsSeedRun seeds a b r := by
  intro k hk
  omega

/-- Only the characters that both texts hold matter. -/
lemma congr (hseeds : ∀ c ∈ a, c ∈ b → seeds c = seeds' c) (h : IsSeedRun seeds a b r) :
    IsSeedRun seeds' a b r := by
  intro k hk
  obtain ⟨c, ha, hb, hc⟩ := h k hk
  refine ⟨c, ha, hb, ?_⟩
  rw [← hseeds c (List.mem_of_getElem? ha) (List.mem_of_getElem? hb), hc]

lemma left_le (h : IsSeedRun seeds a b r) (hsize : 0 < r.size) : r.left + r.size ≤ a.length := by
  obtain ⟨c, ha, -, -⟩ := h (r.size - 1) (by omega)
  have hlt := (List.getElem?_eq_some_iff.1 ha).1
  omega

lemma right_le (h : IsSeedRun seeds a b r) (hsize : 0 < r.size) : r.right + r.size ≤ b.length :=
  h.swap.left_le hsize

lemma concat {left right size : Nat} {c : Char} (h : IsSeedRun seeds a b ⟨left, right, size⟩)
    (ha : a[left + size]? = some c) (hb : b[right + size]? = some c) (hc : seeds c = true) :
    IsSeedRun seeds a b ⟨left, right, size + 1⟩ := by
  intro k hk
  rcases Nat.lt_succ_iff_lt_or_eq.1 hk with hlt | rfl
  · exact h k hlt
  · exact ⟨c, ha, hb, hc⟩

lemma dropLast {left right size : Nat} (h : IsSeedRun seeds a b ⟨left, right, size + 1⟩) :
    IsSeedRun seeds a b ⟨left, right, size⟩ :=
  fun k hk => h k (Nat.lt_succ_of_lt hk)

/-- The last character of a run stands before the places where it ends. -/
lemma last {i j : Nat} (h : IsSeedRun seeds a b r) (hsize : 0 < r.size)
    (hi : r.left + r.size = i + 1) (hj : r.right + r.size = j + 1) :
    ∃ c, a[i]? = some c ∧ b[j]? = some c ∧ seeds c = true := by
  have hlast := h (r.size - 1) (by omega)
  have hi' : r.left + (r.size - 1) = i := by omega
  have hj' : r.right + (r.size - 1) = j := by omega
  rwa [hi', hj'] at hlast

end IsSeedRun

/-! ## Runs that end at a place -/

/-- The longest run that ends before a place of each text has a given length. -/
structure Reach (seeds : Char → Bool) (a b : List Char) (i j k : Nat) : Prop where
  le_left : k ≤ i
  le_right : k ≤ j
  run : IsSeedRun seeds a b ⟨i - k, j - k, k⟩
  most : ∀ r, IsSeedRun seeds a b r → r.left + r.size = i → r.right + r.size = j → r.size ≤ k

namespace Reach

variable {i j k : Nat}

/-- No run ends before the start of a text. -/
lemma zero_left (j : Nat) : Reach seeds a b 0 j 0 :=
  ⟨Nat.zero_le _, Nat.zero_le _, .of_size_eq_zero rfl, fun r _ hi _ => by omega⟩

lemma zero_right (i : Nat) : Reach seeds a b i 0 0 :=
  ⟨Nat.zero_le _, Nat.zero_le _, .of_size_eq_zero rfl, fun r _ _ hj => by omega⟩

/-- A run that ends before two equal characters that start runs goes on with them. -/
lemma longer {c : Char} (h : Reach seeds a b i j k) (ha : a[i]? = some c) (hb : b[j]? = some c)
    (hc : seeds c = true) : Reach seeds a b (i + 1) (j + 1) (k + 1) where
  le_left := Nat.succ_le_succ h.le_left
  le_right := Nat.succ_le_succ h.le_right
  run := by
    have hrun := h.run.concat (c := c) (by rwa [Nat.sub_add_cancel h.le_left])
      (by rwa [Nat.sub_add_cancel h.le_right]) hc
    rwa [Nat.add_sub_add_right, Nat.add_sub_add_right]
  most := by
    rintro ⟨left, right, size⟩ hr (hi : left + size = i + 1) (hj : right + size = j + 1)
    show size ≤ k + 1
    cases size with
    | zero => exact Nat.zero_le _
    | succ n =>
      -- without its last character, the run ends one place earlier
      exact Nat.succ_le_succ (h.most _ hr.dropLast (Nat.succ.inj hi) (Nat.succ.inj hj))

/-- No run ends behind other characters. -/
lemma cut {x y : Char} (hx : a[i]? = some x) (hy : b[j]? = some y)
    (hnot : ¬(x = y ∧ seeds y = true)) : Reach seeds a b (i + 1) (j + 1) 0 where
  le_left := Nat.zero_le _
  le_right := Nat.zero_le _
  run := .of_size_eq_zero rfl
  most := by
    intro r hr hi hj
    by_contra hpos
    obtain ⟨c, ha, hb, hc⟩ := hr.last (Nat.lt_of_not_le hpos) hi hj
    obtain rfl := Option.some.inj (hx.symm.trans ha)
    obtain rfl := Option.some.inj (hy.symm.trans hb)
    exact hnot ⟨rfl, hc⟩

/-- What ends behind the next characters. -/
lemma step {x y : Char} (h : Reach seeds a b i j k) (hx : a[i]? = some x) (hy : b[j]? = some y) :
    Reach seeds a b (i + 1) (j + 1) (if x == y && seeds y then k + 1 else 0) := by
  split
  · rename_i hsame
    simp only [Bool.and_eq_true, beq_iff_eq] at hsame
    obtain ⟨rfl, hseed⟩ := hsame
    exact h.longer hx hy hseed
  · rename_i hother
    exact cut hx hy fun ⟨hxy, hseed⟩ => hother (by simp [hxy, hseed])

end Reach

/-- A row of the table: for every place of the second text behind a given one, the length of the
longest run that ends there and before a place of the first. -/
def IsRow (seeds : Char → Bool) (a b : List Char) (i j : Nat) (row : List Nat) : Prop :=
  ∀ m, j + m < b.length → Reach seeds a b i (j + m + 1) (row.getD m 0)

lemma length_runsEndingAt (x : Char) (diagonal : Nat) (ys : List Char) (before : List Nat) :
    (runsEndingAt seeds x diagonal ys before).length = ys.length := by
  induction ys generalizing diagonal before with
  | nil => rfl
  | cons y ys ih => rw [runsEndingAt, List.length_cons, ih, List.length_cons]

/-- The first character of what is left of a text stands there. -/
lemma getElem?_of_drop_eq {u us : List Char} {x : Char} {i : Nat} (h : u.drop i = x :: us) :
    u[i]? = some x ∧ u.drop (i + 1) = us := by
  refine ⟨?_, ?_⟩
  · rw [← List.head?_drop, h]
    rfl
  · rw [← List.drop_drop, h]
    rfl

/-- From the row for the places before a character comes that for the places behind it. -/
lemma isRow_runsEndingAt {x : Char} {i j diagonal : Nat} {ys : List Char} {before : List Nat}
    (hx : a[i]? = some x) (hys : b.drop j = ys) (hdiagonal : Reach seeds a b i j diagonal)
    (hbefore : IsRow seeds a b i j before) :
    IsRow seeds a b (i + 1) j (runsEndingAt seeds x diagonal ys before) := by
  induction ys generalizing j diagonal before with
  | nil =>
    intro m hm
    have hlength := List.drop_eq_nil_iff.1 hys
    omega
  | cons y ys ih =>
    obtain ⟨hy, hys'⟩ := getElem?_of_drop_eq hys
    intro m hm
    cases m with
    | zero => exact hdiagonal.step hx hy
    | succ m =>
      have hlt : j < b.length := (List.getElem?_eq_some_iff.1 hy).1
      have hfirst : Reach seeds a b i (j + 1) (before.headD 0) := by
        have h := hbefore 0 hlt
        cases before <;> exact h
      have htail : IsRow seeds a b i (j + 1) before.tail := by
        intro m hm
        have h := hbefore (m + 1) (by omega)
        have hj : j + (m + 1) + 1 = j + 1 + m + 1 := by omega
        rw [hj] at h
        cases before <;> exact h
      have h := ih hys' hfirst htail m (by omega)
      have hj : j + 1 + m + 1 = j + (m + 1) + 1 := by omega
      rw [hj] at h
      exact h

/-! ## The first of the longest runs -/

/-- The run has been passed when the search is at a place of the table. -/
def Run.Passed (i j : Nat) (r : Run) : Prop :=
  r.left + r.size ≤ i ∨ (r.left + r.size = i + 1 ∧ r.right + r.size ≤ j)

/-- What has been passed at the next place was passed before, or ends there. -/
lemma Run.Passed.before_or_ends {i j : Nat} {r : Run} (h : r.Passed i (j + 1)) :
    r.Passed i j ∨ (r.left + r.size = i + 1 ∧ r.right + r.size = j + 1) := by
  rcases h with h | ⟨hi, hj⟩
  · exact .inl (.inl h)
  · exact (Nat.le_succ_iff.1 hj).imp (fun hj => .inr ⟨hi, hj⟩) fun hj => ⟨hi, hj⟩

/-- The best of the runs that have been passed. -/
structure BestPassed (seeds : Char → Bool) (a b : List Char) (i j : Nat) (best : Run) : Prop where
  run : IsSeedRun seeds a b best
  passed : best.Passed i j
  start : best.size = 0 → best.left = 0 ∧ best.right = 0
  longest : ∀ r, IsSeedRun seeds a b r → 0 < r.size → r.Passed i j → r.size ≤ best.size
  first : ∀ r, IsSeedRun seeds a b r → 0 < r.size → r.Passed i j → r.size = best.size →
    best.Before r

namespace BestPassed

variable {i j k : Nat} {best : Run}

lemma initial : BestPassed seeds a b 0 0 ⟨0, 0, 0⟩ where
  run := .of_size_eq_zero rfl
  passed := .inl (Nat.le_refl 0)
  start := fun _ => ⟨rfl, rfl⟩
  longest := by
    rintro r - hpos (h | ⟨h, h'⟩) <;> omega
  first := by
    rintro r - hpos (h | ⟨h, h'⟩) <;> omega

/-- The longest run that ends at the next place is the best one if it is longer. -/
lemma replace (h : BestPassed seeds a b i j best) (hk : Reach seeds a b (i + 1) (j + 1) k)
    (hlonger : best.size < k) : BestPassed seeds a b i (j + 1) ⟨i + 1 - k, j + 1 - k, k⟩ where
  run := hk.run
  passed := .inr ⟨Nat.sub_add_cancel hk.le_left, (Nat.sub_add_cancel hk.le_right).le⟩
  start := by
    intro (hzero : k = 0)
    omega
  longest := by
    intro r hr hpos hpassed
    rcases hpassed.before_or_ends with hbefore | ⟨hi, hj⟩
    · exact ((h.longest r hr hpos hbefore).trans_lt hlonger).le
    · exact hk.most r hr hi hj
  first := by
    intro r hr hpos hpassed (hsize : r.size = k)
    rcases hpassed.before_or_ends with hbefore | ⟨hi, hj⟩
    · have hshorter := h.longest r hr hpos hbefore
      omega
    · have hleft : i + 1 - k = r.left := by omega
      have hright : j + 1 - k = r.right := by omega
      exact .inr ⟨hleft, hright.le⟩

/-- Otherwise the best one stays: at the same length, it was passed earlier. -/
lemma keep (h : BestPassed seeds a b i j best) (hk : Reach seeds a b (i + 1) (j + 1) k)
    (hnot : k ≤ best.size) : BestPassed seeds a b i (j + 1) best where
  run := h.run
  passed := h.passed.imp_right fun ⟨hi, hj⟩ => ⟨hi, Nat.le_succ_of_le hj⟩
  start := h.start
  longest := by
    intro r hr hpos hpassed
    rcases hpassed.before_or_ends with hbefore | ⟨hi, hj⟩
    · exact h.longest r hr hpos hbefore
    · exact (hk.most r hr hi hj).trans hnot
  first := by
    intro r hr hpos hpassed hsize
    rcases hpassed.before_or_ends with hbefore | ⟨hi, hj⟩
    · exact h.first r hr hpos hbefore hsize
    · rcases h.passed with hi' | ⟨hi', hj'⟩
      · exact .inl (by omega)
      · exact .inr ⟨by omega, by omega⟩

lemma step (h : BestPassed seeds a b i j best) (hk : Reach seeds a b (i + 1) (j + 1) k) :
    BestPassed seeds a b i (j + 1) (if best.size < k then ⟨i + 1 - k, j + 1 - k, k⟩ else best) := by
  split
  · rename_i hlonger
    exact h.replace hk hlonger
  · rename_i hnot
    exact h.keep hk (Nat.le_of_not_lt hnot)

/-- A whole row. -/
lemma improve {row : List Nat} (h : BestPassed seeds a b i j best)
    (hrow : ∀ m < row.length, Reach seeds a b (i + 1) (j + m + 1) (row.getD m 0)) :
    BestPassed seeds a b i (j + row.length) (improve i j best row) := by
  induction row generalizing j best with
  | nil => exact h
  | cons k row ih =>
    have hk : Reach seeds a b (i + 1) (j + 1) k := hrow 0 (by simp)
    have hrest := ih (h.step hk) fun m hm => by
      have hm' := hrow (m + 1) (by simpa using hm)
      have hj : j + (m + 1) + 1 = j + 1 + m + 1 := by omega
      rw [hj] at hm'
      exact hm'
    have hlength : j + (k :: row).length = j + 1 + row.length := by
      rw [List.length_cons]
      omega
    rw [hlength, Sequence.improve]
    exact hrest

/-- At the end of a row, the next one is started. -/
lemma nextRow (h : BestPassed seeds a b i b.length best) : BestPassed seeds a b (i + 1) 0 best := by
  have hpassed : ∀ r, IsSeedRun seeds a b r → 0 < r.size → r.Passed (i + 1) 0 →
      r.Passed i b.length := by
    rintro r hr hpos (hi | ⟨-, hj⟩)
    · rcases Nat.le_succ_iff.1 hi with hi | hi
      · exact .inl hi
      · exact .inr ⟨hi, hr.right_le hpos⟩
    · omega
  refine ⟨h.run, .inl ?_, h.start, fun r hr hpos hr' => h.longest r hr hpos (hpassed r hr hpos hr'),
    fun r hr hpos hr' => h.first r hr hpos (hpassed r hr hpos hr')⟩
  rcases h.passed with hi | ⟨hi, -⟩ <;> omega

/-- The whole search. -/
lemma seedFrom {xs : List Char} {before : List Nat} (hxs : a.drop i = xs) (hi : i ≤ a.length)
    (hbefore : IsRow seeds a b i 0 before) (h : BestPassed seeds a b i 0 best) :
    BestPassed seeds a b a.length 0 (seedFrom seeds b i before best xs) := by
  induction xs generalizing i before best with
  | nil =>
    have hlength := List.drop_eq_nil_iff.1 hxs
    obtain rfl : i = a.length := by omega
    exact h
  | cons x xs ih =>
    obtain ⟨hx, hxs'⟩ := getElem?_of_drop_eq hxs
    have hlt : i < a.length := (List.getElem?_eq_some_iff.1 hx).1
    have hrow := isRow_runsEndingAt hx (List.drop_zero (l := b)) (Reach.zero_right i) hbefore
    have hbest := h.improve fun m hm => by
      rw [length_runsEndingAt] at hm
      simpa using hrow m (by simpa using hm)
    rw [Nat.zero_add, length_runsEndingAt] at hbest
    exact ih hxs' hlt hrow hbest.nextRow

end BestPassed

/-- A longest common run that comes first in the first text, and then in the second. -/
structure FirstLongest (seeds : Char → Bool) (a b : List Char) (r : Run) : Prop where
  run : IsSeedRun seeds a b r
  longest : ∀ r', IsSeedRun seeds a b r' → r'.size ≤ r.size
  first : ∀ r', IsSeedRun seeds a b r' → r'.size = r.size → r.Before r'

/-- **The search finds the first of the longest common runs.** -/
theorem firstLongest_seedFrom (seeds : Char → Bool) (a b : List Char) :
    FirstLongest seeds a b (seedFrom seeds b 0 [] ⟨0, 0, 0⟩ a) := by
  have hrow : IsRow seeds a b 0 0 [] := fun m _ => Reach.zero_left _
  have h := BestPassed.seedFrom List.drop_zero (Nat.zero_le _) hrow BestPassed.initial
  have hpassed : ∀ r, IsSeedRun seeds a b r → 0 < r.size → r.Passed a.length 0 :=
    fun r hr hpos => .inl (hr.left_le hpos)
  refine ⟨h.run, fun r hr => ?_, fun r hr hsize => ?_⟩
  · rcases Nat.eq_zero_or_pos r.size with hzero | hpos
    · omega
    · exact h.longest r hr hpos (hpassed r hr hpos)
  · rcases Nat.eq_zero_or_pos r.size with hzero | hpos
    · obtain ⟨hleft, hright⟩ := h.start (hsize.symm.trans hzero)
      rcases Nat.eq_zero_or_pos r.left with hr' | hr'
      · exact .inr ⟨by omega, by omega⟩
      · exact .inl (by omega)
    · exact h.first r hr hpos (hpassed r hr hpos) hsize

namespace FirstLongest

variable {r r' : Run}

/-- There is only one. -/
lemma unique (h : FirstLongest seeds a b r) (h' : FirstLongest seeds a b r') : r = r' := by
  have hsize : r'.size = r.size := Nat.le_antisymm (h.longest r' h'.run) (h'.longest r h.run)
  have hplace : r.left = r'.left ∧ r.right = r'.right := by
    rcases h.first r' h'.run hsize with hlt | ⟨hleft, hright⟩ <;>
      rcases h'.first r h.run hsize.symm with hlt' | ⟨hleft', hright'⟩ <;> omega
  cases r
  cases r'
  simp_all

/-- What is extended is this run. -/
lemma longest_eq (h : FirstLongest seeds a b r) : Sequence.longest seeds a b = extend a b r := by
  rw [Sequence.longest, h.unique (firstLongest_seedFrom seeds a b)]

lemma congr (hseeds : ∀ c ∈ a, c ∈ b → seeds c = seeds' c) (h : FirstLongest seeds a b r) :
    FirstLongest seeds' a b r := by
  have hback : ∀ r, IsSeedRun seeds' a b r → IsSeedRun seeds a b r := fun r hr =>
    hr.congr fun c ha hb => (hseeds c ha hb).symm
  exact ⟨h.run.congr hseeds, fun r hr => h.longest r (hback r hr),
    fun r hr => h.first r (hback r hr)⟩

lemma left_le (h : FirstLongest seeds a b r) : r.left + r.size ≤ a.length := by
  rcases Nat.eq_zero_or_pos r.size with hzero | hpos
  · -- an empty run can be found at the start
    rcases h.first ⟨0, 0, 0⟩ (.of_size_eq_zero rfl) hzero.symm with hlt | ⟨hleft, -⟩
    · exact absurd hlt (Nat.not_lt_zero _)
    · have hleft' : r.left = 0 := hleft
      omega
  · exact h.run.left_le hpos

end FirstLongest

/-! ## Longer runs -/

lemma commonStart_comm (u v : List Char) : commonStart u v = commonStart v u := by
  induction u generalizing v with
  | nil => cases v <;> rfl
  | cons x u ih =>
    cases v with
    | nil => rfl
    | cons y v =>
      rw [commonStart, commonStart, ih v]
      by_cases hxy : x = y
      · rw [hxy]
      · have hyx : ¬ y = x := fun heq => hxy heq.symm
        simp [hxy, hyx]

lemma commonStart_le (u v : List Char) : commonStart u v ≤ u.length := by
  induction u generalizing v with
  | nil => cases v <;> exact Nat.le_refl 0
  | cons x u ih =>
    cases v with
    | nil => exact Nat.zero_le _
    | cons y v =>
      rw [commonStart, List.length_cons]
      split
      · exact Nat.succ_le_succ (ih v)
      · exact Nat.zero_le _

/-- A run grows in both orders of the texts alike. -/
lemma extend_swap (a b : List Char) (r : Run) : extend b a r.swap = (extend a b r).swap := by
  show extend b a ⟨r.right, r.left, r.size⟩ = (extend a b r).swap
  simp only [extend, Run.swap]
  rw [commonStart_comm (b.take r.right).reverse, commonStart_comm (b.drop (r.right + r.size))]

lemma left_extend_le {r : Run} (h : r.left + r.size ≤ a.length) :
    (extend a b r).left + (extend a b r).size ≤ a.length := by
  have hback := commonStart_le (a.take r.left).reverse (b.take r.right).reverse
  have hon := commonStart_le (a.drop (r.left + r.size)) (b.drop (r.right + r.size))
  rw [List.length_reverse, List.length_take] at hback
  rw [List.length_drop] at hon
  simp only [extend]
  omega

/-! ## All runs -/

/-- At every stage of the comparison, one longest common run comes first in both texts.  It is taken
out together with the equal characters around it, and what stands before it and behind it is
compared in the same way. -/
inductive Aligned (seeds : Char → Bool) : List Char → List Char → Prop
  | apart {a b : List Char} {r : Run} (h : FirstLongest seeds a b r)
      (h' : FirstLongest seeds b a r.swap) (hnone : (extend a b r).size = 0) : Aligned seeds a b
  | block {a b : List Char} {r : Run} (h : FirstLongest seeds a b r)
      (h' : FirstLongest seeds b a r.swap)
      (before : Aligned seeds (a.take (extend a b r).left) (b.take (extend a b r).right))
      (behind : Aligned seeds (a.drop ((extend a b r).left + (extend a b r).size))
        (b.drop ((extend a b r).right + (extend a b r).size))) : Aligned seeds a b

lemma matchesFrom_eq_zero (h : (longest seeds a b).size = 0) (fuel : Nat) :
    matchesFrom seeds fuel a b = 0 := by
  cases fuel with
  | zero => rfl
  | succ fuel => simp [matchesFrom, h]

lemma matchesFrom_succ (fuel : Nat) (h : (longest seeds a b).size ≠ 0) :
    matchesFrom seeds (fuel + 1) a b = (longest seeds a b).size
      + matchesFrom seeds fuel (a.take (longest seeds a b).left) (b.take (longest seeds a b).right)
      + matchesFrom seeds fuel (a.drop ((longest seeds a b).left + (longest seeds a b).size))
        (b.drop ((longest seeds a b).right + (longest seeds a b).size)) := by
  simp [matchesFrom, h]

/-- Only the characters that both texts hold matter. -/
lemma matchesFrom_congr (fuel : Nat) (hseeds : ∀ c ∈ a, c ∈ b → seeds c = seeds' c) :
    matchesFrom seeds fuel a b = matchesFrom seeds' fuel a b := by
  induction fuel generalizing a b with
  | zero => rfl
  | succ fuel ih =>
    have hlongest : longest seeds a b = longest seeds' a b := by
      have hfirst := firstLongest_seedFrom seeds a b
      rw [hfirst.longest_eq, (hfirst.congr hseeds).longest_eq]
    have hparts : ∀ {u v : List Char}, u ⊆ a → v ⊆ b →
        matchesFrom seeds fuel u v = matchesFrom seeds' fuel u v := fun hu hv =>
      ih fun c hc hc' => hseeds c (hu hc) (hv hc')
    by_cases hsize : (longest seeds' a b).size = 0
    · rw [matchesFrom_eq_zero (by rw [hlongest, hsize]), matchesFrom_eq_zero hsize]
    · have hsize' : (longest seeds a b).size ≠ 0 := by
        rw [hlongest]
        exact hsize
      rw [matchesFrom_succ fuel hsize', matchesFrom_succ fuel hsize, hlongest,
        hparts (List.take_subset _ _) (List.take_subset _ _),
        hparts (List.drop_subset _ _) (List.drop_subset _ _)]

/-- **As many characters match in both orders of aligned texts.** -/
theorem Aligned.matchesFrom_comm (h : Aligned seeds a b) (fuel fuel' : Nat)
    (ha : a.length ≤ fuel) (hb : b.length ≤ fuel') :
    matchesFrom seeds fuel a b = matchesFrom seeds fuel' b a := by
  induction h generalizing fuel fuel' with
  | @apart a b r h h' hnone =>
    have hnone' : (extend b a r.swap).size = 0 := by
      rw [extend_swap]
      exact hnone
    rw [matchesFrom_eq_zero (by rw [h.longest_eq, hnone]),
      matchesFrom_eq_zero (by rw [h'.longest_eq, hnone'])]
  | @block a b r h h' before behind ihBefore ihBehind =>
    have hlongest : longest seeds b a = (longest seeds a b).swap := by
      rw [h.longest_eq, h'.longest_eq, extend_swap]
    by_cases hsize : (longest seeds a b).size = 0
    · have hsize' : (longest seeds b a).size = 0 := by
        rw [hlongest]
        exact hsize
      rw [matchesFrom_eq_zero hsize, matchesFrom_eq_zero hsize']
    · -- a block is taken out of both texts, so both bounds go down
      have hsize' : (longest seeds b a).size ≠ 0 := by
        rw [hlongest]
        exact hsize
      have hleft := left_extend_le (b := b) h.left_le
      have hright := left_extend_le (b := a) h'.left_le
      rw [← h.longest_eq] at hleft ihBefore ihBehind
      rw [extend_swap, ← h.longest_eq] at hright
      have hright' : (longest seeds a b).right + (longest seeds a b).size ≤ b.length := hright
      obtain ⟨n, rfl⟩ := Nat.exists_eq_add_of_le' (by omega : 1 ≤ fuel)
      obtain ⟨n', rfl⟩ := Nat.exists_eq_add_of_le' (by omega : 1 ≤ fuel')
      have hbefore := ihBefore n n' (by rw [List.length_take]; omega)
        (by rw [List.length_take]; omega)
      have hbehind := ihBehind n n' (by rw [List.length_drop]; omega)
        (by rw [List.length_drop]; omega)
      rw [matchesFrom_succ n hsize, matchesFrom_succ n' hsize', hlongest, hbefore, hbehind]
      rfl

/-! ## Frequent characters -/

lemma seedsIn_of_notMem {c : Char} (h : c ∉ b) : seedsIn b c = true := by
  simp [seedsIn, List.count_eq_zero_of_not_mem h]

lemma contains_frequent (b : List Char) (c : Char) : (!(frequent b).contains c) = seedsIn b c := by
  by_cases h : c ∈ b
  · simp [frequent, h]
  · simp [frequent, h, seedsIn_of_notMem h]

lemma matchCount_eq (a b : List Char) :
    matchCount a b = matchesFrom (seedsIn b) a.length a b := by
  have hseeds : (fun c => !(frequent b).contains c) = seedsIn b := funext (contains_frequent b)
  rw [matchCount, hseeds]

/-- As many characters match in both orders, if frequent characters start no runs in both, or in
none. -/
lemma matchCount_comm (hseeds : ∀ c ∈ a, c ∈ b → seedsIn a c = seedsIn b c)
    (h : Aligned (seedsIn b) a b) : matchCount a b = matchCount b a := by
  rw [matchCount_eq, matchCount_eq, h.matchesFrom_comm a.length b.length le_rfl le_rfl]
  exact matchesFrom_congr _ fun c hb ha => (hseeds c ha hb).symm

lemma ratio_comm (hseeds : ∀ c ∈ a, c ∈ b → seedsIn a c = seedsIn b c)
    (h : Aligned (seedsIn b) a b) : ratio a b = ratio b a := by
  rw [ratio, ratio, matchCount_comm hseeds h, Nat.add_comm]

lemma firstLongest_of_eq {r : Run} (h : seedFrom seeds b 0 [] ⟨0, 0, 0⟩ a = r) :
    FirstLongest seeds a b r := by
  rw [← h]
  exact firstLongest_seedFrom seeds a b

end Conformance.Sequence

namespace Conformance

open Sequence

/-- **The order of two names makes no difference to their similarity**, if at every stage of the
comparison one longest common run comes first in both, and each character of both is too frequent to
start a run in both, or in none. -/
theorem nameSimilarity_comm (a b : String)
    (hseeds : ∀ c ∈ Text.lowerList a.toList, c ∈ Text.lowerList b.toList →
      seedsIn (Text.lowerList a.toList) c = seedsIn (Text.lowerList b.toList) c)
    (h : Aligned (seedsIn (Text.lowerList b.toList)) (Text.lowerList a.toList)
      (Text.lowerList b.toList)) :
    nameSimilarity a b = nameSimilarity b a :=
  ratio_comm hseeds h

/-- Two runs of these names are longest, and the same one comes first in both. -/
theorem nameSimilarity_comm_kinds :
    nameSimilarity "RouteKind" "RoutingKind" = nameSimilarity "RoutingKind" "RouteKind" := by
  have hlower : Text.lowerList "RouteKind".toList = "routekind".toList ∧
      Text.lowerList "RoutingKind".toList = "routingkind".toList := by decide +kernel
  refine nameSimilarity_comm "RouteKind" "RoutingKind" ?_ ?_ <;> rw [hlower.1, hlower.2]
  · -- the names are too short to have frequent characters
    exact fun c _ _ => rfl
  · have hseed : ∀ {a b : List Char} (r : Run),
        seedFrom (seedsIn "routingkind".toList) b 0 [] ⟨0, 0, 0⟩ a = r →
        FirstLongest (seedsIn "routingkind".toList) a b r := fun _ => firstLongest_of_eq
    refine .block (hseed ⟨0, 0, 4⟩ (by decide +kernel)) (hseed ⟨0, 0, 4⟩ (by decide +kernel)) ?_ ?_
    · exact .apart (hseed ⟨0, 0, 0⟩ (by decide +kernel)) (hseed ⟨0, 0, 0⟩ (by decide +kernel))
        (by decide +kernel)
    · refine .block (hseed ⟨1, 3, 4⟩ (by decide +kernel)) (hseed ⟨3, 1, 4⟩ (by decide +kernel))
        ?_ ?_
      · exact .apart (hseed ⟨0, 0, 0⟩ (by decide +kernel)) (hseed ⟨0, 0, 0⟩ (by decide +kernel))
          (by decide +kernel)
      · exact .apart (hseed ⟨0, 0, 0⟩ (by decide +kernel)) (hseed ⟨0, 0, 0⟩ (by decide +kernel))
          (by decide +kernel)

/-- The letters of these names are the longest common runs, and another one comes first in each: so
one character matches in one order and two in the other. -/
theorem nameSimilarity_not_comm :
    matchCount "tide".toList "diet".toList = 1 ∧ matchCount "diet".toList "tide".toList = 2 ∧
      nameSimilarity "tide" "diet" ≠ nameSimilarity "diet" "tide" := by
  decide +kernel

end Conformance
