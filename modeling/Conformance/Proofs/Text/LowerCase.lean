/-
# Small letters

Lower case has one letter for every letter, the capital dotted I apart, which becomes two
(`length_lowerList`).  What it gives are small letters, whose lower case they are themselves: no
small letter of a run of capitals lies in another run (`misses_of_mem_capitalRuns`).  So lower case
of lower case changes nothing (`lowerList_lowerList`).
-/
import Conformance.Text.LowerCase
import Mathlib.Tactic

namespace Conformance.Text

/-! ## The number of letters -/

lemma length_lowerAt (before : List Char) (c : Char) (after : List Char) :
    (lowerAt before c after).length = 1 + if c = 'İ' then 1 else 0 := by
  by_cases hsigma : c = 'Σ'
  · subst hsigma
    rfl
  by_cases hdotted : c = 'İ'
  · subst hdotted
    rfl
  simp [lowerAt, hsigma, hdotted]

lemma length_lowerFrom (before cs : List Char) :
    (lowerFrom before cs).length = cs.length + cs.count 'İ' := by
  induction cs generalizing before with
  | nil => rfl
  | cons c cs ih =>
    rw [lowerFrom, List.length_append, length_lowerAt, ih, List.length_cons, List.count_cons]
    simp only [beq_iff_eq]
    omega

/-- **Lower case of a text is longer by one letter for every capital dotted I.** -/
theorem length_lowerList (cs : List Char) :
    (lowerList cs).length = cs.length + cs.count 'İ' :=
  length_lowerFrom [] cs

/-! ## Small letters -/

/-- A letter that lower case leaves as it is. -/
structure IsSmall (c : Char) : Prop where
  lowerChar_eq : lowerChar c = c
  ne_sigma : c ≠ 'Σ'
  ne_dotted : c ≠ 'İ'

instance (c : Char) : Decidable (IsSmall c) :=
  decidable_of_iff (lowerChar c = c ∧ c ≠ 'Σ' ∧ c ≠ 'İ')
    ⟨fun ⟨h, hs, hd⟩ => ⟨h, hs, hd⟩, fun ⟨h, hs, hd⟩ => ⟨h, hs, hd⟩⟩

lemma lowerChar_of_below {c : Char} (h : c.toNat < 128) : lowerChar c = c.toLower :=
  if_pos h

lemma isSmall_of_below : ∀ n < 128, IsSmall (Char.ofNat n).toLower := by
  decide

lemma isSmall_of_letter : ∀ n ≥ 97, n < 128 → IsSmall (Char.ofNat n) := by
  intro n hn hlt
  have hall : ∀ n < 128, 97 ≤ n → IsSmall (Char.ofNat n) := by decide
  exact hall n hlt hn

/-- A letter in no run of capitals. -/
lemma isSmall_of_findSome? {c : Char} (hc : 128 ≤ c.toNat)
    (h : capitalRuns.findSome? (·.lower? c.toNat) = none) : IsSmall c where
  lowerChar_eq := by rw [lowerChar, if_neg (by omega), h]
  ne_sigma := by
    rintro rfl
    exact absurd h (by decide +kernel)
  ne_dotted := by
    rintro rfl
    exact absurd h (by decide +kernel)

/-- A letter for which each run by itself has no small letter. -/
lemma isSmall_of_all {c : Char} (hc : 128 ≤ c.toNat)
    (h : capitalRuns.toList.all (fun r => (r.lower? c.toNat).isNone) = true) : IsSmall c := by
  refine isSmall_of_findSome? hc (Array.findSome?_eq_none_iff.2 fun r hr => ?_)
  exact Option.isNone_iff_eq_none.1 (List.all_eq_true.1 h r (Array.mem_toList_iff.2 hr))

namespace CapitalRun

/-- The least of the small letters of a run. -/
def firstSmall (r : CapitalRun) : Nat :=
  (r.first + r.shift).toNat

/-- The greatest of the small letters of a run. -/
def lastSmall (r : CapitalRun) : Nat :=
  (r.last + r.shift).toNat

/-- No small letter of a run is a capital of another: they lie before it, behind it, or between its
capitals. -/
def misses (r s : CapitalRun) : Bool :=
  r.lastSmall.blt s.first || s.last.blt r.firstSmall ||
    (s.step == 2 && (r.step == 2 || r.first == r.last) && (r.firstSmall + s.first) % 2 == 1)

/-- The small letters of a run are code points, and all below 128 or all above; below stand letters
that are small there. -/
structure SmallsInOnePart (r : CapitalRun) : Prop where
  below_or_above : r.lastSmall < 128 ∨ 128 ≤ r.firstSmall
  letter : 97 ≤ r.firstSmall
  valid : r.lastSmall < 0xD800 ∨ 0xE000 ≤ r.firstSmall ∧ r.lastSmall < 0x110000

instance (r : CapitalRun) : Decidable r.SmallsInOnePart :=
  decidable_of_iff ((r.lastSmall < 128 ∨ 128 ≤ r.firstSmall) ∧ 97 ≤ r.firstSmall ∧
      (r.lastSmall < 0xD800 ∨ 0xE000 ≤ r.firstSmall ∧ r.lastSmall < 0x110000))
    ⟨fun ⟨h, hl, hv⟩ => ⟨h, hl, hv⟩, fun ⟨h, hl, hv⟩ => ⟨h, hl, hv⟩⟩

variable {r s : CapitalRun} {n m : Nat}

lemma lower?_eq_some_iff :
    r.lower? n = some m ↔
      r.first ≤ n ∧ n ≤ r.last ∧ (n - r.first) % r.step = 0 ∧ (n + r.shift).toNat = m := by
  simp [lower?, and_assoc]

lemma lower?_eq_none_of_misses (h : r.lower? n = some m) (hsmall : 0 < r.firstSmall)
    (hmisses : r.misses s = true) : s.lower? m = none := by
  obtain ⟨hfirst, hlast, hstep, rfl⟩ := lower?_eq_some_iff.1 h
  rw [Option.eq_none_iff_forall_not_mem]
  intro k hk
  obtain ⟨hfirst', hlast', hstep', -⟩ := lower?_eq_some_iff.1 hk
  simp only [misses, firstSmall, lastSmall, Bool.or_eq_true, Bool.and_eq_true, Nat.blt_eq,
    beq_iff_eq] at hmisses hsmall
  rcases hmisses with (hbefore | hbehind) | ⟨⟨htwo, hone⟩, hodd⟩
  · omega
  · omega
  · rw [htwo] at hstep'
    rcases hone with hr | hr
    · rw [hr] at hstep
      omega
    · omega

end CapitalRun

/-- **No small letter of a run of capitals lies in another run.** -/
lemma misses_of_mem_capitalRuns :
    ∀ r ∈ capitalRuns.toList, r.SmallsInOnePart ∧ capitalRuns.toList.all r.misses = true := by
  decide +kernel

lemma toNat_ofNat_of_valid {n : Nat} (h : n < 0xD800 ∨ 0xE000 ≤ n ∧ n < 0x110000) :
    (Char.ofNat n).toNat = n := by
  have hvalid : n.isValidChar := by
    rcases h with h | ⟨hlow, hhigh⟩
    · exact Or.inl h
    · exact Or.inr ⟨by omega, hhigh⟩
  rw [Char.ofNat, dif_pos hvalid]
  rfl

/-- Lower case of a character is a small letter. -/
lemma isSmall_lowerChar (c : Char) : IsSmall (lowerChar c) := by
  by_cases hc : c.toNat < 128
  · have hsmall := isSmall_of_below c.toNat hc
    rwa [Char.ofNat_toNat, ← lowerChar_of_below hc] at hsmall
  rw [lowerChar, if_neg hc]
  cases hfind : capitalRuns.findSome? (·.lower? c.toNat) with
  | none => exact isSmall_of_findSome? (Nat.le_of_not_lt hc) hfind
  | some m =>
    obtain ⟨r, hr, hlower⟩ := Array.exists_of_findSome?_eq_some hfind
    obtain ⟨hpart, hmisses⟩ := misses_of_mem_capitalRuns r (Array.mem_toList_iff.2 hr)
    obtain ⟨hfirst, hlast, -, hm⟩ := CapitalRun.lower?_eq_some_iff.1 hlower
    have hletter := hpart.letter
    have hpart' := hpart.below_or_above
    have hvalid := hpart.valid
    simp only [CapitalRun.firstSmall, CapitalRun.lastSmall] at hletter hpart' hvalid
    have hnat : (Char.ofNat m).toNat = m := toNat_ofNat_of_valid (by omega)
    change IsSmall (Char.ofNat m)
    by_cases hbelow : m < 128
    · exact isSmall_of_letter m (by omega) hbelow
    · refine isSmall_of_findSome? (by omega) ?_
      rw [hnat, Array.findSome?_eq_none_iff]
      intro s hs
      have hpositive : 0 < r.firstSmall := lt_of_lt_of_le (by decide) hpart.letter
      exact CapitalRun.lower?_eq_none_of_misses hlower hpositive
        (List.all_eq_true.1 hmisses s (Array.mem_toList_iff.2 hs))

/-! ## Lower case of lower case -/

lemma isSmall_lowerSigma (before after : List Char) : IsSmall (lowerSigma before after) := by
  unfold lowerSigma
  split
  · exact isSmall_of_all (by decide) (by decide +kernel)
  · exact isSmall_of_all (by decide) (by decide +kernel)

lemma isSmall_of_mem_lowerAt {before after : List Char} {c x : Char}
    (h : x ∈ lowerAt before c after) : IsSmall x := by
  unfold lowerAt at h
  split at h
  · rw [List.mem_singleton.1 h]
    exact isSmall_lowerSigma before after
  · split at h
    · rcases List.mem_cons.1 h with rfl | h
      · decide +kernel
      · rw [List.mem_singleton.1 h]
        exact isSmall_of_all (by decide) (by decide +kernel)
    · rw [List.mem_singleton.1 h]
      exact isSmall_lowerChar c

lemma isSmall_of_mem_lowerFrom {before cs : List Char} {x : Char} (h : x ∈ lowerFrom before cs) :
    IsSmall x := by
  induction cs generalizing before with
  | nil => exact absurd h List.not_mem_nil
  | cons c cs ih =>
    rcases List.mem_append.1 h with h | h
    · exact isSmall_of_mem_lowerAt h
    · exact ih h

lemma lowerFrom_of_isSmall {before cs : List Char} (h : ∀ x ∈ cs, IsSmall x) :
    lowerFrom before cs = cs := by
  induction cs generalizing before with
  | nil => rfl
  | cons c cs ih =>
    obtain ⟨hc, hcs⟩ := List.forall_mem_cons.1 h
    rw [lowerFrom, ih hcs]
    simp [lowerAt, hc.ne_sigma, hc.ne_dotted, hc.lowerChar_eq]

/-- **Lower case of lower case changes nothing.** -/
theorem lowerList_lowerList (cs : List Char) : lowerList (lowerList cs) = lowerList cs :=
  lowerFrom_of_isSmall fun _ => isSmall_of_mem_lowerFrom

@[simp]
lemma lower_lower (s : String) : lower (lower s) = lower s := by
  rw [lower, lower, String.toList_ofList, lowerList_lowerList]

end Conformance.Text
