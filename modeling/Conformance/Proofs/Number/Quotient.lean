/-
# Rounded quotients

A quotient of equal counts is one, without rounding.  A quotient below one is rounded to a number
below one, as long as the counts are below 2⁵⁴ (`ofRatio_lt_one`): there are 53 binary places at
least, so that a rounded quotient which is one would be nearer to it than half a unit in the last
place, and one part in the denominator is more.

Where the counts are rounded before they are divided, this makes no difference below 2⁵³
(`ofRounded_eq_ofRatio`), because the format has all these counts; above, a quotient below one can
become one.
-/
import Conformance.Number.Binary64
import Mathlib.Tactic

namespace Conformance

/-- Rounding a fraction of `c` does not reach `c`, if one part of the fraction is more than half a
unit. -/
lemma roundHalfEven_lt {num den c : Nat} (hlt : num < den) (hc : den < 2 * c) :
    roundHalfEven (num * c) den < c := by
  have hden : 0 < den := by omega
  have hsplit : den * (num * c / den) + num * c % den = num * c := Nat.div_add_mod _ _
  have hq : num * c / den < c := by
    rw [Nat.div_lt_iff_lt_mul hden, Nat.mul_comm c]
    exact Nat.mul_lt_mul_of_pos_right hlt (by omega)
  rcases Nat.lt_or_ge (num * c / den + 1) c with hsmall | hlast
  · unfold roundHalfEven
    dsimp only
    split_ifs <;> omega
  · -- the last unit below `c`: what is left over is less than half of the denominator
    have hunit : num * c / den = c - 1 := by omega
    have hpart : num * c + c ≤ den * c := by
      rw [← Nat.succ_mul]
      exact Nat.mul_le_mul_right c hlt
    have hall : den * (c - 1) + den = den * c := by
      rw [← Nat.mul_succ]
      congr 1
      omega
    have hleft : 2 * (num * c % den) < den := by
      rw [hunit] at hsplit
      omega
    unfold roundHalfEven
    rw [if_pos hleft]
    exact hq

namespace Binary64

/-- One has the mantissa 2⁵². -/
lemma ofInt_one : ofInt 1 = .finite false (Nat.pow 2 52) (-52) := by
  decide +kernel

lemma scale_of_places (num den places : Nat) :
    scale num den (-(-(places : Int))) = (num * Nat.pow 2 places, den) := by
  rw [neg_neg, scale, if_pos (Int.natCast_nonneg places), Int.toNat_natCast]

/-- A quotient with some binary places; a mantissa that is rounded up to 54 places loses one. -/
lemma ofRatio_of_places {num den places : Nat} (hnum : 0 < num) (hden : 0 < den)
    (h : exponentOf num den = -(places : Int)) :
    ofRatio num den =
      if roundHalfEven (num * Nat.pow 2 places) den = mantissaBound then
        finite false (Nat.pow 2 52) (-(places : Int) + 1)
      else finite false (roundHalfEven (num * Nat.pow 2 places) den) (-(places : Int)) := by
  have hmax : maxExponent = 971 := rfl
  have hfinite : ¬ maxExponent < -(places : Int) := by omega
  have hfinite' : ¬ maxExponent < -(places : Int) + 1 := by omega
  have hnum' : ¬ num = 0 := by omega
  have hden' : ¬ den = 0 := by omega
  simp only [ofRatio, ofFraction, h, scale_of_places, Bool.or_eq_true, beq_iff_eq, hnum', hden',
    or_self, if_false]
  split <;> rfl

/-! ## Equal counts -/

lemma roundHalfEven_mul_self {n : Nat} (hn : 0 < n) (c : Nat) : roundHalfEven (n * c) n = c := by
  simp [roundHalfEven, Nat.mul_div_cancel_left c hn, hn]

lemma exponentOf_self (n : Nat) : exponentOf n n = -((52 : Nat) : Int) := by
  have hscale : scale n n (-((Nat.log2 n : Int) - Nat.log2 n - 52)) = (n * Nat.pow 2 52, n) := by
    rw [sub_self, zero_sub]
    exact scale_of_places n n 52
  have hle : ¬ n * Nat.pow 2 52 < Nat.pow 2 52 * n := by
    rw [Nat.mul_comm]
    exact lt_irrefl _
  rw [exponentOf, hscale]
  dsimp only
  rw [if_neg hle, sub_self, zero_sub]
  rfl

/-- **The quotient of equal counts is one.** -/
theorem ofRatio_self {n : Nat} (hn : 0 < n) : ofRatio n n = ofInt 1 := by
  have hmantissa : ¬ Nat.pow 2 52 = mantissaBound := by decide
  rw [ofRatio_of_places hn hn (exponentOf_self n), roundHalfEven_mul_self hn,
    if_neg hmantissa, ofInt_one]
  rfl

/-! ## A smaller count and a larger one -/

/-- A quotient below one has 53 binary places at least. -/
lemma exponentOf_le {num den : Nat} (hlt : num < den) : exponentOf num den ≤ -53 := by
  have hlog : Nat.log2 num ≤ Nat.log2 den := by
    rw [Nat.log2_eq_log_two, Nat.log2_eq_log_two]
    exact Nat.log_mono_right hlt.le
  rw [exponentOf]
  dsimp only
  refine max_le ?_ (by decide)
  rcases Nat.eq_or_lt_of_le hlog with hsame | hless
  · have hscale : scale num den (-((Nat.log2 num : Int) - Nat.log2 den - 52))
        = (num * Nat.pow 2 52, den) := by
      rw [hsame, sub_self, zero_sub]
      exact scale_of_places num den 52
    have hbelow : num * Nat.pow 2 52 < Nat.pow 2 52 * den := by
      rw [Nat.mul_comm]
      exact Nat.mul_lt_mul_of_pos_left hlt (by decide)
    rw [hscale, if_pos hbelow, hsame]
    omega
  · split <;> omega

/-- A mantissa with so many places as its exponent has. -/
lemma finite_lt_one {m places : Nat} (hplaces : 52 ≤ places) (hm : m < Nat.pow 2 places) :
    (finite false m (-(places : Int))).lt (ofInt 1) = true := by
  have hmin : min (-(places : Int)) (-52) = -(places : Int) := min_eq_left (by omega)
  have hshift : ((-52 : Int) - -(places : Int)).toNat = places - 52 := by omega
  have hpower : Nat.pow 2 52 * Nat.pow 2 (places - 52) = Nat.pow 2 places := by
    have hadd := Nat.pow_add 2 52 (places - 52)
    rw [Nat.add_sub_cancel' hplaces] at hadd
    exact hadd.symm
  have hone : ((Nat.pow 2 0 : Nat) : Int) = 1 := rfl
  rw [ofInt_one]
  simp only [lt, ltFinite, signed, hmin, sub_self, Int.toNat_zero, hshift]
  rw [decide_eq_true_iff, if_neg Bool.false_ne_true, if_neg Bool.false_ne_true, hone, mul_one]
  exact_mod_cast hpower.symm ▸ hm

/-- **A quotient below one of counts below 2⁵⁴ stays below one.** -/
theorem ofRatio_lt_one {num den : Nat} (hlt : num < den) (hden : den < Nat.pow 2 54) :
    (ofRatio num den).lt (ofInt 1) = true := by
  rcases Nat.eq_zero_or_pos num with rfl | hnum
  · have hzero : ofRatio 0 den = zero := by
      rw [ofRatio, if_neg (by simpa using hlt.ne'), ofFraction]
      rfl
    rw [hzero]
    decide +kernel
  have hexponent := exponentOf_le hlt
  obtain ⟨places, hplaces⟩ : ∃ places : Nat, exponentOf num den = -(places : Int) :=
    ⟨(exponentOf num den).natAbs, by omega⟩
  have hleast : 53 ≤ places := by omega
  have hround : roundHalfEven (num * Nat.pow 2 places) den < Nat.pow 2 places := by
    refine roundHalfEven_lt hlt (lt_of_lt_of_le hden ?_)
    have hpower : Nat.pow 2 53 ≤ Nat.pow 2 places := Nat.pow_le_pow_right (by decide) hleast
    have hdouble : Nat.pow 2 54 = 2 * Nat.pow 2 53 := by decide
    omega
  rw [ofRatio_of_places hnum (by omega) hplaces]
  split
  · rename_i hbound
    have hmore : 53 < places := by
      refine lt_of_le_of_ne hleast ?_
      rintro rfl
      exact absurd hbound hround.ne
    have hshift : -(places : Int) + 1 = -((places - 1 : Nat) : Int) := by omega
    rw [hshift]
    exact finite_lt_one (by omega) (Nat.pow_lt_pow_right (by decide) (by omega))
  · exact finite_lt_one (by omega) hround

/-! ## Counts that are rounded before -/

/-- A number with some binary places is a fraction of its mantissa and a power of two. -/
lemma fraction_of_places (m places : Nat) :
    fraction m (-(places : Int)) = (m, Nat.pow 2 places) := by
  rcases Nat.eq_zero_or_pos places with rfl | hplaces
  · simp [fraction, scale]
  · rw [fraction, scale, if_neg (by omega), neg_neg, Int.toNat_natCast, Nat.one_mul]

lemma exponentOf_natCast {n : Nat} (hn : n < Nat.pow 2 53) (hpos : 0 < n) :
    exponentOf n 1 = -((52 - Nat.log2 n : Nat) : Int) := by
  have hlog : Nat.log2 n < 53 := (Nat.log2_lt hpos.ne').2 hn
  have hguess : (Nat.log2 n : Int) - (Nat.log2 1 : Int) - 52
      = -((52 - Nat.log2 n : Nat) : Int) := by
    have hone : Nat.log2 1 = 0 := by decide
    omega
  have hleast : Nat.pow 2 52 ≤ n * Nat.pow 2 (52 - Nat.log2 n) := by
    calc Nat.pow 2 52 = Nat.pow 2 (Nat.log2 n) * Nat.pow 2 (52 - Nat.log2 n) := by
          rw [Nat.pow_eq, Nat.pow_eq, Nat.pow_eq, ← Nat.pow_add]
          congr 1
          omega
      _ ≤ _ := Nat.mul_le_mul_right _ (Nat.log2_self_le hpos.ne')
  have hmin : minExponent ≤ -((52 - Nat.log2 n : Nat) : Int) := by
    have : minExponent = -1074 := rfl
    omega
  rw [exponentOf, hguess, scale_of_places]
  dsimp only
  rw [if_neg (by omega), max_eq_left hmin]

/-- The format has every count below 2⁵³. -/
lemma ofInt_natCast {n : Nat} (hn : n < Nat.pow 2 53) (hpos : 0 < n) :
    ofInt n
      = finite false (n * Nat.pow 2 (52 - Nat.log2 n)) (-((52 - Nat.log2 n : Nat) : Int)) := by
  have hbelow : n * Nat.pow 2 (52 - Nat.log2 n) < mantissaBound := by
    have hlog : Nat.log2 n < 53 := (Nat.log2_lt hpos.ne').2 hn
    calc n * Nat.pow 2 (52 - Nat.log2 n)
        < Nat.pow 2 (Nat.log2 n + 1) * Nat.pow 2 (52 - Nat.log2 n) :=
          Nat.mul_lt_mul_of_pos_right Nat.lt_log2_self (Nat.two_pow_pos _)
      _ = mantissaBound := by
          rw [mantissaBound, Nat.pow_eq, Nat.pow_eq, Nat.pow_eq, ← Nat.pow_add]
          congr 1
          omega
  have hratio : ofInt n = ofRatio n 1 := by
    rw [ofInt, decide_eq_false (by omega), Int.natAbs_natCast]
    rfl
  have hround (m : Nat) : roundHalfEven m 1 = m := by simp [roundHalfEven, Nat.mod_one]
  rw [hratio, ofRatio_of_places hpos Nat.one_pos (exponentOf_natCast hn hpos), hround,
    if_neg hbelow.ne]

section Scaled

variable (num den : Nat) (k : Nat)

lemma log2_mul_pow {n : Nat} (hn : n ≠ 0) : Nat.log2 (n * Nat.pow 2 k) = Nat.log2 n + k := by
  induction k with
  | zero => simp
  | succ k ih =>
    have hk : n * Nat.pow 2 k ≠ 0 := Nat.mul_ne_zero hn (Nat.two_pow_pos k).ne'
    have hstep : n * Nat.pow 2 (k + 1) = n * Nat.pow 2 k * 2 := by
      rw [Nat.mul_assoc]
      rfl
    rw [hstep, Nat.log2_eq_log_two, Nat.log_mul_base (by decide) hk, ← Nat.log2_eq_log_two, ih]
    rfl

lemma scale_mul (e : Int) :
    scale (num * Nat.pow 2 k) (den * Nat.pow 2 k) e
      = ((scale num den e).1 * Nat.pow 2 k, (scale num den e).2 * Nat.pow 2 k) := by
  unfold scale
  split
  · exact Prod.ext (Nat.mul_right_comm _ _ _) rfl
  · exact Prod.ext rfl (Nat.mul_right_comm _ _ _)

lemma exponentOf_mul (hnum : num ≠ 0) (hden : den ≠ 0) :
    exponentOf (num * Nat.pow 2 k) (den * Nat.pow 2 k) = exponentOf num den := by
  have hguess : (Nat.log2 (num * Nat.pow 2 k) : Int) - Nat.log2 (den * Nat.pow 2 k) - 52
      = (Nat.log2 num : Int) - Nat.log2 den - 52 := by
    rw [log2_mul_pow k hnum, log2_mul_pow k hden]
    omega
  have hless (a b : Nat) : a * Nat.pow 2 k < Nat.pow 2 52 * (b * Nat.pow 2 k)
      ↔ a < Nat.pow 2 52 * b := by
    rw [← Nat.mul_assoc]
    exact Nat.mul_lt_mul_right (Nat.two_pow_pos k)
  unfold exponentOf
  simp only [hguess, scale_mul, hless]

lemma roundHalfEven_mul :
    roundHalfEven (num * Nat.pow 2 k) (den * Nat.pow 2 k) = roundHalfEven num den := by
  have hpos : 0 < Nat.pow 2 k := Nat.two_pow_pos k
  have hrest (a b : Nat) : 2 * (a * Nat.pow 2 k) < b * Nat.pow 2 k ↔ 2 * a < b := by
    rw [← Nat.mul_assoc]
    exact Nat.mul_lt_mul_right hpos
  have hrest' (a b : Nat) : b * Nat.pow 2 k < 2 * (a * Nat.pow 2 k) ↔ b < 2 * a := by
    rw [← Nat.mul_assoc]
    exact Nat.mul_lt_mul_right hpos
  unfold roundHalfEven
  simp only [Nat.mul_div_mul_right _ _ hpos, Nat.mul_mod_mul_right, hrest, hrest']

lemma ofFraction_zero (negative : Bool) (den : Nat) : ofFraction negative 0 den = zero negative :=
  rfl

/-- Powers of two can be cancelled. -/
lemma ofFraction_mul (negative : Bool) :
    ofFraction negative (num * Nat.pow 2 k) (den * Nat.pow 2 k) = ofFraction negative num den := by
  have hpos : Nat.pow 2 k ≠ 0 := (Nat.two_pow_pos k).ne'
  by_cases hnum : num = 0
  · simp [ofFraction, hnum]
  by_cases hden : den = 0
  · simp [ofFraction, hden]
  simp only [ofFraction, exponentOf_mul num den k hnum hden, scale_mul, roundHalfEven_mul,
    beq_iff_eq, Bool.or_eq_true, mul_eq_zero, hpos, hnum, hden, or_self]

end Scaled

/-- **Rounding the counts before makes no difference below 2⁵³.** -/
theorem ofRounded_eq_ofRatio {num den : Nat} (hnum : num < Nat.pow 2 53)
    (hden : den < Nat.pow 2 53) (hpos : 0 < den) : ofRounded num den = ofRatio num den := by
  have hden' : den * Nat.pow 2 (52 - Nat.log2 den) ≠ 0 :=
    Nat.mul_ne_zero hpos.ne' (Nat.two_pow_pos _).ne'
  have hratio : ofRatio num den = ofFraction false num den := by
    rw [ofRatio, if_neg (by simpa using hpos.ne')]
  rcases Nat.eq_zero_or_pos num with rfl | hnum'
  · obtain ⟨places, hzero⟩ : ∃ places : Nat, ofInt ((0 : Nat) : Int)
        = finite false 0 (-(places : Int)) := ⟨1074, rfl⟩
    rw [ofRounded, hzero, ofInt_natCast hden hpos, hratio, divide, if_neg (by simpa using hden'),
      fraction_of_places, fraction_of_places]
    dsimp only
    rw [Nat.zero_mul, ofFraction_zero, ofFraction_zero, bne_self_eq_false]
  · rw [ofRounded, ofInt_natCast hnum hnum', ofInt_natCast hden hpos, hratio, divide,
      if_neg (by simpa using hden'), fraction_of_places, fraction_of_places]
    generalize 52 - Nat.log2 num = k
    generalize 52 - Nat.log2 den = l
    -- both sides of the fraction carry both powers
    have hnumerator : num * Nat.pow 2 k * Nat.pow 2 l = num * Nat.pow 2 (k + l) := by
      rw [Nat.mul_assoc, Nat.pow_eq, Nat.pow_eq, Nat.pow_eq, ← Nat.pow_add]
    have hdenominator : Nat.pow 2 k * (den * Nat.pow 2 l) = den * Nat.pow 2 (k + l) := by
      rw [Nat.mul_left_comm, Nat.pow_eq, Nat.pow_eq, Nat.pow_eq, ← Nat.pow_add]
    dsimp only
    rw [hnumerator, hdenominator, ofFraction_mul, bne_self_eq_false]

example : (ofRounded (Nat.pow 2 53) (Nat.pow 2 53 + 1)).lt (ofInt 1) = false := by decide +kernel

lemma fraction_ne_zero {m : Nat} (hm : m ≠ 0) (e : Int) :
    (fraction m e).1 ≠ 0 ∧ (fraction m e).2 ≠ 0 := by
  unfold fraction scale
  split
  · exact ⟨Nat.mul_ne_zero hm (Nat.two_pow_pos _).ne', Nat.one_ne_zero⟩
  · exact ⟨hm, Nat.mul_ne_zero Nat.one_ne_zero (Nat.two_pow_pos _).ne'⟩

/-- **The quotient of equal counts is not below one, however large they are.** -/
theorem ofRounded_self_not_lt (i : Int) : (ofRounded i i).lt (ofInt 1) = false := by
  rw [ofRounded]
  cases ofInt i with
  | nan => rfl
  | infinite s => rfl
  | finite s m e =>
    by_cases hm : m = 0
    · subst hm
      rfl
    · obtain ⟨hnum, hden⟩ := fraction_ne_zero hm e
      rw [divide, if_neg (by simpa using hm), bne_self_eq_false]
      dsimp only
      have hpos : 0 < (fraction m e).1 * (fraction m e).2 :=
        Nat.mul_pos (Nat.pos_of_ne_zero hnum) (Nat.pos_of_ne_zero hden)
      have hone := ofRatio_self hpos
      rw [ofRatio, if_neg (by simpa using hpos.ne')] at hone
      rw [Nat.mul_comm (fraction m e).2, hone]
      decide +kernel

end Binary64
end Conformance
