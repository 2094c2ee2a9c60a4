/-
# Blanks, word characters and names

No blank is a word character, and a character that can start a name is one.  The word characters
from code point 128 on are given by the bounds of their runs; a blank has an even number of bounds
at or below it, which is found by counting.
-/
import Conformance.Source.Tail
import Mathlib.Tactic

namespace Conformance.Text

/-! ## Runs of characters -/

lemma foldl_add_one_eq_countP {α : Type} (p : α → Bool) (l : List α) (n : Nat) :
    l.foldl (fun k b => if p b then k + 1 else k) n = n + l.countP p := by
  induction l generalizing n with
  | nil => rfl
  | cons a l ih =>
    rw [List.foldl_cons, ih, List.countP_cons]
    split <;> omega

lemma Ranges.rank_eq_countP (r : Ranges) (n : Nat) :
    r.rank n = r.bounds.toList.countP fun b => decide (b ≤ n) := by
  have h := foldl_add_one_eq_countP (fun b => decide (b ≤ n)) r.bounds.toList 0
  rw [Ranges.rank, ← Array.foldl_toList]
  simpa using h

/-! ## Blanks -/

lemma not_isWord_of_blank_below :
    ∀ n ∈ [0x09, 0x0A, 0x0B, 0x0C, 0x0D, 0x1C, 0x1D, 0x1E, 0x1F, 0x20],
      isWord (Char.ofNat n) = false := by
  decide

lemma even_countP_of_blank_above :
    ∀ n ∈ [0x85, 0xA0, 0x1680, 0x2000, 0x2001, 0x2002, 0x2003, 0x2004, 0x2005, 0x2006, 0x2007,
        0x2008, 0x2009, 0x200A, 0x2028, 0x2029, 0x202F, 0x205F, 0x3000],
      wordRanges.bounds.toList.countP (fun b => decide (b ≤ n)) % 2 = 0 := by
  decide +kernel

lemma isWord_eq_false_of_isBlank {c : Char} (h : isBlank c = true) : isWord c = false := by
  simp only [isBlank, Bool.or_eq_true, Bool.and_eq_true, decide_eq_true_eq, beq_iff_eq] at h
  by_cases hc : c.toNat < 128
  · rw [← Char.ofNat_toNat c]
    refine not_isWord_of_blank_below c.toNat ?_
    simp only [List.mem_cons, List.not_mem_nil, or_false]
    omega
  · have hne : c ≠ '_' := by
      rintro rfl
      exact hc (by decide)
    have hrank : wordRanges.rank c.toNat % 2 = 0 := by
      rw [Ranges.rank_eq_countP]
      refine even_countP_of_blank_above c.toNat ?_
      simp only [List.mem_cons, List.not_mem_nil, or_false]
      omega
    simp [isWord, hne, isAlphanumeric, hc, Ranges.contains, hrank]

lemma isBlank_eq_false_of_isWord {c : Char} (h : isWord c = true) : isBlank c = false := by
  by_contra hb
  rw [Bool.not_eq_false] at hb
  exact absurd (isWord_eq_false_of_isBlank hb) (by simp [h])

/-! ## The start of a name -/

lemma isAlpha_iff {c : Char} : c.isAlpha = true ↔
    ('A'.toNat ≤ c.toNat ∧ c.toNat ≤ 'Z'.toNat) ∨ ('a'.toNat ≤ c.toNat ∧ c.toNat ≤ 'z'.toNat) := by
  have hupper : c.isUpper = true ↔ 'A'.toNat ≤ c.toNat ∧ c.toNat ≤ 'Z'.toNat := decide_eq_true_iff
  have hlower : c.isLower = true ↔ 'a'.toNat ≤ c.toNat ∧ c.toNat ≤ 'z'.toNat :=
    Bool.and_eq_true_iff.trans (and_congr decide_eq_true_iff decide_eq_true_iff)
  exact Bool.or_eq_true_iff.trans (or_congr hupper hlower)

lemma toNat_lt_of_isAlpha {c : Char} (h : c.isAlpha = true) : c.toNat < 128 := by
  have hZ : 'Z'.toNat = 90 := rfl
  have hz : 'z'.toNat = 122 := rfl
  rcases isAlpha_iff.1 h with h | h
  · omega
  · omega

lemma isWord_of_isNameStart {c : Char} (h : isNameStart c = true) : isWord c = true := by
  rcases Bool.or_eq_true_iff.1 h with h | h
  · rw [isWord, h, Bool.true_or]
  · rw [isWord, isAlphanumeric, if_pos (toNat_lt_of_isAlpha h), Char.isAlphanum, h]
    simp

lemma ne_of_isWord {c d : Char} (hc : isWord c = true) (hd : isWord d = false) : c ≠ d := by
  rintro rfl
  exact absurd hc (by simp [hd])

lemma ne_of_isBlank {c d : Char} (hc : isBlank c = true) (hd : isBlank d = false) : c ≠ d := by
  rintro rfl
  exact absurd hc (by simp [hd])

end Conformance.Text

namespace Conformance.Source

lemma isName_iff {cs : List Char} : isName cs = true ↔
    ∃ c rest, cs = c :: rest ∧ Text.isNameStart c = true ∧ ∀ x ∈ rest, Text.isWord x = true := by
  cases cs with
  | nil => simp [isName]
  | cons c rest => simp [isName]

lemma isNameStart_of_isBlank {x : Char} (h : Text.isBlank x = true) :
    Text.isNameStart x = false := by
  by_contra hx
  rw [Bool.not_eq_false] at hx
  have hword := Text.isWord_of_isNameStart hx
  exact absurd hword (by simp [Text.isWord_eq_false_of_isBlank h])

lemma isWord_of_mem_name {cs : List Char} (h : isName cs = true) {x : Char} (hx : x ∈ cs) :
    Text.isWord x = true := by
  obtain ⟨c, rest, rfl, hc, hrest⟩ := isName_iff.1 h
  rcases List.mem_cons.1 hx with rfl | hx
  · exact Text.isWord_of_isNameStart hc
  · exact hrest x hx

end Conformance.Source
