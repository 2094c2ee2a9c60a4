/-
# Cutting texts at a sign

A text is cut at the first occurrence of a sign, or at all of them.  Texts without the sign, written
one after another with the sign between neighbours, are the pieces of what is written
(`splitOn_intercalate`).  A text is cut at its blanks into words (`words_append`).
-/
import Conformance.Text.Blank
import Mathlib.Data.List.TakeWhile
import Mathlib.Tactic

namespace Conformance.Text

/-! ## The first sign -/

lemma before_eq_self {sep : Char} {cs : List Char} (h : sep ∉ cs) : before sep cs = cs := by
  refine List.takeWhile_eq_self_iff.2 ?_
  intro x hx
  have hne : x ≠ sep := fun hxs => h (hxs ▸ hx)
  simpa using hne

lemma before_append_of_mem {sign : Char} {u : List Char} (h : sign ∈ u) (v : List Char) :
    before sign (u ++ v) = before sign u := by
  induction u with
  | nil => exact absurd h List.not_mem_nil
  | cons x u ih =>
    rw [List.cons_append, before, before, List.takeWhile_cons, List.takeWhile_cons]
    split
    · rename_i hx
      rcases List.mem_cons.1 h with rfl | h
      · exact absurd hx (by simp)
      · exact congrArg _ (ih h)
    · rfl

lemma before_append_of_notMem {sign : Char} {u : List Char} (h : sign ∉ u) (v : List Char) :
    before sign (u ++ v) = u ++ before sign v := by
  refine List.takeWhile_append_of_pos fun x hx => ?_
  have hne : x ≠ sign := fun heq => h (heq ▸ hx)
  simpa using hne

lemma exists_dropWhile_eq {sign : Char} {cs : List Char} (h : sign ∈ cs) :
    ∃ v, cs.dropWhile (· != sign) = sign :: v := by
  cases hdrop : cs.dropWhile (· != sign) with
  | nil => exact absurd (List.dropWhile_eq_nil_iff.1 hdrop sign h) (by simp)
  | cons c v =>
    have hhead := List.head?_dropWhile_not (· != sign) cs
    rw [hdrop] at hhead
    exact ⟨v, by rw [show c = sign by simpa using hhead]⟩

lemma before_append_dropWhile (sign : Char) (cs : List Char) :
    before sign cs ++ cs.dropWhile (· != sign) = cs :=
  List.takeWhile_append_dropWhile

lemma notMem_before (sign : Char) (cs : List Char) : sign ∉ before sign cs := by
  intro h
  exact absurd (List.mem_takeWhile_imp h) (by simp)

lemma dropWhile_append_sign {sign : Char} {u : List Char} (h : sign ∉ u) (v : List Char) :
    (u ++ sign :: v).dropWhile (· != sign) = sign :: v := by
  have hu : ∀ x ∈ u, (x != sign) = true := fun x hx => bne_iff_ne.2 fun heq => h (heq ▸ hx)
  rw [List.dropWhile_append_of_pos hu, List.dropWhile_cons_of_neg (by simp)]

/-! ## Blanks around a text -/

/-- Blanks around a text that starts and ends with other characters are trimmed. -/
lemma trim_eq {u m v : List Char} (hu : ∀ c ∈ u, isBlank c = true) (hne : m ≠ [])
    (hfirst : ∀ c ∈ m.head?, isBlank c = false) (hlast : ∀ c ∈ m.getLast?, isBlank c = false)
    (hv : ∀ c ∈ v, isBlank c = true) : trim (u ++ (m ++ v)) = m := by
  have hstart : trimStart (u ++ (m ++ v)) = m ++ v := by
    obtain ⟨c, m, rfl⟩ := List.exists_cons_of_ne_nil hne
    rw [trimStart, List.dropWhile_append_of_pos hu, List.cons_append]
    exact List.dropWhile_cons_of_neg (by simp [hfirst c rfl])
  have hend : (m ++ v).reverse.dropWhile isBlank = m.reverse := by
    have hv' : ∀ c ∈ v.reverse, isBlank c = true := fun c hc => hv c (List.mem_reverse.1 hc)
    obtain ⟨c, w, hc⟩ := List.exists_cons_of_ne_nil (List.reverse_ne_nil_iff.2 hne)
    have hblank : isBlank c = false := by
      refine hlast c ?_
      rw [← List.head?_reverse, hc]
      rfl
    rw [List.reverse_append, List.dropWhile_append_of_pos hv', hc]
    exact List.dropWhile_cons_of_neg (by simp [hblank])
  rw [trim, hstart, trimEnd, hend, List.reverse_reverse]

/-- Blanks around a text make no difference when it is trimmed. -/
lemma trim_append_blanks {u v : List Char} (hu : ∀ c ∈ u, isBlank c = true) (m : List Char)
    (hv : ∀ c ∈ v, isBlank c = true) : trim (u ++ (m ++ v)) = trim m := by
  have hstart : trimStart (u ++ (m ++ v)) = trimStart (m ++ v) :=
    List.dropWhile_append_of_pos hu
  have hend : ∀ w, trimEnd (w ++ v) = trimEnd w := by
    intro w
    have hv' : ∀ c ∈ v.reverse, isBlank c = true := fun c hc => hv c (List.mem_reverse.1 hc)
    rw [trimEnd, List.reverse_append, List.dropWhile_append_of_pos hv', trimEnd]
  have hblank : trimStart v = [] := List.dropWhile_eq_nil_iff.2 hv
  rw [trim, hstart, trim]
  by_cases hm : trimStart m = []
  · -- then the trailing blanks are leading ones
    have hall : trimStart (m ++ v) = trimStart v :=
      List.dropWhile_append_of_pos (List.dropWhile_eq_nil_iff.1 hm)
    rw [hall, hblank, hm]
  · have hkept : trimStart (m ++ v) = trimStart m ++ v := by
      rw [trimStart, List.dropWhile_append]
      exact if_neg (mt List.isEmpty_iff.1 hm)
    rw [hkept, hend]

/-! ## All signs -/

lemma splitOn_eq_singleton {sep : Char} {u : List Char} (hu : sep ∉ u) : splitOn sep u = [u] := by
  induction u with
  | nil => rfl
  | cons x u ih =>
    have hx : x ≠ sep := fun h => hu (h ▸ List.mem_cons_self)
    rw [splitOn, ih fun h => hu (List.mem_cons_of_mem _ h)]
    simp [hx]

/-- There is one piece more than there are signs. -/
lemma length_splitOn (sep : Char) (cs : List Char) :
    (splitOn sep cs).length = cs.count sep + 1 := by
  induction cs with
  | nil => rfl
  | cons x cs ih =>
    by_cases hx : x = sep
    · simp [splitOn, hx, ih]
    · cases hcut : splitOn sep cs with
      | nil => simp [hcut] at ih
      | cons first rest => simpa [splitOn, hx, hcut] using ih

lemma splitOn_ne_nil (sep : Char) (cs : List Char) : splitOn sep cs ≠ [] := by
  intro h
  have hlength := length_splitOn sep cs
  simp [h] at hlength

/-- A text around a sign is cut on both sides of it. -/
lemma splitOn_append_sign (sep : Char) (u v : List Char) :
    splitOn sep (u ++ sep :: v) = splitOn sep u ++ splitOn sep v := by
  induction u with
  | nil => simp [splitOn]
  | cons x u ih =>
    rw [List.cons_append, splitOn, splitOn, ih]
    split
    · rfl
    · cases hu : splitOn sep u with
      | nil => exact absurd hu (splitOn_ne_nil sep u)
      | cons first rest => rfl

lemma splitOn_append_cons {sep : Char} {u : List Char} (hu : sep ∉ u) (v : List Char) :
    splitOn sep (u ++ sep :: v) = u :: splitOn sep v := by
  rw [splitOn_append_sign, splitOn_eq_singleton hu, List.singleton_append]

lemma notMem_of_mem_splitOn {sep : Char} {u piece : List Char} (h : piece ∈ splitOn sep u) :
    sep ∉ piece := by
  induction u generalizing piece with
  | nil =>
    obtain rfl := List.mem_singleton.1 h
    exact List.not_mem_nil
  | cons x u ih =>
    rw [splitOn] at h
    split at h
    · rcases List.mem_cons.1 h with rfl | h
      · exact List.not_mem_nil
      · exact ih h
    · rename_i hx
      have hx : sep ≠ x := fun heq => hx (by simp [heq])
      split at h
      · obtain rfl := List.mem_singleton.1 h
        simpa using hx
      · rename_i first rest heq
        rcases List.mem_cons.1 h with rfl | h
        · rw [List.mem_cons, not_or]
          exact ⟨hx, ih (heq ▸ List.mem_cons_self)⟩
        · exact ih (heq ▸ List.mem_cons_of_mem _ h)

/-- Texts that are written with a sign between them are cut one by one. -/
lemma splitOn_intercalate_eq_flatMap (sep : Char) {texts : List (List Char)} (hne : texts ≠ []) :
    splitOn sep ([sep].intercalate texts) = texts.flatMap (splitOn sep) := by
  induction texts with
  | nil => exact absurd rfl hne
  | cons u texts ih =>
    cases texts with
    | nil => simp
    | cons v texts =>
      rw [List.intercalate_cons_cons, List.append_assoc, List.singleton_append,
        splitOn_append_sign, ih (List.cons_ne_nil v texts)]
      rfl

/-- Texts without the sign that are written with it between them are its pieces. -/
theorem splitOn_intercalate {sep : Char} {texts : List (List Char)} (hne : texts ≠ [])
    (h : ∀ u ∈ texts, sep ∉ u) : splitOn sep ([sep].intercalate texts) = texts := by
  rw [splitOn_intercalate_eq_flatMap sep hne]
  have hsingle : texts.flatMap (splitOn sep) = texts.flatMap fun u => [u] :=
    List.flatMap_congr fun u hu => splitOn_eq_singleton (h u hu)
  rw [hsingle, List.flatMap_singleton']

/-- The signs of what is written are those of the texts and of what stands between them. -/
lemma count_intercalate (sign : Char) (between : List Char) {texts : List (List Char)}
    (hne : texts ≠ []) : (between.intercalate texts).count sign + between.count sign
      = (texts.map fun t => t.count sign + between.count sign).sum := by
  induction texts with
  | nil => exact absurd rfl hne
  | cons u texts ih =>
    cases texts with
    | nil => simp
    | cons v texts =>
      have ih := ih (List.cons_ne_nil v texts)
      rw [List.map_cons, List.sum_cons, ← ih, List.intercalate_cons_cons, List.count_append,
        List.count_append]
      omega

/-! ## Words -/

lemma wordsFrom_append {w : List Char} (hw : ∀ c ∈ w, isBlank c = false) (read v : List Char) :
    wordsFrom read (w ++ v) = wordsFrom (w.reverse ++ read) v := by
  induction w generalizing read with
  | nil => rfl
  | cons c w ih =>
    rw [List.forall_mem_cons] at hw
    rw [List.cons_append, wordsFrom, hw.1]
    simpa using ih hw.2 (c :: read)

lemma words_blanks_append {g : List Char} (hg : ∀ c ∈ g, isBlank c = true) (v : List Char) :
    words (g ++ v) = words v := by
  induction g with
  | nil => rfl
  | cons c g ih =>
    rw [List.forall_mem_cons] at hg
    rw [List.cons_append, words, wordsFrom, hg.1]
    exact ih hg.2

/-- The word that a text starts with, if a blank stands behind it. -/
lemma words_append {w g : List Char} (hne : w ≠ []) (hw : ∀ c ∈ w, isBlank c = false)
    (hg : g ≠ []) (hblank : ∀ c ∈ g, isBlank c = true) (v : List Char) :
    words (w ++ (g ++ v)) = w :: words v := by
  obtain ⟨c, g, rfl⟩ := List.exists_cons_of_ne_nil hg
  rw [List.forall_mem_cons] at hblank
  rw [words, wordsFrom_append hw, List.append_nil, List.cons_append, wordsFrom, hblank.1]
  simp only [if_true, List.isEmpty_reverse, List.isEmpty_eq_false_iff.2 hne, Bool.false_eq_true,
    if_false, List.reverse_reverse]
  exact congrArg (w :: ·) (words_blanks_append hblank.2 v)

lemma words_eq_singleton {w : List Char} (hne : w ≠ []) (hw : ∀ c ∈ w, isBlank c = false) :
    words w = [w] := by
  have hread := wordsFrom_append hw [] []
  rw [List.append_nil, List.append_nil] at hread
  rw [words, hread, wordsFrom]
  simp [hne]

end Conformance.Text
