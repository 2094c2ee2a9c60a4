/-
# Pairs of similar names

The pairs are those of each two names that are similar enough, in the order of the names
(`mem_similarNames`).  A pair counts what its names share in small letters and what there is in both
together in the letters as written; with a capital dotted I a name has more small letters than
letters.  So the counts are like those of two sets if the names share no more than there is in the
shorter one, as they do if that one has no such letter (`similarNames_counts`), and not for
every pair (`similarNames_shared_exceeds_total`).
-/
import Conformance.Proofs.Similarity.Incidence
import Conformance.Proofs.Similarity.Matching
import Conformance.Proofs.Text.LowerCase
import Conformance.Similarity.Names

namespace Conformance

/-! ## The pairs of a list of names -/

/-- The matching characters of two names without regard to case. -/
def sharedCharacters (a b : String) : Nat :=
  Sequence.matchCount (Text.lowerList a.toList) (Text.lowerList b.toList)

/-- The pair that two names make. -/
def SimilarPair.ofNames (ruleId a b : String) : SimilarPair where
  ruleId := ruleId
  first := a
  second := b
  shared := sharedCharacters a b
  total := a.length + b.length - sharedCharacters a b
  ratio := .fractional (nameSimilarity a b)

section Pairs

variable {threshold : Binary64} {ruleId : String}

lemma pairOfNames_eq_some_iff {a b : String} {p : SimilarPair} :
    pairOfNames threshold ruleId a b = some p ↔
      (nameSimilarity a b).lt threshold = false ∧ p = .ofNames ruleId a b := by
  simp only [pairOfNames]
  split
  · rename_i hlt
    simp [hlt]
  · rename_i hlt
    rw [Option.some.injEq, eq_comm]
    simp [hlt, SimilarPair.ofNames, sharedCharacters]

lemma pairsOfNames_eq (names : List String) :
    pairsOfNames threshold ruleId names = eachWithLater (pairOfNames threshold ruleId) names := by
  induction names with
  | nil => rfl
  | cons a names ih => rw [pairsOfNames, eachWithLater, ih]

/-- Each two names that are similar enough make a pair. -/
theorem mem_similarNames {names : List String} {p : SimilarPair} :
    p ∈ similarNames names threshold ruleId ↔
      ∃ a ∈ names, ∃ b ∈ names, a < b ∧ (nameSimilarity a b).lt threshold = false ∧
        p = .ofNames ruleId a b := by
  rw [similarNames, pairsOfNames_eq,
    mem_eachWithLater (k := id) (Text.sortedSet_pairwise names)]
  simp only [Text.mem_sortedSet, pairOfNames_eq_some_iff, id]

/-- The pairs of names are in order, each once. -/
theorem similarNames_pairwise (names : List String) :
    (similarNames names threshold ruleId).Pairwise SimilarPair.Before := by
  rw [similarNames, pairsOfNames_eq]
  refine pairwise_eachWithLater (k := id) ?_ (Text.sortedSet_pairwise names)
  intro a b p hp
  obtain ⟨-, rfl⟩ := pairOfNames_eq_some_iff.1 hp
  exact ⟨rfl, rfl⟩

end Pairs

/-! ## Their counts -/

/-- The counts of a pair are like those of two sets: what is shared is no more than what there is in
both together, and that is no less than the longer name. -/
structure SimilarPair.CountsLikeSets (p : SimilarPair) : Prop where
  shared_nonneg : 0 ≤ p.shared
  shared_le_total : p.shared ≤ p.total
  first_le_total : (p.first.length : Int) ≤ p.total
  second_le_total : (p.second.length : Int) ≤ p.total

/-- The number of small letters of a name. -/
def smallLetters (a : String) : Nat :=
  a.length + a.toList.count 'İ'

lemma length_lowerList_toList (a : String) :
    (Text.lowerList a.toList).length = smallLetters a := by
  rw [Text.length_lowerList, String.length_toList, smallLetters]

lemma sharedCharacters_le_left (a b : String) : sharedCharacters a b ≤ smallLetters a := by
  rw [← length_lowerList_toList]
  exact Sequence.matchCount_le_left _ _

lemma sharedCharacters_le_right (a b : String) : sharedCharacters a b ≤ smallLetters b := by
  rw [← length_lowerList_toList]
  exact Sequence.matchCount_le_right _ _

lemma countsLikeSets_ofNames_iff {ruleId a b : String} :
    (SimilarPair.ofNames ruleId a b).CountsLikeSets ↔
      sharedCharacters a b ≤ a.length ∧ sharedCharacters a b ≤ b.length := by
  constructor
  · intro ⟨_, _, hfirst, hsecond⟩
    simp only [SimilarPair.ofNames] at hfirst hsecond
    omega
  · rintro ⟨hfirst, hsecond⟩
    constructor <;> simp only [SimilarPair.ofNames] <;> omega

/-- The counts of two names are like those of two sets if the shorter name has as many small letters
as letters. -/
lemma countsLikeSets_of_shorter {ruleId a b : String}
    (h : (a.length ≤ b.length ∧ 'İ' ∉ a.toList) ∨ (b.length ≤ a.length ∧ 'İ' ∉ b.toList)) :
    (SimilarPair.ofNames ruleId a b).CountsLikeSets := by
  rw [countsLikeSets_ofNames_iff]
  have hleft := sharedCharacters_le_left a b
  have hright := sharedCharacters_le_right a b
  simp only [smallLetters] at hleft hright
  rcases h with ⟨hle, hdotted⟩ | ⟨hle, hdotted⟩
  · rw [List.count_eq_zero_of_not_mem hdotted] at hleft
    omega
  · rw [List.count_eq_zero_of_not_mem hdotted] at hright
    omega

/-- **The counts of the pairs of names.**  Both names are given ones, the first before the second.
What is shared and what there is in both are the letters of both names, and no more is shared than
either name has small letters.  The counts are like those of two sets just if no more is shared than
either name has letters, and so for every pair whose shorter name has no capital dotted I. -/
theorem similarNames_counts (names : List String) (threshold : Binary64) (ruleId : String)
    (p : SimilarPair) (hp : p ∈ similarNames names threshold ruleId) :
    p.first ∈ names ∧ p.second ∈ names ∧ p.first < p.second ∧
    0 ≤ p.shared ∧ p.shared + p.total = p.first.length + p.second.length ∧
    p.shared ≤ smallLetters p.first ∧ p.shared ≤ smallLetters p.second ∧
    (p.CountsLikeSets ↔ p.shared ≤ p.first.length ∧ p.shared ≤ p.second.length) ∧
    ((p.first.length ≤ p.second.length ∧ 'İ' ∉ p.first.toList) ∨
      (p.second.length ≤ p.first.length ∧ 'İ' ∉ p.second.toList) → p.CountsLikeSets) := by
  obtain ⟨a, ha, b, hb, hlt, -, rfl⟩ := mem_similarNames.1 hp
  refine ⟨ha, hb, hlt, Int.natCast_nonneg _, ?_, ?_, ?_, ?_, countsLikeSets_of_shorter⟩
  · simp only [SimilarPair.ofNames]
    omega
  · exact Int.ofNat_le.2 (sharedCharacters_le_left a b)
  · exact Int.ofNat_le.2 (sharedCharacters_le_right a b)
  · rw [countsLikeSets_ofNames_iff]
    simp only [SimilarPair.ofNames, Int.ofNat_le]

/-- Five of the six letters of these names match, and the names have seven together. -/
theorem similarNames_counts_sorter :
    SimilarPair.ofNames "" "Sorted" "Sorter"
      ∈ similarNames ["Sorter", "Sorted"] (Binary64.ofRatio 1 2) ∧
    (SimilarPair.ofNames "" "Sorted" "Sorter").shared = 5 ∧
    (SimilarPair.ofNames "" "Sorted" "Sorter").total = 7 ∧
    (SimilarPair.ofNames "" "Sorted" "Sorter").CountsLikeSets := by
  have hmem : SimilarPair.ofNames "" "Sorted" "Sorter"
      ∈ similarNames ["Sorter", "Sorted"] (Binary64.ofRatio 1 2) :=
    mem_similarNames.2 ⟨"Sorted", by decide, "Sorter", by decide, by decide, by decide +kernel, rfl⟩
  obtain ⟨-, -, -, -, -, -, -, -, hcounts⟩ :=
    similarNames_counts ["Sorter", "Sorted"] (Binary64.ofRatio 1 2) "" _ hmem
  exact ⟨hmem, by decide +kernel, by decide +kernel, hcounts (Or.inl ⟨by decide, by decide⟩)⟩

/-- A capital dotted I and the small letters that it becomes share two of one letter. -/
theorem similarNames_shared_exceeds_total :
    ∃ p ∈ similarNames ["İ", "i\u0307"] (Binary64.ofRatio 1 2),
      p.shared = 2 ∧ p.total = 1 ∧ ¬ p.CountsLikeSets := by
  have hshared : sharedCharacters "i\u0307" "İ" = 2 := by decide +kernel
  have hcounts : (SimilarPair.ofNames "" "i\u0307" "İ").shared = 2 ∧
      (SimilarPair.ofNames "" "i\u0307" "İ").total = 1 := by
    simp only [SimilarPair.ofNames, hshared]
    decide
  refine ⟨.ofNames "" "i\u0307" "İ", ?_, hcounts.1, hcounts.2, ?_⟩
  · exact mem_similarNames.2
      ⟨"i\u0307", by decide, "İ", by decide, by decide, by decide +kernel, rfl⟩
  · rw [countsLikeSets_ofNames_iff, hshared]
    decide

end Conformance
