/-
# Equal names

The exact quotient of two names lies between zero and one, and is one just for names that are equal
in small letters (`nameQuotient_eq_one_iff`).  The similarity is this quotient with rounded numbers,
and rounding does not make it one as long as the names have less than 2⁵³ letters
(`comparedExactly_of_length_lt`).  So a rule that compares names and asks for the similarity one
reports the pairs of keys that are equal in small letters, if its message can be worded
(`RuleSet.check_tellsEqualNames`).
-/
import Conformance.Proofs.Check.Wording
import Conformance.Proofs.Number.Quotient
import Conformance.Proofs.Similarity.NamePairs

namespace Conformance
open Source

/-! ## The exact quotient of two names -/

/-- Twice the number of matching characters of two names divided by the number of all, as an exact
quotient and without regard to case. -/
def nameQuotient (a b : String) : ℚ :=
  Sequence.quotient (Text.lowerList a.toList) (Text.lowerList b.toList)

lemma lower_eq_iff {a b : String} :
    Text.lower a = Text.lower b ↔ Text.lowerList a.toList = Text.lowerList b.toList :=
  String.ofList_inj

lemma nameQuotient_eq_one_iff {a b : String} :
    nameQuotient a b = 1 ↔ Text.lower a = Text.lower b := by
  rw [nameQuotient, Sequence.quotient_eq_one_iff, lower_eq_iff]

lemma nameQuotient_lt_one_iff {a b : String} :
    nameQuotient a b < 1 ↔ Text.lower a ≠ Text.lower b := by
  rw [lt_iff_le_and_ne, ne_eq, nameQuotient_eq_one_iff]
  exact and_iff_right (Sequence.quotient_le_one _ _)

/-- Compared with one, the similarity of two names is as good as the exact quotient. -/
def ComparedExactly (a b : String) : Prop :=
  (nameSimilarity a b).lt (Binary64.ofInt 1) = true ↔ nameQuotient a b < 1

/-- Names that are equal in small letters have no similarity below one. -/
lemma nameSimilarity_of_lower_eq {a b : String} (h : Text.lower a = Text.lower b) :
    (nameSimilarity a b).lt (Binary64.ofInt 1) = false := by
  rw [nameSimilarity, ← lower_eq_iff.1 h, Sequence.ratio, Sequence.matchCount_self]
  generalize (Text.lowerList a.toList).length = n
  split
  · decide +kernel
  · rw [← Nat.two_mul]
    exact Binary64.ofRounded_self_not_lt _

/-- **The similarity is exact enough for all names of less than 2⁵³ letters together.** -/
theorem comparedExactly_of_length_lt {a b : String}
    (h : smallLetters a + smallLetters b < Nat.pow 2 53) : ComparedExactly a b := by
  rw [ComparedExactly, nameQuotient_lt_one_iff]
  constructor
  · intro hlt heq
    rw [nameSimilarity_of_lower_eq heq] at hlt
    exact absurd hlt (by simp)
  · intro hne
    have hle := Sequence.two_matchCount_le (Text.lowerList a.toList) (Text.lowerList b.toList)
    have hless : 2 * Sequence.matchCount (Text.lowerList a.toList) (Text.lowerList b.toList)
        ≠ (Text.lowerList a.toList).length + (Text.lowerList b.toList).length := by
      rw [ne_eq, Sequence.two_matchCount_eq_iff, ← lower_eq_iff]
      exact hne
    have hsome : ¬ ((Text.lowerList a.toList).length + (Text.lowerList b.toList).length == 0)
        = true := by
      rw [beq_iff_eq]
      omega
    have hlength : (Text.lowerList a.toList).length + (Text.lowerList b.toList).length
        < Nat.pow 2 53 := by
      rwa [length_lowerList_toList, length_lowerList_toList]
    rw [nameSimilarity, Sequence.ratio, if_neg hsome,
      Binary64.ofRounded_eq_ofRatio (by omega) hlength (by omega)]
    exact Binary64.ofRatio_lt_one (lt_of_le_of_ne hle hless) (lt_trans hlength (by decide))

/-- The similarity of two names is not below one if they are equal in small letters, or where
rounding has made it one. -/
lemma not_lt_one_iff {a b : String} :
    (nameSimilarity a b).lt (Binary64.ofInt 1) = false ↔
      Text.lower a = Text.lower b ∨ ¬ ComparedExactly a b := by
  rw [ComparedExactly, nameQuotient_lt_one_iff, ← Bool.not_eq_true]
  by_cases heq : Text.lower a = Text.lower b
  · have hlt : ¬ (nameSimilarity a b).lt (Binary64.ofInt 1) = true := by
      rw [nameSimilarity_of_lower_eq heq]
      decide +kernel
    simp [heq, hlt]
  · simp [heq]

/-! ## What a rule without an allow-list reports -/

lemma RuleHeading.allowsPair_of_nil {h : RuleHeading} (hnone : h.allowList = []) (a b : String) :
    h.allowsPair a b = false := by
  simp [allowsPair, allows, hnone]

namespace Similarity

variable {t : Similarity} {r : Rule} {ds : List Declaration} {blockSize : Option Int}

/-- The keys that a rule compares. -/
def keys (t : Similarity) (ds : List Declaration) : List String :=
  (selectSubjects t.kinds t.subjects ds).map (·.key)

lemma exists_declarationOf {subjects : List Subject} {key : String}
    (h : key ∈ subjects.map (·.key)) : ∃ d, declarationOf subjects key = some d := by
  obtain ⟨s, hs, rfl⟩ := List.mem_map.1 h
  have hfound : (subjects.find? (·.key == s.key)).isSome = true :=
    List.find?_isSome.2 ⟨s, hs, beq_self_eq_true _⟩
  obtain ⟨found, hfound⟩ := Option.isSome_iff_exists.1 hfound
  exact ⟨found.declaration, by rw [declarationOf, hfound]; rfl⟩

/-- A pair of known subjects gets a message, if nothing is allowed. -/
lemma exists_draft? {heading : RuleHeading} (hnone : heading.allowList = [])
    {subjects : List Subject} {p : SimilarPair} (hfirst : p.first ∈ subjects.map (·.key))
    (hsecond : p.second ∈ subjects.map (·.key)) :
    ∃ x, draft? heading subjects p = some x ∧ (x.1.first, x.1.second) = (p.first, p.second) := by
  obtain ⟨a, ha⟩ := exists_declarationOf hfirst
  obtain ⟨b, hb⟩ := exists_declarationOf hsecond
  simp only [draft?, ha, hb, RuleHeading.allowsPair_of_nil hnone, Bool.or_self,
    Bool.false_eq_true, if_false]
  exact ⟨_, rfl, rfl⟩

/-- Without an allow-list, all pairs of known subjects are reported, if they can be worded. -/
lemma map_subjects_of_check [Host] [m : Memory] (hnone : r.heading.allowList = [])
    (hknown : ∀ p ∈ t.pairs r.id (selectSubjects t.kinds t.subjects ds) blockSize,
      p.first ∈ t.keys ds ∧ p.second ∈ t.keys ds)
    {ps : List SimilarPair} (hps : t.check r ds blockSize = .ok ps) :
    ps.map (fun p => (p.first, p.second)) =
      (t.pairs r.id (selectSubjects t.kinds t.subjects ds) blockSize).map
        fun p => (p.first, p.second) := by
  rw [check_eq] at hps
  have hworded : ps.map (fun p => (p.first, p.second))
      = (t.drafts r ds blockSize).map fun x => (x.1.first, x.1.second) := by
    refine map_eq_of_mapM ?_ hps
    intro x p hp
    obtain ⟨message, -, rfl⟩ := map_eq_ok.1 hp
    rfl
  rw [hworded, drafts, List.map_filterMap, ← List.filterMap_eq_map]
  refine List.filterMap_congr fun p hp => ?_
  obtain ⟨hfirst, hsecond⟩ := hknown p hp
  obtain ⟨x, hx, hsubjects⟩ := exists_draft? hnone hfirst hsecond
  rw [hx, Option.map_some, hsubjects]
  rfl

end Similarity

/-- The pairs tell the keys that are equal in small letters, in order, and each once.  (The last
case is one of names whose letters are too many to be counted by the similarity.) -/
structure TellsEqualNames (keys : List String) (ps : List SimilarPair) : Prop where
  ordered : ps.Pairwise SimilarPair.Before
  mem_iff : ∀ a b, (∃ p ∈ ps, p.first = a ∧ p.second = b) ↔
    a ∈ keys ∧ b ∈ keys ∧ a < b ∧ (Text.lower a = Text.lower b ∨ ¬ ComparedExactly a b)

lemma tellsEqualNames_similarNames (keys : List String) (ruleId : String) :
    TellsEqualNames keys (similarNames keys (Binary64.ofInt 1) ruleId) where
  ordered := similarNames_pairwise keys
  mem_iff a b := by
    simp only [mem_similarNames, not_lt_one_iff]
    constructor
    · rintro ⟨p, ⟨x, hx, y, hy, hlt, hequal, rfl⟩, rfl, rfl⟩
      exact ⟨hx, hy, hlt, hequal⟩
    · rintro ⟨ha, hb, hlt, hequal⟩
      exact ⟨.ofNames ruleId a b, ⟨a, ha, b, hb, hlt, hequal, rfl⟩, rfl, rfl⟩

/-- It makes no difference what else a pair holds than its subjects. -/
lemma TellsEqualNames.congr {keys : List String} {ps qs : List SimilarPair}
    (h : TellsEqualNames keys ps)
    (heq : qs.map (fun p => (p.first, p.second)) = ps.map fun p => (p.first, p.second)) :
    TellsEqualNames keys qs where
  ordered := by
    have hordered : (ps.map fun p => (p.first, p.second)).Pairwise
        fun x y => x.1 < y.1 ∨ (x.1 = y.1 ∧ x.2 < y.2) := List.pairwise_map.2 h.ordered
    rw [← heq, List.pairwise_map] at hordered
    exact hordered
  mem_iff a b := by
    have hpair : ∀ l : List SimilarPair, (∃ p ∈ l, p.first = a ∧ p.second = b) ↔
        (a, b) ∈ l.map fun p => (p.first, p.second) := by simp
    rw [← h.mem_iff, hpair, hpair, heq]

namespace RuleSet

variable {specs : List RuleSpec} {s : RuleSet} {r : Rule} {t : Similarity}

/-- **The similarity one means equal names, up to case.**  The exact quotient of two names lies
between zero and one and is one just for names equal in small letters, and the similarity tells so
for all names with less than 2⁵³ letters.  An accepted rule that compares names, asks for the
similarity one and allows nothing reports just the pairs of keys that are equal in small letters;
only wording their messages can fail. -/
theorem check_tellsEqualNames [Host] {m n : Memory} (h : ofSpecs (m := m) specs = .ok s)
    (hr : r ∈ s.rules) (ht : r.check = .similarity t) (hnames : t.comparison = .names)
    (hone : t.threshold = Binary64.ofInt 1) (hnone : r.heading.allowList = []) :
    (∀ a b, 0 ≤ nameQuotient a b ∧ nameQuotient a b ≤ 1 ∧
      (nameQuotient a b = 1 ↔ Text.lower a = Text.lower b)) ∧
    (∀ a b, smallLetters a + smallLetters b < Nat.pow 2 53 → ComparedExactly a b) ∧
    ∀ (ds : List Declaration) (blockSize : Option Int),
      (∃ ps, t.check r ds blockSize = .ok ps ∧ TellsEqualNames (t.keys ds) ps) ∨
        ∃ e, r.CanFail e ∧ t.check r ds blockSize = .error (.template e) := by
  refine ⟨fun a b => ⟨Sequence.quotient_nonneg _ _, Sequence.quotient_le_one _ _,
    nameQuotient_eq_one_iff⟩, fun a b => comparedExactly_of_length_lt, fun ds blockSize => ?_⟩
  refine (similarityCheck_ok_or h hr ht ds blockSize).imp_left ?_
  rintro ⟨ps, hps⟩
  have hpairs : t.pairs r.id (selectSubjects t.kinds t.subjects ds) blockSize
      = similarNames (t.keys ds) (Binary64.ofInt 1) r.id := by
    rw [Similarity.pairs, hnames, hone, Similarity.keys]
  have hknown : ∀ p ∈ t.pairs r.id (selectSubjects t.kinds t.subjects ds) blockSize,
      p.first ∈ t.keys ds ∧ p.second ∈ t.keys ds := by
    intro p hp
    rw [hpairs] at hp
    obtain ⟨a, ha, b, hb, -, -, rfl⟩ := mem_similarNames.1 hp
    exact ⟨ha, hb⟩
  refine ⟨ps, hps, (tellsEqualNames_similarNames (t.keys ds) r.id).congr ?_⟩
  rw [← hpairs]
  exact Similarity.map_subjects_of_check hnone hknown hps

/-! ### Two classes of one name -/

/-- A rule that looks for types whose names are equal up to case. -/
def equalNamesSpec (message : String) : RuleSpec :=
  ⟨{ id := "twins", message := message },
    .similarity { kinds := ["type"], similarity := .ofInt 1, compare := "names" }⟩

/-- What it compares. -/
def equalNamesCheck : Similarity where
  kinds := [.type]
  subjects := none
  threshold := .ofInt 1
  comparison := .names

/-- The rule when it is accepted. -/
def equalNamesRule (message : String) : Rule :=
  ⟨(equalNamesSpec message).heading,
    Template.read (equalNamesSpec message).templateText.toList, .similarity equalNamesCheck⟩

/-- Two files with a class each, whose names differ in case. -/
def caseTwinFiles : List FileDeclarations :=
  ["ORDER", "Order"].map fun name =>
    extract Tracker.full ⟨name ++ ".cs", ["public class " ++ name ++ " \x7b \x7d"]⟩

/-- The classes in these files. -/
def caseTwins : List Declaration :=
  ["ORDER", "Order"].map fun name =>
    { kind := .type, name, path := name ++ ".cs", line := 1, column := 13, modifiers := ["public"] }

lemma selectSubjects_caseTwins :
    selectSubjects [.type] none caseTwins = caseTwins.map fun d => ⟨d.name, d⟩ := by
  have hordered : caseTwins.Pairwise fun d e => d.precedes e = true := by decide +kernel
  have hchosen : chosenDeclarations [.type] none caseTwins = caseTwins := by
    rw [chosenDeclarations, Declaration.sort, List.mergeSort_of_pairwise hordered]
    decide +kernel
  rw [selectSubjects, hchosen]
  decide +kernel

lemma keys_caseTwins : equalNamesCheck.keys caseTwins = ["ORDER", "Order"] := by
  rw [Similarity.keys, equalNamesCheck, selectSubjects_caseTwins]
  rfl

section Plain

attribute [local instance] Host.plain Memory.plain

/-- A message that tells both names is worded for every pair. -/
theorem check_tellsEqualNames_twins :
    let r := equalNamesRule "\x7bname\x7d and \x7bother\x7d"
    ofSpecs [equalNamesSpec "\x7bname\x7d and \x7bother\x7d"] = .ok ⟨[r]⟩ ∧
    equalNamesCheck.threshold = Binary64.ofInt 1 ∧ r.heading.allowList = [] ∧
    ∃ ps, equalNamesCheck.check r caseTwins none = .ok ps ∧
      ∃ p ∈ ps, p.first = "ORDER" ∧ p.second = "Order" := by
  intro r
  have haccepted : ofSpecs [equalNamesSpec "\x7bname\x7d and \x7bother\x7d"] = .ok ⟨[r]⟩ := by
    decide +kernel
  obtain ⟨-, -, htells⟩ :=
    check_tellsEqualNames haccepted (List.mem_singleton_self r) rfl rfl rfl rfl
  obtain ⟨ps, hps, htells⟩ := (htells caseTwins none).resolve_right fun ⟨e, hcan, _⟩ =>
    Rule.not_canFail (fun _ => le_rfl) (by decide +kernel) e hcan
  refine ⟨haccepted, rfl, rfl, ps, hps, (htells.mem_iff "ORDER" "Order").2 ?_⟩
  rw [keys_caseTwins]
  exact ⟨by decide, by decide, by decide, Or.inl (by decide +kernel)⟩

/-- A message that takes the first character of the container fails for the two classes. -/
theorem message_fails_for_equal_names :
    let r := equalNamesRule "\x7bcontainer[0]\x7d"
    ofSpecs [equalNamesSpec "\x7bcontainer[0]\x7d"] = .ok ⟨[r]⟩ ∧ r.heading.allowList = [] ∧
    caseTwinFiles.flatMap (·.declarations) = caseTwins ∧
    equalNamesCheck.keys caseTwins = ["ORDER", "Order"] ∧
    Text.lower "ORDER" = Text.lower "Order" ∧
    equalNamesCheck.check r caseTwins none = .error (.template .indexOutOfRange) := by
  have hsorted : Text.sortedSet ["ORDER", "Order"] = ["ORDER", "Order"] :=
    Text.sortedSet_of_pairwise (by decide)
  have hpairs : similarNames ["ORDER", "Order"] (Binary64.ofInt 1) "twins"
      = [.ofNames "twins" "ORDER" "Order"] := by
    rw [similarNames, hsorted]
    decide +kernel
  refine ⟨by decide +kernel, rfl, by decide +kernel, keys_caseTwins, by decide +kernel, ?_⟩
  have hdrafts : equalNamesCheck.drafts (equalNamesRule "\x7bcontainer[0]\x7d") caseTwins none
      = [.ofNames "twins" "ORDER" "Order"].filterMap
          (Similarity.draft? (equalNamesRule "\x7bcontainer[0]\x7d").heading
            (caseTwins.map fun d => ⟨d.name, d⟩)) := by
    rw [← hpairs]
    simp only [Similarity.drafts, equalNamesCheck, selectSubjects_caseTwins]
    rfl
  rw [Similarity.check_eq, hdrafts]
  decide +kernel

end Plain

end RuleSet
end Conformance
