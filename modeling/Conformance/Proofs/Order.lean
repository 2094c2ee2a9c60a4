/-
# Sorting by tests

Lists are sorted by tests that compare one key after another and end with a comparison that holds
of equal keys.  Such a test compares any two values and does so transitively (`IsOrderTest`).
Sorting is then stable: what is already in order keeps its order (`filter_mergeSort`).
-/
import Conformance.Finding
import Conformance.Source.Declaration
import Conformance.Text.Order
import Mathlib.Data.Finset.Sort
import Mathlib.Data.String.Basic
import Mathlib.Tactic

namespace Conformance

/-! ## Tests that order -/

/-- A test that compares any two values, and does so transitively. -/
structure IsOrderTest {α : Type} (le : α → α → Bool) : Prop where
  trans : ∀ a b c, le a b = true → le b c = true → le a c = true
  total : ∀ a b, (le a b || le b a) = true

section Keys

variable {α κ : Type} [LinearOrder κ]

lemma isOrderTest_key (key : α → κ) : IsOrderTest fun a b => !decide (key b < key a) := by
  refine ⟨?_, ?_⟩
  · intro a b c hab hbc
    simp only [Bool.not_eq_true', decide_eq_false_iff_not, not_lt] at hab hbc ⊢
    exact le_trans hab hbc
  · intro a b
    simp only [Bool.or_eq_true, Bool.not_eq_true', decide_eq_false_iff_not, not_lt]
    exact le_total _ _

/-- Comparing by a key first. -/
lemma IsOrderTest.lex {le : α → α → Bool} (h : IsOrderTest le) (key : α → κ) :
    IsOrderTest fun a b => if key a != key b then decide (key a < key b) else le a b := by
  refine ⟨?_, ?_⟩
  · intro a b c hab hbc
    simp only [bne_iff_ne, ne_eq, ite_not] at hab hbc ⊢
    split at hab
    · rename_i hkey
      split at hbc
      · rename_i hkey'
        rw [if_pos (hkey.trans hkey')]
        exact h.trans a b c hab hbc
      · rename_i hkey'
        rw [hkey, if_neg hkey']
        exact hbc
    · rename_i hkey
      -- the first two differ in their keys, so the third does not matter
      have hlt := of_decide_eq_true hab
      have hle : key b ≤ key c := by
        split at hbc
        · rename_i hkey'
          exact le_of_eq hkey'
        · exact le_of_lt (of_decide_eq_true hbc)
      rw [if_neg (ne_of_lt (lt_of_lt_of_le hlt hle))]
      exact decide_eq_true (lt_of_lt_of_le hlt hle)
  · intro a b
    rcases lt_trichotomy (key a) (key b) with hlt | heq | hlt
    · simp [ne_of_lt hlt, hlt]
    · simpa [heq] using h.total a b
    · simp [ne_of_lt hlt, hlt]

/-- What comparing by a key first says. -/
lemma lex_iff [BEq κ] [LawfulBEq κ] {x y : κ} [Decidable (x < y)] {rest : Bool} :
    (if x != y then decide (x < y) else rest) = true ↔ x < y ∨ x = y ∧ rest = true := by
  by_cases heq : x = y <;> simp [heq]

/-- What precedes by a key first has no greater key. -/
lemma le_of_lex [BEq κ] [LawfulBEq κ] {x y : κ} [Decidable (x < y)] {rest : Bool}
    (h : (if x != y then decide (x < y) else rest) = true) : x ≤ y := by
  rcases lex_iff.1 h with hlt | ⟨heq, -⟩
  · exact le_of_lt hlt
  · exact le_of_eq heq

end Keys

lemma isOrderTest_declarations : IsOrderTest Source.Declaration.precedes :=
  (((isOrderTest_key Source.Declaration.name).lex Source.Declaration.column).lex
    Source.Declaration.line).lex Source.Declaration.path

lemma isOrderTest_violations : IsOrderTest Violation.precedes :=
  (((isOrderTest_key Violation.subject).lex Violation.ruleId).lex Violation.line).lex
    Violation.path

lemma Source.Declaration.path_le_of_precedes {d d' : Source.Declaration}
    (h : d.precedes d' = true) : d.path ≤ d'.path :=
  le_of_lex h

lemma Violation.path_le_of_precedes {v v' : Violation} (h : v.precedes v' = true) :
    v.path ≤ v'.path :=
  le_of_lex h

/-! ## Strict order -/

/-- Values in the strict order of their keys are told by which values there are. -/
lemma eq_of_pairwise_lt {α κ : Type} [Preorder κ] (key : α → κ) {l l' : List α}
    (h : l.Pairwise fun a b => key a < key b) (h' : l'.Pairwise fun a b => key a < key b)
    (hmem : ∀ a, a ∈ l ↔ a ∈ l') : l = l' := by
  have : Std.Irrefl fun a b => key a < key b := ⟨fun _ => lt_irrefl _⟩
  have : Std.Antisymm fun a b => key a < key b := ⟨fun _ _ hlt hlt' => absurd hlt (lt_asymm hlt')⟩
  exact h.eq_of_mem_iff h' hmem

/-! ## Sorting -/

section Sorting

variable {α : Type} {le : α → α → Bool}

/-- What is in order among other values keeps its order when all are sorted. -/
theorem filter_mergeSort (h : IsOrderTest le) {p : α → Bool} {l : List α}
    (hl : (l.filter p).Pairwise fun a b => le a b = true) :
    (l.mergeSort le).filter p = l.filter p := by
  have hsub : (l.filter p).Sublist (l.mergeSort le) :=
    List.sublist_mergeSort h.trans h.total hl List.filter_sublist
  have hfilter : (l.filter p).Sublist ((l.mergeSort le).filter p) := by
    have := hsub.filter p
    rwa [List.filter_filter, List.filter_congr fun x _ => Bool.and_self (p x)] at this
  have hlength : (l.filter p).length = ((l.mergeSort le).filter p).length :=
    ((List.mergeSort_perm l le).filter p).length_eq.symm
  exact (hfilter.eq_of_length hlength).symm

/-- Values that the test tells apart have one order only, in whatever order they come. -/
theorem mergeSort_eq_of_perm (h : IsOrderTest le) {l l' : List α} (hperm : l.Perm l')
    (hle : ∀ a ∈ l, ∀ b ∈ l, le a b = true → le b a = true → a = b) :
    l.mergeSort le = l'.mergeSort le := by
  have hsame : (l.mergeSort le).Perm (l'.mergeSort le) :=
    (List.mergeSort_perm l le).trans (hperm.trans (List.mergeSort_perm l' le).symm)
  refine List.Perm.eq_of_pairwise ?_ (List.pairwise_mergeSort h.trans h.total l)
    (List.pairwise_mergeSort h.trans h.total l') hsame
  intro a b ha hb hab hba
  refine hle a ((List.mergeSort_perm l le).mem_iff.1 ha) b ?_ hab hba
  exact hperm.mem_iff.2 ((List.mergeSort_perm l' le).mem_iff.1 hb)

lemma IsOrderTest.refl (h : IsOrderTest le) (a : α) : le a a = true := by
  simpa using h.total a a

/-- Two lists in order are the same if they hold the same values of every class, in the same order;
values that precede each other are of one class. -/
lemma eq_of_filter_classes (h : IsOrderTest le) {l l' : List α}
    (hl : l.Pairwise fun a b => le a b = true) (hl' : l'.Pairwise fun a b => le a b = true)
    (hclass : ∀ a, l.filter (fun b => le a b && le b a) = l'.filter fun b => le a b && le b a) :
    l = l' := by
  induction l generalizing l' with
  | nil =>
    cases l' with
    | nil => rfl
    | cons b l' => exact absurd (hclass b) (by simp [h.refl])
  | cons a l ih =>
    cases l' with
    | nil => exact absurd (hclass a) (by simp [h.refl])
    | cons b l' =>
      obtain ⟨ha, hrest⟩ := List.pairwise_cons.1 hl
      obtain ⟨hb, hrest'⟩ := List.pairwise_cons.1 hl'
      -- the first values are of one class: each is in the other list, whose first value precedes it
      have hmem : ∀ c, c ∈ a :: l ↔ c ∈ b :: l' := by
        intro c
        have hc := congrArg (c ∈ ·) (hclass c)
        simpa [h.refl] using hc
      have hab : le a b = true := by
        rcases List.mem_cons.1 ((hmem b).2 List.mem_cons_self) with rfl | hmem
        · exact h.refl b
        · exact ha b hmem
      have hba : le b a = true := by
        rcases List.mem_cons.1 ((hmem a).1 List.mem_cons_self) with rfl | hmem
        · exact h.refl a
        · exact hb a hmem
      have hfirst := hclass a
      simp only [List.filter_cons, h.refl, hab, hba, Bool.and_self, if_true] at hfirst
      obtain rfl := (List.cons.inj hfirst).1
      refine congrArg (a :: ·) (ih hrest hrest' fun c => ?_)
      have hc := hclass c
      simp only [List.filter_cons] at hc
      split at hc
      · exact (List.cons.inj hc).2
      · exact hc

/-- Values that precede each other keep their order when all are sorted. -/
lemma filter_class_mergeSort (h : IsOrderTest le) (l : List α) (a : α) :
    (l.mergeSort le).filter (fun b => le a b && le b a)
      = l.filter fun b => le a b && le b a := by
  refine filter_mergeSort h (List.pairwise_of_forall_mem_list fun b hb c hc => ?_)
  obtain ⟨-, hba⟩ := Bool.and_eq_true_iff.1 (List.mem_filter.1 hb).2
  obtain ⟨hac, -⟩ := Bool.and_eq_true_iff.1 (List.mem_filter.1 hc).2
  exact h.trans b a c hba hac

/-- A sorted list depends only on the values with each key, in their order, if values of one class
have the same key. -/
theorem mergeSort_eq_of_filter_eq (h : IsOrderTest le) {κ : Type} [BEq κ] [LawfulBEq κ]
    {key : α → κ} (hkey : ∀ a b, le a b = true → le b a = true → key a = key b) {l l' : List α}
    (hsame : ∀ k, l.filter (fun a => key a == k) = l'.filter fun a => key a == k) :
    l.mergeSort le = l'.mergeSort le := by
  have hclass : ∀ (m : List α) (a : α), (m.mergeSort le).filter (fun b => le a b && le b a)
      = (m.filter fun b => key b == key a).filter fun b => le a b && le b a := by
    intro m a
    rw [filter_class_mergeSort h, List.filter_filter]
    refine List.filter_congr fun b _ => ?_
    cases hab : le a b && le b a with
    | false => rfl
    | true =>
      obtain ⟨hab, hba⟩ := Bool.and_eq_true_iff.1 hab
      simp [hkey a b hab hba]
  refine eq_of_filter_classes h (List.pairwise_mergeSort h.trans h.total l)
    (List.pairwise_mergeSort h.trans h.total l') fun a => ?_
  rw [hclass, hclass, hsame]

/-- Values that pass a filter are sorted among the others as they are alone. -/
theorem mergeSort_filter (h : IsOrderTest le) (p : α → Bool) (l : List α) :
    (l.filter p).mergeSort le = (l.mergeSort le).filter p := by
  refine eq_of_filter_classes h (List.pairwise_mergeSort h.trans h.total _)
    ((List.pairwise_mergeSort h.trans h.total l).filter p) fun a => ?_
  rw [filter_class_mergeSort h, List.filter_comm, ← filter_class_mergeSort h l, List.filter_comm]

/-- Values that the tests compare alike are sorted alike. -/
theorem forall₂_mergeSort {β : Type} {le' : β → β → Bool} {R : α → β → Prop}
    (hle : ∀ a a', R a a' → ∀ b b', R b b' → le a b = le' a' b') {l : List α} {l' : List β}
    (h : List.Forall₂ R l l') : List.Forall₂ R (l.mergeSort le) (l'.mergeSort le') := by
  obtain ⟨hlength, hpairs⟩ := List.forall₂_iff_zip.1 h
  -- both lists are halves of the sorted list of pairs
  let sorted := (l.zip l').mergeSort fun x y => le x.1 y.1
  have hleft : sorted.map Prod.fst = l.mergeSort le := by
    have hsorted : sorted.map Prod.fst = ((l.zip l').map Prod.fst).mergeSort le :=
      List.map_mergeSort fun _ _ _ _ => rfl
    rw [hsorted, List.map_fst_zip hlength.le]
  have hright : sorted.map Prod.snd = l'.mergeSort le' := by
    have hsorted : sorted.map Prod.snd = ((l.zip l').map Prod.snd).mergeSort le' :=
      List.map_mergeSort fun x hx y hy => hle _ _ (hpairs hx) _ _ (hpairs hy)
    rw [hsorted, List.map_snd_zip hlength.ge]
  rw [← hleft, ← hright, List.forall₂_map_left_iff, List.forall₂_map_right_iff, List.forall₂_same]
  intro x hx
  exact hpairs ((List.mergeSort_perm _ _).mem_iff.1 hx)

/-! Sorting by a key, for a test that compares the keys. -/

section Key

variable {κ : Type} [PartialOrder κ] {key : α → κ}

/-- The keys of sorted values have one order only, in whatever order the values come. -/
theorem map_mergeSort_eq_of_perm (h : IsOrderTest le) (hkey : ∀ a b, le a b = true ↔ key a ≤ key b)
    {l l' : List α} (hperm : l.Perm l') :
    (l.mergeSort le).map key = (l'.mergeSort le).map key := by
  have hsorted : ∀ m : List α, ((m.mergeSort le).map key).Pairwise (· ≤ ·) := by
    intro m
    rw [List.pairwise_map]
    exact (List.pairwise_mergeSort h.trans h.total m).imp fun hab => (hkey _ _).1 hab
  have hsame : ((l.mergeSort le).map key).Perm ((l'.mergeSort le).map key) :=
    ((List.mergeSort_perm l le).trans (hperm.trans (List.mergeSort_perm l' le).symm)).map key
  exact hsame.eq_of_pairwise (fun _ _ _ _ => le_antisymm) (hsorted l) (hsorted l')

/-- Two different values with one key are sorted in the order in which they come. -/
lemma mergeSort_swap_ne (h : IsOrderTest le) (hkey : ∀ a b, le a b = true ↔ key a ≤ key b) {a b : α}
    (hne : a ≠ b) (hab : key a = key b) (l : List α) :
    (a :: b :: l).mergeSort le ≠ (b :: a :: l).mergeSort le := by
  intro heq
  have hclass := congrArg (List.filter fun c => le a c && le c a) heq
  rw [filter_class_mergeSort h, filter_class_mergeSort h] at hclass
  simp only [List.filter_cons, h.refl, (hkey a b).2 hab.le, (hkey b a).2 hab.ge, Bool.and_self,
    if_true, List.cons.injEq] at hclass
  exact hne hclass.1

/-- Sorting gives one list for every order of the values just if their keys tell different values
apart. -/
theorem forall_perm_mergeSort_iff [DecidableEq α] (h : IsOrderTest le)
    (hkey : ∀ a b, le a b = true ↔ key a ≤ key b) {l : List α} :
    (∀ l', l.Perm l' → l.mergeSort le = l'.mergeSort le) ↔
      ∀ a ∈ l, ∀ b ∈ l, key a = key b → a = b := by
  constructor
  · intro hsame a ha b hb hab
    by_contra hne
    -- both values can be brought to the front, in either order
    have hfront : l.Perm (a :: b :: (l.erase a).erase b) := by
      have hb' : b ∈ l.erase a := (List.mem_erase_of_ne (Ne.symm hne)).2 hb
      exact (List.perm_cons_erase ha).trans ((List.perm_cons_erase hb').cons a)
    have hswapped : l.Perm (b :: a :: (l.erase a).erase b) := hfront.trans (List.Perm.swap _ _ _)
    exact mergeSort_swap_ne h hkey hne hab _ ((hsame _ hfront).symm.trans (hsame _ hswapped))
  · intro htell l' hperm
    refine mergeSort_eq_of_perm h hperm fun a ha b hb hab hba => htell a ha b hb ?_
    exact le_antisymm ((hkey a b).1 hab) ((hkey b a).1 hba)

end Key

end Sorting

/-! ## Names in order, each once -/

namespace Text

lemma isOrderTest_precedes : IsOrderTest precedes :=
  isOrderTest_key id

lemma withoutRepeats_cons (n : String) (names : List String) :
    withoutRepeats (n :: names) = if (withoutRepeats names).head? == some n
      then withoutRepeats names else n :: withoutRepeats names := rfl

lemma mem_of_mem_withoutRepeats {names : List String} {n : String}
    (h : n ∈ withoutRepeats names) : n ∈ names := by
  induction names with
  | nil => exact h
  | cons m names ih =>
    rw [withoutRepeats_cons] at h
    split at h
    · exact List.mem_cons_of_mem _ (ih h)
    · rcases List.mem_cons.1 h with rfl | h
      · exact List.mem_cons_self
      · exact List.mem_cons_of_mem _ (ih h)

/-- In a sorted list, repetitions stand together. -/
lemma withoutRepeats_pairwise {names : List String} (h : names.Pairwise (· ≤ ·)) :
    (withoutRepeats names).Pairwise (· < ·) := by
  induction names with
  | nil => exact List.Pairwise.nil
  | cons n names ih =>
    obtain ⟨hn, hnames⟩ := List.pairwise_cons.1 h
    have hrest := ih hnames
    rw [withoutRepeats_cons]
    split
    · exact hrest
    · rename_i hhead
      refine List.pairwise_cons.2 ⟨?_, hrest⟩
      intro m hm
      refine lt_of_le_of_ne (hn m (mem_of_mem_withoutRepeats hm)) ?_
      rintro rfl
      -- the first name left is not this one, so all names left come after it
      cases hleft : withoutRepeats names with
      | nil => rw [hleft] at hm; exact absurd hm (by simp)
      | cons x xs =>
        rw [hleft] at hm hrest hhead
        have hx : x ∈ names := mem_of_mem_withoutRepeats (by rw [hleft]; exact List.mem_cons_self)
        rcases List.mem_cons.1 hm with rfl | hm
        · exact hhead (by simp)
        · exact absurd (hn x hx) (not_le.2 ((List.pairwise_cons.1 hrest).1 n hm))

theorem sortedSet_pairwise (names : List String) : (sortedSet names).Pairwise (· < ·) := by
  refine withoutRepeats_pairwise ?_
  have hsorted :=
    List.pairwise_mergeSort isOrderTest_precedes.trans isOrderTest_precedes.total names
  refine hsorted.imp ?_
  intro a b hab
  have hlt : decide (b < a) = false := by simpa only [precedes, Bool.not_eq_true'] using hab
  exact not_lt.1 (of_decide_eq_false hlt)

lemma mem_withoutRepeats {names : List String} {n : String} :
    n ∈ withoutRepeats names ↔ n ∈ names := by
  refine ⟨mem_of_mem_withoutRepeats, ?_⟩
  induction names with
  | nil => exact id
  | cons m names ih =>
    intro h
    rw [withoutRepeats_cons]
    split
    · rename_i hhead
      rcases List.mem_cons.1 h with rfl | h
      · exact List.mem_of_mem_head? (by simpa using hhead)
      · exact ih h
    · rcases List.mem_cons.1 h with rfl | h
      · exact List.mem_cons_self
      · exact List.mem_cons_of_mem _ (ih h)

@[simp]
lemma mem_sortedSet {names : List String} {n : String} : n ∈ sortedSet names ↔ n ∈ names :=
  mem_withoutRepeats.trans (List.mergeSort_perm names precedes).mem_iff

lemma sortedSet_nodup (names : List String) : (sortedSet names).Nodup :=
  (sortedSet_pairwise names).imp fun hlt => ne_of_lt hlt

/-- A list in order without repetition is the sorted list of its members. -/
lemma eq_sort_of_pairwise {names : List String} (h : names.Pairwise (· < ·)) {s : Finset String}
    (hmem : ∀ n, n ∈ names ↔ n ∈ s) : names = s.sort (· ≤ ·) := by
  refine h.eq_of_mem_iff s.sortedLT_sort.pairwise fun n => ?_
  rw [hmem, Finset.mem_sort]

/-- Names in order, each once, depend only on which names there are. -/
lemma sortedSet_congr {names names' : List String} (h : ∀ n, n ∈ names ↔ n ∈ names') :
    sortedSet names = sortedSet names' := by
  refine (sortedSet_pairwise names).eq_of_mem_iff (sortedSet_pairwise names') fun n => ?_
  rw [mem_sortedSet, mem_sortedSet, h]

/-- Names in order without repetition stay as they are. -/
lemma sortedSet_of_pairwise {names : List String} (h : names.Pairwise (· < ·)) :
    sortedSet names = names :=
  (sortedSet_pairwise names).eq_of_mem_iff h fun _ => mem_sortedSet

lemma length_sortedSet (names : List String) :
    (sortedSet names).length = names.toFinset.card := by
  rw [eq_sort_of_pairwise (sortedSet_pairwise names) (s := names.toFinset)
    fun n => by simp, Finset.length_sort]

/-- Items that keep their names are grouped as before. -/
lemma groupsBy_map {α : Type} {name : α → String} {k : α → α} (h : name ∘ k = name)
    (items : List α) :
    groupsBy name (items.map k) = (groupsBy name items).map fun g => (g.1, g.2.map k) := by
  simp only [groupsBy, List.map_map, h, List.filter_map]
  refine List.map_congr_left fun n _ => ?_
  have hname : (fun a => name a == n) ∘ k = fun a => name a == n :=
    funext fun a => congrArg (· == n) (congrFun h a)
  simp only [Function.comp_apply, hname]

end Text

end Conformance
