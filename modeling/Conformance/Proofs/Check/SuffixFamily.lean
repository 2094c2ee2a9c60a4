/-
# Families of suffixes

A duplicate rule can strip a family of suffixes from names.  Its pattern tries the suffixes one
after another and demands the end of the name, so where it matches it reads all that is left: the
match lies at the first place with a suffix of the family ahead (`TakesRest.removeFrom_eq`), and
that is the longest suffix of the family that the name ends with.  What is tried first does not
matter.  The main statement is `Duplication.baseKey_stripsLongest`.
-/
import Conformance.Proofs.Pattern.Occurrences
import Conformance.Proofs.Rule.Accepted

namespace Conformance

/-! ## Patterns that read all that is left -/

/-- The start of a text up to the first place where what is left passes a test. -/
def startBefore (test : List Char → Bool) : List Char → List Char
  | [] => []
  | x :: u => if test (x :: u) then [] else x :: startBefore test u

section startBefore

variable {test : List Char → Bool} {u s : List Char}

lemma startBefore_prefix (test : List Char → Bool) (u : List Char) : startBefore test u <+: u := by
  induction u with
  | nil => exact List.prefix_rfl
  | cons x u ih =>
    rw [startBefore]
    split
    · exact List.nil_prefix
    · exact List.cons_prefix_cons.2 ⟨rfl, ih⟩

/-- If what is left passes the test at a place and at none before it, the text ends there. -/
lemma startBefore_append (hs : test s = true)
    (hbefore : ∀ w, w ≠ [] → w <:+ u → test (w ++ s) = false) : startBefore test (u ++ s) = u := by
  induction u with
  | nil =>
    cases s with
    | nil => rfl
    | cons x s => simp [startBefore, hs]
  | cons x u ih =>
    have hx : test (x :: (u ++ s)) = false := hbefore (x :: u) (by simp) List.suffix_rfl
    have hu := ih fun w hne hw => hbefore w hne (hw.trans (List.suffix_cons x u))
    rw [List.cons_append, startBefore, hx, hu]
    simp

lemma startBefore_eq_self (h : ∀ w, w <:+ u → test w = false) : startBefore test u = u := by
  induction u with
  | nil => rfl
  | cons x u ih =>
    rw [startBefore, h _ List.suffix_rfl, ih fun w hw => h w (hw.trans (List.suffix_cons x u))]
    simp

end startBefore

namespace Pattern

open Progress (amid)

variable {κ : Type} [DecidableEq κ]

/-- In a text without line feeds, a match at a place reads all that is left, and there is one just
if what is left passes a test. -/
def TakesRest (p : Pattern κ) (test : List Char → Bool) : Prop :=
  ∀ (consuming : Bool) (b v : List Char), '\n' ∉ v → p.matchAt? consuming (Cursor.amid b v) =
    if test v && !(consuming && v.isEmpty) then
      some ⟨Cursor.amid b v, amid (v.reverse ++ b) [] []⟩
    else none

namespace TakesRest

variable {p : Pattern κ} {test : List Char → Bool}

/-- At the end of the text nothing is left to remove. -/
lemma outside_allFrom_end (h : p.TakesRest test) (fuel : Nat) (consuming : Bool) (b : List Char) :
    outside (Cursor.amid b []) (p.allFrom fuel consuming (Cursor.amid b [])) = [] := by
  induction fuel generalizing consuming with
  | zero => rfl
  | succ fuel ih =>
    have hsearch : p.searchFrom? consuming (Cursor.amid b [])
        = p.matchAt? consuming (Cursor.amid b []) := rfl
    rw [allFrom.eq_def]
    simp only [hsearch, h consuming b [] List.not_mem_nil]
    split
    · rfl
    · rename_i m hm
      obtain ⟨-, hm⟩ := Option.ite_none_right_eq_some.1 hm
      obtain rfl := Option.some.inj hm
      exact ih _

/-- What is left is removed from the first place on where it passes the test. -/
lemma outside_allFrom (h : p.TakesRest test) {v : List Char} (hv : '\n' ∉ v) (fuel : Nat)
    (b : List Char) :
    outside (Cursor.amid b v) (p.allFrom (fuel + 1) false (Cursor.amid b v))
      = startBefore test v := by
  induction v generalizing b with
  | nil => exact h.outside_allFrom_end (fuel + 1) false b
  | cons x v ih =>
    have hmatch := h false b (x :: v) hv
    cases htest : test (x :: v) with
    | true =>
      rw [htest] at hmatch
      rw [allFrom, searchFrom?_of_matchAt? hmatch, outside, (Cursor.Reads.refl _).textSince_eq,
        List.nil_append, startBefore, htest, if_pos rfl]
      exact h.outside_allFrom_end fuel _ _
    | false =>
      -- there is no match here, so the first one is also the first from the next place on
      rw [htest] at hmatch
      have hnext : p.allFrom (fuel + 1) false (Cursor.amid b (x :: v))
          = p.allFrom (fuel + 1) false (Cursor.amid (x :: b) v) := by
        have hsearch : p.searchFrom? false (Cursor.amid b (x :: v))
            = p.searchFrom? false (Cursor.amid (x :: b) v) := by
          rw [searchFrom?, Cursor.after_amid, searchAlong?, hmatch]
          rfl
        rw [allFrom, hsearch, allFrom]
      rw [hnext, outside_cons fun m hm => (exists_matchAt?_of_mem_allFrom hm).1,
        ih (fun hmem => hv (List.mem_cons_of_mem _ hmem)), startBefore, htest]
      simp

theorem removeFrom_eq (h : p.TakesRest test) {u : List Char} (hu : '\n' ∉ u) :
    p.removeFrom u = startBefore test u :=
  h.outside_allFrom hu _ []

end TakesRest

/-! ## Words at the end of a text -/

/-- A word at the end of a text is all that is left. -/
lemma run_word_last {w : String} {b v : List Char} {cs : List (κ × Capture)} {k : Continuation κ}
    (hv : '\n' ∉ v) :
    run (word w) (amid b v cs) (run (.anchor .lastLineEnd) · k)
      = if v = w.toList then k (amid (v.reverse ++ b) [] cs) else none := by
  by_cases hw : w.toList <+: v
  · obtain ⟨a, rfl⟩ := hw
    rw [run_word]
    cases a with
    | nil =>
      rw [List.append_nil, if_pos rfl]
      exact run_anchor rfl
    | cons x a =>
      have hx : x ≠ '\n' := by
        rintro rfl
        exact hv (by simp)
      have hend :
          (Cursor.amid (w.toList.reverse ++ b) (x :: a)).satisfies .lastLineEnd = false := by
        simp [Cursor.satisfies, hx]
      rw [if_neg (by simp)]
      simp only [run, Progress.cursor_amid, hend, Bool.false_eq_true, if_false]
  · have hne : v ≠ w.toList := by
      rintro rfl
      exact hw List.prefix_rfl
    rw [failsAt_word_of_not_isPrefix w hw, if_neg hne]

omit [DecidableEq κ] in
lemma ite_or_ite {P Q : Prop} [Decidable P] [Decidable Q] (r : Option (Progress κ)) :
    (if P then r else none).or (if Q then r else none) = if P ∨ Q then r else none := by
  by_cases hP : P <;> by_cases hQ : Q <;> simp [hP, hQ]

/-- One of some words at the end of a text is all that is left; which of them is tried first does
not matter. -/
lemma run_words_last {w : String} {ws : List String} {b v : List Char} {cs : List (κ × Capture)}
    {k : Continuation κ} (hv : '\n' ∉ v) :
    run (words (w :: ws)) (amid b v cs) (run (.anchor .lastLineEnd) · k)
      = if v ∈ (w :: ws).map String.toList then k (amid (v.reverse ++ b) [] cs) else none := by
  induction ws generalizing w with
  | nil =>
    have hsingle : run (words [w]) (amid b v cs) (run (.anchor .lastLineEnd) · k)
        = run (word w) (amid b v cs) (run (.anchor .lastLineEnd) · k) := rfl
    rw [hsingle, run_word_last hv]
    simp
  | cons w' ws ih =>
    have hcons : run (words (w :: w' :: ws)) (amid b v cs) (run (.anchor .lastLineEnd) · k)
        = (run (word w) (amid b v cs) (run (.anchor .lastLineEnd) · k)).or
          (run (words (w' :: ws)) (amid b v cs) (run (.anchor .lastLineEnd) · k)) :=
      run_oneOf_cons_cons
    have hmem : v ∈ (w :: w' :: ws).map String.toList ↔
        v = w.toList ∨ v ∈ (w' :: ws).map String.toList := List.mem_cons
    rw [hcons, run_word_last hv, ih, ite_or_ite]
    simp only [hmem]

end Pattern

/-! ## The family of a rule -/

/-- The family is tried from its longest suffix on, but only what is all that is left can match. -/
lemma run_suffixFamily {suffixes : List String} (hne : suffixes ≠ []) {b v : List Char}
    {cs : List (Nat × Capture)} {k : Pattern.Continuation Nat} (hv : '\n' ∉ v) :
    (suffixFamily suffixes).run (Progress.amid b v cs) k
      = if v ∈ suffixes.map String.toList then k (Progress.amid (v.reverse ++ b) [] cs)
        else none := by
  let sorted := suffixes.mergeSort fun a b => decide (b.length ≤ a.length)
  have hperm : sorted.Perm suffixes := List.mergeSort_perm _ _
  have hmem : v ∈ sorted.map String.toList ↔ v ∈ suffixes.map String.toList :=
    (hperm.map String.toList).mem_iff
  have hfamily : (suffixFamily suffixes).run (Progress.amid b v cs) k
      = (Pattern.words sorted).run (Progress.amid b v cs)
          ((Pattern.anchor .lastLineEnd).run · k) := rfl
  obtain ⟨w, ws, hsorted⟩ : ∃ w ws, sorted = w :: ws := by
    refine List.exists_cons_of_ne_nil fun hnil => hne ?_
    exact (hnil ▸ hperm).symm.eq_nil
  simp only [hfamily, ← hmem, hsorted]
  exact Pattern.run_words_last hv

lemma suffixFamily_takesRest {suffixes : List String} (hne : suffixes ≠ []) :
    (suffixFamily suffixes).TakesRest fun v => decide (v ∈ suffixes.map String.toList) := by
  intro consuming b v hv
  have hleft : ((Cursor.amid (v.reverse ++ b) []).left == (Cursor.amid b v).left) = v.isEmpty := by
    cases v <;> rfl
  have hrun := @run_suffixFamily suffixes hne b v []
    (fun s => if consuming && s.cursor.left == (Cursor.amid b v).left then none else some s) hv
  simp only [Progress.cursor_amid, hleft] at hrun
  rw [Pattern.matchAt?]
  refine (congrArg _ hrun).trans ?_
  by_cases hmem : v ∈ suffixes.map String.toList
  · cases hempty : consuming && v.isEmpty <;> simp [hmem]
  · simp [hmem]

namespace Duplication

/-- The longest of some suffixes that a name ends with. -/
structure IsLongestSuffix (suffixes : List String) (name s : String) : Prop where
  mem : s ∈ suffixes
  isSuffix : s.toList <:+ name.toList
  longest : ∀ t ∈ suffixes, t.toList <:+ name.toList → t.length ≤ s.length

/-- A rule strips the longest suffix of a family from a name, once. -/
structure StripsLongest (d : Duplication) (suffixes : List String) (name : String) : Prop where
  /-- What is stripped stands at the end. -/
  append_eq : d.baseKey name ++ d.suffixOf name = name
  stripped : ∀ s, IsLongestSuffix suffixes name s → s.length < name.length →
    d.baseKey name ++ s = name
  /-- A name that is a suffix itself stays. -/
  whole : IsLongestSuffix suffixes name name → d.baseKey name = name
  unsuffixed : (∀ s ∈ suffixes, ¬ s.toList <:+ name.toList) → d.baseKey name = name

variable {d : Duplication} {suffixes : List String} {name : String}

/-- Where the longest suffix is cut off. -/
lemma startBefore_longest {s : String} (h : IsLongestSuffix suffixes name s) {u : List Char}
    (hu : u ++ s.toList = name.toList) :
    startBefore (fun v => decide (v ∈ suffixes.map String.toList)) name.toList = u := by
  rw [← hu]
  refine startBefore_append (by simpa using ⟨s, h.mem, rfl⟩) fun w hne hw => ?_
  rw [decide_eq_false_iff_not]
  intro hmem
  -- a longer suffix of the family would stand at the end of the name
  obtain ⟨t, ht, htoList⟩ := List.mem_map.1 hmem
  have hend : t.toList <:+ name.toList := by
    obtain ⟨u', rfl⟩ := hw
    exact ⟨u', by rw [htoList, ← hu, List.append_assoc]⟩
  have hlength := h.longest t ht hend
  rw [← String.length_toList, ← String.length_toList, htoList, List.length_append] at hlength
  have hpos := List.length_pos_iff.2 hne
  omega

lemma baseKey_of_removeFrom_eq_nil (h : d.suffix.removeFrom name.toList = []) :
    d.baseKey name = name := by
  simp only [baseKey, h]

lemma baseKey_of_removeFrom_ne_nil (h : d.suffix.removeFrom name.toList ≠ []) :
    d.baseKey name = String.ofList (d.suffix.removeFrom name.toList) := by
  unfold baseKey
  split
  · rename_i hnil
    exact absurd hnil h
  · rfl

/-- The base is the start of a name if what is left without the suffix is. -/
lemma baseKey_append_suffixOf (h : d.suffix.removeFrom name.toList <+: name.toList) :
    d.baseKey name ++ d.suffixOf name = name := by
  have hprefix : (d.baseKey name).toList <+: name.toList := by
    by_cases hnil : d.suffix.removeFrom name.toList = []
    · rw [baseKey_of_removeFrom_eq_nil hnil]
    · rwa [baseKey_of_removeFrom_ne_nil hnil, String.toList_ofList]
  obtain ⟨rest, hrest⟩ := hprefix
  refine String.toList_injective ?_
  rw [String.toList_append, suffixOf, String.toList_ofList, ← String.length_toList, ← hrest,
    List.drop_left]

/-- What a rule strips, if its pattern takes the suffixes of a family. -/
lemma stripsLongest_of_takesRest
    (h : d.suffix.TakesRest fun v => decide (v ∈ suffixes.map String.toList))
    (hname : '\n' ∉ name.toList) : d.StripsLongest suffixes name := by
  have hremove := h.removeFrom_eq hname
  constructor
  case append_eq =>
    refine baseKey_append_suffixOf ?_
    rw [hremove]
    exact startBefore_prefix _ _
  case stripped =>
    intro s hs hshorter
    obtain ⟨u, hu⟩ := hs.isSuffix
    have hbase : d.suffix.removeFrom name.toList = u := hremove.trans (startBefore_longest hs hu)
    have hne : u ≠ [] := by
      rintro rfl
      rw [← String.length_toList, ← String.length_toList, ← hu] at hshorter
      exact absurd hshorter (lt_irrefl _)
    rw [baseKey_of_removeFrom_ne_nil (hbase ▸ hne), hbase]
    refine String.toList_injective ?_
    rw [String.toList_append, String.toList_ofList, hu]
  case whole =>
    intro hs
    refine baseKey_of_removeFrom_eq_nil ?_
    rw [hremove]
    exact startBefore_longest hs (List.nil_append _)
  case unsuffixed =>
    intro hnone
    have hkept : d.suffix.removeFrom name.toList = name.toList := by
      rw [hremove]
      refine startBefore_eq_self fun w hw => ?_
      rw [decide_eq_false_iff_not]
      intro hmem
      obtain ⟨t, ht, rfl⟩ := List.mem_map.1 hmem
      exact hnone t ht hw
    by_cases hnil : name.toList = []
    · exact baseKey_of_removeFrom_eq_nil (hkept.trans hnil)
    · have hne : d.suffix.removeFrom name.toList ≠ [] := by
        rw [hkept]
        exact hnil
      rw [baseKey_of_removeFrom_ne_nil hne, hkept, String.ofList_toList]

/-- A base depends only on what is removed from the name. -/
lemma baseKey_congr {d' : Duplication}
    (h : d'.suffix.removeFrom name.toList = d.suffix.removeFrom name.toList) :
    d'.baseKey name = d.baseKey name := by
  simp only [baseKey, h]

/-- What a rule with a family of suffixes is checked to. -/
lemma compile_family_iff {s : DuplicateSpec} (hfamily : s.requireDistinctSuffixes = true)
    {id : String} : s.compile id = .ok d ↔
      s.suffixes ≠ [] ∧ 2 ≤ s.minGroup ∧ ∃ kinds, checkKinds id s.kinds = .ok kinds ∧
        d = ⟨kinds, suffixFamily s.suffixes, true, s.minGroup.toNat, s.ignoreFileScoped⟩ := by
  have hsuffix : ∀ p, s.checkSuffix id = .ok p ↔ s.suffixes ≠ [] ∧ p = suffixFamily s.suffixes := by
    intro p
    rw [DuplicateSpec.checkSuffix, if_pos hfamily, bind_eq_ok]
    constructor
    · rintro ⟨_, hne, h⟩
      exact ⟨by simpa using demand_eq_ok.1 hne, (Except.ok.inj h).symm⟩
    · rintro ⟨hne, rfl⟩
      exact ⟨(), demand_eq_ok.2 (by simpa using hne), rfl⟩
  constructor
  · intro h
    obtain ⟨kinds, hkinds, h⟩ := bind_eq_ok.1 h
    obtain ⟨p, hp, h⟩ := bind_eq_ok.1 h
    obtain ⟨_, hgroup, h⟩ := bind_eq_ok.1 h
    obtain ⟨hne, rfl⟩ := (hsuffix p).1 hp
    obtain rfl := Except.ok.inj h
    refine ⟨hne, of_decide_eq_true (demand_eq_ok.1 hgroup), kinds, hkinds, ?_⟩
    rw [hfamily]
  · rintro ⟨hne, hgroup, kinds, hkinds, rfl⟩
    refine bind_eq_ok.2 ⟨kinds, hkinds, ?_⟩
    refine bind_eq_ok.2 ⟨_, (hsuffix _).2 ⟨hne, rfl⟩, ?_⟩
    refine bind_eq_ok.2 ⟨(), demand_eq_ok.2 (decide_eq_true hgroup), ?_⟩
    rw [hfamily]
    rfl

/-- **A family of suffixes is stripped once, by its longest suffix.**  This is so for every checked
rule with a family and every name in one line; the same suffixes in another order give another
checked rule that leaves the same of the name. -/
theorem baseKey_stripsLongest {s : DuplicateSpec} {id : String} (hd : s.compile id = .ok d)
    (hfamily : s.requireDistinctSuffixes = true) (hname : '\n' ∉ name.toList) :
    d.StripsLongest s.suffixes name ∧
      ∀ others : List String, (∀ w, w ∈ others ↔ w ∈ s.suffixes) →
        ∃ d', { s with suffixes := others }.compile id = .ok d' ∧
          d'.baseKey name = d.baseKey name ∧ d'.suffixOf name = d.suffixOf name := by
  obtain ⟨hne, hgroup, kinds, hkinds, rfl⟩ := (compile_family_iff hfamily).1 hd
  have htakes := suffixFamily_takesRest hne
  refine ⟨stripsLongest_of_takesRest htakes hname, fun others hsame => ?_⟩
  have hne' : others ≠ [] := by
    obtain ⟨w, hw⟩ := List.exists_mem_of_ne_nil _ hne
    exact List.ne_nil_of_mem ((hsame w).2 hw)
  let d' : Duplication := ⟨kinds, suffixFamily others, true, s.minGroup.toNat, s.ignoreFileScoped⟩
  have hcompile : { s with suffixes := others }.compile id = .ok d' :=
    (compile_family_iff (s := { s with suffixes := others }) hfamily).2
      ⟨hne', hgroup, kinds, hkinds, rfl⟩
  have htest : (fun v => decide (v ∈ others.map String.toList))
      = fun v => decide (v ∈ s.suffixes.map String.toList) := by
    funext v
    simp only [List.mem_map, hsame]
  have hremove : (suffixFamily others).removeFrom name.toList
      = (suffixFamily s.suffixes).removeFrom name.toList := by
    rw [(suffixFamily_takesRest hne').removeFrom_eq hname, htest, htakes.removeFrom_eq hname]
  have hbase : d'.baseKey name = baseKey ⟨kinds, suffixFamily s.suffixes, true,
    s.minGroup.toNat, s.ignoreFileScoped⟩ name := baseKey_congr hremove
  exact ⟨d', hcompile, hbase, by rw [suffixOf, suffixOf, hbase]⟩

/-- A family with suffixes of suffixes, with signs that patterns know, and with nothing. -/
def optionsFamily : DuplicateSpec where
  suffixes := ["Options", "", "ReadOptions", "(s)?", "s"]
  requireDistinctSuffixes := true

/-- Of two suffixes that a name ends with, the longer is stripped. -/
theorem baseKey_stripsLongest_options : ∃ d, optionsFamily.compile "family" = .ok d ∧
    optionsFamily.requireDistinctSuffixes = true ∧ '\n' ∉ "CacheReadOptions".toList ∧
    d.baseKey "CacheReadOptions" ++ "ReadOptions" = "CacheReadOptions" ∧
    ∃ d', { optionsFamily with suffixes := ["s", "(s)?", "ReadOptions", "", "Options"] }.compile
        "family" = .ok d' ∧ d'.baseKey "CacheReadOptions" = d.baseKey "CacheReadOptions" := by
  have hcompiled : (optionsFamily.compile "family").toOption.isSome = true := by decide +kernel
  obtain ⟨d, hd⟩ := exists_ok_of_isSome hcompiled
  have hname : '\n' ∉ "CacheReadOptions".toList := by decide +kernel
  have hlongest : IsLongestSuffix optionsFamily.suffixes "CacheReadOptions" "ReadOptions" :=
    ⟨by decide, by decide +kernel, by decide +kernel⟩
  obtain ⟨hstrips, hothers⟩ := baseKey_stripsLongest hd rfl hname
  obtain ⟨d', hd', hbase, -⟩ := hothers ["s", "(s)?", "ReadOptions", "", "Options"] fun w => by
    simp only [optionsFamily, List.mem_cons, List.not_mem_nil, or_false]
    tauto
  exact ⟨d, hd, rfl, hname, hstrips.stripped _ hlongest (by decide), d', hd', hbase⟩

end Duplication
end Conformance
