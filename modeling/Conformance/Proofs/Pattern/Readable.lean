/-
# What a pattern can read

A match of a pattern reads a text of its language (`Pattern.run_within`).  Here is the converse for
patterns that ask for nothing but the text ahead, and whose repeated parts always read a character:
where a text of the language stands and what follows succeeds behind it, the pattern matches
(`Pattern.run_reading`).  It may match in another way, which it prefers; that there is a match is
all that is said.

A repetition has enough rounds: it may take as many as there are characters left, and each round
of a text of the language reads one at least.
-/
import Conformance.Proofs.Pattern.Language
import Conformance.Proofs.Pattern.Occurrences

namespace Conformance.Pattern

open Progress (amid)

variable {κ : Type} {L M : Language Char}

/-- A matcher reads the texts of a language: it succeeds where one of them stands, if what follows
succeeds behind it whatever the groups remember. -/
def Reading (L : Language Char) (m : Matcher κ) : Prop :=
  ∀ u ∈ L, ∀ (v b : List Char) (cs : List (κ × Capture)) (k : Continuation κ),
    (∀ cs', (k (amid (u.reverse ++ b) v cs')).isSome = true) →
      (m (amid b (u ++ v) cs) k).isSome = true

/-! ## Repetitions -/

section Rounds

variable {m : Matcher κ}

lemma Reading.exactly (hm : Reading L m) (n : Nat) : Reading (L ^ n) (exactly m n) := by
  induction n with
  | zero =>
    intro u hu v b cs k hk
    obtain rfl : u = [] := by simpa [Language.mem_one] using hu
    exact hk cs
  | succ n ih =>
    intro w hw v b cs k hk
    rw [pow_succ'] at hw
    obtain ⟨u, hu, u', hu', rfl⟩ := Language.mem_mul.1 hw
    rw [List.append_assoc]
    refine hm u hu _ b cs _ fun cs₁ => ih u' hu' v _ cs₁ k fun cs₂ => ?_
    simpa using hk cs₂

/-- A round that reads a character is followed by further rounds. -/
lemma isSome_round {rest : Matcher κ} (hm : Reading L m) (hrest : Reading M rest)
    {u u' v b : List Char} (hu : u ∈ L) (hne : u ≠ []) (hu' : u' ∈ M) (cs : List (κ × Capture))
    {k : Continuation κ} (hk : ∀ cs', (k (amid ((u ++ u').reverse ++ b) v cs')).isSome = true) :
    (m (amid b (u ++ (u' ++ v)) cs) fun s' =>
      if s'.cursor.left == (amid b (u ++ (u' ++ v)) cs).cursor.left then k s'
      else rest s' k).isSome = true := by
  have hmoved : ((u' ++ v).length == (u ++ (u' ++ v)).length) = false := by
    have := List.length_pos_iff.2 hne
    simp only [List.length_append, beq_eq_false_iff_ne]
    omega
  refine hm u hu _ b cs _ fun cs₁ => ?_
  simp only [Progress.cursor_amid, Cursor.left_amid, hmoved]
  refine hrest u' hu' v _ cs₁ k fun cs₂ => ?_
  simpa using hk cs₂

lemma Reading.greedily (hm : Reading L m) (hne : ∀ u ∈ L, u ≠ []) {n most : Nat} (h : n ≤ most) :
    Reading (L ^ n) (greedily m most) := by
  induction n generalizing most with
  | zero =>
    intro u hu v b cs k hk
    obtain rfl : u = [] := by simpa [Language.mem_one] using hu
    cases most with
    | zero => exact hk cs
    | succ most =>
      rw [List.nil_append, Pattern.greedily]
      split
      · rfl
      · exact hk cs
  | succ n ih =>
    obtain ⟨most, rfl⟩ := Nat.exists_eq_succ_of_ne_zero (Nat.ne_of_gt (Nat.zero_lt_of_lt h))
    intro w hw v b cs k hk
    rw [pow_succ'] at hw
    obtain ⟨u, hu, u', hu', rfl⟩ := Language.mem_mul.1 hw
    have hround := isSome_round hm (ih (Nat.le_of_succ_le_succ h)) hu (hne u hu) hu' cs hk
    rw [List.append_assoc, Pattern.greedily]
    split
    · rfl
    · rename_i hnone
      rw [hnone] at hround
      exact absurd hround (by simp)

lemma Reading.lazily (hm : Reading L m) (hne : ∀ u ∈ L, u ≠ []) {n most : Nat} (h : n ≤ most) :
    Reading (L ^ n) (lazily m most) := by
  induction n generalizing most with
  | zero =>
    intro u hu v b cs k hk
    obtain rfl : u = [] := by simpa [Language.mem_one] using hu
    cases most with
    | zero => exact hk cs
    | succ most =>
      rw [List.nil_append, Pattern.lazily]
      split
      · rfl
      · rename_i hnone
        exact absurd (hk cs) (by simpa using hnone)
  | succ n ih =>
    obtain ⟨most, rfl⟩ := Nat.exists_eq_succ_of_ne_zero (Nat.ne_of_gt (Nat.zero_lt_of_lt h))
    intro w hw v b cs k hk
    rw [pow_succ'] at hw
    obtain ⟨u, hu, u', hu', rfl⟩ := Language.mem_mul.1 hw
    rw [List.append_assoc, Pattern.lazily]
    split
    · rfl
    · exact isSome_round hm (ih (Nat.le_of_succ_le_succ h)) hu (hne u hu) hu' cs hk

lemma le_length_of_mem_pow (hne : ∀ u ∈ L, u ≠ []) {n : Nat} {u : List Char} (hu : u ∈ L ^ n) :
    n ≤ u.length := by
  obtain ⟨us, rfl, rfl, hus⟩ := Language.mem_pow.1 hu
  exact length_le_length_flatten fun v hv => hne v (hus v hv)

lemma Reading.repeatedly (hm : Reading L m) (hne : ∀ u ∈ L, u ≠ []) {least n : Nat}
    {most : Option Nat} {greed : Greed} (hgreed : greed ≠ .possessive) (hleast : least ≤ n)
    (hmost : ∀ i, most = some i → n ≤ max least i) :
    Reading (L ^ n) (repeatedly m least most greed) := by
  intro w hw v b cs k hk
  obtain ⟨more, rfl⟩ := Nat.exists_eq_add_of_le hleast
  rw [pow_add] at hw
  obtain ⟨u, hu, u', hu', rfl⟩ := Language.mem_mul.1 hw
  -- behind the required rounds there are enough optional ones
  have henough : ∀ cs' : List (κ × Capture),
      more ≤ optionalRounds (amid (u.reverse ++ b) (u' ++ v) cs') least most := by
    intro cs'
    have hlength := le_length_of_mem_pow hne hu'
    cases most with
    | none =>
      simp only [optionalRounds, Progress.cursor_amid, Cursor.left_amid, List.length_append]
      omega
    | some i =>
      have := hmost i rfl
      simp only [optionalRounds, Progress.cursor_amid, Cursor.left_amid, List.length_append]
      omega
  have hrest : ∀ cs', (k (amid (u'.reverse ++ (u.reverse ++ b)) v cs')).isSome = true := by
    intro cs'
    simpa using hk cs'
  rw [List.append_assoc]
  cases greed with
  | greedy =>
    exact hm.exactly least u hu _ b cs _ fun cs' =>
      hm.greedily hne (henough cs') u' hu' v _ cs' k hrest
  | lazy =>
    exact hm.exactly least u hu _ b cs _ fun cs' =>
      hm.lazily hne (henough cs') u' hu' v _ cs' k hrest
  | possessive => exact absurd rfl hgreed

end Rounds

/-! ## Texts of a language -/

section Texts

variable {p : Pattern κ} {u : List Char} {us : List (List Char)}

/-- Texts of the parts, one after another, are a text of the sequence. -/
lemma flatten_mem_language_concat {ps : List (Pattern κ)}
    (h : List.Forall₂ (fun u p => u ∈ p.language) us ps) : us.flatten ∈ (concat ps).language := by
  induction h with
  | nil => exact Language.nil_mem_one
  | cons hu _ ih => exact mem_language_concat_cons.2 ⟨_, hu, _, ih, rfl⟩

lemma mem_language_oneOf {ps : List (Pattern κ)} (hp : p ∈ ps) (hu : u ∈ p.language) :
    u ∈ (oneOf ps).language := by
  induction ps with
  | nil => exact absurd hp (by simp)
  | cons q ps ih =>
    cases ps with
    | nil =>
      obtain rfl := List.mem_singleton.1 hp
      exact hu
    | cons q' ps =>
      rcases List.mem_cons.1 hp with rfl | hp
      · exact .inl hu
      · exact .inr (ih hp)

lemma mem_language_words {w : String} {ws : List String} (hw : w ∈ ws) :
    w.toList ∈ (words ws : Pattern κ).language :=
  mem_language_oneOf (List.mem_map_of_mem hw) (mem_language_literal.2 rfl)

lemma flatten_mem_language_rounds {least : Nat} {most : Option Nat} {greed : Greed}
    (hleast : least ≤ us.length) (hmost : ∀ i, most = some i → us.length ≤ max least i)
    (hus : ∀ u ∈ us, u ∈ p.language) : us.flatten ∈ (rounds p least most greed).language :=
  ⟨us.length, hleast, hmost, Language.mem_pow.2 ⟨us, rfl, rfl, hus⟩⟩

lemma flatten_mem_language_star (hus : ∀ u ∈ us, u ∈ p.language) :
    us.flatten ∈ (star p).language :=
  flatten_mem_language_rounds (Nat.zero_le _) (by simp) hus

lemma nil_mem_language_rounds {most : Option Nat} {greed : Greed} :
    [] ∈ (rounds p 0 most greed).language :=
  flatten_mem_language_rounds (Nat.zero_le 0) (by simp) (by simp : ∀ u ∈ [], u ∈ p.language)

lemma mem_language_opt (hu : u ∈ p.language) : u ∈ (opt p).language := by
  have h : [u].flatten ∈ (opt p).language :=
    flatten_mem_language_rounds (Nat.zero_le _) (by simp) (by simpa using hu)
  rwa [List.flatten_singleton] at h

/-- A text that a test accepts is read character by character. -/
lemma mem_language_rounds_one {t : CharTest} {least : Nat} {greed : Greed}
    (hleast : least ≤ u.length) (hu : ∀ x ∈ u, t.accepts x = true) :
    u ∈ (rounds (.one t : Pattern κ) least none greed).language := by
  have hflatten : (u.map fun x => [x]).flatten = u := List.flatMap_singleton' u
  rw [← hflatten]
  refine flatten_mem_language_rounds (by simpa using hleast) (by simp) fun v hv => ?_
  obtain ⟨x, hx, rfl⟩ := List.mem_map.1 hv
  exact ⟨x, rfl, hu x hx⟩

end Texts

/-! ## Patterns -/

/-- A pattern that always reads a character describes no empty text. -/
lemma ne_nil_of_mem_language {p : Pattern κ} (hp : p.consumes = true) {u : List Char}
    (hu : u ∈ p.language) : u ≠ [] := by
  induction p generalizing u with
  | one t =>
    obtain ⟨x, rfl, -⟩ := hu
    simp
  | seq a b iha ihb =>
    obtain ⟨v, hv, w, hw, rfl⟩ := Language.mem_mul.1 hu
    rcases Bool.or_eq_true_iff.1 hp with h | h
    · simp [iha h hv]
    · simp [ihb h hw]
  | alt a b iha ihb =>
    obtain ⟨ha, hb⟩ := Bool.and_eq_true_iff.1 hp
    exact hu.elim (iha ha) (ihb hb)
  | group key a ih => exact ih hp hu
  | rounds a least most greed ih =>
    obtain ⟨ha, hleast⟩ := Bool.and_eq_true_iff.1 hp
    obtain ⟨n, hn, -, hu⟩ := hu
    have hlength := le_length_of_mem_pow (fun v hv => ih ha hv) hu
    have hpos : 0 < least := of_decide_eq_true hleast
    exact List.length_pos_iff.1 (by omega)
  | atomic a ih => exact ih hp hu
  | ifMatched key a b iha ihb =>
    obtain ⟨ha, hb⟩ := Bool.and_eq_true_iff.1 hp
    exact hu.elim (iha ha) (ihb hb)
  | _ => exact absurd hp (by simp [consumes, reads])

/-- Whether a pattern asks for nothing but the text ahead, and each of its repeated parts always
reads a character and may be read in fewer rounds. -/
def plain : Pattern κ → Bool
  | .empty => true
  | .one _ => true
  | .seq a b => a.plain && b.plain
  | .alt a b => a.plain && b.plain
  | .group _ a => a.plain
  | .rounds a _ _ greed => a.plain && (a.consumes && greed != .possessive)
  | _ => false

variable [DecidableEq κ]

/-- **Where a text of its language stands, a pattern matches**, if what follows succeeds behind
this text. -/
theorem run_reading {p : Pattern κ} (hp : p.plain = true) : Reading p.language p.run := by
  induction p with
  | empty =>
    intro u hu v b cs k hk
    obtain rfl := (Language.mem_one u).1 hu
    exact hk cs
  | one t =>
    rintro u ⟨x, rfl, hx⟩ v b cs k hk
    rw [List.singleton_append, run_one_cons, if_pos hx]
    exact hk cs
  | seq a b iha ihb =>
    obtain ⟨ha, hb⟩ := Bool.and_eq_true_iff.1 hp
    intro w hw v before cs k hk
    obtain ⟨u, hu, u', hu', rfl⟩ := Language.mem_mul.1 hw
    rw [List.append_assoc]
    refine iha ha u hu _ before cs _ fun cs₁ => ihb hb u' hu' v _ cs₁ k fun cs₂ => ?_
    simpa using hk cs₂
  | alt a b iha ihb =>
    obtain ⟨ha, hb⟩ := Bool.and_eq_true_iff.1 hp
    intro u hu v before cs k hk
    rw [run_alt, Option.isSome_or, Bool.or_eq_true]
    exact hu.imp (fun h => iha ha u h v before cs k hk) fun h => ihb hb u h v before cs k hk
  | group key a ih =>
    intro u hu v b cs k hk
    exact ih hp u hu v b cs _ fun cs' => hk _
  | rounds a least most greed ih =>
    obtain ⟨ha, hrounds⟩ := Bool.and_eq_true_iff.1 hp
    obtain ⟨hconsumes, hgreed⟩ := Bool.and_eq_true_iff.1 hrounds
    rintro u ⟨n, hleast, hmost, hu⟩ v b cs k hk
    exact (ih ha).repeatedly (fun _ => ne_nil_of_mem_language hconsumes) (bne_iff_ne.1 hgreed)
      hleast hmost u hu v b cs k hk
  | _ => exact absurd hp (by simp [plain])

/-- A sequence is found at the start of a text, where texts of its parts stand one after another. -/
lemma isSome_matchStart? {ps : List (Pattern κ)} (hps : (concat ps).plain = true)
    {us : List (List Char)} (h : List.Forall₂ (fun u p => u ∈ p.language) us ps) (v : List Char) :
    ((concat (.anchor .textStart :: ps)).matchStart? (us.flatten ++ v)).isSome = true := by
  rw [matchStart?_eq, Option.isSome_map, run_concat_cons]
  exact run_reading hps _ (flatten_mem_language_concat h) v [] [] some fun _ => rfl

end Conformance.Pattern
