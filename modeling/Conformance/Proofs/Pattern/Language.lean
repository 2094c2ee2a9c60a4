/-
# The language of a pattern

Conditions apart, a pattern describes a set of texts.  Whatever the order of preference and whatever
follows, a match of the pattern reads one of them, and remembers nothing but its own groups, on top
of what was remembered before (`Pattern.run_within`).  A pattern that is a sequence is therefore
taken apart from left to right: each part reads a text of its language, and hands over to the next
(`Pattern.reaches_of_run_concat_cons`).
-/
import Mathlib.Computability.Language
import Conformance.Proofs.Pattern.Equations

namespace Conformance

namespace Pattern

variable {κ : Type}

/-- The texts that a pattern describes.  Conditions on the place read nothing; of a text that is to
be repeated nothing is said. -/
def language : Pattern κ → Language Char
  | .empty => 1
  | .one t => {u | ∃ x, u = [x] ∧ t.accepts x = true}
  | .seq a b => a.language * b.language
  | .alt a b => a.language + b.language
  | .group _ a => a.language
  | .rounds a least most _ =>
    {u | ∃ n, least ≤ n ∧ (∀ k, most = some k → n ≤ max least k) ∧ u ∈ a.language ^ n}
  | .same _ _ => ⊤
  | .anchor _ => 1
  | .ahead _ _ => 1
  | .behind _ _ _ => 1
  | .atomic a => a.language
  | .ifMatched _ a b => a.language + b.language

/-- The keys of the groups of a pattern. -/
def keys : Pattern κ → List κ
  | .seq a b => a.keys ++ b.keys
  | .alt a b => a.keys ++ b.keys
  | .group key a => key :: a.keys
  | .rounds a _ _ _ => a.keys
  | .ahead _ a => a.keys
  | .behind _ _ a => a.keys
  | .atomic a => a.keys
  | .ifMatched _ a b => a.keys ++ b.keys
  | _ => []

/-! ## The language of some patterns -/

lemma language_concat_cons (p : Pattern κ) (ps : List (Pattern κ)) :
    (concat (p :: ps)).language = p.language * (concat ps).language := by
  cases ps with
  | nil => exact (mul_one p.language).symm
  | cons q qs => rfl

lemma mem_language_concat_cons {p : Pattern κ} {ps : List (Pattern κ)} {u : List Char} :
    u ∈ (concat (p :: ps)).language ↔
      ∃ v ∈ p.language, ∃ w ∈ (concat ps).language, v ++ w = u := by
  rw [language_concat_cons, Language.mem_mul]

lemma mem_language_char {c : Char} {u : List Char} :
    u ∈ (char c : Pattern κ).language ↔ u = [c] := by
  constructor
  · rintro ⟨x, rfl, hx⟩
    rw [beq_iff_eq.1 hx]
  · rintro rfl
    exact ⟨c, rfl, beq_self_eq_true c⟩

lemma exists_of_mem_language_oneOf {ps : List (Pattern κ)} (hps : ps ≠ []) {u : List Char}
    (h : u ∈ (oneOf ps).language) : ∃ p ∈ ps, u ∈ p.language := by
  induction ps with
  | nil => exact absurd rfl hps
  | cons p ps ih =>
    cases ps with
    | nil => exact ⟨p, List.mem_cons_self, h⟩
    | cons q qs =>
      rcases h with h | h
      · exact ⟨p, List.mem_cons_self, h⟩
      · obtain ⟨p', hp', hu⟩ := ih (by simp) h
        exact ⟨p', List.mem_cons_of_mem _ hp', hu⟩

lemma mem_language_literal {w u : List Char} :
    u ∈ (literal w : Pattern κ).language ↔ u = w := by
  induction w generalizing u with
  | nil => exact Language.mem_one u
  | cons x w ih =>
    have hcons : u ∈ (literal (x :: w) : Pattern κ).language ↔
        ∃ v ∈ (char x : Pattern κ).language, ∃ w' ∈ (literal w : Pattern κ).language,
          v ++ w' = u := mem_language_concat_cons
    simp only [hcons, mem_language_char, ih, exists_eq_left]
    exact eq_comm

lemma exists_of_mem_language_words {ws : List String} (hws : ws ≠ []) {u : List Char}
    (h : u ∈ (words ws : Pattern κ).language) : ∃ w ∈ ws, u = w.toList := by
  obtain ⟨p, hp, hu⟩ := exists_of_mem_language_oneOf (by simpa using hws) h
  obtain ⟨w, hw, rfl⟩ := List.mem_map.1 hp
  exact ⟨w, hw, mem_language_literal.1 hu⟩

/-- Rounds read texts of one language, one after another. -/
lemma exists_of_mem_language_rounds {p : Pattern κ} {least : Nat} {most : Option Nat}
    {greed : Greed} {u : List Char} (h : u ∈ (rounds p least most greed).language) :
    ∃ us : List (List Char), u = us.flatten ∧ least ≤ us.length ∧ ∀ v ∈ us, v ∈ p.language := by
  obtain ⟨n, hleast, -, hu⟩ := h
  obtain ⟨us, rfl, rfl, hus⟩ := Language.mem_pow.1 hu
  exact ⟨us, rfl, hleast, hus⟩

lemma accepts_of_mem_language_rounds {t : CharTest} {least : Nat} {most : Option Nat}
    {greed : Greed} {u : List Char}
    (h : u ∈ (rounds (.one t : Pattern κ) least most greed).language) :
    least ≤ u.length ∧ ∀ x ∈ u, t.accepts x = true := by
  obtain ⟨us, rfl, hleast, hus⟩ := exists_of_mem_language_rounds h
  constructor
  · refine hleast.trans (length_le_length_flatten fun v hv => ?_)
    obtain ⟨x, rfl, -⟩ := hus v hv
    simp
  · intro x hx
    obtain ⟨v, hv, hxv⟩ := List.mem_flatten.1 hx
    obtain ⟨y, rfl, hy⟩ := hus v hv
    rwa [List.mem_singleton.1 hxv]

end Pattern

/-! ## What a matcher reads and remembers -/

/-- What is read between two places is the text between them. -/
lemma Cursor.Reads.textSince_eq {c d : Cursor} {u : List Char} (h : c.Reads u d) :
    d.textSince c = u := by
  have hlength : c.left - d.left = u.length := by
    rw [c.left_eq, d.left_eq, h.length_after, Nat.add_sub_cancel]
  rw [Cursor.textSince, hlength, h.1, List.take_left]

namespace Progress

variable {κ : Type}

lemma capture?_remember_self [DecidableEq κ] (s : Progress κ) (key : κ) (c : Cursor) :
    (s.remember key c).capture? key = some ⟨c, s.cursor⟩ := by
  simp [capture?, remember]

lemma capture?_remember_of_ne [DecidableEq κ] (s : Progress κ) {key key' : κ} (h : key' ≠ key)
    (c : Cursor) : (s.remember key' c).capture? key = s.capture? key := by
  simp [capture?, remember, h]

lemma step?_captures {s s' : Progress κ} {t : CharTest} (h : s.step? t = some s') :
    s'.captures = s.captures := by
  unfold step? at h
  split at h
  · exact absurd h (by simp)
  · split at h
    · obtain rfl := Option.some.inj h
      rfl
    · exact absurd h (by simp)

lemma read?_captures {rule : CaseRule} {xs : List Char} {s s' : Progress κ}
    (h : read? rule xs s = some s') : s'.captures = s.captures := by
  induction xs generalizing s with
  | nil =>
    obtain rfl := Option.some.inj h
    rfl
  | cons x xs ih =>
    unfold read? at h
    split at h
    · exact absurd h (by simp)
    · split at h
      · have hrest := ih h
        exact hrest
      · exact absurd h (by simp)

/-- The second place is reached from the first by reading a text of a language, and only groups
with the given keys have remembered something on the way. -/
structure Reaches (L : Language Char) (keys : List κ) (s s' : Progress κ) : Prop where
  reads : ∃ u ∈ L, s.cursor.Reads u s'.cursor
  captures : ∃ new, s'.captures = new ++ s.captures ∧ ∀ e ∈ new, e.1 ∈ keys

namespace Reaches

variable {L M : Language Char} {keys keys' : List κ} {s s' s'' : Progress κ}

lemma refl (keys : List κ) (s : Progress κ) : Reaches 1 keys s s :=
  ⟨⟨[], Language.nil_mem_one, Cursor.Reads.refl _⟩, [], rfl, by simp⟩

lemma trans (h : Reaches L keys s s') (h' : Reaches M keys s' s'') :
    Reaches (L * M) keys s s'' := by
  obtain ⟨⟨u, hu, hread⟩, new, hnew, hkeys⟩ := h
  obtain ⟨⟨v, hv, hread'⟩, new', hnew', hkeys'⟩ := h'
  refine ⟨⟨u ++ v, Language.append_mem_mul hu hv, hread.trans hread'⟩, new' ++ new, ?_, ?_⟩
  · rw [hnew', hnew, List.append_assoc]
  · intro e he
    exact (List.mem_append.1 he).elim (hkeys' e) (hkeys e)

lemma mono (h : Reaches L keys s s') (hL : ∀ u ∈ L, u ∈ M) (hkeys : keys ⊆ keys') :
    Reaches M keys' s s' := by
  obtain ⟨⟨u, hu, hread⟩, new, hnew, hnewKeys⟩ := h
  exact ⟨⟨u, hL u hu, hread⟩, new, hnew, fun e he => hkeys (hnewKeys e he)⟩

lemma mono_keys (h : Reaches L keys s s') (hkeys : keys ⊆ keys') : Reaches L keys' s s' :=
  h.mono (fun _ hu => hu) hkeys

/-- What is read to test a condition is read again. -/
lemma stay {c : Cursor} (h : Reaches L keys (s.moveTo c) s') :
    Reaches 1 keys s (s'.moveTo s.cursor) :=
  ⟨⟨[], Language.nil_mem_one, Cursor.Reads.refl _⟩, h.captures⟩

lemma remember {key : κ} (h : Reaches L keys s s') :
    Reaches L (key :: keys) s (s'.remember key s.cursor) := by
  obtain ⟨hreads, new, hnew, hkeys⟩ := h
  refine ⟨hreads, (key, ⟨s.cursor, s'.cursor⟩) :: new, ?_, ?_⟩
  · rw [List.cons_append, ← hnew]
    rfl
  · intro e he
    rcases List.mem_cons.1 he with rfl | he
    · exact List.mem_cons_self
    · exact List.mem_cons_of_mem _ (hkeys e he)

/-- A group with another key remembers what it did. -/
lemma capture?_eq [DecidableEq κ] (h : Reaches L keys s s') {key : κ} (hkey : key ∉ keys) :
    s'.capture? key = s.capture? key := by
  obtain ⟨-, new, hnew, hkeys⟩ := h
  have hnone : new.find? (fun e => decide (e.1 = key)) = none := by
    refine List.find?_eq_none.2 fun e he => ?_
    rw [decide_eq_true_eq]
    rintro rfl
    exact hkey (hkeys e he)
  rw [Progress.capture?, hnew, List.find?_append, hnone]
  rfl

end Reaches

end Progress

namespace Pattern

open Progress (Reaches)

variable {κ : Type} {L M : Language Char} {ks : List κ}

/-- When a matcher succeeds, its continuation succeeded at a place that is reached by reading a text
of a language. -/
def Within (L : Language Char) (ks : List κ) (m : Matcher κ) : Prop :=
  ∀ s k r, m s k = some r → ∃ s', Reaches L ks s s' ∧ k s' = some r

lemma Within.mono {ks' : List κ} {m : Matcher κ} (h : Within L ks m) (hL : ∀ u ∈ L, u ∈ M)
    (hks : ks ⊆ ks') : Within M ks' m := by
  intro s k r hr
  obtain ⟨s', hs', hk⟩ := h s k r hr
  exact ⟨s', hs'.mono hL hks, hk⟩

lemma within_exactly {m : Matcher κ} (hm : Within L ks m) (n : Nat) :
    Within (L ^ n) ks (exactly m n) := by
  induction n with
  | zero =>
    intro s k r hr
    exact ⟨s, by rw [pow_zero]; exact .refl ks s, hr⟩
  | succ n ih =>
    intro s k r hr
    obtain ⟨s₁, h₁, hk₁⟩ := hm s _ r hr
    obtain ⟨s₂, h₂, hk₂⟩ := ih s₁ k r hk₁
    exact ⟨s₂, by rw [pow_succ']; exact h₁.trans h₂, hk₂⟩

/-- Up to a number of texts of a language, one after another. -/
def upTo (L : Language Char) (n : Nat) : Language Char :=
  {u | ∃ i ≤ n, u ∈ L ^ i}

lemma nil_mem_upTo (n : Nat) : ∀ u ∈ (1 : Language Char), u ∈ upTo L n := by
  intro u hu
  exact ⟨0, Nat.zero_le n, by rwa [pow_zero]⟩

lemma mem_upTo_succ {n : Nat} : ∀ u ∈ L * upTo L n, u ∈ upTo L (n + 1) := by
  intro w hw
  obtain ⟨u, hu, v, ⟨i, hi, hv⟩, rfl⟩ := Language.mem_mul.1 hw
  exact ⟨i + 1, Nat.succ_le_succ hi, by rw [pow_succ']; exact Language.append_mem_mul hu hv⟩

lemma mem_upTo_one {n : Nat} : ∀ u ∈ L, u ∈ upTo L (n + 1) := by
  intro u hu
  exact ⟨1, Nat.succ_le_succ (Nat.zero_le n), by rwa [pow_one]⟩

/-- A round that reads nothing is the last; otherwise further rounds follow. -/
lemma reaches_round {m rest : Matcher κ} {n : Nat} (hm : Within L ks m)
    (hrest : Within (upTo L n) ks rest) {s r : Progress κ} {k : Continuation κ}
    (hr : (m s fun s' => if s'.cursor.left == s.cursor.left then k s' else rest s' k) = some r) :
    ∃ s', Reaches (upTo L (n + 1)) ks s s' ∧ k s' = some r := by
  obtain ⟨s₁, h₁, hk₁⟩ := hm s _ r hr
  split at hk₁
  · exact ⟨s₁, h₁.mono mem_upTo_one (List.Subset.refl ks), hk₁⟩
  · obtain ⟨s₂, h₂, hk₂⟩ := hrest s₁ k r hk₁
    exact ⟨s₂, (h₁.trans h₂).mono mem_upTo_succ (List.Subset.refl ks), hk₂⟩

lemma reaches_none (n : Nat) (s : Progress κ) : Reaches (upTo L n) ks s s :=
  (Reaches.refl ks s).mono (nil_mem_upTo n) (List.Subset.refl ks)

lemma within_greedily {m : Matcher κ} (hm : Within L ks m) (n : Nat) :
    Within (upTo L n) ks (greedily m n) := by
  induction n with
  | zero =>
    intro s k r hr
    exact ⟨s, reaches_none 0 s, hr⟩
  | succ n ih =>
    intro s k r hr
    unfold greedily at hr
    split at hr
    · rename_i r' heq
      obtain rfl := Option.some.inj hr
      exact reaches_round hm ih heq
    · exact ⟨s, reaches_none _ s, hr⟩

lemma within_lazily {m : Matcher κ} (hm : Within L ks m) (n : Nat) :
    Within (upTo L n) ks (lazily m n) := by
  induction n with
  | zero =>
    intro s k r hr
    exact ⟨s, reaches_none 0 s, hr⟩
  | succ n ih =>
    intro s k r hr
    unfold lazily at hr
    split at hr
    · rename_i r' heq
      obtain rfl := Option.some.inj hr
      exact ⟨s, reaches_none _ s, heq⟩
    · exact reaches_round hm ih hr

lemma within_firstOnly {m : Matcher κ} (hm : Within L ks m) : Within L ks (firstOnly m) := by
  intro s k r hr
  unfold firstOnly at hr
  split at hr
  · rename_i s₁ heq
    obtain ⟨s₂, h₂, hk⟩ := hm s _ _ heq
    obtain rfl := Option.some.inj hk
    exact ⟨s₂, h₂, hr⟩
  · exact absurd hr (by simp)

lemma within_repeatedly {m : Matcher κ} (hm : Within L ks m) (least : Nat) (most : Option Nat)
    (greed : Greed) :
    Within {u | ∃ n, least ≤ n ∧ (∀ k, most = some k → n ≤ max least k) ∧ u ∈ L ^ n} ks
      (repeatedly m least most greed) := by
  -- the optional rounds follow the required ones, and there are not too many of them
  have combine : ∀ {first : Matcher κ} {rest : Progress κ → Matcher κ},
      Within (L ^ least) ks first →
      (∀ s, Within (upTo L (optionalRounds s least most)) ks (rest s)) →
      Within {u | ∃ n, least ≤ n ∧ (∀ k, most = some k → n ≤ max least k) ∧ u ∈ L ^ n} ks
        (fun s k => first s fun s' => rest s' s' k) := by
    intro first rest hfirst hrest s k r hr
    obtain ⟨s₁, h₁, hk₁⟩ := hfirst s _ r hr
    obtain ⟨s₂, h₂, hk₂⟩ := hrest s₁ s₁ k r hk₁
    refine ⟨s₂, (h₁.trans h₂).mono ?_ (List.Subset.refl ks), hk₂⟩
    intro w hw
    obtain ⟨u, hu, v, ⟨i, hi, hv⟩, rfl⟩ := Language.mem_mul.1 hw
    refine ⟨least + i, Nat.le_add_right _ _, ?_, ?_⟩
    · rintro n rfl
      have hle : i ≤ n - least := hi.trans (Nat.min_le_left _ _)
      omega
    · rw [pow_add]
      exact Language.append_mem_mul hu hv
  cases greed with
  | greedy => exact combine (within_exactly hm least) fun _ => within_greedily hm _
  | lazy => exact combine (within_exactly hm least) fun _ => within_lazily hm _
  | possessive =>
    exact combine (within_exactly (within_firstOnly hm) least) fun _ =>
      within_firstOnly (within_greedily (within_firstOnly hm) _)

/-! ## What a pattern reads and remembers -/

variable [DecidableEq κ]

/-- **A match of a pattern reads a text of its language.** -/
theorem run_within (p : Pattern κ) : Within p.language p.keys p.run := by
  induction p with
  | empty =>
    intro s k r hr
    exact ⟨s, .refl _ s, hr⟩
  | one t =>
    intro s k r hr
    unfold run at hr
    split at hr
    · rename_i s' heq
      obtain ⟨x, hx, ht⟩ := Progress.step?_reads heq
      exact ⟨s', ⟨⟨[x], ⟨x, rfl, ht⟩, hx⟩, [], Progress.step?_captures heq, by simp⟩, hr⟩
    · exact absurd hr (by simp)
  | seq a b iha ihb =>
    intro s k r hr
    obtain ⟨s₁, h₁, hk₁⟩ := iha s _ r hr
    obtain ⟨s₂, h₂, hk₂⟩ := ihb s₁ k r hk₁
    exact ⟨s₂, (h₁.mono_keys (List.subset_append_left _ _)).trans
      (h₂.mono_keys (List.subset_append_right _ _)), hk₂⟩
  | alt a b iha ihb =>
    intro s k r hr
    unfold run at hr
    split at hr
    · rename_i r' heq
      obtain rfl := Option.some.inj hr
      exact iha.mono (fun _ => Or.inl) (List.subset_append_left _ _) s k _ heq
    · exact ihb.mono (fun _ => Or.inr) (List.subset_append_right _ _) s k r hr
  | group key a ih =>
    intro s k r hr
    obtain ⟨s₁, h₁, hk₁⟩ := ih s _ r hr
    exact ⟨_, h₁.remember, hk₁⟩
  | rounds a least most greed ih => exact within_repeatedly ih least most greed
  | same key rule =>
    intro s k r hr
    unfold run at hr
    split at hr
    · exact absurd hr (by simp)
    · split at hr
      · rename_i s' heq
        obtain ⟨u, hu⟩ := Progress.read?_reads heq
        exact ⟨s', ⟨⟨u, trivial, hu⟩, [], Progress.read?_captures heq, by simp⟩, hr⟩
      · exact absurd hr (by simp)
  | anchor a =>
    intro s k r hr
    unfold run at hr
    split at hr
    · exact ⟨s, .refl _ s, hr⟩
    · exact absurd hr (by simp)
  | ahead holds a ih =>
    intro s k r hr
    unfold run at hr
    split at hr
    · rename_i s' heq
      split at hr
      · obtain ⟨s₁, h₁, hk₁⟩ := ih s some s' heq
        obtain rfl := Option.some.inj hk₁
        exact ⟨_, Reaches.stay h₁, hr⟩
      · exact absurd hr (by simp)
    · split at hr
      · exact absurd hr (by simp)
      · exact ⟨s, .refl _ s, hr⟩
  | behind holds width a ih =>
    intro s k r hr
    unfold run at hr
    split at hr
    · split at hr
      · exact absurd hr (by simp)
      · exact ⟨s, .refl _ s, hr⟩
    · split at hr
      · rename_i s' heq
        split at hr
        · obtain ⟨s₁, h₁, hk₁⟩ := ih _ some s' heq
          obtain rfl := Option.some.inj hk₁
          exact ⟨_, h₁.stay, hr⟩
        · exact absurd hr (by simp)
      · split at hr
        · exact absurd hr (by simp)
        · exact ⟨s, .refl _ s, hr⟩
  | atomic a ih => exact within_firstOnly ih
  | ifMatched key a b iha ihb =>
    intro s k r hr
    unfold run at hr
    split at hr
    · exact iha.mono (fun _ => Or.inl) (List.subset_append_left _ _) s k r hr
    · exact ihb.mono (fun _ => Or.inr) (List.subset_append_right _ _) s k r hr

/-! ## Taking a pattern apart -/

variable {s r : Progress κ} {k : Continuation κ}

lemma reaches_of_run_concat_cons {p : Pattern κ} {ps : List (Pattern κ)}
    (h : run (concat (p :: ps)) s k = some r) :
    ∃ s', Reaches p.language p.keys s s' ∧ run (concat ps) s' k = some r := by
  rw [run_concat_cons] at h
  exact run_within p s _ r h

lemma reaches_of_run_concat_group {key : κ} {p : Pattern κ} {ps : List (Pattern κ)}
    (h : run (concat (.group key p :: ps)) s k = some r) :
    ∃ s', Reaches p.language p.keys s s' ∧
      run (concat ps) (s'.remember key s.cursor) k = some r := by
  rw [run_concat_cons, run_group] at h
  exact run_within p s _ r h

lemma of_run_anchor {a : Anchor} (h : run (.anchor a) s k = some r) :
    s.cursor.satisfies a = true ∧ k s = some r := by
  unfold run at h
  split at h
  · exact ⟨‹_›, h⟩
  · exact absurd h (by simp)

/-- A character behind a place is the last one before it. -/
lemma of_run_behind_one {t : CharTest} (h : run (.behind true 1 (.one t)) s k = some r) :
    (∃ x ∈ s.cursor.before.head?, t.accepts x = true) ∧ k s = some r := by
  rw [← Progress.amid_eq s] at h ⊢
  generalize s.cursor.before = b at h ⊢
  cases b with
  | nil => exact absurd h (by simp [run, Cursor.back?, Cursor.previous?])
  | cons x b =>
    rw [run_behind_one, run_one_cons] at h
    split at h
    · exact ⟨⟨x, rfl, ‹_›⟩, h⟩
    · exact absurd h (by simp)

/-- The preferred match at a place is what the pattern reaches from it. -/
lemma run_of_matchAt? {p : Pattern κ} {consuming : Bool} {c : Cursor} {m : Match κ}
    (h : p.matchAt? consuming c = some m) :
    m.start = c ∧ ∃ k : Continuation κ, (∀ s r, k s = some r → s = r) ∧
      p.run ⟨c, []⟩ k = some m.stop := by
  obtain ⟨r, hr, rfl⟩ := Option.map_eq_some_iff.1 h
  refine ⟨rfl, _, ?_, hr⟩
  intro s r hs
  split at hs
  · exact absurd hs (by simp)
  · exact Option.some.inj hs

/-- What a group remembers that no later part remembers anew is a text of its pattern. -/
lemma exists_capture?_of_matchAt? {key : κ} {p : Pattern κ}
    {before after : List (Pattern κ)} (hkey : key ∉ (concat after).keys) {consuming : Bool}
    {c : Cursor} {m : Match κ}
    (h : (concat (before ++ .group key p :: after)).matchAt? consuming c = some m) :
    ∃ capture, m.capture? key = some capture ∧ capture.text ∈ p.language := by
  obtain ⟨-, k, hk, h⟩ := run_of_matchAt? h
  rw [run_concat_append] at h
  obtain ⟨s₁, -, h⟩ := run_within (concat before) _ _ _ h
  obtain ⟨s₂, ⟨⟨u, hu, hread⟩, -⟩, h⟩ := reaches_of_run_concat_group h
  obtain ⟨s₃, hafter, h⟩ := run_within (concat after) _ _ _ h
  obtain rfl := hk _ _ h
  refine ⟨⟨s₁.cursor, s₂.cursor⟩, ?_, ?_⟩
  · rw [Match.capture?, hafter.capture?_eq hkey]
    exact Progress.capture?_remember_self _ _ _
  · have htext : Capture.text ⟨s₁.cursor, s₂.cursor⟩ = u := hread.textSince_eq
    rwa [htext]

end Pattern
end Conformance
