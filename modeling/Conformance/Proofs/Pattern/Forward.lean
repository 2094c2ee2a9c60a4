/-
# Matches move forward

A matcher hands places to its continuation that lie at or behind the place where it started, and
the shape of a pattern can tell that it always reads a character of some sort on the way.  From this
the places of the matches in a text follow: they come from left to right, no two of them overlap,
and they lie inside the text.  A text without a character that the pattern must read has no match.

The main statements are

* `Pattern.run_forward`: what a pattern reads before it hands over to its continuation;
* `Pattern.all_pairwise` and `Pattern.column_lt_of_mem_all`: the matches of a pattern that always
  reads a character have increasing columns, all of them inside the text;
* `Pattern.searchFrom?_eq_none_of_reads`: no match without what the pattern must read.
-/
import Mathlib.Tactic
import Conformance.Pattern.Match

namespace Conformance

namespace Cursor

/-- The second place is reached from the first by reading a text. -/
def Reads (c : Cursor) (u : List Char) (d : Cursor) : Prop :=
  c.after = u ++ d.after ∧ d.before = u.reverse ++ c.before

lemma Reads.refl (c : Cursor) : c.Reads [] c := by
  simp [Reads]

lemma Reads.trans {c d e : Cursor} {u v : List Char} (h₁ : c.Reads u d) (h₂ : d.Reads v e) :
    c.Reads (u ++ v) e := by
  refine ⟨?_, ?_⟩
  · rw [h₁.1, h₂.1, List.append_assoc]
  · rw [h₂.2, h₁.2, List.reverse_append, List.append_assoc]

lemma reads_advance (c : Cursor) {x : Char} {rest : List Char} (h : c.after = x :: rest) :
    c.Reads [x] (c.advance h) :=
  ⟨h, rfl⟩

lemma Reads.column_eq {c d : Cursor} {u : List Char} (h : c.Reads u d) :
    d.column = c.column + u.length := by
  rw [column, h.2, List.length_append, List.length_reverse, Nat.add_comm, column]

lemma Reads.length_after {c d : Cursor} {u : List Char} (h : c.Reads u d) :
    c.after.length = u.length + d.after.length := by
  rw [h.1, List.length_append]

/-- What is read lies between the two columns, so the end of the text is the same for both. -/
lemma Reads.end_eq {c d : Cursor} {u : List Char} (h : c.Reads u d) :
    d.column + d.after.length = c.column + c.after.length := by
  rw [h.column_eq, h.length_after, Nat.add_assoc]

lemma next?_reads {c d : Cursor} (h : c.next? = some d) : ∃ x, c.Reads [x] d := by
  unfold next? at h
  split at h
  · exact absurd h (by simp)
  · rename_i x rest heq
    obtain rfl := Option.some.inj h
    exact ⟨x, reads_advance c heq⟩

end Cursor

namespace Progress

variable {κ : Type}

lemma step?_reads {s s' : Progress κ} {t : CharTest} (h : s.step? t = some s') :
    ∃ x, s.cursor.Reads [x] s'.cursor ∧ t.accepts x = true := by
  unfold step? at h
  split at h
  · exact absurd h (by simp)
  · rename_i x rest heq
    split at h
    · rename_i hx
      obtain rfl := Option.some.inj h
      exact ⟨x, Cursor.reads_advance s.cursor heq, hx⟩
    · exact absurd h (by simp)

lemma read?_reads {rule : CaseRule} {xs : List Char} {s s' : Progress κ}
    (h : read? rule xs s = some s') : ∃ u, s.cursor.Reads u s'.cursor := by
  induction xs generalizing s with
  | nil =>
    obtain rfl := Option.some.inj h
    exact ⟨[], Cursor.Reads.refl _⟩
  | cons x xs ih =>
    unfold read? at h
    split at h
    · exact absurd h (by simp)
    · rename_i y rest heq
      split at h
      · obtain ⟨u, hu⟩ := ih h
        exact ⟨[y] ++ u, (Cursor.reads_advance s.cursor heq).trans hu⟩
      · exact absurd h (by simp)

end Progress

namespace Pattern

variable {κ : Type}

/-! ## Matchers -/

/-- A matcher only moves forward: when it succeeds, its continuation succeeded at a place behind
the start.  If `strict` holds, a character with the property `Q` lies between them. -/
def Forward (Q : Char → Prop) (strict : Prop) (m : Matcher κ) : Prop :=
  ∀ s k r, m s k = some r →
    ∃ s' u, s.cursor.Reads u s'.cursor ∧ k s' = some r ∧ (strict → ∃ x ∈ u, Q x)

variable {Q : Char → Prop}

lemma Forward.weaken {p q : Prop} {m : Matcher κ} (h : Forward Q p m) (hqp : q → p) :
    Forward Q q m := by
  intro s k r hr
  obtain ⟨s', u, hu, hk, hx⟩ := h s k r hr
  exact ⟨s', u, hu, hk, fun hq => hx (hqp hq)⟩

lemma exactly_forward {strict : Prop} {m : Matcher κ} (hm : Forward Q strict m) (n : Nat) :
    Forward Q (strict ∧ 0 < n) (exactly m n) := by
  induction n with
  | zero =>
    intro s k r hr
    exact ⟨s, [], Cursor.Reads.refl _, hr, fun h => absurd h.2 (by simp)⟩
  | succ n ih =>
    intro s k r hr
    obtain ⟨s₁, u, hu, hk, hx⟩ := hm s _ r hr
    obtain ⟨s₂, v, hv, hk₂, -⟩ := ih s₁ k r hk
    refine ⟨s₂, u ++ v, hu.trans hv, hk₂, fun h => ?_⟩
    obtain ⟨x, hxu, hQ⟩ := hx h.1
    exact ⟨x, List.mem_append_left _ hxu, hQ⟩

lemma greedily_forward {m : Matcher κ} (hm : Forward Q False m) (n : Nat) :
    Forward Q False (greedily m n) := by
  induction n with
  | zero =>
    intro s k r hr
    exact ⟨s, [], Cursor.Reads.refl _, hr, False.elim⟩
  | succ n ih =>
    intro s k r hr
    unfold greedily at hr
    split at hr
    · rename_i r' heq
      obtain rfl := Option.some.inj hr
      obtain ⟨s₁, u, hu, hk, -⟩ := hm s _ _ heq
      split at hk
      · exact ⟨s₁, u, hu, hk, False.elim⟩
      · obtain ⟨s₂, v, hv, hk₂, -⟩ := ih s₁ k _ hk
        exact ⟨s₂, u ++ v, hu.trans hv, hk₂, False.elim⟩
    · exact ⟨s, [], Cursor.Reads.refl _, hr, False.elim⟩

lemma lazily_forward {m : Matcher κ} (hm : Forward Q False m) (n : Nat) :
    Forward Q False (lazily m n) := by
  induction n with
  | zero =>
    intro s k r hr
    exact ⟨s, [], Cursor.Reads.refl _, hr, False.elim⟩
  | succ n ih =>
    intro s k r hr
    unfold lazily at hr
    split at hr
    · rename_i r' heq
      obtain rfl := Option.some.inj hr
      exact ⟨s, [], Cursor.Reads.refl _, heq, False.elim⟩
    · obtain ⟨s₁, u, hu, hk, -⟩ := hm s _ _ hr
      split at hk
      · exact ⟨s₁, u, hu, hk, False.elim⟩
      · obtain ⟨s₂, v, hv, hk₂, -⟩ := ih s₁ k _ hk
        exact ⟨s₂, u ++ v, hu.trans hv, hk₂, False.elim⟩

lemma firstOnly_forward {strict : Prop} {m : Matcher κ} (hm : Forward Q strict m) :
    Forward Q strict (firstOnly m) := by
  intro s k r hr
  unfold firstOnly at hr
  split at hr
  · rename_i s₁ heq
    obtain ⟨s₂, u, hu, hk, hx⟩ := hm s _ _ heq
    obtain rfl := Option.some.inj hk
    exact ⟨s₂, u, hu, hr, hx⟩
  · exact absurd hr (by simp)

lemma repeatedly_forward {strict : Prop} {m : Matcher κ} (hm : Forward Q strict m) (least : Nat)
    (most : Option Nat) (greed : Greed) :
    Forward Q (strict ∧ 0 < least) (repeatedly m least most greed) := by
  have hweak : Forward Q False m := hm.weaken False.elim
  have hfirst : Forward Q False (firstOnly m) := firstOnly_forward hweak
  -- the optional rounds only add to what the required ones have read
  have combine : ∀ {first : Matcher κ} {rest : Progress κ → Matcher κ},
      Forward Q (strict ∧ 0 < least) first → (∀ s', Forward Q False (rest s')) →
      Forward Q (strict ∧ 0 < least) (fun s k => first s fun s' => rest s' s' k) := by
    intro first rest h₁ h₂ s k r hr
    obtain ⟨s₁, u, hu, hk, hx⟩ := h₁ s _ r hr
    obtain ⟨s₂, v, hv, hk₂, -⟩ := h₂ s₁ s₁ k r hk
    refine ⟨s₂, u ++ v, hu.trans hv, hk₂, fun h => ?_⟩
    obtain ⟨x, hxu, hQ⟩ := hx h
    exact ⟨x, List.mem_append_left _ hxu, hQ⟩
  cases greed with
  | greedy => exact combine (exactly_forward hm least) fun _ => greedily_forward hweak _
  | lazy => exact combine (exactly_forward hm least) fun _ => lazily_forward hweak _
  | possessive =>
    exact combine (exactly_forward (firstOnly_forward hm) least) fun _ =>
      firstOnly_forward (greedily_forward hfirst _)

/-! ## Patterns -/

/-- Whether every match of a pattern reads a character by one of the chosen tests, as far as its
shape tells. -/
def reads (chosen : CharTest → Bool) : Pattern κ → Bool
  | .one t => chosen t
  | .seq a b => a.reads chosen || b.reads chosen
  | .alt a b => a.reads chosen && b.reads chosen
  | .group _ a => a.reads chosen
  | .rounds a least _ _ => a.reads chosen && decide (0 < least)
  | .atomic a => a.reads chosen
  | .ifMatched _ a b => a.reads chosen && b.reads chosen
  | _ => false

/-- Whether every match of a pattern reads at least one character. -/
def consumes (p : Pattern κ) : Bool :=
  p.reads fun _ => true

/-- Whether every match of a pattern reads a given character. -/
def needs (p : Pattern κ) (x : Char) : Bool :=
  p.reads (· == .char x)

/-- A character that one of the chosen tests accepts. -/
def Chosen (chosen : CharTest → Bool) (x : Char) : Prop :=
  ∃ t, chosen t = true ∧ t.accepts x = true

variable [DecidableEq κ]

/-- A pattern moves forward, over a character of each sort that its shape asks for. -/
theorem run_forward (chosen : CharTest → Bool) (p : Pattern κ) :
    Forward (Chosen chosen) (p.reads chosen = true) p.run := by
  induction p with
  | empty =>
    intro s k r hr
    exact ⟨s, [], Cursor.Reads.refl _, hr, by simp [reads]⟩
  | one t =>
    intro s k r hr
    unfold run at hr
    split at hr
    · rename_i s' heq
      obtain ⟨x, hx, ht⟩ := Progress.step?_reads heq
      exact ⟨s', [x], hx, hr, fun h => ⟨x, List.mem_singleton_self x, t, h, ht⟩⟩
    · exact absurd hr (by simp)
  | seq a b iha ihb =>
    intro s k r hr
    obtain ⟨s₁, u, hu, hk, hx⟩ := iha s _ r hr
    obtain ⟨s₂, v, hv, hk₂, hy⟩ := ihb s₁ k r hk
    refine ⟨s₂, u ++ v, hu.trans hv, hk₂, fun h => ?_⟩
    simp only [reads, Bool.or_eq_true] at h
    rcases h with h | h
    · obtain ⟨x, hxu, hQ⟩ := hx h
      exact ⟨x, List.mem_append_left _ hxu, hQ⟩
    · obtain ⟨y, hyv, hQ⟩ := hy h
      exact ⟨y, List.mem_append_right _ hyv, hQ⟩
  | alt a b iha ihb =>
    intro s k r hr
    unfold run at hr
    simp only [reads, Bool.and_eq_true]
    split at hr
    · rename_i r' heq
      obtain rfl := Option.some.inj hr
      exact iha.weaken And.left s k _ heq
    · exact ihb.weaken And.right s k r hr
  | group key a ih =>
    intro s k r hr
    obtain ⟨s₁, u, hu, hk, hx⟩ := ih s _ r hr
    exact ⟨s₁.remember key s.cursor, u, hu, hk, hx⟩
  | rounds a least most greed ih =>
    -- rounds that may be none read nothing for certain
    have h := repeatedly_forward ih least most greed
    refine Forward.weaken h fun hc => ?_
    simpa [reads] using hc
  | same key rule =>
    intro s k r hr
    unfold run at hr
    split at hr
    · exact absurd hr (by simp)
    · split at hr
      · rename_i s' heq
        obtain ⟨u, hu⟩ := Progress.read?_reads heq
        exact ⟨s', u, hu, hr, by simp [reads]⟩
      · exact absurd hr (by simp)
  | anchor a =>
    intro s k r hr
    unfold run at hr
    split at hr
    · exact ⟨s, [], Cursor.Reads.refl _, hr, by simp [reads]⟩
    · exact absurd hr (by simp)
  | ahead holds a ih =>
    intro s k r hr
    -- whatever the condition reads, the place is the one before it
    have stay : ∀ s' : Progress κ, s.cursor.Reads [] (s'.moveTo s.cursor).cursor :=
      fun _ => Cursor.Reads.refl _
    unfold run at hr
    split at hr
    · split at hr
      · exact ⟨_, [], stay _, hr, by simp [reads]⟩
      · exact absurd hr (by simp)
    · split at hr
      · exact absurd hr (by simp)
      · exact ⟨s, [], Cursor.Reads.refl _, hr, by simp [reads]⟩
  | behind holds width a ih =>
    intro s k r hr
    have stay : ∀ s' : Progress κ, s.cursor.Reads [] (s'.moveTo s.cursor).cursor :=
      fun _ => Cursor.Reads.refl _
    unfold run at hr
    split at hr
    · split at hr
      · exact absurd hr (by simp)
      · exact ⟨s, [], Cursor.Reads.refl _, hr, by simp [reads]⟩
    · split at hr
      · split at hr
        · exact ⟨_, [], stay _, hr, by simp [reads]⟩
        · exact absurd hr (by simp)
      · split at hr
        · exact absurd hr (by simp)
        · exact ⟨s, [], Cursor.Reads.refl _, hr, by simp [reads]⟩
  | atomic a ih => exact firstOnly_forward ih
  | ifMatched key a b iha ihb =>
    intro s k r hr
    unfold run at hr
    simp only [reads, Bool.and_eq_true]
    split at hr
    · exact iha.weaken And.left s k r hr
    · exact ihb.weaken And.right s k r hr

/-! ## Matches in a text -/

/-- The preferred match at a place starts there and reads a text. -/
lemma matchAt?_reads {p : Pattern κ} {consuming : Bool} {c : Cursor} {m : Match κ}
    (h : p.matchAt? consuming c = some m) :
    m.start = c ∧ ∃ u, c.Reads u m.stop.cursor ∧ (p.consumes = true → u ≠ []) := by
  obtain ⟨r, hr, rfl⟩ := Option.map_eq_some_iff.1 h
  obtain ⟨s', u, hu, hk, hx⟩ := run_forward (fun _ => true) p _ _ r hr
  split at hk
  · exact absurd hk (by simp)
  · obtain rfl := Option.some.inj hk
    refine ⟨rfl, u, hu, fun hp => ?_⟩
    obtain ⟨x, hxu, -⟩ := hx hp
    exact List.ne_nil_of_mem hxu

/-- The first match from a place on is the preferred one at a place behind it. -/
lemma exists_matchAt?_of_searchAlong? {p : Pattern κ} {consuming : Bool} {cs : List Char}
    {c : Cursor} {m : Match κ} (h : p.searchAlong? consuming cs c = some m) :
    (∃ u, c.Reads u m.start) ∧ ∃ consuming', p.matchAt? consuming' m.start = some m := by
  induction cs generalizing consuming c with
  | nil =>
    obtain ⟨rfl, -⟩ := matchAt?_reads h
    exact ⟨⟨[], Cursor.Reads.refl _⟩, consuming, h⟩
  | cons x rest ih =>
    unfold searchAlong? at h
    split at h
    · rename_i m' heq
      obtain rfl := Option.some.inj h
      obtain ⟨rfl, -⟩ := matchAt?_reads heq
      exact ⟨⟨[], Cursor.Reads.refl _⟩, consuming, heq⟩
    · obtain ⟨d, hd, hm⟩ := Option.bind_eq_some_iff.1 h
      obtain ⟨y, hy⟩ := Cursor.next?_reads hd
      obtain ⟨⟨u, hu⟩, hmatch⟩ := ih hm
      exact ⟨⟨[y] ++ u, hy.trans hu⟩, hmatch⟩

/-- A match found from a place on, in terms of columns. -/
lemma searchFrom?_columns {p : Pattern κ} (hp : p.consumes = true) {consuming : Bool} {c : Cursor}
    {m : Match κ} (h : p.searchFrom? consuming c = some m) :
    c.column ≤ m.column ∧ m.column < m.endColumn ∧
      m.endColumn + m.stop.cursor.after.length = c.column + c.after.length := by
  obtain ⟨⟨u, hu⟩, consuming', hmatch⟩ := exists_matchAt?_of_searchAlong? h
  obtain ⟨-, v, hv, hne⟩ := matchAt?_reads hmatch
  have hstart : m.column = c.column + u.length := hu.column_eq
  have hstop : m.endColumn = m.column + v.length := hv.column_eq
  have hpos : 0 < v.length := List.length_pos_iff.2 (hne hp)
  have hend := (hu.trans hv).end_eq
  refine ⟨by omega, by omega, hend⟩

/-- Matches one after another start behind the given place and end inside the text. -/
lemma allFrom_columns {p : Pattern κ} (hp : p.consumes = true) {fuel : Nat} {consuming : Bool}
    {c : Cursor} {m : Match κ} (hm : m ∈ p.allFrom fuel consuming c) :
    c.column ≤ m.column ∧ m.column < c.column + c.after.length := by
  induction fuel generalizing consuming c with
  | zero => exact absurd hm (by simp [allFrom])
  | succ fuel ih =>
    unfold allFrom at hm
    split at hm
    · exact absurd hm (by simp)
    · rename_i m₀ heq
      obtain ⟨h₁, h₂, h₃⟩ := searchFrom?_columns hp heq
      rcases List.mem_cons.1 hm with rfl | hm
      · exact ⟨h₁, by omega⟩
      · have h := ih hm
        have hcol : m₀.stop.cursor.column = m₀.endColumn := rfl
        exact ⟨by omega, by omega⟩

/-- A match is the preferred one at its place. -/
lemma exists_matchAt?_of_mem_allFrom {p : Pattern κ} {fuel : Nat} {consuming : Bool} {c : Cursor}
    {m : Match κ} (hm : m ∈ p.allFrom fuel consuming c) :
    (∃ u, c.Reads u m.start) ∧ ∃ consuming', p.matchAt? consuming' m.start = some m := by
  induction fuel generalizing consuming c with
  | zero => exact absurd hm (by simp [allFrom])
  | succ fuel ih =>
    unfold allFrom at hm
    split at hm
    · exact absurd hm (by simp)
    · rename_i m₀ heq
      obtain ⟨⟨u, hu⟩, consuming', hmatch⟩ := exists_matchAt?_of_searchAlong? heq
      rcases List.mem_cons.1 hm with rfl | hm
      · exact ⟨⟨u, hu⟩, consuming', hmatch⟩
      · obtain ⟨-, v, hv, -⟩ := matchAt?_reads hmatch
        obtain ⟨⟨w, hw⟩, hmatch'⟩ := ih hm
        exact ⟨⟨u ++ v ++ w, (hu.trans hv).trans hw⟩, hmatch'⟩

lemma allFrom_pairwise {p : Pattern κ} (hp : p.consumes = true) (fuel : Nat) (consuming : Bool)
    (c : Cursor) : (p.allFrom fuel consuming c).Pairwise fun m m' =>
      m.column < m.endColumn ∧ m.endColumn ≤ m'.column := by
  induction fuel generalizing consuming c with
  | zero => simp [allFrom]
  | succ fuel ih =>
    unfold allFrom
    split
    · exact List.Pairwise.nil
    · rename_i m heq
      refine List.Pairwise.cons ?_ (ih _ _)
      intro m' hm'
      obtain ⟨-, hlt, -⟩ := searchFrom?_columns hp heq
      obtain ⟨hle, -⟩ := allFrom_columns hp hm'
      exact ⟨hlt, hle⟩

/-- The matches in a text do not overlap. -/
theorem all_disjoint {p : Pattern κ} (hp : p.consumes = true) (text : List Char) :
    (p.all text).Pairwise fun m m' => m.endColumn ≤ m'.column :=
  (allFrom_pairwise hp _ _ _).imp And.right

/-- The matches in a text come from left to right. -/
theorem all_pairwise {p : Pattern κ} (hp : p.consumes = true) (text : List Char) :
    (p.all text).Pairwise fun m m' => m.column < m'.column :=
  (allFrom_pairwise hp _ _ _).imp fun h => Nat.lt_of_lt_of_le h.1 h.2

/-- A match in a text starts inside it. -/
theorem column_lt_of_mem_all {p : Pattern κ} (hp : p.consumes = true) {text : List Char}
    {m : Match κ} (hm : m ∈ p.all text) : m.column < text.length := by
  obtain ⟨-, h⟩ := allFrom_columns hp hm
  simpa [Cursor.start, Cursor.column] using h

/-! ## Texts without a match -/

/-- A pattern fails at a place whatever is left to do. -/
def FailsAt (p : Pattern κ) (s : Progress κ) : Prop :=
  ∀ k, p.run s k = none

/-- A pattern fails if nothing ahead is a character that it must read. -/
lemma failsAt_of_reads {p : Pattern κ} {chosen : CharTest → Bool} (hp : p.reads chosen = true)
    {s : Progress κ} (h : ∀ x ∈ s.cursor.after, ¬ Chosen chosen x) : p.FailsAt s := by
  intro k
  by_contra hne
  obtain ⟨r, hr⟩ := Option.ne_none_iff_exists'.1 hne
  obtain ⟨s', u, hu, -, hx⟩ := run_forward chosen p s k r hr
  obtain ⟨x, hxu, hQ⟩ := hx hp
  refine h x ?_ hQ
  rw [hu.1]
  exact List.mem_append_left _ hxu

lemma FailsAt.matchAt?_eq_none {p : Pattern κ} {c : Cursor} (h : p.FailsAt ⟨c, []⟩)
    (consuming : Bool) : p.matchAt? consuming c = none := by
  rw [matchAt?, h, Option.map_none]

/-- No match is found if the pattern fails at every place ahead. -/
lemma searchFrom?_eq_none {p : Pattern κ} {c : Cursor}
    (h : ∀ u d, c.Reads u d → p.FailsAt ⟨d, []⟩) (consuming : Bool) :
    p.searchFrom? consuming c = none := by
  unfold searchFrom?
  generalize c.after = cs
  induction cs generalizing consuming c with
  | nil => exact (h [] c (Cursor.Reads.refl c)).matchAt?_eq_none consuming
  | cons x cs ih =>
    rw [searchAlong?, (h [] c (Cursor.Reads.refl c)).matchAt?_eq_none consuming]
    cases hnext : c.next? with
    | none => rfl
    | some d =>
      obtain ⟨y, hy⟩ := Cursor.next?_reads hnext
      exact ih (fun u e hu => h _ e (hy.trans hu)) false

/-- No match is found if nothing ahead is a character that the pattern must read. -/
lemma searchFrom?_eq_none_of_reads {p : Pattern κ} {chosen : CharTest → Bool}
    (hp : p.reads chosen = true) {c : Cursor} (h : ∀ x ∈ c.after, ¬ Chosen chosen x)
    (consuming : Bool) : p.searchFrom? consuming c = none := by
  refine searchFrom?_eq_none (fun u d hu => failsAt_of_reads hp ?_) consuming
  intro x hx
  refine h x ?_
  rw [hu.1]
  exact List.mem_append_right _ hx

lemma all_eq_nil {p : Pattern κ} {text : List Char}
    (h : p.searchFrom? false (Cursor.start text) = none) : p.all text = [] := by
  simp [all, allFrom, h]

lemma not_chosen_char {x y : Char} (h : y ≠ x) : ¬ Chosen (· == .char x) y := by
  rintro ⟨t, ht, hy⟩
  simp only [beq_iff_eq] at ht
  subst ht
  exact h (by simpa [CharTest.accepts] using hy)

/-- A text without a character that every match must read has no match at its start. -/
lemma matchStart?_eq_none_of_needs {p : Pattern κ} {x : Char} (hp : p.needs x = true)
    {text : List Char} (h : x ∉ text) : p.matchStart? text = none := by
  refine FailsAt.matchAt?_eq_none (failsAt_of_reads hp ?_) false
  intro y hy
  exact not_chosen_char fun hyx => h (hyx ▸ hy)

/-- Nothing is removed from a text without a character that every match must read. -/
lemma removeFrom_eq_self_of_needs {p : Pattern κ} {x : Char} (hp : p.needs x = true)
    {text : List Char} (h : x ∉ text) : p.removeFrom text = text := by
  have hnone : p.searchFrom? false (Cursor.start text) = none := by
    refine searchFrom?_eq_none_of_reads hp ?_ false
    intro y hy
    exact not_chosen_char fun hyx => h (hyx ▸ hy)
  rw [removeFrom, all_eq_nil hnone]
  rfl

end Pattern
end Conformance
