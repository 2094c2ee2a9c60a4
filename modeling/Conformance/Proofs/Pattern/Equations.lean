/-
# Running a pattern, piece by piece

One equation for each way to build a pattern, at a place given by the text before it and the text
after it.  A repetition of one character reads all that it can; if what follows fails wherever such
a character stands, no other choice matters.  With these equations the run of a pattern on a text of
known shape is computed from left to right.
-/
import Conformance.Proofs.Pattern.Forward

namespace Conformance

/-- The place between two texts. -/
def Cursor.amid (before after : List Char) : Cursor :=
  { Cursor.start after with before := before }

@[simp] lemma Cursor.before_amid (b a : List Char) : (Cursor.amid b a).before = b := rfl

@[simp] lemma Cursor.after_amid (b a : List Char) : (Cursor.amid b a).after = a := rfl

@[simp] lemma Cursor.left_amid (b a : List Char) : (Cursor.amid b a).left = a.length := rfl

/-- The place between two texts, with what the groups remember. -/
def Progress.amid {κ : Type} (before after : List Char) (captures : List (κ × Capture)) :
    Progress κ :=
  ⟨Cursor.amid before after, captures⟩

lemma Cursor.amid_eq (c : Cursor) : Cursor.amid c.before c.after = c :=
  Cursor.ext rfl rfl

lemma Progress.amid_eq {κ : Type} (s : Progress κ) :
    Progress.amid s.cursor.before s.cursor.after s.captures = s := by
  rw [Progress.amid, Cursor.amid_eq]

@[simp] lemma Progress.cursor_amid {κ : Type} (b a : List Char) (cs : List (κ × Capture)) :
    (Progress.amid b a cs).cursor = Cursor.amid b a := rfl

@[simp] lemma Progress.remember_amid {κ : Type} (b a : List Char) (cs : List (κ × Capture))
    (key : κ) (c : Cursor) : (Progress.amid b a cs).remember key c
      = Progress.amid b a ((key, ⟨c, Cursor.amid b a⟩) :: cs) := rfl

@[simp] lemma Cursor.textSince_amid (b b' u v : List Char) :
    (Cursor.amid b' v).textSince (Cursor.amid b (u ++ v)) = u := by
  simp [textSince]

/-- A text does not start with a character that a test accepts. -/
def CharTest.RefusesStart (t : CharTest) (text : List Char) : Prop :=
  ∀ x rest, text = x :: rest → t.accepts x = false

lemma CharTest.refusesStart_nil (t : CharTest) : t.RefusesStart [] := by
  simp [RefusesStart]

lemma CharTest.refusesStart_cons {t : CharTest} {x : Char} {rest : List Char} :
    t.RefusesStart (x :: rest) ↔ t.accepts x = false := by
  simp [RefusesStart]

namespace Pattern

open Progress (amid)

variable {κ : Type} [DecidableEq κ] {b a : List Char} {cs : List (κ × Capture)}
  {s : Progress κ} {k : Continuation κ}

lemma run_anchor {p : Anchor} (h : s.cursor.satisfies p = true) : run (.anchor p) s k = k s :=
  if_pos h

/-! ## Sequences and choices -/

@[simp] lemma run_seq {p q : Pattern κ} :
    run (.seq p q) s k = run p s fun s' => run q s' k := rfl

@[simp] lemma run_alt {p q : Pattern κ} : run (.alt p q) s k = (run p s k).or (run q s k) := by
  rw [run]
  cases run p s k <;> rfl

@[simp] lemma run_group {key : κ} {p : Pattern κ} :
    run (.group key p) s k = run p s fun s' => k (s'.remember key s.cursor) := rfl

lemma run_behind_one {p : Pattern κ} {x : Char} :
    run (.behind true 1 p) (amid (x :: b) a cs) k
      = (run p (amid b (x :: a) cs) some).bind fun s' =>
        k (s'.moveTo (Cursor.amid (x :: b) a)) := by
  have hback : (amid (x :: b) a cs).cursor.back? 1 = some (Cursor.amid b (x :: a)) := rfl
  have hmove : (amid (x :: b) a cs).moveTo (Cursor.amid b (x :: a)) = amid b (x :: a) cs := rfl
  rw [run, hback]
  simp only [hmove, if_true]
  cases run p (amid b (x :: a) cs) some <;> rfl

@[simp] lemma run_concat_nil : run (concat [] : Pattern κ) s k = k s := rfl

@[simp] lemma run_concat_cons {p : Pattern κ} {ps : List (Pattern κ)} :
    run (concat (p :: ps)) s k = run p s fun s' => run (concat ps) s' k := by
  cases ps <;> rfl

lemma run_concat_append {ps qs : List (Pattern κ)} :
    run (concat (ps ++ qs)) s k = run (concat ps) s fun s' => run (concat qs) s' k := by
  induction ps generalizing s with
  | nil => rfl
  | cons p ps ih => simp only [List.cons_append, run_concat_cons, ih]

@[simp] lemma run_oneOf_singleton {p : Pattern κ} : run (oneOf [p]) s k = run p s k := rfl

@[simp] lemma run_oneOf_cons_cons {p q : Pattern κ} {ps : List (Pattern κ)} :
    run (oneOf (p :: q :: ps)) s k = (run p s k).or (run (oneOf (q :: ps)) s k) :=
  run_alt

/-- Several patterns fail if each of them fails together with what follows. -/
lemma run_oneOf_eq_none {p : Pattern κ} {ps : List (Pattern κ)}
    (h : ∀ q ∈ p :: ps, run q s k = none) : run (oneOf (p :: ps)) s k = none := by
  induction ps generalizing p with
  | nil => exact h p List.mem_cons_self
  | cons q ps ih =>
    rw [run_oneOf_cons_cons, h p List.mem_cons_self, ih fun x hx => h x (List.mem_cons_of_mem _ hx)]
    rfl

/-- One of several patterns succeeds if one of them does, perhaps another one. -/
lemma isSome_run_oneOf {p : Pattern κ} {ps : List (Pattern κ)} (hp : p ∈ ps)
    (h : (run p s k).isSome = true) : (run (oneOf ps) s k).isSome = true := by
  induction ps with
  | nil => exact absurd hp (by simp)
  | cons q ps ih =>
    cases ps with
    | nil =>
      obtain rfl := List.mem_singleton.1 hp
      exact h
    | cons q' ps =>
      rw [run_oneOf_cons_cons, Option.isSome_or, Bool.or_eq_true]
      rcases List.mem_cons.1 hp with rfl | hp
      · exact .inl h
      · exact .inr (ih hp)

/-- Of several patterns, one decides if all others fail together with what follows. -/
lemma run_oneOf_eq {p : Pattern κ} {ps : List (Pattern κ)} (hp : p ∈ ps)
    (h : ∀ q ∈ ps, q ≠ p → run q s k = none) : run (oneOf ps) s k = run p s k := by
  induction ps with
  | nil => exact absurd hp (by simp)
  | cons q ps ih =>
    have ih' : p ∈ ps → run (oneOf ps) s k = run p s k :=
      fun hmem => ih hmem fun q' hq' => h q' (List.mem_cons_of_mem _ hq')
    cases ps with
    | nil => rw [List.mem_singleton.1 hp, run_oneOf_singleton]
    | cons q' ps =>
      rw [run_oneOf_cons_cons]
      by_cases hmem : p ∈ q' :: ps
      · rw [ih' hmem]
        by_cases hq : q = p
        · rw [hq, Option.or_self]
        · rw [h q List.mem_cons_self hq, Option.none_or]
      · have hq : q = p := by
          rcases List.mem_cons.1 hp with rfl | hp
          · rfl
          · exact absurd hp hmem
        rw [hq, run_oneOf_eq_none, Option.or_none]
        intro x hx
        refine h x (List.mem_cons_of_mem _ hx) ?_
        rintro rfl
        exact hmem hx

/-! ## Single characters and words -/

@[simp] lemma run_one_nil {t : CharTest} : run (.one t) (amid b [] cs) k = none := rfl

@[simp] lemma run_one_cons {t : CharTest} {x : Char} :
    run (.one t) (amid b (x :: a) cs) k
      = if t.accepts x = true then k (amid (x :: b) a cs) else none := by
  have hstep : (amid b (x :: a) cs).step? t
      = if t.accepts x = true then some (amid (x :: b) a cs) else none := rfl
  rw [run, hstep]
  split <;> simp_all

/-- A word is read where it stands. -/
lemma run_literal (w : List Char) :
    run (literal w) (amid b (w ++ a) cs) k = k (amid (w.reverse ++ b) a cs) := by
  induction w generalizing b with
  | nil => rfl
  | cons x w ih =>
    have hcons : run (literal (x :: w)) (amid b (x :: w ++ a) cs) k
        = run (literal w) (amid (x :: b) (w ++ a) cs) k := by
      simp [literal, CharTest.accepts]
    rw [hcons, ih]
    simp

/-- A word that does not stand ahead is not read. -/
lemma failsAt_literal {w : List Char} (h : w.isPrefixOf a = false) :
    (literal w).FailsAt (amid b a cs) := by
  intro k
  induction w generalizing a b with
  | nil => exact absurd h (by simp)
  | cons x w ih =>
    cases a with
    | nil => simp [literal]
    | cons y a =>
      have hcons : run (literal (x :: w)) (amid b (y :: a) cs) k
          = run (.one (.char x)) (amid b (y :: a) cs) fun s' => run (literal w) s' k :=
        run_concat_cons
      rw [hcons, run_one_cons]
      by_cases hxy : y = x
      · subst hxy
        have hy : (CharTest.char y).accepts y = true := beq_self_eq_true y
        rw [if_pos hy]
        exact ih (by simpa [List.isPrefixOf] using h)
      · have hy : ¬(CharTest.char x).accepts y = true := by simpa [CharTest.accepts] using hxy
        rw [if_neg hy]

lemma run_word (w : String) :
    run (word w) (amid b (w.toList ++ a) cs) k = k (amid (w.toList.reverse ++ b) a cs) :=
  run_literal w.toList

lemma failsAt_word {w : String} (h : w.toList.isPrefixOf a = false) :
    (word w).FailsAt (amid b a cs) :=
  failsAt_literal h

lemma failsAt_word_of_not_isPrefix (w : String) (h : ¬ w.toList <+: a) :
    (word w).FailsAt (amid b a cs) :=
  failsAt_word (Bool.eq_false_of_not_eq_true (mt List.isPrefixOf_iff_prefix.1 h))

/-- A word fails if what follows fails behind it. -/
lemma run_word_eq_none {w : String}
    (h : ∀ a', a = w.toList ++ a' → k (amid (w.toList.reverse ++ b) a' cs) = none) :
    run (word w) (amid b a cs) k = none := by
  by_cases hw : w.toList.isPrefixOf a = true
  · obtain ⟨a', rfl⟩ := List.isPrefixOf_iff_prefix.1 hw
    rw [run_word]
    exact h a' rfl
  · exact failsAt_word (Bool.eq_false_of_not_eq_true hw) k

lemma failsAt_words {w : String} {ws : List String}
    (h : (w :: ws).all (fun v => !v.toList.isPrefixOf a) = true) :
    (words (w :: ws)).FailsAt (amid b a cs) := by
  intro k
  refine run_oneOf_eq_none fun q (hq : q ∈ (w :: ws).map word) => ?_
  obtain ⟨v, hv, rfl⟩ := List.mem_map.1 hq
  have hv' := List.all_eq_true.1 h v hv
  exact failsAt_word (by simpa using hv') k

/-- No word is read where a character stands of a sort that none of the words starts with. -/
lemma failsAt_words_of_start (test : Char → Bool) {x : Char} (hx : test x = true) {w : String}
    {ws : List String} (h : ((w :: ws).all fun v => v.toList.head?.any fun c => !test c) = true) :
    (words (w :: ws)).FailsAt (amid b (x :: a) cs) := by
  refine failsAt_words (List.all_eq_true.2 ?_)
  intro v hv
  have hstart := List.all_eq_true.1 h v hv
  cases hchars : v.toList with
  | nil => simp [hchars] at hstart
  | cons c rest =>
    have hc : test c = false := by simpa [hchars] using hstart
    have hne : c ≠ x := by
      rintro rfl
      exact absurd hx (by simp [hc])
    simp [List.isPrefixOf, hne]

/-! ## Repetitions -/

/-- Texts that are not empty are no more than the characters they have together. -/
lemma length_le_length_flatten {us : List (List Char)} (h : ∀ u ∈ us, u ≠ []) :
    us.length ≤ us.flatten.length := by
  rw [List.length_flatten, ← List.length_map List.length]
  refine List.length_le_sum_of_one_le _ fun n hn => ?_
  obtain ⟨u, hu, rfl⟩ := List.mem_map.1 hn
  exact List.length_pos_iff.2 (h u hu)

@[simp] lemma run_opt {p : Pattern κ} : run (opt p) s k = (run p s k).or (k s) := by
  have hround : run (opt p) s k = greedily (fun s k => run p s k) (min 1 (s.cursor.left + 1)) s k :=
    rfl
  have hmin : min 1 (s.cursor.left + 1) = 1 := by omega
  rw [hround, hmin, greedily]
  simp only [greedily, ite_self]
  cases run p s k <;> rfl

@[simp] lemma run_plus {p : Pattern κ} :
    run (plus p) s k = run p s fun s' => run (star p) s' k := rfl

lemma run_star {p : Pattern κ} :
    run (star p) s k = greedily (fun s k => run p s k) (s.cursor.left + 1) s k := rfl

/-- A repetition of what fails here reads nothing. -/
lemma run_star_of_failsAt {p : Pattern κ} (h : p.FailsAt s) : run (star p) s k = k s := by
  rw [run_star, greedily, h]

lemma run_opt_of_failsAt {p : Pattern κ} (h : p.FailsAt s) : run (opt p) s k = k s := by
  rw [run_opt, h]
  rfl

lemma FailsAt.seq {p q : Pattern κ} (h : p.FailsAt s) : (Pattern.seq p q).FailsAt s :=
  fun k => h fun s' => run q s' k

lemma FailsAt.alt {p q : Pattern κ} (hp : p.FailsAt s) (hq : q.FailsAt s) :
    (Pattern.alt p q).FailsAt s := by
  intro k
  rw [run_alt, hp, hq]
  rfl

lemma FailsAt.group {p : Pattern κ} (h : p.FailsAt s) (key : κ) :
    (Pattern.group key p).FailsAt s :=
  fun k => h fun s' => k (s'.remember key s.cursor)

lemma FailsAt.concat_cons {p : Pattern κ} (h : p.FailsAt s) (ps : List (Pattern κ)) :
    (concat (p :: ps)).FailsAt s := by
  intro k
  rw [run_concat_cons]
  exact h _

lemma FailsAt.plus {p : Pattern κ} (h : p.FailsAt s) : (Pattern.plus p).FailsAt s :=
  fun k => h fun s' => run (star p) s' k

lemma failsAt_one {t : CharTest} (h : t.RefusesStart a) :
    (Pattern.one t : Pattern κ).FailsAt (amid b a cs) := by
  intro k
  cases a with
  | nil => rfl
  | cons x a => simp [h x a rfl]

/-- One more round of a repetition of a character, or none. -/
lemma run_star_one_cons {t : CharTest} {x : Char} (hx : t.accepts x = true) :
    run (star (.one t)) (amid b (x :: a) cs) k
      = (run (star (.one t)) (amid (x :: b) a cs) k).or (k (amid b (x :: a) cs)) := by
  have hleft : ((amid (x :: b) a cs).cursor.left == (amid b (x :: a) cs).cursor.left) = false := by
    simp
  rw [run_star, greedily]
  simp only [run_one_cons, hx, if_true, hleft, Bool.false_eq_true, if_false]
  have hrounds : greedily (fun s k => run (.one t) s k) (amid b (x :: a) cs).cursor.left
      (amid (x :: b) a cs) k = run (star (.one t)) (amid (x :: b) a cs) k := rfl
  rw [hrounds]
  cases run (star (.one t)) (amid (x :: b) a cs) k <;> rfl

/-- A repetition of a character reads all it can if what follows then succeeds. -/
lemma run_star_one_eq_some {t : CharTest} {u v : List Char} {r : Progress κ}
    (hu : ∀ x ∈ u, t.accepts x = true) (hv : t.RefusesStart v)
    (hk : k (amid (u.reverse ++ b) v cs) = some r) :
    run (star (.one t)) (amid b (u ++ v) cs) k = some r := by
  induction u generalizing b with
  | nil =>
    rw [List.nil_append, run_star_of_failsAt (failsAt_one hv)]
    exact hk
  | cons x u ih =>
    have hrest := ih (fun y hy => hu y (List.mem_cons_of_mem _ hy)) (by simpa using hk)
    rw [List.cons_append, run_star_one_cons (hu x List.mem_cons_self), hrest]
    rfl

/-- Where what follows fails at each character of the repetition, the only choice is to read them
all. -/
lemma run_star_one_eq {t : CharTest} {u v : List Char} (hu : ∀ x ∈ u, t.accepts x = true)
    (hv : t.RefusesStart v)
    (hk : ∀ b' x rest, t.accepts x = true → k (amid b' (x :: rest) cs) = none) :
    run (star (.one t)) (amid b (u ++ v) cs) k = k (amid (u.reverse ++ b) v cs) := by
  induction u generalizing b with
  | nil =>
    rw [List.nil_append, run_star_of_failsAt (failsAt_one hv)]
    rfl
  | cons x u ih =>
    have hx := hu x List.mem_cons_self
    rw [List.cons_append, run_star_one_cons hx, hk _ _ _ hx,
      ih fun y hy => hu y (List.mem_cons_of_mem _ hy)]
    simp

/-- A repetition of a character fails before a text that ends with another one, if what follows
fails everywhere in that text. -/
lemma run_star_one_eq_none {t : CharTest} {u v : List Char} (hne : u ≠ [])
    (hlast : ∀ x ∈ u.getLast?, t.accepts x = false)
    (hk : ∀ u₁ x u₂, u = u₁ ++ x :: u₂ → k (amid (u₁.reverse ++ b) (x :: (u₂ ++ v)) cs) = none) :
    run (star (.one t)) (amid b (u ++ v) cs) k = none := by
  induction u generalizing b with
  | nil => exact absurd rfl hne
  | cons x u ih =>
    have hhere : k (amid b (x :: (u ++ v)) cs) = none := hk [] x u rfl
    by_cases hx : t.accepts x = true
    · have hu : u ≠ [] := by
        rintro rfl
        exact absurd hx (by simp [hlast x rfl])
      have hrest : run (star (.one t)) (amid (x :: b) (u ++ v) cs) k = none := by
        refine ih hu (fun y hy => hlast y ?_) fun u₁ y u₂ heq => ?_
        · rw [List.getLast?_cons, Option.mem_def.1 hy]
          rfl
        · simpa using hk (x :: u₁) y u₂ (by rw [heq, List.cons_append])
      rw [List.cons_append, run_star_one_cons hx, hrest, hhere]
      rfl
    · have hrefuses : t.RefusesStart (x :: (u ++ v)) :=
        CharTest.refusesStart_cons.2 (Bool.eq_false_of_not_eq_true hx)
      rw [List.cons_append, run_star_of_failsAt (failsAt_one hrefuses), hhere]

/-! ## Repetitions of as few rounds as possible -/

lemma run_lazyPlus {p : Pattern κ} :
    run (lazyPlus p) s k = run p s fun s' => run (lazyStar p) s' k := rfl

lemma run_lazyStar {p : Pattern κ} :
    run (lazyStar p) s k = lazily (fun s k => run p s k) (s.cursor.left + 1) s k := rfl

/-- A repetition of what fails here reads nothing. -/
lemma run_lazyStar_of_failsAt {p : Pattern κ} (h : p.FailsAt s) :
    run (lazyStar p) s k = k s := by
  rw [run_lazyStar, lazily, h]
  cases k s <;> rfl

/-- No round of a repetition of a character, or one more. -/
lemma run_lazyStar_one_cons {x : Char} (hx : t.accepts x = true) :
    run (lazyStar (.one t)) (amid b (x :: a) cs) k
      = (k (amid b (x :: a) cs)).or (run (lazyStar (.one t)) (amid (x :: b) a cs) k) := by
  have hleft : ((amid (x :: b) a cs).cursor.left == (amid b (x :: a) cs).cursor.left) = false := by
    simp
  rw [run_lazyStar, lazily]
  simp only [run_one_cons, hx, if_true, hleft, Bool.false_eq_true, if_false]
  have hrounds : lazily (fun s k => run (.one t) s k) (amid b (x :: a) cs).cursor.left
      (amid (x :: b) a cs) k = run (lazyStar (.one t)) (amid (x :: b) a cs) k := rfl
  rw [hrounds]
  cases k (amid b (x :: a) cs) <;> rfl

/-- No round is read where what follows succeeds. -/
lemma run_lazyStar_of_eq_some {p : Pattern κ} {r : Progress κ} (h : k s = some r) :
    run (lazyStar p) s k = some r := by
  rw [run_lazyStar, lazily, h]

/-- A repetition of a character reads up to the first place where what follows succeeds. -/
lemma run_lazyStar_one_eq_some {u v : List Char} {r : Progress κ}
    (hu : ∀ x ∈ u, t.accepts x = true)
    (hk : ∀ u₁ x u₂, u = u₁ ++ x :: u₂ → k (amid (u₁.reverse ++ b) (x :: (u₂ ++ v)) cs) = none)
    (hend : k (amid (u.reverse ++ b) v cs) = some r) :
    run (lazyStar (.one t)) (amid b (u ++ v) cs) k = some r := by
  induction u generalizing b with
  | nil => exact run_lazyStar_of_eq_some hend
  | cons x u ih =>
    have hhere : k (amid b (x :: (u ++ v)) cs) = none := hk [] x u rfl
    rw [List.cons_append, run_lazyStar_one_cons (hu x List.mem_cons_self), hhere, Option.none_or]
    refine ih (fun y hy => hu y (List.mem_cons_of_mem _ hy)) (fun u₁ y u₂ heq => ?_)
      (by simpa using hend)
    simpa using hk (x :: u₁) y u₂ (by rw [heq, List.cons_append])

/-! ## Searching -/

lemma searchFrom?_of_matchAt? {p : Pattern κ} {consuming : Bool} {c : Cursor} {m : Match κ}
    (h : p.matchAt? consuming c = some m) : p.searchFrom? consuming c = some m := by
  unfold searchFrom?
  cases c.after with
  | nil => exact h
  | cons x rest => rw [searchAlong?, h]

/-- A text whose start matches and that holds no match behind the first one. -/
lemma all_eq_singleton {p : Pattern κ} {text : List Char} {m : Match κ}
    (hm : p.matchAt? false (Cursor.start text) = some m)
    (hnext : ∀ consuming, p.searchFrom? consuming m.stop.cursor = none) : p.all text = [m] := by
  simp only [all, allFrom, searchFrom?_of_matchAt? hm, hnext]

end Pattern
end Conformance
