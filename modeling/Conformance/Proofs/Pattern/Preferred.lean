/-
# What a pattern reads first

A pattern can read a text in more than one way, and hands them on in order of preference.  It
*prefers* to read the start of a text if the result is that of what follows behind this start
whenever that succeeds (`Prefers`).  There is one rule for each way to build a pattern without
groups: a choice prefers what its first part does, and what its second part does where the first
fails; a repetition prefers one piece after another up to a place where no more can be read
(`Prefers.star`).  So the way in which a pattern reads a text of known parts is found from left to
right, and no other way has to be looked at.
-/
import Conformance.Proofs.Pattern.Equations

namespace Conformance.Pattern

open Progress (amid)

variable {κ : Type} [DecidableEq κ]

/-- Where a text stands, with another one behind it, the pattern reads it if what follows then
succeeds. -/
def Prefers (p : Pattern κ) (u v : List Char) : Prop :=
  ∀ (b : List Char) (cs : List (κ × Capture)) (k : Continuation κ) (r : Progress κ),
    k (amid (u.reverse ++ b) v cs) = some r → run p (amid b (u ++ v) cs) k = some r

/-- The pattern reads nothing where a text stands. -/
def Refuses (p : Pattern κ) (v : List Char) : Prop :=
  ∀ (b : List Char) (cs : List (κ × Capture)), p.FailsAt (amid b v cs)

variable {p q : Pattern κ} {u u' v : List Char} {t : CharTest}

/-! ## Refusals -/

lemma Refuses.seq (h : p.Refuses v) : (Pattern.seq p q).Refuses v :=
  fun b cs => (h b cs).seq

lemma Refuses.concat_cons (h : p.Refuses v) (ps : List (Pattern κ)) :
    (concat (p :: ps)).Refuses v :=
  fun b cs => (h b cs).concat_cons ps

lemma refuses_one (h : t.RefusesStart v) : (Pattern.one t : Pattern κ).Refuses v :=
  fun _ _ => failsAt_one h

/-- A test that accepts no character of a text refuses its start. -/
lemma refusesStart_append (hne : u ≠ []) (hu : ∀ x ∈ u, t.accepts x = false) (v : List Char) :
    t.RefusesStart (u ++ v) := by
  obtain ⟨x, u, rfl⟩ := List.exists_cons_of_ne_nil hne
  exact CharTest.refusesStart_cons.2 (hu x List.mem_cons_self)

/-! ## Words -/

/-- Two words, neither of which starts with the other. -/
def Apart (w w' : String) : Prop :=
  ¬ w.toList <+: w'.toList ∧ ¬ w'.toList <+: w.toList

instance : DecidableRel Apart :=
  fun w w' => inferInstanceAs (Decidable (¬ w.toList <+: w'.toList ∧ ¬ w'.toList <+: w.toList))

lemma Apart.not_isPrefix {w w' : String} (h : Apart w w') (v : List Char) :
    ¬ w.toList <+: w'.toList ++ v := fun hprefix =>
  (List.prefix_or_prefix_of_prefix hprefix (List.prefix_append w'.toList v)).elim h.1 h.2

lemma Apart.refuses {w w' : String} (h : Apart w w') (v : List Char) :
    (word w : Pattern κ).Refuses (w'.toList ++ v) :=
  fun _ _ => failsAt_word_of_not_isPrefix w (h.not_isPrefix v)

lemma refuses_words {w : String} {ws : List String}
    (h : ∀ x ∈ w :: ws, (word x : Pattern κ).Refuses v) :
    (words (w :: ws) : Pattern κ).Refuses v := by
  intro b cs k
  refine run_oneOf_eq_none fun q (hq : q ∈ (w :: ws).map word) => ?_
  obtain ⟨x, hx, rfl⟩ := List.mem_map.1 hq
  exact h x hx b cs k

lemma prefers_word (w : String) : (word w : Pattern κ).Prefers w.toList v := by
  intro b cs k r hk
  rw [run_word, hk]

/-- Of some words none of which starts with another, each is read where it stands. -/
lemma prefers_words {w : String} {ws : List String} (hw : w ∈ ws)
    (h : ∀ x ∈ ws, x ≠ w → Apart x w) : (words ws : Pattern κ).Prefers w.toList v := by
  intro b cs k r hk
  rw [words, run_oneOf_eq (List.mem_map_of_mem hw)]
  · exact prefers_word w b cs k r hk
  · intro q hq hne
    obtain ⟨x, hx, rfl⟩ := List.mem_map.1 hq
    exact (h x hx fun heq => hne (heq ▸ rfl)).refuses v b cs k

lemma prefers_one {x : Char} (hx : t.accepts x = true) :
    (Pattern.one t : Pattern κ).Prefers [x] v := by
  intro b cs k r hk
  rw [List.singleton_append, run_one_cons, if_pos hx]
  exact hk

/-! ## Sequences and choices -/

lemma Prefers.seq (hp : p.Prefers u (u' ++ v)) (hq : q.Prefers u' v) :
    (Pattern.seq p q).Prefers (u ++ u') v := by
  intro b cs k r hk
  rw [List.append_assoc, run_seq]
  refine hp _ _ _ _ (hq _ _ _ _ ?_)
  rwa [← List.append_assoc, ← List.reverse_append]

lemma Prefers.concat_cons {ps : List (Pattern κ)} (hp : p.Prefers u (u' ++ v))
    (hps : (concat ps).Prefers u' v) : (concat (p :: ps)).Prefers (u ++ u') v := by
  intro b cs k r hk
  rw [run_concat_cons, ← run_seq]
  exact hp.seq hps b cs k r hk

lemma Prefers.alt_left (hp : p.Prefers u v) : (Pattern.alt p q).Prefers u v := by
  intro b cs k r hk
  rw [run_alt, hp _ _ _ _ hk, Option.some_or]

lemma Prefers.alt_right (hp : p.Refuses (u ++ v)) (hq : q.Prefers u v) :
    (Pattern.alt p q).Prefers u v := by
  intro b cs k r hk
  rw [run_alt, hp, Option.none_or, hq _ _ _ _ hk]

/-! ## Repetitions -/

lemma Prefers.opt (hp : p.Prefers u v) : (opt p).Prefers u v := by
  intro b cs k r hk
  rw [run_opt, hp _ _ _ _ hk, Option.some_or]

lemma Refuses.opt (hp : p.Refuses v) : (Pattern.opt p).Prefers [] v := by
  intro b cs k r hk
  rw [List.nil_append, run_opt_of_failsAt (hp b cs)]
  exact hk

lemma prefers_star_one (hu : ∀ x ∈ u, t.accepts x = true) (hv : t.RefusesStart v) :
    (star (.one t) : Pattern κ).Prefers u v :=
  fun _ _ _ _ hk => run_star_one_eq_some hu hv hk

lemma prefers_plus_one (hne : u ≠ []) (hu : ∀ x ∈ u, t.accepts x = true)
    (hv : t.RefusesStart v) : (plus (.one t) : Pattern κ).Prefers u v := by
  obtain ⟨x, u, rfl⟩ := List.exists_cons_of_ne_nil hne
  intro b cs k r hk
  rw [run_plus]
  refine prefers_one (hu x List.mem_cons_self) _ _ _ _ ?_
  refine prefers_star_one (fun y hy => hu y (List.mem_cons_of_mem _ hy)) hv _ _ _ _ ?_
  simpa using hk

/-- Texts that are read one after another.  Each is preferred where it stands, provided that what
follows meets a condition; and it meets the condition itself by its start. -/
structure Pieces (p : Pattern κ) (Q : List Char → Prop) (us : List (List Char)) : Prop where
  prefers : ∀ u ∈ us, ∀ v, Q v → p.Prefers u v
  ne_nil : ∀ u ∈ us, u ≠ []
  starts : ∀ u ∈ us, ∀ v, Q (u ++ v)

namespace Pieces

variable {Q : List Char → Prop} {us : List (List Char)}

lemma tail (h : p.Pieces Q (u :: us)) : p.Pieces Q us where
  prefers w hw := h.prefers w (List.mem_cons_of_mem _ hw)
  ne_nil w hw := h.ne_nil w (List.mem_cons_of_mem _ hw)
  starts w hw := h.starts w (List.mem_cons_of_mem _ hw)

lemma flatten_append (h : p.Pieces Q us) (hv : Q v) : Q (us.flatten ++ v) := by
  cases us with
  | nil => exact hv
  | cons u us =>
    rw [List.flatten_cons, List.append_assoc]
    exact h.starts u List.mem_cons_self _

/-- Enough rounds read all pieces. -/
lemma greedily (h : p.Pieces Q us) (hv : Q v) (hend : p.Refuses v) {n : Nat} (hn : us.length ≤ n)
    {b : List Char} {cs : List (κ × Capture)} {k : Continuation κ} {r : Progress κ}
    (hk : k (amid (us.flatten.reverse ++ b) v cs) = some r) :
    Pattern.greedily (fun s k => run p s k) n (amid b (us.flatten ++ v) cs) k = some r := by
  induction us generalizing n b with
  | nil =>
    cases n with
    | zero => exact hk
    | succ n =>
      rw [List.flatten_nil, List.nil_append, Pattern.greedily, hend]
      exact hk
  | cons u us ih =>
    obtain ⟨n, rfl⟩ := Nat.exists_eq_succ_of_ne_zero (Nat.ne_of_gt (Nat.zero_lt_of_lt hn))
    -- a piece is not empty, so its round does not end the repetition
    have hmoved : ((us.flatten ++ v).length == (u ++ (us.flatten ++ v)).length) = false := by
      have := List.length_pos_iff.2 (h.ne_nil u List.mem_cons_self)
      simp only [List.length_append, beq_eq_false_iff_ne]
      omega
    have hrest := ih h.tail (Nat.le_of_succ_le_succ hn) (b := u.reverse ++ b) (by simpa using hk)
    have hfirst := h.prefers u List.mem_cons_self _ (h.tail.flatten_append hv)
    rw [List.flatten_cons, List.append_assoc, Pattern.greedily, hfirst _ _ _ r]
    simp only [Progress.cursor_amid, Cursor.left_amid, hmoved]
    exact hrest

/-- A repetition reads all pieces, if nothing can be read behind the last. -/
lemma star (h : p.Pieces Q us) (hv : Q v) (hend : p.Refuses v) :
    (Pattern.star p).Prefers us.flatten v := by
  intro b cs k r hk
  rw [run_star]
  refine h.greedily hv hend ?_ hk
  have := length_le_length_flatten h.ne_nil
  simp only [Progress.cursor_amid, Cursor.left_amid, List.length_append]
  omega

end Pieces

/-! ## Groups -/

/-- A group remembers what it reads first. -/
lemma run_group_eq_some {key : κ} {b : List Char} {cs : List (κ × Capture)} {k : Continuation κ}
    {r : Progress κ} (hp : p.Prefers u v)
    (hk : k (amid (u.reverse ++ b) v
      ((key, ⟨.amid b (u ++ v), .amid (u.reverse ++ b) v⟩) :: cs)) = some r) :
    run (.group key p) (amid b (u ++ v) cs) k = some r := by
  rw [run_group]
  exact hp _ _ _ _ hk

end Conformance.Pattern
