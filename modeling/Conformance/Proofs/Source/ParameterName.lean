/-
# The name of a parameter

The name of a parameter is found in three steps: the blocks in square brackets are removed, what
stands behind a sign of equality is cut off, and of at least two names the last is taken.  The names
in a text and what is left of it without blocks are built up from its parts (`namesIn_append`,
`shown_append`), so that each step can be followed along a parameter (`parameterName?_eq`).
-/
import Conformance.Proofs.Pattern.Occurrences
import Conformance.Proofs.Source.TopLevel
import Conformance.Proofs.Source.TypeLine

namespace Conformance.Source
open Pattern

/-! ## Names in a text -/

/-- The name at the start of a text, with the text behind it. -/
def takeName : List Char → Option (List Char × List Char)
  | [] => none
  | c :: cs => if Text.isNameStart c then
      some (c :: cs.takeWhile Text.isWord, cs.dropWhile Text.isWord) else none

lemma refusesStart_dropWhile_isWord (cs : List Char) :
    (CharTest.word false).RefusesStart (cs.dropWhile Text.isWord) := by
  intro x rest h
  have hhead := List.head?_dropWhile_not Text.isWord cs
  rw [h] at hhead
  exact hhead

lemma takes_nameWord : nameWord.Takes takeName := by
  constructor
  · intro u w v h
    cases u with
    | nil => exact absurd h (by simp [takeName])
    | cons c cs =>
      obtain ⟨-, heq⟩ := Option.ite_none_right_eq_some.1 h
      obtain ⟨rfl, rfl⟩ := Prod.mk.inj (Option.some.inj heq)
      exact ⟨by simp, by simp⟩
  · intro b u
    rw [matchAt?_amid]
    cases u with
    | nil => rfl
    | cons c cs =>
      by_cases hc : Text.isNameStart c = true
      · have hname : isName (c :: cs.takeWhile Text.isWord) = true :=
          isName_iff.2 ⟨c, _, rfl, hc, fun x hx => List.mem_takeWhile_imp hx⟩
        have hrun : run nameWord (Progress.amid b (c :: cs.takeWhile Text.isWord ++
            cs.dropWhile Text.isWord) []) some = some _ :=
          run_nameWord hname (refusesStart_dropWhile_isWord cs) rfl
        rw [List.cons_append, List.takeWhile_append_dropWhile] at hrun
        simp [takeName, hc, hrun]
      · have hrefuses : nameStart.RefusesStart (c :: cs) :=
          CharTest.refusesStart_cons.2 (by rw [accepts_nameStart, Bool.eq_false_of_not_eq_true hc])
        have hrun : run nameWord (Progress.amid b (c :: cs) []) some = none :=
          (failsAt_one hrefuses).seq some
        simp [takeName, hc, hrun]

/-- The names in a text. -/
def namesIn (u : List Char) : List (List Char) :=
  (nameWord.all u).map (·.text)

lemma namesIn_eq {u left : List Char} {ws : List (List Char)}
    (h : Occurrences takeName u ws left) : namesIn u = ws :=
  takes_nameWord.texts_eq h

section Names

variable {u v w : List Char}

lemma takeName_cons_eq_none {x : Char} :
    takeName (x :: u) = none ↔ Text.isNameStart x = false := by
  simp [takeName]

lemma takeWhile_eq_nil_of_head {p : Char → Bool} (h : ∀ x ∈ u.head?, p x = false) :
    u.takeWhile p = [] ∧ u.dropWhile p = u := by
  cases u with
  | nil => exact ⟨rfl, rfl⟩
  | cons x u => simp [h x rfl]

lemma isWord_of_mem_takeName {left : List Char} (h : takeName u = some (w, left)) {c : Char}
    (hc : c ∈ w) : Text.isWord c = true := by
  cases u with
  | nil => exact absurd h (by simp [takeName])
  | cons x cs =>
    obtain ⟨hx, heq⟩ := Option.ite_none_right_eq_some.1 h
    obtain ⟨rfl, rfl⟩ := Prod.mk.inj (Option.some.inj heq)
    rcases List.mem_cons.1 hc with rfl | hc
    · exact Text.isWord_of_isNameStart hx
    · exact List.mem_takeWhile_imp hc

/-- What is behind a name does not change it, unless it goes on as a word. -/
lemma takeName_append {left : List Char} (h : takeName u = some (w, left))
    (hv : left = [] → ∀ c ∈ v.head?, Text.isWord c = false) :
    takeName (u ++ v) = some (w, left ++ v) := by
  cases u with
  | nil => exact absurd h (by simp [takeName])
  | cons c cs =>
    obtain ⟨hc, heq⟩ := Option.ite_none_right_eq_some.1 h
    obtain ⟨rfl, rfl⟩ := Prod.mk.inj (Option.some.inj heq)
    have hhead : ∀ x ∈ (cs.dropWhile Text.isWord ++ v).head?, Text.isWord x = false := by
      intro x hx
      cases hdrop : cs.dropWhile Text.isWord with
      | nil => exact hv hdrop x (by rwa [hdrop] at hx)
      | cons y rest =>
        rw [hdrop] at hx
        obtain rfl := Option.some.inj hx
        exact refusesStart_dropWhile_isWord cs _ _ hdrop
    have hstop := takeWhile_eq_nil_of_head hhead
    have hcs : cs ++ v = cs.takeWhile Text.isWord ++ (cs.dropWhile Text.isWord ++ v) := by
      rw [← List.append_assoc, List.takeWhile_append_dropWhile]
    have hword : ∀ x ∈ cs.takeWhile Text.isWord, Text.isWord x = true :=
      fun x hx => List.mem_takeWhile_imp hx
    rw [List.cons_append, takeName, if_pos hc, hcs, List.takeWhile_append_of_pos hword,
      List.dropWhile_append_of_pos hword, hstop.1, hstop.2, List.append_nil]

/-- The names of two texts between which no word goes on. -/
lemma namesIn_append (h : (∀ c ∈ u.getLast?, Text.isWord c = false) ∨
    ∀ c ∈ v.head?, Text.isWord c = false) : namesIn (u ++ v) = namesIn u ++ namesIn v := by
  obtain ⟨ws, left, hu⟩ := takes_nameWord.exists_occurrences u
  obtain ⟨ws', left', hv⟩ := takes_nameWord.exists_occurrences v
  have happend : Occurrences takeName (u ++ v) (ws ++ ws') (left ++ left') := by
    induction hu with
    | nil => exact hv
    | pass hnone _ ih =>
      refine .pass (takeName_cons_eq_none.2 (takeName_cons_eq_none.1 hnone)) (ih (h.imp_left ?_))
      intro hlast c hc
      refine hlast c ?_
      rw [List.getLast?_cons, Option.mem_def.1 hc]
      rfl
    | @take u w rest ws left htake _ ih =>
      obtain ⟨rfl, hne⟩ := takes_nameWord.eq_append htake
      refine .take (takeName_append htake ?_) (ih (h.imp_left ?_))
      · rintro rfl
        refine h.resolve_left fun hlast => ?_
        -- the whole text is a word, so its last character is one of a word
        have hword := isWord_of_mem_takeName htake (List.getLast_mem hne)
        have hmem : w.getLast hne ∈ (w ++ []).getLast? := by
          rw [List.append_nil]
          exact List.getLast?_eq_some_getLast hne
        exact absurd hword (by simp [hlast _ hmem])
      · intro hlast c hc
        refine hlast c ?_
        rw [List.getLast?_append, Option.mem_def.1 hc]
        rfl
  rw [namesIn_eq hu, namesIn_eq hv, namesIn_eq happend]

/-- Characters that start no name are passed. -/
lemma namesIn_append_of_no_start (h : ∀ c ∈ u, Text.isNameStart c = false) :
    namesIn (u ++ v) = namesIn v := by
  obtain ⟨ws, left, hv⟩ := takes_nameWord.exists_occurrences v
  have happend : Occurrences takeName (u ++ v) ws (u ++ left) := by
    induction u with
    | nil => exact hv
    | cons c u ih =>
      refine .pass ?_ (ih fun x hx => h x (List.mem_cons_of_mem _ hx))
      simp [takeName, h c List.mem_cons_self]
  rw [namesIn_eq hv, namesIn_eq happend]

lemma namesIn_of_no_start (h : ∀ c ∈ u, Text.isNameStart c = false) : namesIn u = [] := by
  have hnil : Occurrences takeName [] [] [] := .nil rfl
  rw [← List.append_nil u, namesIn_append_of_no_start h, namesIn_eq hnil]

lemma no_start_of_occurrences {ws : List (List Char)} {left : List Char}
    (h : Occurrences takeName u ws left) (hws : ws = []) :
    ∀ c ∈ u, Text.isNameStart c = false := by
  induction h with
  | nil => simp
  | pass htake _ ih => exact List.forall_mem_cons.2 ⟨takeName_cons_eq_none.1 htake, ih hws⟩
  | take => exact absurd hws (by simp)

lemma namesIn_ne_nil_iff : namesIn u ≠ [] ↔ ∃ c ∈ u, Text.isNameStart c = true := by
  constructor
  · intro hne
    by_contra hnone
    refine hne (namesIn_of_no_start fun c hc => ?_)
    exact Bool.eq_false_of_not_eq_true fun hstart => hnone ⟨c, hc, hstart⟩
  · rintro ⟨c, hc, hstart⟩ hnil
    obtain ⟨ws, left, hu⟩ := takes_nameWord.exists_occurrences u
    have hws : ws = [] := (namesIn_eq hu).symm.trans hnil
    exact absurd hstart (by simp [no_start_of_occurrences hu hws c hc])

lemma namesIn_name (h : isName u = true) : namesIn u = [u] := by
  obtain ⟨c, cs, rfl, hc, hcs⟩ := isName_iff.1 h
  have hall : cs.takeWhile Text.isWord = cs := List.takeWhile_eq_self_iff.2 hcs
  have hnone : cs.dropWhile Text.isWord = [] := List.dropWhile_eq_nil_iff.2 hcs
  have htake : takeName (c :: cs) = some (c :: cs, []) := by
    rw [takeName, if_pos hc, hall, hnone]
  exact namesIn_eq (.take htake (.nil rfl))

end Names

/-! ## Blocks in square brackets -/

/-- The text in square brackets at the start of a text, with the text behind it. -/
def takeBlock : List Char → Option (List Char × List Char)
  | [] => none
  | c :: cs => if c = '[' ∧ ']' ∈ cs then
      some ('[' :: (Text.before ']' cs ++ [']']), (cs.dropWhile (· != ']')).tail) else none

lemma run_char_self (x : Char) {b a : List Char} {cs : List (Part × Capture)}
    {k : Continuation Part} :
    run (char x) (Progress.amid b (x :: a) cs) k = k (Progress.amid (x :: b) a cs) := by
  have hx : (CharTest.char x).accepts x = true := beq_self_eq_true x
  rw [char, run_one_cons, if_pos hx]

lemma failsAt_char {x y : Char} (h : y ≠ x) (b a : List Char) (cs : List (Part × Capture)) :
    (char x : HeaderPattern).FailsAt (Progress.amid b (y :: a) cs) :=
  failsAt_one (CharTest.refusesStart_cons.2 (by simpa [CharTest.accepts] using h))

lemma accepts_noneOf_singleton {x y : Char} : (CharTest.noneOf [x]).accepts y = true ↔ y ≠ x := by
  simp [CharTest.accepts, CharTest.noneOf, CharTest.chars, CharTest.oneOf]

/-- All characters but one are read up to that one, if what follows needs it. -/
lemma run_until {x : Char} {b w v : List Char} {cs : List (Part × Capture)}
    {k : Continuation Part} (hw : x ∉ w)
    (hk : ∀ b' y rest, y ≠ x → k (Progress.amid b' (y :: rest) cs) = none) :
    run (star (.one (.noneOf [x]))) (Progress.amid b (w ++ x :: v) cs) k
      = k (Progress.amid (w.reverse ++ b) (x :: v) cs) := by
  have hinner : ∀ y ∈ w, (CharTest.noneOf [x]).accepts y = true := by
    intro y hy
    rw [accepts_noneOf_singleton]
    rintro rfl
    exact hw hy
  have hend : (CharTest.noneOf [x]).RefusesStart (x :: v) :=
    CharTest.refusesStart_cons.2 (by rw [← Bool.not_eq_true, accepts_noneOf_singleton, not_not])
  exact run_star_one_eq hinner hend fun b' y rest hy =>
    hk b' y rest (accepts_noneOf_singleton.1 hy)

lemma run_attributeBlock (b : List Char) {w v : List Char} (hw : ']' ∉ w) :
    run attributeBlock (Progress.amid b ('[' :: (w ++ ']' :: v)) []) some
      = some (Progress.amid (']' :: (w.reverse ++ '[' :: b)) v []) := by
  rw [attributeBlock, run_concat_cons, run_char_self, run_concat_cons, run_until hw,
    run_concat_cons, run_char_self, run_concat_nil]
  exact fun b' y rest hy => (failsAt_char hy b' rest []).concat_cons [] some

lemma takes_attributeBlock : attributeBlock.Takes takeBlock := by
  constructor
  · intro u w v h
    cases u with
    | nil => exact absurd h (by simp [takeBlock])
    | cons c cs =>
      obtain ⟨⟨rfl, hclose⟩, heq⟩ := Option.ite_none_right_eq_some.1 h
      obtain ⟨rfl, rfl⟩ := Prod.mk.inj (Option.some.inj heq)
      obtain ⟨v, hv⟩ := Text.exists_dropWhile_eq hclose
      have hcs := Text.before_append_dropWhile ']' cs
      rw [hv] at hcs ⊢
      exact ⟨by simp [hcs], by simp⟩
  · intro b u
    rw [matchAt?_amid]
    cases u with
    | nil => rfl
    | cons c cs =>
      by_cases hopen : c = '['
      · subst hopen
        by_cases hclose : ']' ∈ cs
        · obtain ⟨v, hv⟩ := Text.exists_dropWhile_eq hclose
          have hcs := Text.before_append_dropWhile ']' cs
          rw [hv] at hcs
          have hrun := run_attributeBlock b (w := Text.before ']' cs) (v := v)
            (Text.notMem_before ']' cs)
          rw [hcs] at hrun
          simp [takeBlock, hclose, hrun, hv]
        · have hfails : attributeBlock.FailsAt (Progress.amid b ('[' :: cs) []) := by
            have hneeds : attributeBlock.reads (· == .char ']') = true := by decide
            refine failsAt_of_reads hneeds fun x hx => not_chosen_char ?_
            rintro rfl
            exact hclose (by simpa using hx)
          simp [takeBlock, hclose, hfails some]
      · have hfails : attributeBlock.FailsAt (Progress.amid b (c :: cs) []) :=
          (failsAt_one (CharTest.refusesStart_cons.2 (by simpa [CharTest.accepts]))).concat_cons _
        simp [takeBlock, hopen, hfails some]

/-- A text without the blocks in it. -/
def shown (u : List Char) : List Char :=
  attributeBlock.removeFrom u

lemma shown_eq {u left : List Char} {ws : List (List Char)}
    (h : Occurrences takeBlock u ws left) : shown u = left :=
  takes_attributeBlock.removeFrom_eq h

section Blocks

variable {u v w : List Char}

lemma takeBlock_cons_eq_none {x : Char} :
    takeBlock (x :: u) = none ↔ (x = '[' → ']' ∉ u) := by
  simp [takeBlock]

/-- What is behind a block does not change it. -/
lemma takeBlock_append {left : List Char} (h : takeBlock u = some (w, left)) (v : List Char) :
    takeBlock (u ++ v) = some (w, left ++ v) := by
  cases u with
  | nil => exact absurd h (by simp [takeBlock])
  | cons c cs =>
    obtain ⟨⟨rfl, hclose⟩, heq⟩ := Option.ite_none_right_eq_some.1 h
    obtain ⟨rfl, rfl⟩ := Prod.mk.inj (Option.some.inj heq)
    obtain ⟨rest, hrest⟩ := Text.exists_dropWhile_eq hclose
    have hdrop : (cs ++ v).dropWhile (· != ']') = ']' :: (rest ++ v) := by
      rw [← Text.before_append_dropWhile ']' cs, hrest, List.append_assoc]
      exact Text.dropWhile_append_sign (Text.notMem_before ']' cs) _
    have hmem : ']' ∈ cs ++ v := List.mem_append_left v hclose
    rw [List.cons_append, takeBlock, if_pos ⟨rfl, hmem⟩, Text.before_append_of_mem hclose, hdrop,
      hrest]
    rfl

/-- Where no bracket is left open, a text is shown for itself. -/
lemma shown_append (h : '[' ∉ shown u) (v : List Char) : shown (u ++ v) = shown u ++ shown v := by
  obtain ⟨ws, left, hu⟩ := takes_attributeBlock.exists_occurrences u
  obtain ⟨ws', left', hv⟩ := takes_attributeBlock.exists_occurrences v
  rw [shown_eq hu] at h
  have happend : Occurrences takeBlock (u ++ v) (ws ++ ws') (left ++ left') := by
    induction hu with
    | nil => exact hv
    | pass _ _ ih =>
      rw [List.mem_cons, not_or] at h
      exact .pass (takeBlock_cons_eq_none.2 fun heq => absurd heq.symm h.1) (ih h.2)
    | take htake _ ih => exact .take (takeBlock_append htake v) (ih h)
  rw [shown_eq hu, shown_eq hv, shown_eq happend]

lemma occurrences_of_notMem (h : '[' ∉ u) : Occurrences takeBlock u [] u := by
  induction u with
  | nil => exact .nil rfl
  | cons x u ih =>
    rw [List.mem_cons, not_or] at h
    exact .pass (takeBlock_cons_eq_none.2 fun heq => absurd heq.symm h.1) (ih h.2)

lemma shown_eq_self (h : '[' ∉ u) : shown u = u :=
  shown_eq (occurrences_of_notMem h)

/-- Characters that close no bracket are shown behind a text. -/
lemma shown_append_of_plain (hopen : '[' ∉ v) (hclose : ']' ∉ v) :
    shown (u ++ v) = shown u ++ v := by
  obtain ⟨ws, left, hu⟩ := takes_attributeBlock.exists_occurrences u
  have happend : Occurrences takeBlock (u ++ v) ws (left ++ v) := by
    induction hu with
    | nil => exact occurrences_of_notMem hopen
    | pass htake _ ih =>
      refine .pass (takeBlock_cons_eq_none.2 fun heq => ?_) ih
      simp [takeBlock_cons_eq_none.1 htake heq, hclose]
    | take htake _ ih => exact .take (takeBlock_append htake v) ih
  rw [shown_eq hu, shown_eq happend]

/-- If every bracket is closed, no opening one is shown. -/
lemma notMem_shown (h : ∀ x y, u = x ++ '[' :: y → ']' ∈ y) : '[' ∉ shown u := by
  obtain ⟨ws, left, hu⟩ := takes_attributeBlock.exists_occurrences u
  rw [shown_eq hu]
  induction hu with
  | nil => simp
  | pass htake _ ih =>
    rw [List.mem_cons, not_or]
    refine ⟨?_, ih fun x y heq => h (_ :: x) y (by rw [heq]; rfl)⟩
    rintro rfl
    exact takeBlock_cons_eq_none.1 htake rfl (h [] _ rfl)
  | take htake _ ih =>
    obtain ⟨rfl, -⟩ := takes_attributeBlock.eq_append htake
    exact ih fun x y heq => h (_ ++ x) y (by rw [heq, List.append_assoc])

end Blocks

/-! ## One parameter -/

/-- The last of at least two names. -/
def lastOfTwo (names : List (List Char)) : Option (List Char) :=
  if 2 ≤ names.length then names.getLast? else none

lemma namesIn_append_blanks {b : List Char} (u : List Char)
    (hb : ∀ c ∈ b, Text.isBlank c = true) : namesIn (u ++ b) = namesIn u := by
  rw [namesIn_append, namesIn_of_no_start fun c hc => isNameStart_of_isBlank (hb c hc),
    List.append_nil]
  exact .inr fun c hc => Text.isWord_eq_false_of_isBlank (hb c (List.mem_of_mem_head? hc))

lemma namesIn_blanks_append {a : List Char} (u : List Char)
    (ha : ∀ c ∈ a, Text.isBlank c = true) : namesIn (a ++ u) = namesIn u :=
  namesIn_append_of_no_start fun c hc => isNameStart_of_isBlank (ha c hc)

/-- A text is what is left of it by trimming, with blanks around it. -/
lemma exists_trim (u : List Char) : ∃ a b, u = a ++ (Text.trim u ++ b) ∧
    (∀ c ∈ a, Text.isBlank c = true) ∧ ∀ c ∈ b, Text.isBlank c = true := by
  refine ⟨u.takeWhile Text.isBlank, ((Text.trimStart u).reverse.takeWhile Text.isBlank).reverse,
    ?_, fun c hc => List.mem_takeWhile_imp hc, fun c hc => ?_⟩
  · have hend : Text.trim u ++ ((Text.trimStart u).reverse.takeWhile Text.isBlank).reverse
        = Text.trimStart u := by
      rw [Text.trim, Text.trimEnd, ← List.reverse_append, List.takeWhile_append_dropWhile,
        List.reverse_reverse]
    rw [hend]
    exact List.takeWhile_append_dropWhile.symm
  · exact List.mem_takeWhile_imp (List.mem_reverse.1 hc)

lemma namesIn_trim (u : List Char) : namesIn (Text.trim u) = namesIn u := by
  obtain ⟨a, b, hu, ha, hb⟩ := exists_trim u
  conv_rhs => rw [hu]
  rw [namesIn_blanks_append _ ha, namesIn_append_blanks _ hb]

lemma parameterName?_eq (u : List Char) :
    parameterName? u = lastOfTwo (namesIn (Text.before '=' (shown u))) := by
  have hname : parameterName? u = lastOfTwo (namesIn (Text.trim (Text.before '=' (shown u)))) := rfl
  rw [hname, namesIn_trim]

/-- Blanks around a parameter do not matter. -/
lemma parameterName?_trim (u : List Char) : parameterName? (Text.trim u) = parameterName? u := by
  obtain ⟨a, b, hu, ha, hb⟩ := exists_trim u
  have hsign : ∀ {w : List Char} {x : Char}, (∀ c ∈ w, Text.isBlank c = true) →
      Text.isBlank x = false → x ∉ w := by
    intro w x hw hx hmem
    exact absurd (hw x hmem) (by simp [hx])
  have hshown : shown u = a ++ (shown (Text.trim u) ++ b) := by
    have ha' : shown a = a := shown_eq_self (hsign ha rfl)
    conv_lhs => rw [hu]
    rw [shown_append (ha'.symm ▸ hsign ha rfl), ha',
      shown_append_of_plain (hsign hb rfl) (hsign hb rfl)]
  rw [parameterName?_eq, parameterName?_eq, hshown, Text.before_append_of_notMem (hsign ha rfl),
    namesIn_blanks_append _ ha]
  by_cases hmem : '=' ∈ shown (Text.trim u)
  · rw [Text.before_append_of_mem hmem]
  · rw [Text.before_append_of_notMem hmem, Text.before_eq_self hmem,
      Text.before_eq_self (hsign hb rfl), namesIn_append_blanks _ hb]

end Conformance.Source
