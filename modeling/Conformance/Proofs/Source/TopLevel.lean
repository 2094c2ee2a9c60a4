/-
# Splitting outside of brackets

The splitter counts all three sorts of brackets with one counter.  Where the brackets of a text
match, the counter comes back to where it was (`Nested.foldl_bracketDepth`), and in between it is
never at zero inside of a bracket; so a list of such texts splits into them again
(`topLevelFrom_separated`), and so does a list that is cut off inside one of its texts
(`topLevelFrom_untilSign`).
-/
import Conformance.Proofs.Source.EnumBody
import Conformance.Source.Tail

namespace Conformance.Source

/-! ## Matching brackets -/

/-- The brackets that the splitter counts. -/
def bracketPairs : List (Char × Char) :=
  [('<', '>'), ('(', ')'), ('[', ']')]

/-- Whether a character is one of these brackets. -/
def isBracket (c : Char) : Bool :=
  bracketPairs.any fun b => c == b.1 || c == b.2

/-- A text whose brackets match.  Outside of them stand plain characters only. -/
inductive Nested : (Char → Bool) → List Char → Prop
  | nil {plain} : Nested plain []
  | cons {plain c u} : isBracket c = false → plain c = true → Nested plain u → Nested plain (c :: u)
  | bracketed {plain o c u v} : (o, c) ∈ bracketPairs → Nested (fun _ => true) u → Nested plain v →
      Nested plain (o :: (u ++ c :: v))

lemma bracketDepth_opening {o c : Char} (h : (o, c) ∈ bracketPairs) (depth : Nat) :
    bracketDepth depth o = depth + 1 := by
  simp only [bracketPairs, List.mem_cons, Prod.mk.injEq, List.not_mem_nil, or_false] at h
  rcases h with ⟨rfl, rfl⟩ | ⟨rfl, rfl⟩ | ⟨rfl, rfl⟩ <;> rfl

lemma bracketDepth_closing {o c : Char} (h : (o, c) ∈ bracketPairs) (depth : Nat) :
    bracketDepth (depth + 1) c = depth := by
  simp only [bracketPairs, List.mem_cons, Prod.mk.injEq, List.not_mem_nil, or_false] at h
  rcases h with ⟨rfl, rfl⟩ | ⟨rfl, rfl⟩ | ⟨rfl, rfl⟩ <;> rfl

lemma bracketDepth_of_not_isBracket {c : Char} (h : isBracket c = false) (depth : Nat) :
    bracketDepth depth c = depth := by
  simp only [isBracket, bracketPairs, List.any_cons, List.any_nil, Bool.or_false,
    Bool.or_eq_false_iff] at h
  obtain ⟨⟨hless, hgreater⟩, ⟨hopen, hclose⟩, hleft, hright⟩ := h
  simp [bracketDepth, hless, hgreater, hopen, hclose, hleft, hright]

lemma isBracket_of_mem {o c : Char} (h : (o, c) ∈ bracketPairs) :
    isBracket o = true ∧ isBracket c = true :=
  ⟨List.any_eq_true.2 ⟨_, h, by simp⟩, List.any_eq_true.2 ⟨_, h, by simp⟩⟩

lemma closing_ne_opening {o c o' c' : Char} (h : (o, c) ∈ bracketPairs)
    (h' : (o', c') ∈ bracketPairs) : c ≠ o' := by
  have hall : ∀ b ∈ bracketPairs, ∀ b' ∈ bracketPairs, b.2 ≠ b'.1 := by decide
  exact hall _ h _ h'

lemma closing_unique {o c c' : Char} (h : (o, c) ∈ bracketPairs) (h' : (o, c') ∈ bracketPairs) :
    c = c' := by
  have hall : ∀ b ∈ bracketPairs, ∀ b' ∈ bracketPairs, b.1 = b'.1 → b.2 = b'.2 := by decide
  exact hall _ h _ h' rfl

namespace Nested

variable {plain : Char → Bool} {u v : List Char}

lemma append (hu : Nested plain u) (hv : Nested plain v) : Nested plain (u ++ v) := by
  induction hu with
  | nil => exact hv
  | cons hbracket hplain _ ih => exact .cons hbracket hplain (ih hv)
  | bracketed hpair hinner _ _ ih =>
    rw [List.cons_append, List.append_assoc]
    exact .bracketed hpair hinner (ih hv)

lemma of_plain (h : ∀ c ∈ u, isBracket c = false ∧ plain c = true) : Nested plain u := by
  induction u with
  | nil => exact .nil
  | cons c u ih =>
    obtain ⟨hbracket, hplain⟩ := h c List.mem_cons_self
    exact .cons hbracket hplain (ih fun x hx => h x (List.mem_cons_of_mem _ hx))

lemma of_all_plain (h : u.all (fun c => !isBracket c && plain c) = true) : Nested plain u :=
  of_plain fun c hc => by simpa using List.all_eq_true.1 h c hc

/-- Behind a text whose brackets match the counter is where it was before. -/
theorem foldl_bracketDepth (h : Nested plain u) (depth : Nat) :
    u.foldl bracketDepth depth = depth := by
  induction h generalizing depth with
  | nil => rfl
  | cons hbracket _ _ ih =>
    rw [List.foldl_cons, bracketDepth_of_not_isBracket hbracket, ih]
  | bracketed hpair _ _ ihu ihv =>
    rw [List.foldl_cons, List.foldl_append, bracketDepth_opening hpair, ihu, List.foldl_cons,
      bracketDepth_closing hpair, ihv]

/-- Behind an opening bracket stands the one that closes it. -/
lemma closing_mem (h : Nested plain u) {x y : List Char} {o c : Char}
    (hpair : (o, c) ∈ bracketPairs) (hu : u = x ++ o :: y) : c ∈ y := by
  induction h generalizing x y with
  | nil => exact absurd hu (by simp)
  | cons hbracket _ _ ih =>
    cases x with
    | nil =>
      obtain ⟨rfl, -⟩ := List.cons.inj hu
      exact absurd (isBracket_of_mem hpair).1 (by simp [hbracket])
    | cons _ x => exact ih (List.cons.inj hu).2
  | bracketed hpair' _ _ ihu ihv =>
    cases x with
    | nil =>
      obtain ⟨rfl, rfl⟩ := List.cons.inj hu
      simp [closing_unique hpair hpair']
    | cons _ x =>
      -- the bracket stands inside the first pair, or behind it
      rcases List.append_eq_append_iff.1 (List.cons.inj hu).2 with ⟨z, rfl, hz⟩ | ⟨z, hz, hy⟩
      · cases z with
        | nil => exact absurd (List.cons.inj hz).1 (closing_ne_opening hpair' hpair)
        | cons _ z => exact ihv (List.cons.inj hz).2
      · cases z with
        | nil => exact absurd (List.cons.inj hy).1.symm (closing_ne_opening hpair' hpair)
        | cons _ z =>
          obtain ⟨rfl, rfl⟩ := List.cons.inj hy
          exact List.mem_append_left _ (ihu hz)

end Nested

/-! ## One piece -/

/-- No separator stands at depth zero. -/
def Unsplit (isSeparator : Char → Bool) : Nat → List Char → Prop
  | _, [] => True
  | depth, c :: cs => (isSeparator c = true → bracketDepth depth c ≠ 0) ∧
      Unsplit isSeparator (bracketDepth depth c) cs

section Splitting

variable {isSeparator : Char → Bool} {u v : List Char}

lemma unsplit_append {depth : Nat} : Unsplit isSeparator depth (u ++ v) ↔
    Unsplit isSeparator depth u ∧ Unsplit isSeparator (u.foldl bracketDepth depth) v := by
  induction u generalizing depth with
  | nil => simp [Unsplit]
  | cons c u ih => simp only [List.cons_append, Unsplit, ih, List.foldl_cons, and_assoc]

lemma Unsplit.before {depth : Nat} {sign : Char} (h : Unsplit isSeparator depth u) :
    Unsplit isSeparator depth (Text.before sign u) := by
  have hcut : Text.before sign u ++ u.dropWhile (· != sign) = u := List.takeWhile_append_dropWhile
  exact (unsplit_append.1 (hcut.symm ▸ h)).1

/-- A separator at depth zero ends the piece. -/
lemma topLevelFrom_cut {depth : Nat} {c : Char} (hc : isSeparator c = true)
    (hzero : bracketDepth depth c = 0) (piece v : List Char) :
    topLevelFrom isSeparator depth piece (c :: v)
      = Text.trim piece.reverse :: topLevelFrom isSeparator 0 [] v := by
  rw [topLevelFrom]
  simp [hc, hzero]

/-- All else is read into the piece. -/
lemma topLevelFrom_pass {depth : Nat} {c : Char}
    (hc : isSeparator c = true → bracketDepth depth c ≠ 0) (piece v : List Char) :
    topLevelFrom isSeparator depth piece (c :: v)
      = topLevelFrom isSeparator (bracketDepth depth c) (c :: piece) v := by
  rw [topLevelFrom]
  by_cases hseparator : isSeparator c = true
  · simp [hc hseparator]
  · simp [hseparator]

/-- A text without separators at depth zero is read into one piece. -/
lemma topLevelFrom_append {depth : Nat} (h : Unsplit isSeparator depth u) (piece v : List Char) :
    topLevelFrom isSeparator depth piece (u ++ v)
      = topLevelFrom isSeparator (u.foldl bracketDepth depth) (u.reverse ++ piece) v := by
  induction u generalizing depth piece with
  | nil => rfl
  | cons c u ih =>
    obtain ⟨hc, hu⟩ := h
    rw [List.cons_append, topLevelFrom_pass hc, ih hu]
    simp

/-- The last piece ends with the text. -/
lemma topLevelFrom_last (h : Unsplit isSeparator 0 u) :
    topLevelFrom isSeparator 0 [] u = [Text.trim u] := by
  have happend := topLevelFrom_append h [] []
  simpa [topLevelFrom] using happend

/-- Where brackets match, separators stand inside of them only, if they are no plain characters. -/
theorem Nested.unsplit {plain : Char → Bool} (hbrackets : ∀ c, isBracket c = true →
    isSeparator c = false) (h : Nested plain u) {depth : Nat}
    (hdepth : depth = 0 → ∀ c, plain c = true → isSeparator c = false) :
    Unsplit isSeparator depth u := by
  induction h generalizing depth with
  | nil => trivial
  | @cons plain c u hbracket hplain _ ih =>
    rw [Unsplit, bracketDepth_of_not_isBracket hbracket]
    refine ⟨fun hsep hzero => ?_, ih hdepth⟩
    exact absurd hsep (by simp [hdepth hzero c hplain])
  | @bracketed plain o c u v hpair hu _ ihu ihv =>
    rw [Unsplit, bracketDepth_opening hpair, unsplit_append, hu.foldl_bracketDepth, Unsplit,
      bracketDepth_closing hpair]
    refine ⟨fun _ => Nat.succ_ne_zero depth, ihu (fun hzero => absurd hzero (Nat.succ_ne_zero _)),
      fun hsep => ?_, ihv hdepth⟩
    exact absurd hsep (by simp [hbrackets c (isBracket_of_mem hpair).2])

end Splitting

/-! ## Lists -/

/-- Texts with a separator between neighbours. -/
def separated (separator : Char) : List (List Char) → List Char
  | [] => []
  | [p] => p
  | p :: q :: ps => p ++ separator :: separated separator (q :: ps)

/-- The texts up to the first one that holds a sign, and that one up to its sign. -/
def untilSign (sign : Char) : List (List Char) → List (List Char)
  | [] => []
  | p :: ps => if sign ∈ p then [Text.before sign p] else p :: untilSign sign ps

lemma untilSign_eq_self {sign : Char} {ps : List (List Char)} (h : ∀ p ∈ ps, sign ∉ p) :
    untilSign sign ps = ps := by
  induction ps with
  | nil => rfl
  | cons p ps ih =>
    rw [untilSign, if_neg (h p List.mem_cons_self), ih fun q hq => h q (List.mem_cons_of_mem _ hq)]

lemma untilSign_ne_nil {sign : Char} {p : List Char} {ps : List (List Char)} :
    untilSign sign (p :: ps) ≠ [] := by
  rw [untilSign]
  split <;> simp

lemma separated_cons {separator : Char} {p : List Char} {ps : List (List Char)} (h : ps ≠ []) :
    separated separator (p :: ps) = p ++ separator :: separated separator ps := by
  obtain ⟨q, ps, rfl⟩ := List.exists_cons_of_ne_nil h
  rfl

/-- What stands before the first sign in a list. -/
lemma before_separated {separator sign : Char} (hne : separator ≠ sign) (ps : List (List Char)) :
    Text.before sign (separated separator ps) = separated separator (untilSign sign ps) := by
  induction ps with
  | nil => rfl
  | cons p ps ih =>
    rw [untilSign]
    cases ps with
    | nil =>
      split
      · rfl
      · exact Text.before_eq_self ‹_›
    | cons q ps =>
      rw [separated_cons (List.cons_ne_nil q ps)]
      split
      · exact Text.before_append_of_mem ‹_› _
      · have hpass : Text.before sign (separator :: separated separator (q :: ps))
            = separator :: Text.before sign (separated separator (q :: ps)) :=
          List.takeWhile_cons_of_pos (by simpa using hne)
        rw [Text.before_append_of_notMem ‹_›, hpass, ih, separated_cons untilSign_ne_nil]

section Lists

variable {plain : Char → Bool} {separator : Char}

/-- Where brackets match and the separator is no plain character, it stands inside of brackets. -/
lemma Nested.unsplit_separator (hbracket : isBracket separator = false)
    (hplain : plain separator = false) {p : List Char} (h : Nested plain p) :
    Unsplit (· == separator) 0 p := by
  refine h.unsplit (fun c hc => ?_) fun _ c hc => ?_
  · exact beq_eq_false_iff_ne.2 fun heq => absurd hbracket (by simp [← heq, hc])
  · exact beq_eq_false_iff_ne.2 fun heq => absurd hplain (by simp [← heq, hc])

/-- A piece ends with the separator behind it. -/
lemma topLevelFrom_piece (hbracket : isBracket separator = false) (hplain : plain separator = false)
    {p : List Char} (h : Nested plain p) (v : List Char) :
    topLevelFrom (· == separator) 0 [] (p ++ separator :: v)
      = Text.trim p :: topLevelFrom (· == separator) 0 [] v := by
  rw [topLevelFrom_append (h.unsplit_separator hbracket hplain), h.foldl_bracketDepth,
    topLevelFrom_cut]
  · simp
  · exact beq_self_eq_true separator
  · exact bracketDepth_of_not_isBracket hbracket 0

/-- A list splits into its texts. -/
theorem topLevelFrom_separated (hbracket : isBracket separator = false)
    (hplain : plain separator = false) {p : List Char} {ps : List (List Char)}
    (h : ∀ q ∈ p :: ps, Nested plain q) :
    topLevelFrom (· == separator) 0 [] (separated separator (p :: ps))
      = (p :: ps).map Text.trim := by
  induction ps generalizing p with
  | nil => exact topLevelFrom_last ((h p List.mem_cons_self).unsplit_separator hbracket hplain)
  | cons q ps ih =>
    obtain ⟨hp, hps⟩ := List.forall_mem_cons.1 h
    rw [separated_cons (List.cons_ne_nil q ps), topLevelFrom_piece hbracket hplain hp,
      List.map_cons, ih hps]

/-- A list that is cut off at a sign splits into its texts up to there. -/
theorem topLevelFrom_untilSign {sign : Char} (hbracket : isBracket separator = false)
    (hplain : plain separator = false) {p : List Char} {ps : List (List Char)}
    (h : ∀ q ∈ p :: ps, Nested plain q) :
    topLevelFrom (· == separator) 0 [] (separated separator (untilSign sign (p :: ps)))
      = (untilSign sign (p :: ps)).map Text.trim := by
  induction ps generalizing p with
  | nil =>
    have hp := (h p List.mem_cons_self).unsplit_separator hbracket hplain
    rw [untilSign]
    split
    · exact topLevelFrom_last hp.before
    · exact topLevelFrom_last hp
  | cons q ps ih =>
    have hp := h p List.mem_cons_self
    rw [untilSign]
    split
    · exact topLevelFrom_last (hp.unsplit_separator hbracket hplain).before
    · rw [separated_cons untilSign_ne_nil, topLevelFrom_piece hbracket hplain hp,
        ih fun r hr => h r (List.mem_cons_of_mem _ hr), List.map_cons]

end Lists

end Conformance.Source
