/-
# The parts of a list

A list is written as its parts, with blanks around each and a separator between neighbours.  In a
part brackets match, and the separator stands inside of them only: so the counter of the splitter
is back at zero behind each part, and not there at any separator before.  Splitting what is written
gives the parts back (`splitTopLevel_listText`).

In any text at all, the parts that are found stand one behind the other, and only blanks and
separators are left out (`inOrder_topLevelFrom`).  The counter is never set back between pieces; but
a piece ends only where the counter is at zero, and so the next one starts at zero too.  This is why
no part can be split once more (`exists_piece_of_mem`).
-/
import Conformance.Proofs.Source.Parameters

namespace Conformance.Source

/-! ## Lists as they are written -/

/-- A character that can stand between the parts of a list: it is neither a blank nor a bracket. -/
structure Separator where
  /-- The character. -/
  char : Char
  notBlank : Text.isBlank char = false
  notBracket : isBracket char = false

/-- A part of a list, with the blanks around it.  Its brackets match, and the separator stands
inside of them only. -/
structure ListPart (s : Separator) where
  /-- The blanks before it. -/
  before : Blanks
  /-- The part itself. -/
  chars : List Char
  /-- The blanks behind it. -/
  behind : Blanks
  ne_nil : chars ≠ []
  trimmed : Text.trim chars = chars
  nested : Nested (· != s.char) chars

lemma isBracket_of_isBlank {c : Char} (h : Text.isBlank c = true) : isBracket c = false :=
  (plain_of_accepted (by decide) h).1

/-- Blanks leave the counter where it is. -/
lemma foldl_bracketDepth_blanks {g : List Char} (hg : ∀ c ∈ g, Text.isBlank c = true)
    (depth : Nat) : g.foldl bracketDepth depth = depth := by
  have hnested : Nested (fun _ => true) g :=
    .of_plain fun c hc => ⟨isBracket_of_isBlank (hg c hc), rfl⟩
  exact hnested.foldl_bracketDepth depth

section Written

variable {s : Separator}

namespace ListPart

/-- A part as it is written. -/
def text (p : ListPart s) : List Char :=
  p.before.chars ++ (p.chars ++ p.behind.chars)

lemma trim_text (p : ListPart s) : Text.trim p.text = p.chars := by
  rw [text, Text.trim_append_blanks p.before.valid _ p.behind.valid, p.trimmed]

lemma nested_text (p : ListPart s) : Nested (· != s.char) p.text := by
  have hblanks : ∀ g : Blanks, Nested (· != s.char) g.chars := by
    intro g
    refine .of_plain fun c hc => ⟨isBracket_of_isBlank (g.valid c hc), ?_⟩
    rw [bne_iff_ne]
    rintro rfl
    exact absurd (g.valid _ hc) (by simp [s.notBlank])
  exact (hblanks p.before).append (p.nested.append (hblanks p.behind))

end ListPart

/-- The text of a list. -/
def listText (ps : List (ListPart s)) : List Char :=
  separated s.char (ps.map ListPart.text)

/-- **A list is split into its parts.** -/
lemma splitTopLevel_listText (ps : List (ListPart s)) :
    splitTopLevel s.char (listText ps) = ps.map (·.chars) := by
  cases ps with
  | nil => rfl
  | cons p ps =>
    have hnested : ∀ u ∈ p.text :: ps.map ListPart.text, Nested (· != s.char) u := by
      rw [← List.map_cons, List.forall_mem_map]
      exact fun q _ => q.nested_text
    have hpieces : topLevelFrom (· == s.char) 0 [] (listText (p :: ps))
        = (p :: ps).map (·.chars) := by
      rw [listText, List.map_cons, topLevelFrom_separated s.notBracket (by simp) hnested,
        ← List.map_cons, List.map_map]
      exact List.map_congr_left fun q _ => q.trim_text
    rw [splitTopLevel, splitTopLevelBy, hpieces, List.filter_eq_self, List.forall_mem_map]
    intro q _
    simpa using q.ne_nil

end Written

/-! ## The parts found in a text -/

/-- Texts that stand in a text one behind the other.  Before them, between them and behind them
there are only characters of one sort. -/
inductive InOrder (between : Char → Bool) : List (List Char) → List Char → Prop
  | rest {gap} : (∀ c ∈ gap, between c = true) → InOrder between [] gap
  | next {gap p ps v} : (∀ c ∈ gap, between c = true) → InOrder between ps v →
      InOrder between (p :: ps) (gap ++ (p ++ v))

/-- What is found by splitting a text. -/
structure ArePartsOf (isSeparator : Char → Bool) (text : List Char)
    (parts : List (List Char)) : Prop where
  ne_nil : ∀ p ∈ parts, p ≠ []
  trimmed : ∀ p ∈ parts, Text.trim p = p
  whole : ∀ p ∈ parts, splitTopLevelBy isSeparator p = [p]
  inOrder : InOrder (fun c => Text.isBlank c || isSeparator c) parts text

section Found

variable {isSeparator between : Char → Bool} {ps : List (List Char)} {u v : List Char}

namespace InOrder

lemma gap_append (hu : ∀ c ∈ u, between c = true) (h : InOrder between ps v) :
    InOrder between ps (u ++ v) := by
  cases h with
  | rest hgap => exact .rest fun c hc => (List.mem_append.1 hc).elim (hu c) (hgap c)
  | next hgap hrest =>
    rw [← List.append_assoc]
    exact .next (fun c hc => (List.mem_append.1 hc).elim (hu c) (hgap c)) hrest

/-- A piece before the others, trimmed, is one more part unless it is empty. -/
lemma trim_append (hblank : ∀ c, Text.isBlank c = true → between c = true)
    (h : InOrder between (ps.filter (!·.isEmpty)) v) :
    InOrder between ((Text.trim u :: ps).filter (!·.isEmpty)) (u ++ v) := by
  obtain ⟨a, b, hu, ha, hb⟩ := exists_trim u
  have htext : u ++ v = a ++ (Text.trim u ++ (b ++ v)) := by
    conv_lhs => rw [hu]
    simp
  have hrest : InOrder between (ps.filter (!·.isEmpty)) (b ++ v) :=
    h.gap_append fun c hc => hblank c (hb c hc)
  have ha : ∀ c ∈ a, between c = true := fun c hc => hblank c (ha c hc)
  rw [htext]
  by_cases hempty : Text.trim u = []
  · rw [List.filter_cons_of_neg (by simp [hempty]), hempty, List.nil_append]
    exact hrest.gap_append ha
  · rw [List.filter_cons_of_pos (by simpa using hempty)]
    exact .next ha hrest

end InOrder

/-- From any place on, the parts stand in what is left of the text, with the piece being read before
it. -/
lemma inOrder_topLevelFrom (hblank : ∀ c, Text.isBlank c = true → between c = true)
    (hseparator : ∀ c, isSeparator c = true → between c = true) (depth : Nat)
    (piece text : List Char) :
    InOrder between ((topLevelFrom isSeparator depth piece text).filter (!·.isEmpty))
      (piece.reverse ++ text) := by
  induction text generalizing depth piece with
  | nil => exact InOrder.trim_append hblank (.rest (by simp))
  | cons c text ih =>
    by_cases hcut : isSeparator c = true ∧ bracketDepth depth c = 0
    · obtain ⟨hc, hzero⟩ := hcut
      -- the piece ends here, and the separator is left out
      have hgap : ∀ d ∈ [c], between d = true := by simpa using hseparator c hc
      rw [topLevelFrom_cut hc hzero]
      exact InOrder.trim_append hblank ((ih 0 []).gap_append hgap)
    · rw [topLevelFrom_pass (not_and.1 hcut)]
      simpa using ih (bracketDepth depth c) (c :: piece)

/-- What is read of the current piece holds no separator at depth zero, and has brought the counter
from zero to where it is.  So each part is what trimming leaves of a piece without such
separators. -/
lemma exists_piece_of_mem (depth : Nat) (piece text : List Char)
    (hpiece : Unsplit isSeparator 0 piece.reverse)
    (hdepth : piece.reverse.foldl bracketDepth 0 = depth) :
    ∀ p ∈ topLevelFrom isSeparator depth piece text,
      ∃ u, Unsplit isSeparator 0 u ∧ p = Text.trim u := by
  induction text generalizing depth piece with
  | nil =>
    intro p hp
    exact ⟨piece.reverse, hpiece, List.mem_singleton.1 hp⟩
  | cons c text ih =>
    by_cases hcut : isSeparator c = true ∧ bracketDepth depth c = 0
    · -- the next piece starts with the counter at zero, as this one did
      rw [topLevelFrom_cut hcut.1 hcut.2]
      intro p hp
      rcases List.mem_cons.1 hp with rfl | hp
      · exact ⟨piece.reverse, hpiece, rfl⟩
      · exact ih 0 [] trivial rfl p hp
    · rw [topLevelFrom_pass (not_and.1 hcut)]
      refine ih _ (c :: piece) ?_ ?_
      · rw [List.reverse_cons, unsplit_append, hdepth]
        exact ⟨hpiece, not_and.1 hcut, trivial⟩
      · rw [List.reverse_cons, List.foldl_append, hdepth]
        rfl

lemma Unsplit.trim {depth : Nat} (h : Unsplit isSeparator depth u) :
    Unsplit isSeparator depth (Text.trim u) := by
  obtain ⟨a, b, hu, ha, -⟩ := exists_trim u
  rw [hu, unsplit_append, foldl_bracketDepth_blanks ha, unsplit_append] at h
  exact h.2.1

lemma trim_trim (u : List Char) : Text.trim (Text.trim u) = Text.trim u := by
  obtain ⟨a, b, hu, ha, hb⟩ := exists_trim u
  conv_rhs => rw [hu]
  rw [Text.trim_append_blanks ha _ hb]

/-- A piece without separators at depth zero is one part. -/
lemma splitTopLevelBy_trim (h : Unsplit isSeparator 0 u) (hne : Text.trim u ≠ []) :
    splitTopLevelBy isSeparator (Text.trim u) = [Text.trim u] := by
  rw [splitTopLevelBy, topLevelFrom_last h.trim, trim_trim]
  simpa using hne

end Found

/-- **Splitting a list gives its parts back.**  Any text at all is split, at any sort of separator,
into parts that stand in it one behind the other with only blanks and separators left out; none of
them is empty, has blanks at its ends or can be split once more. -/
theorem splitTopLevel_inverts_joining :
    (∀ (s : Separator) (ps : List (ListPart s)),
      splitTopLevel s.char (listText ps) = ps.map (·.chars)) ∧
    ∀ (isSeparator : Char → Bool) (text : List Char),
      ArePartsOf isSeparator text (splitTopLevelBy isSeparator text) := by
  refine ⟨fun s ps => splitTopLevel_listText ps, fun isSeparator text => ?_⟩
  have hparts : ∀ p ∈ splitTopLevelBy isSeparator text,
      p ≠ [] ∧ ∃ u, Unsplit isSeparator 0 u ∧ p = Text.trim u := by
    intro p hp
    obtain ⟨hp, hne⟩ := List.mem_filter.1 hp
    exact ⟨by simpa using hne, exists_piece_of_mem 0 [] text trivial rfl p hp⟩
  constructor
  · intro p hp
    exact (hparts p hp).1
  · intro p hp
    obtain ⟨-, u, -, rfl⟩ := hparts p hp
    exact trim_trim u
  · intro p hp
    obtain ⟨hne, u, hu, rfl⟩ := hparts p hp
    exact splitTopLevelBy_trim hu hne
  · refine inOrder_topLevelFrom ?_ ?_ 0 [] text
    · intro c hc
      simp [hc]
    · intro c hc
      simp [hc]

/-! ## Type arguments, and brackets that match nothing -/

/-- The comma between the parts of a list. -/
def listComma : Separator := ⟨',', rfl, rfl⟩

/-- `Map<int, (A, B[,])>`, with a blank before it and a tab behind it. -/
def mapPart : ListPart listComma where
  before := oneBlank
  chars := "Map<int, (A, B[,])>".toList
  behind := ⟨['\t'], rfl⟩
  ne_nil := by decide
  trimmed := by decide +kernel
  nested := by
    have harray : Nested (fun _ => true) "A, B[,]".toList :=
      (Nested.of_all_plain (u := "A, B".toList) (by decide)).append
        (.bracketed (o := '[') (u := [',']) (by decide) (.of_all_plain (by decide)) .nil)
    have harguments : Nested (fun _ => true) "int, (A, B[,])".toList :=
      (Nested.of_all_plain (u := "int, ".toList) (by decide)).append
        (.bracketed (o := '(') (by decide) harray .nil)
    exact (Nested.of_all_plain (u := "Map".toList) (by decide)).append
      (.bracketed (o := '<') (by decide) harguments .nil)

/-- `C` -/
def namePart : ListPart listComma where
  before := noBlanks
  chars := ['C']
  behind := noBlanks
  ne_nil := by decide
  trimmed := by decide +kernel
  nested := .of_all_plain (by decide)

theorem splitTopLevel_inverts_joining_unmatched :
    String.ofList (listText [mapPart, namePart]) = " Map<int, (A, B[,])>\t,C" ∧
    splitTopLevel ',' (listText [mapPart, namePart])
      = ["Map<int, (A, B[,])>".toList, ['C']] ∧
    ArePartsOf (· == ',') "a>b, , c<d, e".toList ["a>b".toList, "c<d, e".toList] := by
  have hfound : splitTopLevelBy (· == ',') "a>b, , c<d, e".toList
      = ["a>b".toList, "c<d, e".toList] := by decide +kernel
  exact ⟨by decide +kernel, splitTopLevel_inverts_joining.1 listComma [mapPart, namePart],
    hfound ▸ splitTopLevel_inverts_joining.2 (· == ',') _⟩

end Conformance.Source
