/-
# Lists of base types

Behind the colon in the tail of a header stand the base types, up to a clause with the word `where`,
a brace, a semicolon or the end of the line.  The pattern reads as little as it can, and so just
this list (`partAtStart?_basesPattern`): inside it no such end is found.  Where brackets match, it
is split at the commas between the base types.  Of each, all from its first parenthesis on is then
taken for the arguments that a record passes; so a base type is given back without its arguments
just if none of its own brackets is a parenthesis (`bases_of_baseList`).
-/
import Conformance.Proofs.Pattern.Readable
import Conformance.Proofs.Source.MemberType
import Conformance.Proofs.Source.Parameters

namespace Conformance.Source

open Pattern
open Progress (amid)

/-! ## Words in a text -/

/-- The runs of word characters between the other characters of a text; between neighbours the run
is empty. -/
def wordRuns (u : List Char) : List (List Char) :=
  u.splitOnP (!Text.isWord ·)

/-- Text between words holds none. -/
lemma mem_wordRuns_append {w g : List Char} (hw : w ≠ []) (hne : g ≠ [])
    (hg : ∀ c ∈ g, Text.isWord c = false) (u v : List Char) :
    w ∈ wordRuns (u ++ (g ++ v)) ↔ w ∈ wordRuns u ∨ w ∈ wordRuns v := by
  induction g generalizing u with
  | nil => exact absurd rfl hne
  | cons c g ih =>
    obtain ⟨hc, hg⟩ := List.forall_mem_cons.1 hg
    have hsplit : wordRuns (u ++ (c :: g ++ v)) = wordRuns u ++ wordRuns (g ++ v) :=
      List.splitOnP_append_cons u (g ++ v) (by simp [hc])
    rw [hsplit, List.mem_append]
    cases g with
    | nil => rfl
    | cons d g =>
      have hnil : w ∉ wordRuns [] := by simpa [wordRuns] using hw
      rw [← List.nil_append (d :: g ++ v), ih (by simp) hg []]
      simp [hnil]

/-- Word characters with none before and none behind them are a run. -/
lemma mem_wordRuns {w u v : List Char} (hw : ∀ c ∈ w, Text.isWord c = true)
    (hu : ∀ c ∈ u.getLast?, Text.isWord c = false) (hv : ∀ c ∈ v.head?, Text.isWord c = false) :
    w ∈ wordRuns (u ++ (w ++ v)) := by
  have hpass : ∀ c ∈ w, (!Text.isWord c) = false := fun c hc => by simp [hw c hc]
  have hfirst : w ∈ wordRuns (w ++ v) := by
    cases v with
    | nil => simp [wordRuns, List.splitOnP_eq_singleton hpass]
    | cons c v =>
      have hc : (!Text.isWord c) = true := by simp [hv c rfl]
      rw [wordRuns, List.splitOnP_append_cons_of_forall_mem hpass c hc]
      exact List.mem_cons_self
  rcases List.eq_nil_or_concat u with rfl | ⟨u, c, rfl⟩
  · exact hfirst
  · have hc : (!Text.isWord c) = true := by simp [hu c (by simp)]
    rw [wordRuns, List.concat_eq_append, List.append_assoc, List.singleton_append,
      List.splitOnP_append_cons u _ hc]
    exact List.mem_append_right _ hfirst

/-! ## The parts of a tail -/

/-- Type parameters in angle brackets, with the blanks before them. -/
structure GenericsText where
  /-- The blanks. -/
  indent : Blanks
  /-- The text between the brackets. -/
  inner : List Char
  valid : ∀ c ∈ inner, c ∉ ['>', '{', ';']

/-- The text of type parameters. -/
def GenericsText.chars (g : GenericsText) : List Char :=
  g.indent.chars ++ '<' :: (g.inner ++ ['>'])

/-- Arguments in parentheses, with the blanks before them. -/
structure CallText where
  /-- The blanks. -/
  gap : Blanks
  /-- The text between the parentheses. -/
  args : List Char

/-- The text of arguments. -/
def CallText.chars (c : CallText) : List Char :=
  c.gap.chars ++ '(' :: (c.args ++ [')'])

/-- A base type, with the arguments that a record passes to it. -/
structure BaseText where
  /-- The dotted name. -/
  name : List Char
  /-- The text between the angle brackets behind it. -/
  inner? : Option (List Char)
  /-- The arguments. -/
  call? : Option CallText
  name_ne_nil : name ≠ []
  name_dotted : ∀ c ∈ name, isDotted c = true

namespace BaseText

variable (b : BaseText)

/-- The base type. -/
def type : List Char :=
  b.name ++ (match b.inner? with
    | none => []
    | some a => '<' :: (a ++ ['>']))

/-- The base type with the arguments behind it. -/
def text : List Char :=
  b.type ++ (match b.call? with
    | none => []
    | some c => c.chars)

/-- All brackets inside of the angle brackets match, and all inside of the parentheses. -/
structure BracketsMatch : Prop where
  inner : ∀ a ∈ b.inner?, Nested (fun _ => true) a
  args : ∀ c ∈ b.call?, Nested (fun _ => true) c.args

lemma type_ne_nil : b.type ≠ [] := by
  simp [type, b.name_ne_nil]

lemma text_ne_nil : b.text ≠ [] := by
  simp [text, b.type_ne_nil]

lemma head_type : ∀ c ∈ b.type.head?, Text.isBlank c = false := by
  intro c hc
  rw [type, List.head?_append_of_ne_nil _ b.name_ne_nil] at hc
  exact isBlank_eq_false_of_isDotted (b.name_dotted c (List.mem_of_mem_head? hc))

lemma last_type : ∀ c ∈ b.type.getLast?, Text.isBlank c = false := by
  intro c hc
  rw [type] at hc
  cases hinner : b.inner? with
  | none =>
    rw [hinner, List.append_nil] at hc
    exact isBlank_eq_false_of_isDotted (b.name_dotted c (List.mem_of_getLast? hc))
  | some a =>
    rw [hinner] at hc
    obtain rfl : '>' = c := by simpa [List.getLast?_cons] using hc
    decide

lemma head_text : ∀ c ∈ b.text.head?, Text.isBlank c = false := by
  rw [text, List.head?_append_of_ne_nil _ b.type_ne_nil]
  exact b.head_type

lemma last_text : ∀ c ∈ b.text.getLast?, Text.isBlank c = false := by
  intro c hc
  rw [text] at hc
  cases hcall : b.call? with
  | none =>
    rw [hcall, List.append_nil] at hc
    exact b.last_type c hc
  | some call =>
    rw [hcall] at hc
    obtain rfl : ')' = c := by simpa [CallText.chars, List.getLast?_cons] using hc
    decide

lemma trim_text (g g' : Blanks) : Text.trim (g.chars ++ (b.text ++ g'.chars)) = b.text :=
  Text.trim_eq g.valid b.text_ne_nil b.head_text b.last_text g'.valid

lemma nested_text (h : b.BracketsMatch) : Nested (· != ',') b.text := by
  have hname : Nested (· != ',') b.name :=
    .of_plain fun c hc => plain_of_accepted (by decide) (b.name_dotted c hc)
  have htype : Nested (· != ',') b.type := by
    refine hname.append ?_
    cases hinner : b.inner? with
    | none => exact .nil
    | some a => exact .bracketed (by decide) (h.inner a hinner) .nil
  refine htype.append ?_
  cases hcall : b.call? with
  | none => exact .nil
  | some c =>
    exact (Parameter.nested_blanks c.gap).append
      (.bracketed (by decide) (h.args c hcall) .nil)

/-- A base type that holds no parenthesis itself is given back without its arguments. -/
lemma withoutCall_text (h : '(' ∉ b.type) : withoutCall b.text = b.type := by
  have hcall : ∃ g, AllBlank g ∧ Text.before '(' b.text = b.type ++ g := by
    rw [text]
    cases b.call? with
    | none => exact ⟨[], by simp [AllBlank], by simp [Text.before_eq_self h]⟩
    | some c =>
      have hgap : '(' ∉ c.gap.chars := fun h => absurd (c.gap.valid _ h) (by decide)
      have hend : Text.before '(' ('(' :: (c.args ++ [')'])) = [] :=
        List.takeWhile_cons_of_neg (by simp)
      refine ⟨c.gap.chars, c.gap.valid, ?_⟩
      simp only [CallText.chars]
      rw [Text.before_append_of_notMem h, Text.before_append_of_notMem hgap, hend,
        List.append_nil]
  obtain ⟨g, hg, hbefore⟩ := hcall
  rw [withoutCall, hbefore]
  exact Text.trim_eq (u := []) (by simp) b.type_ne_nil b.head_type b.last_type hg

/-- One that holds a parenthesis is cut there. -/
lemma length_withoutCall_lt (h : '(' ∈ b.type) : (withoutCall b.text).length < b.type.length := by
  have hbefore : Text.before '(' b.text = Text.before '(' b.type := Text.before_append_of_mem h _
  obtain ⟨v, hv⟩ := Text.exists_dropWhile_eq h
  have htype := congrArg List.length (Text.before_append_dropWhile '(' b.type)
  obtain ⟨u, u', htrim, -, -⟩ := exists_trim (Text.before '(' b.type)
  have hlength := congrArg List.length htrim
  rw [withoutCall, hbefore]
  simp only [hv, List.length_append, List.length_cons] at htype hlength
  omega

/-- **A base type is given back without its arguments** just if it holds no parenthesis itself. -/
lemma withoutCall_eq_type_iff : withoutCall b.text = b.type ↔ '(' ∉ b.type := by
  refine ⟨fun heq hmem => ?_, b.withoutCall_text⟩
  have hshorter := b.length_withoutCall_lt hmem
  rw [heq] at hshorter
  exact Nat.lt_irrefl _ hshorter

end BaseText

/-- A further base type, with the comma before it. -/
structure NextBase where
  /-- The blanks before the comma. -/
  before : Blanks
  /-- The blanks behind it. -/
  behind : Blanks
  /-- The base type. -/
  base : BaseText

namespace NextBase

/-- The text before the base type. -/
def comma (n : NextBase) : List Char :=
  n.before.chars ++ ',' :: n.behind.chars

/-- The text of a further base type. -/
def chars (n : NextBase) : List Char :=
  n.comma ++ n.base.text

lemma comma_ne_nil (n : NextBase) : n.comma ≠ [] := by
  simp [comma]

lemma of_mem_comma {n : NextBase} {c : Char} (h : c ∈ n.comma) :
    Text.isBlank c = true ∨ c = ',' := by
  rcases List.mem_append.1 h with h | h
  · exact .inl (n.before.valid c h)
  · exact (List.mem_cons.1 h).symm.imp_left (n.behind.valid c)

end NextBase

/-- What ends a list of base types. -/
inductive ListEnd where
  /-- A clause. -/
  | clause (gap : Gap) (rest : List Char) (h : (CharTest.word false).RefusesStart rest)
  /-- An opening brace. -/
  | brace (gap : Blanks) (rest : List Char)
  /-- A semicolon. -/
  | semicolon (gap : Blanks) (rest : List Char)
  /-- The end of the line. -/
  | lineEnd (gap : Blanks)

/-- The word that starts a clause. -/
def clauseWord : String := "where"

lemma clauseWord_letters : ∀ c ∈ clauseWord.toList, Text.isWord c = true :=
  List.all_eq_true.1 rfl

/-- The text from the end of a list on. -/
def ListEnd.chars : ListEnd → List Char
  | clause gap rest _ => gap.chars ++ (clauseWord.toList ++ rest)
  | brace gap rest => gap.chars ++ '{' :: rest
  | semicolon gap rest => gap.chars ++ ';' :: rest
  | lineEnd gap => gap.chars

/-- The tail of a header with base types. -/
structure BaseTail where
  /-- The type parameters. -/
  generics? : Option GenericsText
  /-- The blanks before the colon. -/
  gap : Blanks
  /-- The blanks behind it. -/
  gap' : Blanks
  /-- The first base type. -/
  first : BaseText
  /-- The further ones. -/
  more : List NextBase
  /-- The end of the list. -/
  stop : ListEnd
  unmarked : ∀ b ∈ first :: more.map (·.base), '{' ∉ b.text ∧ ';' ∉ b.text
  clauseWord_notMem : ∀ b ∈ first :: more.map (·.base), clauseWord.toList ∉ wordRuns b.text

namespace BaseTail

variable (x : BaseTail)

/-- The base types. -/
def bases : List BaseText :=
  x.first :: x.more.map (·.base)

/-- The list of base types, as it is written. -/
def list : List Char :=
  x.first.text ++ x.more.flatMap NextBase.chars

/-- The tail from the colon on. -/
def fromColon : List Char :=
  x.gap.chars ++ ':' :: (x.gap'.chars ++ (x.list ++ x.stop.chars))

/-- The tail. -/
def text : List Char :=
  (match x.generics? with
    | none => []
    | some g => g.chars) ++ x.fromColon

/-! ## The list as a text -/

lemma list_ne_nil : x.list ≠ [] := by
  simp [list, x.first.text_ne_nil]

lemma head_list : ∀ c ∈ x.list.head?, Text.isBlank c = false := by
  rw [list, List.head?_append_of_ne_nil _ x.first.text_ne_nil]
  exact x.first.head_text

/-- A list ends as its last base type does. -/
lemma last_list : ∀ c ∈ x.list.getLast?, Text.isBlank c = false := by
  have hmore : ∀ (u : List Char) (ns : List NextBase), (∀ c ∈ u.getLast?, Text.isBlank c = false) →
      ∀ c ∈ (u ++ ns.flatMap NextBase.chars).getLast?, Text.isBlank c = false := by
    intro u ns hu
    induction ns generalizing u with
    | nil => simpa using hu
    | cons n ns ih =>
      rw [List.flatMap_cons, ← List.append_assoc]
      refine ih _ ?_
      rw [NextBase.chars, ← List.append_assoc, List.getLast?_append_of_ne_nil _ n.base.text_ne_nil]
      exact n.base.last_text
  exact hmore _ _ x.first.last_text

/-- Apart from commas and blanks, what stands in the list stands in a base type. -/
lemma notMem_list {m : Char} (hblank : Text.isBlank m = false) (hcomma : m ≠ ',')
    (h : ∀ b ∈ x.bases, m ∉ b.text) : m ∉ x.list := by
  intro hm
  rcases List.mem_append.1 hm with hm | hm
  · exact h x.first List.mem_cons_self hm
  · obtain ⟨n, hn, hm⟩ := List.mem_flatMap.1 hm
    rcases List.mem_append.1 hm with hm | hm
    · exact absurd (NextBase.of_mem_comma hm) (by simp [hblank, hcomma])
    · exact h n.base (List.mem_cons_of_mem _ (List.mem_map_of_mem hn)) hm

lemma ne_of_mem_list {c : Char} (h : c ∈ x.list) : c ≠ '{' ∧ c ≠ ';' := by
  have hbrace := x.notMem_list (m := '{') rfl (by decide) fun b hb => (x.unmarked b hb).1
  have hsemicolon := x.notMem_list (m := ';') rfl (by decide) fun b hb => (x.unmarked b hb).2
  constructor
  · rintro rfl
    exact hbrace h
  · rintro rfl
    exact hsemicolon h

/-- The word for a clause stands nowhere in the list. -/
lemma clauseWord_notMem_list : clauseWord.toList ∉ wordRuns x.list := by
  have hmore : ∀ (u : List Char) (ns : List NextBase), clauseWord.toList ∉ wordRuns u →
      (∀ n ∈ ns, clauseWord.toList ∉ wordRuns n.base.text) →
      clauseWord.toList ∉ wordRuns (u ++ ns.flatMap NextBase.chars) := by
    intro u ns hu hns
    induction ns generalizing u with
    | nil => simpa using hu
    | cons n ns ih =>
      obtain ⟨hn, hns⟩ := List.forall_mem_cons.1 hns
      have hcomma : ∀ c ∈ n.comma, Text.isWord c = false := by
        intro c hc
        rcases NextBase.of_mem_comma hc with hblank | rfl
        · exact Text.isWord_eq_false_of_isBlank hblank
        · decide
      rw [List.flatMap_cons, ← List.append_assoc]
      refine ih _ ?_ hns
      rw [NextBase.chars, mem_wordRuns_append (by decide) n.comma_ne_nil hcomma]
      exact not_or.2 ⟨hu, hn⟩
  refine hmore _ _ (x.clauseWord_notMem _ List.mem_cons_self) fun n hn => ?_
  exact x.clauseWord_notMem n.base (List.mem_cons_of_mem _ (List.mem_map_of_mem hn))

end BaseTail

/-! ## The end of the list -/

/-- What ends a list. -/
def endMark : HeaderPattern :=
  oneOf [concat [.anchor (.wordEdge false), word clauseWord, .anchor (.wordEdge false)],
    char '{', char ';', .anchor .lastLineEnd]

section Ends

variable {b u : List Char} {cs : List (Part × Capture)}

lemma headIsWord_eq_false : Cursor.headIsWord false u = false ↔
    ∀ c ∈ u.head?, Text.isWord c = false := by
  cases u <;> simp [Cursor.headIsWord, CharTest.accepts]

/-- Before the word for a clause there is an edge if no word character stands there. -/
lemma wordEdge_before (v : List Char) :
    (Cursor.amid b (clauseWord.toList ++ v)).satisfies (.wordEdge false) = true ↔
      ∀ c ∈ b.head?, Text.isWord c = false := by
  have hnext : Cursor.headIsWord false (clauseWord.toList ++ v) = true := rfl
  have hne : (clauseWord.toList ++ v).isEmpty = false := rfl
  simp [Cursor.satisfies, Cursor.inEmptyText, Cursor.atWordEdge, hnext, hne, headIsWord_eq_false]

/-- Behind it there is an edge if no word character follows. -/
lemma wordEdge_behind (v : List Char) :
    (Cursor.amid (clauseWord.toList.reverse ++ b) v).satisfies (.wordEdge false) = true ↔
      ∀ c ∈ v.head?, Text.isWord c = false := by
  have hlast : Cursor.headIsWord false (clauseWord.toList.reverse ++ b) = true := rfl
  have hne : (clauseWord.toList.reverse ++ b).isEmpty = false := rfl
  simp [Cursor.satisfies, Cursor.inEmptyText, Cursor.atWordEdge, hlast, hne, headIsWord_eq_false]

/-- Behind the blanks at the end of a list it is found. -/
lemma isSome_run_listEnd (e : ListEnd) :
    (run (concat [gap, endMark]) (amid b e.chars cs) some).isSome = true := by
  have hblanks : ∀ (g : Blanks) (v : List Char),
      (∀ cs, (run endMark (amid (g.chars.reverse ++ b) v cs) some).isSome = true) →
      (run (concat [gap, endMark]) (amid b (g.chars ++ v) cs) some).isSome = true := by
    intro g v hv
    rw [run_concat_cons]
    have hmem : g.chars ∈ (gap : HeaderPattern).language :=
      mem_language_rounds_one (Nat.zero_le _) g.valid
    exact run_reading rfl g.chars hmem v b cs _ hv
  cases e with
  | clause g rest h =>
    refine hblanks g.toBlanks _ fun cs => isSome_run_oneOf List.mem_cons_self ?_
    have hblank : ∀ c ∈ (g.chars.reverse ++ b).head?, Text.isWord c = false := by
      intro c hc
      rw [List.head?_append_of_ne_nil _ (List.reverse_ne_nil_iff.2 g.ne_nil)] at hc
      have hmem : c ∈ g.chars := List.mem_reverse.1 (List.mem_of_mem_head? hc)
      exact Text.isWord_eq_false_of_isBlank (g.valid c hmem)
    have hrest : ∀ c ∈ rest.head?, Text.isWord c = false := by
      intro c hc
      obtain ⟨v, rfl⟩ := List.head?_eq_some_iff.1 hc
      exact h c v rfl
    rw [run_concat_cons, run_anchor ((wordEdge_before rest).2 hblank), run_concat_cons, run_word,
      run_concat_cons, run_anchor ((wordEdge_behind rest).2 hrest)]
    rfl
  | brace g rest =>
    refine hblanks g _ fun cs => isSome_run_oneOf (p := char '{') (by simp) ?_
    rw [run_char_self]
    rfl
  | semicolon g rest =>
    refine hblanks g _ fun cs => isSome_run_oneOf (p := char ';') (by simp) ?_
    rw [run_char_self]
    rfl
  | lineEnd g =>
    have h := hblanks g [] fun cs => isSome_run_oneOf (p := .anchor .lastLineEnd) (by simp) rfl
    rwa [List.append_nil] at h

/-- No end is found where none of its signs stands. -/
lemma run_endMark_eq_none {c : Char} (hmarks : c ≠ '{' ∧ c ≠ ';') (hline : c :: u ≠ ['\n'])
    (hclause : ∀ v, c :: u = clauseWord.toList ++ v → (∀ d ∈ b.head?, Text.isWord d = false) →
      (∀ d ∈ v.head?, Text.isWord d = false) → False) :
    run endMark (amid b (c :: u) cs) some = none := by
  refine run_oneOf_eq_none fun q hq => ?_
  simp only [List.mem_cons, List.not_mem_nil, or_false] at hq
  rcases hq with rfl | rfl | rfl | rfl
  · refine Option.eq_none_iff_forall_not_mem.2 fun r hr => ?_
    rw [run_concat_cons] at hr
    obtain ⟨hstart, hr⟩ := of_run_anchor hr
    rw [run_concat_cons] at hr
    by_cases hprefix : clauseWord.toList <+: c :: u
    · obtain ⟨v, hv⟩ := hprefix
      rw [← hv] at hstart hr
      rw [run_word, run_concat_cons] at hr
      obtain ⟨hstop, -⟩ := of_run_anchor hr
      exact hclause v hv.symm ((wordEdge_before v).1 hstart) ((wordEdge_behind v).1 hstop)
    · rw [failsAt_word_of_not_isPrefix _ hprefix] at hr
      exact absurd hr (by simp)
  · exact failsAt_char hmarks.1 b u cs some
  · exact failsAt_char hmarks.2 b u cs some
  · have hnot : (amid b (c :: u) cs).cursor.satisfies .lastLineEnd = false := by
      simp only [Cursor.satisfies, Progress.cursor_amid, Cursor.after_amid, List.isEmpty_cons,
        Bool.false_or]
      exact beq_eq_false_iff_ne.2 hline
    exact if_neg (Bool.eq_false_iff.1 hnot)

/-- The end of a list starts with no word character. -/
lemma ListEnd.head_chars (e : ListEnd) : ∀ c ∈ e.chars.head?, Text.isWord c = false := by
  have hnotWord : ∀ c, Text.isBlank c = true → Text.isWord c = false :=
    fun _ => Text.isWord_eq_false_of_isBlank
  cases e with
  | clause g rest _ =>
    intro c hc
    exact hnotWord c (head_blanks_append g.ne_nil g.valid _ c hc)
  | brace g rest => exact head_blanks_cons g.valid hnotWord (by decide) rest
  | semicolon g rest => exact head_blanks_cons g.valid hnotWord (by decide) rest
  | lineEnd g => exact fun c hc => hnotWord c (g.valid c (List.mem_of_mem_head? hc))

end Ends

namespace BaseTail

variable (x : BaseTail) {b : List Char} {cs : List (Part × Capture)}

/-- Inside of the list no end is found. -/
lemma run_endMark_list {u v : List Char} {c : Char} (h : x.list = u ++ c :: v) :
    run endMark (amid (u.reverse ++ b) (c :: (v ++ x.stop.chars)) cs) some = none := by
  refine run_endMark_eq_none (x.ne_of_mem_list (by simp [h])) (fun hline => ?_) ?_
  · obtain ⟨rfl, hrest⟩ := List.cons.inj hline
    obtain ⟨rfl, -⟩ := List.append_eq_nil_iff.1 hrest
    have hlast := x.last_list '\n' (by simp [h])
    exact absurd hlast (by decide)
  · intro rest hrest hbefore hbehind
    have hfirst : ∀ d ∈ u.getLast?, Text.isWord d = false := by
      intro d hd
      refine hbefore d ?_
      rw [← List.head?_reverse] at hd
      rw [List.head?_append, Option.mem_def.1 hd]
      rfl
    have hinside : ∃ z, c :: v = clauseWord.toList ++ z ∧ rest = z ++ x.stop.chars := by
      rw [← List.cons_append] at hrest
      rcases List.append_eq_append_iff.1 hrest with ⟨z, hword, hstop⟩ | hinside
      · cases z with
        | nil => exact ⟨[], by simpa using hword.symm, by simpa using hstop.symm⟩
        | cons d z =>
          -- the word would go on behind the list
          have hd := clauseWord_letters d (by rw [hword]; simp)
          exact absurd hd (by simp [x.stop.head_chars d (by rw [hstop]; simp)])
      · exact hinside
    obtain ⟨z, hz, rfl⟩ := hinside
    refine x.clauseWord_notMem_list ?_
    rw [h, hz]
    refine mem_wordRuns clauseWord_letters hfirst fun d hd => hbehind d ?_
    rw [List.head?_append, Option.mem_def.1 hd]
    rfl

lemma run_listEnd_eq_none {u v : List Char} {c : Char} (h : x.list = u ++ c :: v) :
    run (concat [Pattern.gap, endMark]) (amid (u.reverse ++ b) (c :: (v ++ x.stop.chars)) cs) some
      = none := by
  have hlast : ∀ d ∈ (c :: v).getLast?, Text.isBlank d = false := by
    intro d hd
    refine x.last_list d ?_
    rw [h, List.getLast?_append_of_ne_nil _ (by simp)]
    exact hd
  rw [run_concat_cons]
  refine run_star_one_eq_none (u := c :: v) (by simp) hlast fun u₁ d u₂ heq => ?_
  have hlist : x.list = (u ++ u₁) ++ d :: u₂ := by rw [h, heq, List.append_assoc]
  have hnone : run endMark (amid ((u ++ u₁).reverse ++ b) (d :: (u₂ ++ x.stop.chars)) cs) some
      = none := x.run_endMark_list hlist
  simpa using hnone

/-- Behind the list its end is found, and no other list is remembered. -/
lemma exists_run_listEnd (list : Capture) :
    ∃ r, run (concat [Pattern.gap, endMark]) (amid b x.stop.chars [(.bases, list)]) some = some r ∧
      r.capture? .bases = some list := by
  obtain ⟨r, hr⟩ := Option.isSome_iff_exists.1 (isSome_run_listEnd x.stop)
  obtain ⟨s, hreaches, hs⟩ := run_within (concat [Pattern.gap, endMark]) _ _ _ hr
  obtain rfl := Option.some.inj hs
  refine ⟨s, hr, ?_⟩
  rw [hreaches.capture?_eq (by decide)]
  rfl

/-- From the first character of the list on, the pattern reads just the list. -/
lemma run_list {k : Continuation Part} {r : Progress Part}
    (hend : ∀ {u v : List Char} {c : Char}, x.list = u ++ c :: v →
      k (amid (u.reverse ++ b) (c :: (v ++ x.stop.chars)) cs) = none)
    (hk : k (amid (x.list.reverse ++ b) x.stop.chars cs) = some r) :
    run (lazyPlus (.one (.noneOf ['{', ';']))) (amid b (x.list ++ x.stop.chars) cs) k
      = some r := by
  have haccepts : ∀ c ∈ x.list, (CharTest.noneOf ['{', ';']).accepts c = true := by
    intro c hc
    simp [CharTest.noneOf, CharTest.chars, CharTest.oneOf, CharTest.accepts, x.ne_of_mem_list hc]
  obtain ⟨c, u, hlist⟩ := List.exists_cons_of_ne_nil x.list_ne_nil
  rw [hlist] at haccepts hk
  rw [run_lazyPlus, hlist, List.cons_append, run_one_cons, if_pos (haccepts c List.mem_cons_self)]
  refine run_lazyStar_one_eq_some (fun d hd => haccepts d (List.mem_cons_of_mem c hd))
    (fun u₁ d u₂ heq => ?_) (by simpa using hk)
  have hsplit : x.list = (c :: u₁) ++ d :: u₂ := by rw [hlist, heq, List.cons_append]
  simpa using hend hsplit

/-- **The list of base types is what the pattern captures.** -/
lemma partAtStart?_basesPattern : partAtStart? basesPattern .bases x.fromColon = some x.list := by
  have hcolon : (CharTest.blank false).RefusesStart
      (':' :: (x.gap'.chars ++ (x.list ++ x.stop.chars))) := CharTest.refusesStart_cons.2 rfl
  have hblank : (CharTest.blank false).RefusesStart (x.list ++ x.stop.chars) := by
    intro c u hc
    refine x.head_list c ?_
    rw [← List.head?_append_of_ne_nil _ x.list_ne_nil, hc]
    rfl
  set before := x.gap'.chars.reverse ++ ':' :: x.gap.chars.reverse with hbefore
  set start := Cursor.amid before (x.list ++ x.stop.chars) with hstart
  set stop := Cursor.amid (x.list.reverse ++ before) x.stop.chars with hstop
  obtain ⟨r, hr, hcapture⟩ := x.exists_run_listEnd (b := x.list.reverse ++ before) ⟨start, stop⟩
  have hrun : run basesPattern (amid [] x.fromColon []) some = some r := by
    have hpattern : basesPattern = concat (.anchor .textStart :: Pattern.gap :: char ':' ::
      Pattern.gap :: .group .bases (lazyPlus (.one (.noneOf ['{', ';']))) ::
      [Pattern.gap, endMark]) := rfl
    rw [hpattern, fromColon, run_tailStart x.gap.valid hcolon rfl, run_concat_cons, run_char_self,
      run_concat_cons]
    refine run_star_one_eq_some x.gap'.valid hblank ?_
    rw [← hbefore, run_concat_cons, run_group]
    exact x.run_list (fun h => x.run_listEnd_eq_none h) hr
  have htext : stop.textSince start = x.list := by
    rw [hstop, hstart, Cursor.textSince_amid]
  have hmatch : basesPattern.matchStart? x.fromColon = some ⟨Cursor.start x.fromColon, r⟩ := by
    rw [matchStart?_eq, hrun]
    rfl
  rw [partAtStart?, hmatch, Option.bind_some, Match.capture?, hcapture]
  exact congrArg some htext

/-! ## The base types -/

lemma skip_genericPattern_text : skip genericPattern x.text = x.fromColon := by
  rw [text]
  cases x.generics? with
  | none => exact skip_genericPattern x.gap.valid rfl (by decide) _
  | some g =>
    have hopen : (CharTest.blank false).RefusesStart ('<' :: (g.inner ++ '>' :: x.fromColon)) :=
      CharTest.refusesStart_cons.2 rfl
    have haccepts : ∀ c ∈ g.inner, (CharTest.noneOf ['>', '{', ';']).accepts c = true := by
      intro c hc
      have hmarks := g.valid c hc
      simp only [List.mem_cons, List.not_mem_nil, or_false, not_or] at hmarks
      simp [CharTest.noneOf, CharTest.chars, CharTest.oneOf, CharTest.accepts, hmarks]
    have hclose : (CharTest.noneOf ['>', '{', ';']).RefusesStart ('>' :: x.fromColon) :=
      CharTest.refusesStart_cons.2 (by decide)
    have hrun : run genericPattern (amid [] (g.indent.chars ++ '<' :: (g.inner ++
          '>' :: x.fromColon)) []) some
        = some (amid ('>' :: (g.inner.reverse ++ '<' :: g.indent.chars.reverse)) x.fromColon
          []) := by
      rw [genericPattern, run_tailStart g.indent.valid hopen rfl, run_concat_cons, run_char_self,
        run_concat_cons]
      refine run_star_one_eq_some haccepts hclose ?_
      rw [run_concat_cons, run_char_self, run_concat_nil]
    have htext : g.chars ++ x.fromColon
        = g.indent.chars ++ '<' :: (g.inner ++ '>' :: x.fromColon) := by
      simp [GenericsText.chars]
    rw [skip, htext, matchStart?_eq, hrun]
    rfl

/-- There are no parameters, and the list is split at its commas. -/
lemma readTypeTail_text :
    readTypeTail x.text = ⟨[], (splitTopLevel ',' x.list).map withoutCall⟩ := by
  have hparams : positionalPattern.matchStart? x.fromColon = none :=
    matchStart?_tailStart_eq_none x.gap.valid (by decide) (by decide) rfl _ _
  have hpart : partAtStart? positionalPattern .params x.fromColon = none := by
    rw [partAtStart?, hparams, Option.bind_none]
  have hskip : skip positionalPattern x.fromColon = x.fromColon := by
    rw [skip, hparams]
  rw [readTypeTail]
  simp only [x.skip_genericPattern_text, hpart, hskip, x.partAtStart?_basesPattern]
  rfl

/-- A base type with further ones behind it is split at the commas before those. -/
lemma topLevelFrom_bases {b : BaseText} {ns : List NextBase} (g : Blanks) (hb : b.BracketsMatch)
    (hns : ∀ n ∈ ns, n.base.BracketsMatch) :
    topLevelFrom (· == ',') 0 [] (g.chars ++ (b.text ++ ns.flatMap NextBase.chars))
      = b.text :: ns.map (·.base.text) := by
  have hstart := (Parameter.nested_blanks g).append (b.nested_text hb)
  induction ns generalizing g b with
  | nil =>
    have hunsplit : Unsplit (· == ',') 0 (g.chars ++ b.text) := hstart.unsplit_separator rfl rfl
    have hend : Text.trim (g.chars ++ b.text) = b.text := by
      simpa [noBlanks] using b.trim_text g noBlanks
    simpa [hend] using topLevelFrom_last hunsplit
  | cons n ns ih =>
    obtain ⟨hn, hns⟩ := List.forall_mem_cons.1 hns
    have hpiece := hstart.append (Parameter.nested_blanks n.before)
    have htext : g.chars ++ (b.text ++ (n :: ns).flatMap NextBase.chars)
        = (g.chars ++ b.text ++ n.before.chars) ++ ',' :: (n.behind.chars ++ (n.base.text ++
          ns.flatMap NextBase.chars)) := by
      simp [NextBase.chars, NextBase.comma]
    rw [htext, topLevelFrom_piece rfl rfl hpiece, List.append_assoc, b.trim_text,
      ih n.behind hn hns ((Parameter.nested_blanks _).append (n.base.nested_text hn)),
      List.map_cons]

/-- Where brackets match, a list is split into its base types. -/
lemma splitTopLevel_list (h : ∀ b ∈ x.bases, b.BracketsMatch) :
    splitTopLevel ',' x.list = x.bases.map (·.text) := by
  have hmore : ∀ n ∈ x.more, n.base.BracketsMatch := fun n hn =>
    h n.base (List.mem_cons_of_mem _ (List.mem_map_of_mem hn))
  have hfirst := topLevelFrom_bases noBlanks (h x.first List.mem_cons_self) hmore
  have hall : topLevelFrom (· == ',') 0 [] x.list = x.bases.map (·.text) := by
    simpa [list, bases, noBlanks, Function.comp_def] using hfirst
  rw [splitTopLevel, splitTopLevelBy, hall, List.filter_eq_self]
  intro u hu
  obtain ⟨b, -, rfl⟩ := List.mem_map.1 hu
  simpa using b.text_ne_nil

/-- **Base types are given back up to their first parenthesis.**  The tail declares no parameters,
and of each piece between the commas of the list, what stands before a parenthesis.  Where brackets
match, the pieces are the base types with their arguments; so the base types are given back without
their arguments just if none of them holds a parenthesis of its own, as a tuple does. -/
theorem bases_of_baseList :
    let tail := readTypeTail x.text
    tail.params = [] ∧
    tail.bases = (splitTopLevel ',' x.list).map withoutCall ∧
    ((∀ b ∈ x.bases, b.BracketsMatch) →
      tail.bases = x.bases.map (fun b => withoutCall b.text) ∧
      (tail.bases = x.bases.map (·.type) ↔ ∀ b ∈ x.bases, '(' ∉ b.type)) := by
  rw [x.readTypeTail_text]
  refine ⟨rfl, rfl, fun h => ?_⟩
  have hbases : (splitTopLevel ',' x.list).map withoutCall
      = x.bases.map fun b => withoutCall b.text := by
    rw [x.splitTopLevel_list h, List.map_map]
    rfl
  refine ⟨hbases, ?_⟩
  rw [hbases, List.map_inj_left]
  exact forall₂_congr fun b _ => b.withoutCall_eq_type_iff

end BaseTail

/-! ## A list with arguments, and a tuple -/

/-- `Dictionary<string, List<int>>(Pair(1, 2), 3)` -/
def dictionaryBase : BaseText where
  name := "Dictionary".toList
  inner? := some "string, List<int>".toList
  call? := some ⟨noBlanks, "Pair(1, 2), 3".toList⟩
  name_ne_nil := by decide
  name_dotted := List.all_eq_true.1 rfl

lemma bracketsMatch_dictionaryBase : dictionaryBase.BracketsMatch where
  inner := by
    rintro a ⟨⟩
    exact (Nested.of_all_plain (u := "string, List".toList) (by decide)).append
      (.bracketed (o := '<') (u := "int".toList) (by decide) (.of_all_plain (by decide)) .nil)
  args := by
    rintro c ⟨⟩
    exact (Nested.of_all_plain (u := "Pair".toList) (by decide)).append
      (.bracketed (o := '(') (u := "1, 2".toList) (v := ", 3".toList) (by decide)
        (.of_all_plain (by decide)) (.of_all_plain (by decide)))

/-- `IEnumerable<(int, string)>` -/
def tupleBase : BaseText where
  name := "IEnumerable".toList
  inner? := some "(int, string)".toList
  call? := none
  name_ne_nil := by decide
  name_dotted := List.all_eq_true.1 rfl

lemma bracketsMatch_tupleBase : tupleBase.BracketsMatch where
  inner := by
    rintro a ⟨⟩
    exact .bracketed (o := '(') (u := "int, string".toList) (by decide) (.of_all_plain (by decide))
      .nil
  args := nofun

/-- `System.IDisposable` -/
def disposableBase : BaseText where
  name := "System.IDisposable".toList
  inner? := none
  call? := none
  name_ne_nil := by decide
  name_dotted := List.all_eq_true.1 rfl

lemma bracketsMatch_disposableBase : disposableBase.BracketsMatch where
  inner := nofun
  args := nofun

/-- `<T> : Dictionary<string, List<int>>(Pair(1, 2), 3), System.IDisposable where T : new()` -/
def dictionaryTail : BaseTail where
  generics? := some ⟨noBlanks, ['T'], by simp⟩
  gap := oneBlank
  gap' := oneBlank
  first := dictionaryBase
  more := [⟨noBlanks, oneBlank, disposableBase⟩]
  stop := .clause oneGap " T : new()".toList (CharTest.refusesStart_cons.2 rfl)
  unmarked := by decide +kernel
  clauseWord_notMem := by decide +kernel

/-- ` : IEnumerable<(int, string)>, System.IDisposable` -/
def tupleTail : BaseTail where
  generics? := none
  gap := oneBlank
  gap' := oneBlank
  first := tupleBase
  more := [⟨noBlanks, oneBlank, disposableBase⟩]
  stop := .lineEnd noBlanks
  unmarked := by decide +kernel
  clauseWord_notMem := by decide +kernel

theorem bases_of_baseList_dictionary :
    String.ofList dictionaryTail.text
      = "<T> : Dictionary<string, List<int>>(Pair(1, 2), 3), System.IDisposable where T : new()" ∧
    (readTypeTail dictionaryTail.text).bases
      = ["Dictionary<string, List<int>>".toList, "System.IDisposable".toList] := by
  have hmatch : ∀ b ∈ dictionaryTail.bases, b.BracketsMatch :=
    List.forall_mem_cons.2 ⟨bracketsMatch_dictionaryBase, List.forall_mem_singleton.2
      bracketsMatch_disposableBase⟩
  exact ⟨by decide +kernel,
    ((dictionaryTail.bases_of_baseList.2.2 hmatch).2.2 (by decide +kernel)).trans rfl⟩

/-- The parenthesis of a tuple is taken for arguments: the base type is cut inside of its angle
brackets. -/
theorem base_cut_at_tuple :
    String.ofList tupleTail.text = " : IEnumerable<(int, string)>, System.IDisposable" ∧
    (∀ b ∈ tupleTail.bases, b.BracketsMatch) ∧
    (readTypeTail tupleTail.text).bases = ["IEnumerable<".toList, "System.IDisposable".toList] := by
  have hmatch : ∀ b ∈ tupleTail.bases, b.BracketsMatch :=
    List.forall_mem_cons.2 ⟨bracketsMatch_tupleBase, List.forall_mem_singleton.2
      bracketsMatch_disposableBase⟩
  exact ⟨by decide +kernel, hmatch, by decide +kernel⟩

end Conformance.Source
