/-
# Lines that start with the header of a type

A line with blanks, attributes in brackets, a visibility, modifiers, a word for the sort of type and
a name holds the header of this type first, with its parts as they are written
(`head?_containerHeaders`), and what is declared first on the line is that type
(`lineDeclarations_headerLine`).  The pattern prefers to read each part where it stands.  Only the
word `record` alone needs a look at what follows: the pattern first tries to read a second word
behind it, and comes back from the start of the name, since the name goes on there.
-/
import Conformance.Proofs.Pattern.Occurrences
import Conformance.Proofs.Pattern.Preferred
import Conformance.Proofs.Source.HeaderText
import Conformance.Proofs.Source.Layout
import Conformance.Proofs.Text.Pieces

namespace Conformance.Source

open Pattern
open Progress (amid)

/-! ## The parts of a line -/

/-- Blanks between two words. -/
structure Gap extends Blanks where
  /-- There is one at least. -/
  ne_nil : chars ≠ []

/-- One blank between two words. -/
def oneGap : Gap := ⟨oneBlank, by decide⟩

/-- An attribute in brackets, with the blanks behind it. -/
structure BracketedText where
  /-- The text between the brackets. -/
  inner : List Char
  /-- The blanks behind it. -/
  gap : Blanks
  notMem : ']' ∉ inner

/-- The text of an attribute. -/
def BracketedText.chars (a : BracketedText) : List Char :=
  ['['] ++ (a.inner ++ ([']'] ++ a.gap.chars))

/-- The words of visibility. -/
def visibilityWords : List String := ["public", "internal", "private", "protected"]

/-- The words that modify a type. -/
def typeModifiers : List String :=
  ["static", "sealed", "abstract", "partial", "readonly", "ref", "unsafe", "new", "file"]

/-- The visibility at the start of a line. -/
inductive Visibility where
  /-- One word. -/
  | one (w : {w // w ∈ visibilityWords})
  /-- Two words. -/
  | two (w : {w // w ∈ visibilityWords}) (gap : Gap) (w' : {w // w ∈ visibilityWords})
  /-- The modifier `file`. -/
  | file

namespace Visibility

/-- The words. -/
def words : Visibility → List String
  | one w => [w]
  | two w _ w' => [w.1, w'.1]
  | file => [fileModifier]

/-- The text. -/
def chars : Visibility → List Char
  | one w => w.1.toList
  | two w gap w' => w.1.toList ++ (gap.chars ++ w'.1.toList)
  | file => fileModifier.toList

end Visibility

/-- A modifier with the blanks behind it. -/
structure SpacedModifier where
  /-- The word. -/
  word : String
  /-- The blanks behind it. -/
  gap : Gap
  word_mem : word ∈ typeModifiers

/-- The text of a modifier. -/
def SpacedModifier.chars (m : SpacedModifier) : List Char :=
  m.word.toList ++ m.gap.chars

/-- The word or words for a sort of type. -/
inductive TypeKeyword where
  /-- The word for a kind of container. -/
  | plain (kind : ContainerKind)
  /-- A record that is a class. -/
  | recordClass (gap : Gap)
  /-- A record that is a struct. -/
  | recordStruct (gap : Gap)

namespace TypeKeyword

/-- The kind of container. -/
def kind : TypeKeyword → ContainerKind
  | plain kind => kind
  | recordClass _ => .record
  | recordStruct _ => .record

/-- The text behind the first word. -/
def more : TypeKeyword → List Char
  | plain _ => []
  | recordClass gap => gap.chars ++ "class".toList
  | recordStruct gap => gap.chars ++ "struct".toList

/-- The text. -/
def chars (w : TypeKeyword) : List Char :=
  w.kind.word.toList ++ w.more

end TypeKeyword

/-- A line that starts with the header of a type. -/
structure HeaderLine where
  /-- The blanks at the start. -/
  indent : Blanks
  /-- The attributes. -/
  attributes : List BracketedText
  /-- The visibility. -/
  visibility : Visibility
  /-- The blanks behind it. -/
  gap : Gap
  /-- The modifiers. -/
  modifiers : List SpacedModifier
  /-- The word or words for the sort of type. -/
  keyword : TypeKeyword
  /-- The blanks behind them. -/
  gap' : Gap
  /-- The name. -/
  name : Name
  /-- The line behind the name. -/
  rest : List Char
  /-- Behind the word for a record alone, the name is no second word for a sort of type. -/
  name_ne : keyword = .plain .record → ∀ w ∈ ["class", "struct"], name.chars ≠ w.toList
  /-- The name ends where it does. -/
  rest_start : (CharTest.word false).RefusesStart rest

namespace HeaderLine

variable (x : HeaderLine)

/-- The modifiers, as they are written. -/
def modifierChars : List Char :=
  (x.modifiers.map SpacedModifier.chars).flatten

/-- The attributes, as they are written. -/
def attributeChars : List Char :=
  (x.attributes.map BracketedText.chars).flatten

/-- The line before the visibility. -/
def beforeVisibility : List Char :=
  x.indent.chars ++ x.attributeChars

/-- The line before the modifiers. -/
def beforeModifiers : List Char :=
  (x.beforeVisibility ++ x.visibility.chars) ++ x.gap.chars

/-- The line before the word for the sort of type. -/
def beforeKeyword : List Char :=
  x.beforeModifiers ++ x.modifierChars

/-- The line before the name. -/
def beforeName : List Char :=
  (x.beforeKeyword ++ x.keyword.chars) ++ x.gap'.chars

/-- The line from the name on. -/
def fromName : List Char :=
  x.name.chars ++ x.rest

/-- The line from the word for the sort of type on. -/
def fromKeyword : List Char :=
  x.keyword.chars ++ (x.gap'.chars ++ x.fromName)

/-- The line from the modifiers on. -/
def fromModifiers : List Char :=
  x.modifierChars ++ x.fromKeyword

/-- The line from the visibility on. -/
def fromVisibility : List Char :=
  x.visibility.chars ++ (x.gap.chars ++ x.fromModifiers)

/-- The line. -/
def text : List Char :=
  x.indent.chars ++ (x.attributeChars ++ x.fromVisibility)

lemma text_eq_beforeName_append : x.text = x.beforeName ++ (x.name.chars ++ x.rest) := by
  simp [text, fromVisibility, fromModifiers, fromKeyword, fromName, beforeName, beforeKeyword,
    beforeModifiers, beforeVisibility]

end HeaderLine

/-! ## Words and blanks -/

section Parts

variable {b v : List Char} {cs : List (Part × Capture)} {k : Continuation Part}
  {p : HeaderPattern}

/-- The words before the name of a type. -/
def headerWords : List String := visibilityWords ++ typeModifiers ++ typeWords

lemma headerWord_letters {w : String} (h : w ∈ headerWords) :
    w.toList ≠ [] ∧ ∀ c ∈ w.toList, Text.isWord c = true := by
  have hall : headerWords.all (fun w => !w.toList.isEmpty && w.toList.all Text.isWord) = true := rfl
  simpa using List.all_eq_true.1 hall w h

/-- A test that accepts no word character refuses a word. -/
lemma refusesStart_word {w : String} (h : w ∈ headerWords) {t : CharTest}
    (ht : ∀ c, Text.isWord c = true → t.accepts c = false) (v : List Char) :
    t.RefusesStart (w.toList ++ v) :=
  refusesStart_append (headerWord_letters h).1 (fun c hc => ht c ((headerWord_letters h).2 c hc)) v

lemma word_mem_headerWords (kind : ContainerKind) : kind.word ∈ headerWords := by
  cases kind <;> decide

lemma refusesStart_blank_word {w : String} (h : w ∈ headerWords) (v : List Char) :
    (CharTest.blank false).RefusesStart (w.toList ++ v) :=
  refusesStart_word h (fun _ => Text.isBlank_eq_false_of_isWord) v

/-- No two words before the name start with one another, unless they are the same. -/
lemma apart_of_ne {w w' : String} (h : w ∈ headerWords) (h' : w' ∈ headerWords) (hne : w ≠ w') :
    Apart w w' := by
  have hall : ∀ w ∈ headerWords, ∀ w' ∈ headerWords, w ≠ w' → Apart w w' := by
    decide
  exact hall w h w' h' hne

/-- No word before the name is read where a blank stands. -/
lemma refuses_word_blank {w : String} (h : w ∈ headerWords) {c : Char}
    (hc : Text.isBlank c = true) (rest : List Char) :
    (word w : HeaderPattern).Refuses (c :: rest) := by
  refine fun b cs => failsAt_word_of_not_isPrefix w fun hprefix => ?_
  obtain ⟨hne, hletters⟩ := headerWord_letters h
  obtain ⟨d, ds, hd⟩ := List.exists_cons_of_ne_nil hne
  rw [hd, List.cons_prefix_cons] at hprefix
  obtain rfl := hprefix.1
  have hword := hletters d (hd ▸ List.mem_cons_self)
  exact absurd hc (by simp [Text.isBlank_eq_false_of_isWord hword])

/-- Nor where another word stands. -/
lemma refuses_word_of_ne {w w' : String} (h : w ∈ headerWords) (h' : w' ∈ headerWords)
    (hne : w ≠ w') (v : List Char) : (word w : HeaderPattern).Refuses (w'.toList ++ v) :=
  (apart_of_ne h h' hne).refuses v

lemma refuses_wordsOf {w : String} {ws : List String} (hws : w :: ws ⊆ headerWords) {w' : String}
    (hw' : w' ∈ headerWords) (hnot : w' ∉ w :: ws) (v : List Char) :
    (Pattern.words (w :: ws) : HeaderPattern).Refuses (w'.toList ++ v) :=
  refuses_words fun _ hx => refuses_word_of_ne (hws hx) hw' (fun heq => hnot (heq ▸ hx)) v

lemma prefers_wordOf {w : String} {ws : List String} (hws : ws ⊆ headerWords) (hw : w ∈ ws)
    (v : List Char) : (Pattern.words ws : HeaderPattern).Prefers w.toList v :=
  prefers_words hw fun _ hx hne => apart_of_ne (hws hx) (hws hw) hne

lemma visibilityWords_subset : visibilityWords ⊆ headerWords := by decide

lemma typeModifiers_subset : typeModifiers ⊆ headerWords := by decide

namespace Gap

variable (g : Gap)

lemma prefers (hv : (CharTest.blank false).RefusesStart v) :
    (gap1 : HeaderPattern).Prefers g.chars v :=
  prefers_plus_one g.ne_nil g.valid hv

/-- The only way to read a gap is to read all of it, if what follows fails at a blank. -/
lemma run_gap1 (hv : (CharTest.blank false).RefusesStart v)
    (hk : ∀ b' c rest, Text.isBlank c = true → k (amid b' (c :: rest) cs) = none) :
    run gap1 (amid b (g.chars ++ v) cs) k = k (amid (g.chars.reverse ++ b) v cs) := by
  obtain ⟨c, rest, hchars⟩ := List.exists_cons_of_ne_nil g.ne_nil
  have hblank := g.valid
  rw [hchars, List.forall_mem_cons] at hblank
  have hc : (CharTest.blank false).accepts c = true := hblank.1
  rw [hchars, List.cons_append, gap1, run_plus, run_one_cons, if_pos hc,
    run_star_one_eq hblank.2 hv hk]
  simp

/-- A word behind a gap is not read where the word ahead is another. -/
lemma refuses_seq_words {w : String} {ws : List String} (hws : w :: ws ⊆ headerWords)
    {w' : String} (hw' : w' ∈ headerWords) (hnot : w' ∉ w :: ws) (v : List Char) :
    (Pattern.seq gap1 (Pattern.words (w :: ws)) : HeaderPattern).Refuses
      (g.chars ++ (w'.toList ++ v)) := by
  intro b cs k
  rw [run_seq, g.run_gap1 (refusesStart_blank_word hw' v)]
  · exact refuses_wordsOf hws hw' hnot v _ _ _
  · intro b' c rest hc
    exact refuses_words (fun x hx => refuses_word_blank (hws hx) hc rest) _ _ _

end Gap

lemma BracketedText.prefers (a : BracketedText) (hv : (CharTest.blank false).RefusesStart v) :
    (concat [char '[', star (.one (.noneOf [']'])), char ']', Pattern.gap] :
      HeaderPattern).Prefers a.chars v := by
  have hinner : ∀ c ∈ a.inner, (CharTest.noneOf [']']).accepts c = true := by
    intro c hc
    have hne : c ≠ ']' := fun heq => a.notMem (heq ▸ hc)
    simp [CharTest.noneOf, CharTest.chars, CharTest.oneOf, CharTest.accepts, hne]
  have hclose : (CharTest.noneOf [']']).RefusesStart (([']'] ++ a.gap.chars) ++ v) :=
    CharTest.refusesStart_cons.2 (by decide)
  refine .concat_cons (prefers_one (by decide)) (.concat_cons ?_ (.concat_cons ?_ ?_))
  · exact prefers_star_one hinner hclose
  · exact prefers_one (by decide)
  · exact prefers_star_one a.gap.valid hv

lemma pieces_attributes (as : List BracketedText) :
    (concat [char '[', star (.one (.noneOf [']'])), char ']', gap] : HeaderPattern).Pieces
      (CharTest.blank false).RefusesStart (as.map BracketedText.chars) := by
  refine ⟨?_, ?_, ?_⟩
  · intro u hu v hv
    obtain ⟨a, -, rfl⟩ := List.mem_map.1 hu
    exact a.prefers hv
  · intro u hu
    obtain ⟨a, -, rfl⟩ := List.mem_map.1 hu
    simp [BracketedText.chars]
  · intro u hu v
    obtain ⟨a, -, rfl⟩ := List.mem_map.1 hu
    exact CharTest.refusesStart_cons.2 (by decide)

/-- Attributes are read one after another up to a text that starts with a word. -/
lemma prefers_attributes (as : List BracketedText) {w : String} (hw : w ∈ headerWords)
    (v : List Char) :
    attributes.Prefers (as.map BracketedText.chars).flatten (w.toList ++ v) := by
  have hletter : (CharTest.char '[').RefusesStart (w.toList ++ v) :=
    refusesStart_word hw (fun c hc => beq_eq_false_iff_ne.2 (Text.ne_of_isWord hc (by decide))) v
  exact (pieces_attributes as).star (refusesStart_blank_word hw v)
    ((refuses_one hletter).concat_cons _)

/-- The visibility is read where no other word of visibility follows. -/
lemma Visibility.prefers (y : Visibility) (g : Gap) {w : String} (hw : w ∈ headerWords)
    (hnot : w ∉ visibilityWords) (v : List Char) :
    (alt visibilityRun (word "file")).Prefers y.chars (g.chars ++ (w.toList ++ v)) := by
  cases y with
  | one w₀ =>
    have hopt := (g.refuses_seq_words visibilityWords_subset hw hnot v).opt
    have hrun := (prefers_wordOf visibilityWords_subset w₀.2 _).seq hopt
    rw [List.append_nil] at hrun
    exact hrun.alt_left
  | two w₀ g₀ w₁ =>
    have hsecond := (g₀.prefers (refusesStart_blank_word (visibilityWords_subset w₁.2) _)).seq
      (prefers_wordOf visibilityWords_subset w₁.2 (g.chars ++ (w.toList ++ v)))
    exact ((prefers_wordOf visibilityWords_subset w₀.2 _).seq hsecond.opt).alt_left
  | file =>
    have hfile : visibilityRun.Refuses (fileModifier.toList ++ (g.chars ++ (w.toList ++ v))) :=
      (refuses_wordsOf visibilityWords_subset (by decide) (by decide) _).seq
    exact .alt_right hfile (prefers_word fileModifier)

/-- Modifiers are read one after another up to a word that is none. -/
lemma prefers_modifiers (ms : List SpacedModifier) {w : String} (hw : w ∈ headerWords)
    (hnot : w ∉ typeModifiers) (v : List Char) :
    (star (seq typeModifier gap1)).Prefers (ms.map SpacedModifier.chars).flatten
      (w.toList ++ v) := by
  have hpieces : (seq typeModifier gap1).Pieces (CharTest.blank false).RefusesStart
      (ms.map SpacedModifier.chars) := by
    refine ⟨?_, ?_, ?_⟩
    · intro u hu v hv
      obtain ⟨m, -, rfl⟩ := List.mem_map.1 hu
      exact (prefers_wordOf typeModifiers_subset m.word_mem _).seq (m.gap.prefers hv)
    · intro u hu
      obtain ⟨m, -, rfl⟩ := List.mem_map.1 hu
      simp [SpacedModifier.chars, m.gap.ne_nil]
    · intro u hu v
      obtain ⟨m, -, rfl⟩ := List.mem_map.1 hu
      rw [SpacedModifier.chars, List.append_assoc]
      exact refusesStart_blank_word (typeModifiers_subset m.word_mem) _
  exact hpieces.star (refusesStart_blank_word hw v)
    (refuses_wordsOf typeModifiers_subset hw hnot v).seq

/-! ## The word for the sort of type -/

/-- A keyword of two words is read where it stands. -/
lemma prefers_second {w : String} (hw : w ∈ headerWords) (g : Gap) (v : List Char) :
    (concat [word "record", gap1, word w] : HeaderPattern).Prefers
      ("record".toList ++ (g.chars ++ w.toList)) v :=
  (prefers_word "record").concat_cons <|
    (g.prefers (refusesStart_blank_word hw v)).concat_cons (prefers_word w)

/-- A keyword of two words fails where the first stands alone, if what follows fails behind a second
word. -/
lemma run_second_eq_none {w : String} (hw : w ∈ headerWords) (g : Gap)
    (hv : (CharTest.blank false).RefusesStart v)
    (hk : ∀ b' a', v = w.toList ++ a' → k (amid b' a' cs) = none) :
    run (concat [word "record", gap1, word w]) (amid b ("record".toList ++ (g.chars ++ v)) cs) k
      = none := by
  rw [run_concat_cons, run_word, run_concat_cons, g.run_gap1 hv]
  · exact run_word_eq_none fun a' ha => hk _ a' ha
  · intro b' c rest hc
    exact refuses_word_blank hw hc rest _ _ _

/-- The keyword is read where it stands.  For a record alone, what follows must fail behind a second
word that the text behind the gap starts with. -/
lemma run_containerKeyword_eq_some (w : TypeKeyword) (g : Gap)
    (hv : (CharTest.blank false).RefusesStart v) {r : Progress Part}
    (hk : k (amid (w.chars.reverse ++ b) (g.chars ++ v) cs) = some r)
    (hsecond : w = .plain .record → ∀ x ∈ ["class", "struct"], ∀ b' a', v = x.toList ++ a' →
      k (amid b' a' cs) = none) :
    run containerKeyword (amid b (w.chars ++ (g.chars ++ v)) cs) k = some r := by
  cases w with
  | recordClass g₀ =>
    have hfirst := prefers_second (w := "class") (by decide) g₀ (g.chars ++ v) b cs k r hk
    rw [containerKeyword, run_oneOf_cons_cons, TypeKeyword.chars, TypeKeyword.more]
    exact hfirst ▸ Option.some_or
  | recordStruct g₀ =>
    have hclass : run (concat [word "record", gap1, word "class"])
        (amid b ("record".toList ++ (g₀.chars ++ ("struct".toList ++ (g.chars ++ v)))) cs) k
          = none := by
      refine run_second_eq_none (by decide) g₀ (refusesStart_blank_word (by decide) _) ?_
      intro b' a' ha
      have hapart : Apart "class" "struct" := by decide
      exact absurd ⟨a', ha.symm⟩ (hapart.not_isPrefix _)
    have hstruct := prefers_second (w := "struct") (by decide) g₀ (g.chars ++ v) b cs k r hk
    simp only [TypeKeyword.chars, TypeKeyword.more, TypeKeyword.kind, ContainerKind.word,
      List.append_assoc] at hstruct ⊢
    rw [containerKeyword, run_oneOf_cons_cons, hclass, Option.none_or, run_oneOf_cons_cons,
      hstruct, Option.some_or]
  | plain kind =>
    rw [TypeKeyword.chars, TypeKeyword.more, List.append_nil, TypeKeyword.kind] at hk ⊢
    rw [containerKeyword, run_oneOf_eq (p := word kind.word), run_word]
    · exact hk
    · cases kind <;> simp [ContainerKind.word]
    · -- the other words are not read here; the two words that start with `record` get past it
      have hkind := word_mem_headerWords kind
      have hone : ∀ w ∈ headerWords, (word w : HeaderPattern) ≠ word kind.word →
          run (word w) (amid b (kind.word.toList ++ (g.chars ++ v)) cs) k = none :=
        fun w hw hne => refuses_word_of_ne hw hkind (fun heq => hne (heq ▸ rfl)) _ _ _ _
      have htwo : ∀ w ∈ ["class", "struct"], run (concat [word "record", gap1, word w])
          (amid b (kind.word.toList ++ (g.chars ++ v)) cs) k = none := by
        intro w hw
        by_cases hrecord : kind = .record
        · subst hrecord
          have hword : w ∈ headerWords :=
            (by decide : ["class", "struct"] ⊆ headerWords) hw
          exact run_second_eq_none hword g hv fun b' a' ha => hsecond rfl w hw b' a' ha
        · have hne : "record" ≠ kind.word := by
            cases kind <;> first
              | exact absurd rfl hrecord
              | decide
          exact (refuses_word_of_ne (by decide) hkind hne _).concat_cons _ _ _ k
      intro q hq hne
      simp only [List.mem_cons, List.not_mem_nil, or_false] at hq
      rcases hq with rfl | rfl | rfl | rfl | rfl | rfl | rfl
      · exact htwo "class" (by simp)
      · exact htwo "struct" (by simp)
      all_goals exact hone _ (by decide) hne

/-! ## The whole line -/

lemma Name.prefers (name : Name) (hv : (CharTest.word false).RefusesStart v) :
    nameWord.Prefers name.chars v :=
  fun _ _ _ _ hk => run_nameWord name.valid hv hk

end Parts

namespace HeaderLine

variable (x : HeaderLine)

/-- Behind the modifiers comes a word that is no modifier. -/
lemma fromKeyword_eq : x.fromKeyword
    = x.keyword.kind.word.toList ++ (x.keyword.more ++ (x.gap'.chars ++ x.fromName)) := by
  rw [fromKeyword, TypeKeyword.chars, List.append_assoc]

lemma word_notMem (kind : ContainerKind) :
    kind.word ∉ typeModifiers ∧ kind.word ∉ visibilityWords := by
  cases kind <;> decide

/-- Behind the visibility comes a word that is none of visibility. -/
lemma exists_fromModifiers_eq : ∃ w v, x.fromModifiers = w.toList ++ v ∧ w ∈ headerWords ∧
    w ∉ visibilityWords := by
  cases hms : x.modifiers with
  | nil =>
    refine ⟨x.keyword.kind.word, x.keyword.more ++ (x.gap'.chars ++ x.fromName), ?_,
      word_mem_headerWords _, (word_notMem _).2⟩
    rw [fromModifiers, modifierChars, hms, ← x.fromKeyword_eq]
    rfl
  | cons m ms =>
    have hnot : ∀ w ∈ typeModifiers, w ∉ visibilityWords := by decide
    refine ⟨m.word, m.gap.chars ++ ((ms.map SpacedModifier.chars).flatten ++ x.fromKeyword), ?_,
      typeModifiers_subset m.word_mem, hnot _ m.word_mem⟩
    rw [fromModifiers, modifierChars, hms]
    simp [SpacedModifier.chars]

/-- The visibility is a word. -/
lemma exists_fromVisibility_eq : ∃ w v, x.fromVisibility = w.toList ++ v ∧ w ∈ headerWords := by
  cases hy : x.visibility with
  | one w =>
    exact ⟨w.1, _, by rw [fromVisibility, hy]; rfl, visibilityWords_subset w.2⟩
  | two w g w' =>
    refine ⟨w.1, g.chars ++ (w'.1.toList ++ (x.gap.chars ++ x.fromModifiers)), ?_,
      visibilityWords_subset w.2⟩
    rw [fromVisibility, hy, Visibility.chars]
    simp
  | file =>
    exact ⟨fileModifier, _, by rw [fromVisibility, hy]; rfl, by decide⟩

/-- Behind a second word for the sort of type the name goes on, so that no name follows. -/
lemma failsAt_behind_second (hkeyword : x.keyword = .plain .record) {w : String}
    (hw : w ∈ ["class", "struct"]) {a' : List Char} (ha : x.fromName = w.toList ++ a')
    (b' : List Char) (cs : List (Part × Capture)) :
    (concat [gap1, .group .name nameWord] : HeaderPattern).FailsAt (amid b' a' cs) := by
  have hletters := (headerWord_letters ((by decide : ["class", "struct"] ⊆ headerWords) hw)).2
  have hne := x.name_ne hkeyword w hw
  refine (failsAt_gap1 ?_).concat_cons _
  rw [fromName] at ha
  rcases List.append_eq_append_iff.1 ha with ⟨m, hm, hrest⟩ | ⟨m, hm, rfl⟩
  · -- the name would end inside the second word, but what follows it is no word character
    cases m with
    | nil => exact absurd (by simpa using hm.symm) hne
    | cons c m =>
      have hc : Text.isWord c = false := x.rest_start c _ hrest
      exact absurd (hletters c (by simp [hm])) (by simp [hc])
  · cases m with
    | nil => exact absurd (by simpa using hm) hne
    | cons c m =>
      have hc : Text.isWord c = true := isWord_of_mem_name x.name.valid (by simp [hm])
      exact CharTest.refusesStart_cons.2 (Text.isBlank_eq_false_of_isWord hc)

/-- What the groups of the pattern remember of the line. -/
def captures : List (Part × Capture) :=
  [(.name, ⟨.amid x.beforeName.reverse x.fromName,
      .amid (x.beforeName ++ x.name.chars).reverse x.rest⟩),
    (.keyword, ⟨.amid x.beforeKeyword.reverse x.fromKeyword,
      .amid (x.beforeKeyword ++ x.keyword.chars).reverse (x.gap'.chars ++ x.fromName)⟩),
    (.modifiers, ⟨.amid x.beforeModifiers.reverse x.fromModifiers,
      .amid x.beforeKeyword.reverse x.fromKeyword⟩),
    (.visibility, ⟨.amid x.beforeVisibility.reverse x.fromVisibility,
      .amid (x.beforeVisibility ++ x.visibility.chars).reverse
        (x.gap.chars ++ x.fromModifiers)⟩)]

/-- The start of the line is read up to the modifiers. -/
lemma run_lineStart_eq_some {k : Continuation Part} {r : Progress Part}
    (hk : k (amid x.beforeModifiers.reverse x.fromModifiers
      [(.visibility, ⟨.amid x.beforeVisibility.reverse x.fromVisibility,
        .amid (x.beforeVisibility ++ x.visibility.chars).reverse
          (x.gap.chars ++ x.fromModifiers)⟩)]) = some r) :
    run (concat [.anchor .textStart, Pattern.gap, Source.attributes,
      .group .visibility (alt visibilityRun (word "file")), gap1]) (amid [] x.text []) k
        = some r := by
  obtain ⟨w, v, hv, hw⟩ := x.exists_fromVisibility_eq
  obtain ⟨w', v', hv', hw', hnot⟩ := x.exists_fromModifiers_eq
  have hblank : (CharTest.blank false).RefusesStart (x.attributeChars ++ x.fromVisibility) :=
    (pieces_attributes x.attributes).flatten_append (hv ▸ refusesStart_blank_word hw v)
  have hattributes : Source.attributes.Prefers x.attributeChars x.fromVisibility :=
    hv ▸ prefers_attributes x.attributes hw v
  have hvisibility : (alt visibilityRun (word "file")).Prefers x.visibility.chars
      (x.gap.chars ++ x.fromModifiers) := hv' ▸ x.visibility.prefers x.gap hw' hnot v'
  have hgap : (gap1 : HeaderPattern).Prefers x.gap.chars x.fromModifiers :=
    x.gap.prefers (hv' ▸ refusesStart_blank_word hw' v')
  have hanchor : ∀ K : Continuation Part, run (.anchor .textStart) (amid [] x.text []) K
      = K (amid [] x.text []) := fun _ => rfl
  rw [run_concat_cons, hanchor, run_concat_cons, text]
  refine prefers_star_one x.indent.valid hblank _ _ _ _ ?_
  rw [run_concat_cons]
  refine hattributes _ _ _ _ ?_
  rw [run_concat_cons, fromVisibility]
  refine run_group_eq_some hvisibility (hgap _ _ _ _ ?_)
  simpa [beforeModifiers, beforeVisibility, fromVisibility] using hk

/-- The pattern reads the header of the line. -/
lemma run_containerPattern : run containerPattern (amid [] x.text []) some
    = some (amid (x.beforeName ++ x.name.chars).reverse x.rest x.captures) := by
  have hmodifiers : (star (seq typeModifier gap1)).Prefers x.modifierChars x.fromKeyword :=
    x.fromKeyword_eq ▸ prefers_modifiers x.modifiers (word_mem_headerWords _) (word_notMem _).1 _
  have hname : (CharTest.blank false).RefusesStart x.fromName :=
    refusesStart_blank_name x.name.valid x.rest
  rw [containerPattern, run_concat_cons, run_alt, x.run_lineStart_eq_some, Option.some_or]
  rw [run_concat_cons, fromModifiers]
  refine run_group_eq_some hmodifiers ?_
  rw [run_concat_cons, run_group, fromKeyword]
  refine run_containerKeyword_eq_some x.keyword x.gap' hname ?_ ?_
  · rw [Progress.remember_amid, run_concat_cons]
    refine x.gap'.prefers hname _ _ _ _ ?_
    rw [fromName]
    refine run_group_eq_some (x.name.prefers x.rest_start) ?_
    simp [beforeName, beforeKeyword, captures, fromKeyword, fromName, fromModifiers]
  · intro hkeyword w hw b' a' ha
    exact x.failsAt_behind_second hkeyword hw ha _ _ _

/-- What the pattern finds at the start of the line. -/
def headerMatch : Match Part where
  start := Cursor.start x.text
  stop := amid (x.beforeName ++ x.name.chars).reverse x.rest x.captures

/-- The first match on the line starts with the line. -/
lemma search?_containerPattern : containerPattern.search? x.text = some x.headerMatch := by
  have hstart : Cursor.start x.text = Cursor.amid [] x.text := rfl
  refine searchFrom?_of_matchAt? ?_
  rw [hstart, matchAt?_amid, x.run_containerPattern]
  rfl

/-! ## What is declared first -/

lemma notBlank_word {w : String} (h : w ∈ headerWords) :
    w.toList ≠ [] ∧ ∀ c ∈ w.toList, Text.isBlank c = false :=
  ⟨(headerWord_letters h).1, fun c hc =>
    Text.isBlank_eq_false_of_isWord ((headerWord_letters h).2 c hc)⟩

/-- The words of a header word. -/
lemma words_word {w : String} (h : w ∈ headerWords) : Text.words w.toList = [w.toList] :=
  Text.words_eq_singleton (notBlank_word h).1 (notBlank_word h).2

/-- The words of a text that starts with a header word and blanks. -/
lemma words_word_append {w : String} (h : w ∈ headerWords) (g : Gap) (v : List Char) :
    Text.words (w.toList ++ (g.chars ++ v)) = w.toList :: Text.words v :=
  Text.words_append (notBlank_word h).1 (notBlank_word h).2 g.ne_nil g.valid v

lemma kindOfKeyword_chars (w : TypeKeyword) : kindOfKeyword w.chars = w.kind := by
  have hrecord : "record" ∈ headerWords := by decide
  cases w with
  | plain kind =>
    rw [TypeKeyword.chars, TypeKeyword.more, List.append_nil]
    exact kindOfKeyword_word kind
  | recordClass g =>
    have hwords : Text.words (TypeKeyword.recordClass g).chars
        = "record".toList :: Text.words "class".toList := words_word_append hrecord g _
    rw [kindOfKeyword, hwords]
    rfl
  | recordStruct g =>
    have hwords : Text.words (TypeKeyword.recordStruct g).chars
        = "record".toList :: Text.words "struct".toList := words_word_append hrecord g _
    rw [kindOfKeyword, hwords]
    rfl

lemma words_visibility (y : Visibility) :
    (Text.words y.chars).map String.ofList = y.words := by
  cases y with
  | one w =>
    rw [Visibility.chars, words_word (visibilityWords_subset w.2)]
    simp [Visibility.words]
  | two w g w' =>
    rw [Visibility.chars, words_word_append (visibilityWords_subset w.2),
      words_word (visibilityWords_subset w'.2)]
    simp [Visibility.words]
  | file =>
    rw [Visibility.chars, words_word (by decide)]
    simp [Visibility.words]

lemma words_modifiers (ms : List SpacedModifier) :
    (Text.words (ms.map SpacedModifier.chars).flatten).map String.ofList
      = ms.map (·.word) := by
  induction ms with
  | nil => rfl
  | cons m ms ih =>
    rw [List.map_cons, List.flatten_cons, SpacedModifier.chars, List.append_assoc,
      words_word_append (typeModifiers_subset m.word_mem), List.map_cons, ih, List.map_cons,
      String.ofList_toList]

/-- The header of the type on the line. -/
def header : ContainerHeader where
  column := 0
  endColumn := (x.beforeName ++ x.name.chars).length
  visibility := some (String.ofList x.visibility.chars)
  nestedVisibility := none
  modifiers := String.ofList x.modifierChars
  keyword := String.ofList x.keyword.chars
  kind := x.keyword.kind
  name := String.ofList x.name.chars
  nameColumn := x.beforeName.length
  tail := x.rest

lemma ofMatch_headerMatch : ContainerHeader.ofMatch x.headerMatch = x.header := by
  have hvisibility : x.headerMatch.captured? .visibility
      = some (String.ofList x.visibility.chars) :=
    congrArg (fun u => some (String.ofList u)) (Cursor.textSince_amid _ _ _ _)
  have hnested : x.headerMatch.captured? .nestedVisibility = none := rfl
  have hmodifiers : x.headerMatch.captured? .modifiers = some (String.ofList x.modifierChars) :=
    congrArg (fun u => some (String.ofList u)) (Cursor.textSince_amid _ _ _ _)
  have hkeyword : x.headerMatch.captured? .keyword = some (String.ofList x.keyword.chars) :=
    congrArg (fun u => some (String.ofList u)) (Cursor.textSince_amid _ _ _ _)
  have hname : x.headerMatch.captured? .name = some (String.ofList x.name.chars) :=
    congrArg (fun u => some (String.ofList u)) (Cursor.textSince_amid _ _ _ _)
  have hcolumn : partColumn x.headerMatch .name = x.beforeName.length := List.length_reverse
  have hend : x.headerMatch.endColumn = (x.beforeName ++ x.name.chars).length :=
    List.length_reverse
  simp only [ContainerHeader.ofMatch, header, partText, hvisibility, hnested, hmodifiers,
    hkeyword, hname, hcolumn, hend, Option.getD_some, String.toList_ofList, kindOfKeyword_chars]
  rfl

/-- The first header on the line is that of the type. -/
lemma head?_containerHeaders : (containerHeaders x.text).head? = some x.header := by
  rw [containerHeaders, List.head?_map, head?_all, search?_containerPattern, Option.map_some,
    ofMatch_headerMatch]

/-- What is declared first is read off this header. -/
lemma head?_lineDeclarations (path ns : String) {scope : LineScope}
    (hscope : scope.text.toList = x.text) :
    (lineDeclarations path ns scope).head?
      = some (containerDeclaration scope path ns x.header) := by
  obtain ⟨hs, hheaders⟩ := List.head?_eq_some_iff.1 x.head?_containerHeaders
  simp only [lineDeclarations, hscope, hheaders, List.flatMap_cons, containerDeclarations]
  split <;> rfl

lemma modifierWords_header :
    modifierWords (x.header.visibility.or x.header.nestedVisibility) x.header.modifiers
      = x.visibility.words ++ x.modifiers.map (·.word) := by
  simp only [header, Option.some_or, modifierWords, Option.getD_some, String.toList_ofList,
    List.map_append, words_visibility, modifierChars, words_modifiers]

/-- **The header of a type is read back.**  On a line that starts with one, the first match starts
with the line, and what is declared first is the type: its kind is that of the keyword, it has the
name, at the column where the name stands, and its modifiers are the words of the visibility and
then the modifiers.  It is visible in its file only just if `file` is among them. -/
theorem lineDeclarations_headerLine (path ns : String) (scope : LineScope) :
    (containerPattern.search? x.text).map (·.column) = some 0 ∧
    ∃ d, (lineDeclarations path ns { scope with text := String.ofList x.text }).head? = some d ∧
      d.kind = .ofContainer x.keyword.kind ∧
      d.name = String.ofList x.name.chars ∧
      d.column = x.beforeName.length ∧ x.text = x.beforeName ++ (x.name.chars ++ x.rest) ∧
      d.modifiers = x.visibility.words ++ x.modifiers.map (·.word) ∧
      (d.fileScoped = true ↔ "file" ∈ x.visibility.words ++ x.modifiers.map (·.word)) := by
  have hmodifiers := x.modifierWords_header
  refine ⟨by rw [x.search?_containerPattern]; rfl, _,
    x.head?_lineDeclarations path ns String.toList_ofList, rfl, rfl, rfl,
    x.text_eq_beforeName_append, hmodifiers, ?_⟩
  simp only [containerDeclaration, hmodifiers, List.contains_iff_mem, fileModifier]

/-- A line with an attribute, two words of visibility, a modifier and a keyword of two words. -/
example : ∃ x : HeaderLine, String.ofList x.text
    = "  [Serializable]protected internal readonly record  struct Point(int X);" :=
  ⟨{  indent := ⟨"  ".toList, by decide⟩
      attributes := [⟨"Serializable".toList, ⟨[], by decide⟩, by decide⟩]
      visibility := .two ⟨"protected", by decide⟩ ⟨⟨[' '], by decide⟩, by decide⟩
        ⟨"internal", by decide⟩
      gap := ⟨⟨[' '], by decide⟩, by decide⟩
      modifiers := [⟨"readonly", ⟨⟨[' '], by decide⟩, by decide⟩, by decide⟩]
      keyword := .recordStruct ⟨⟨"  ".toList, by decide⟩, by decide⟩
      gap' := ⟨⟨[' '], by decide⟩, by decide⟩
      name := ⟨"Point".toList, by decide⟩
      rest := "(int X);".toList
      name_ne := nofun
      rest_start := CharTest.refusesStart_cons.2 (by decide) }, by decide⟩

end HeaderLine

end Conformance.Source
