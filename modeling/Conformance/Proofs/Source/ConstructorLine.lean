/-
# Lines that start a constructor

A constructor has no type: on its line, a visibility and modifiers stand before the name, and then
comes the parenthesis.  The pattern of methods asks for a type, and takes the last of these words
for it if there are two at least (`exists_cut`); no other reading is possible (`words_eq`).  Of all
these words only `new` is known as one that is no type.  So a constructor is declared as a method
just if there are two words and `new` is not the last of them (`methods_of_constructorLine`).
-/
import Conformance.Proofs.Pattern.Readable
import Conformance.Proofs.Source.MemberType

namespace Conformance.Source

open Pattern
open Progress (amid)

/-! ## The parts of a line -/

/-- A word with the blanks behind it. -/
structure SpacedWord where
  /-- The word. -/
  word : String
  /-- The blanks behind it. -/
  gap : Gap

/-- The text of a word with the blanks behind it. -/
def SpacedWord.chars (w : SpacedWord) : List Char :=
  w.word.toList ++ w.gap.chars

/-- A line that starts a constructor. -/
structure ConstructorLine where
  /-- The blanks at the start. -/
  indent : Blanks
  /-- The attributes. -/
  attributes : List BracketedText
  /-- The visibility. -/
  visibility : SpacedWord
  /-- The second word of visibility, if there is one. -/
  second : Option SpacedWord
  /-- The modifiers. -/
  modifiers : List SpacedWord
  /-- The name. -/
  name : Name
  /-- The blanks behind it. -/
  gap : Blanks
  /-- The line behind the parenthesis. -/
  rest : List Char
  visibility_mem : ∀ w ∈ visibility :: second.toList, w.word ∈ visibilityWords
  modifiers_mem : ∀ w ∈ modifiers, w.word ∈ memberModifiers

namespace ConstructorLine

variable (x : ConstructorLine)

/-- The words before the name, with the blanks behind each. -/
def spaced : List SpacedWord :=
  x.visibility :: (x.second.toList ++ x.modifiers)

/-- The words before the name. -/
def words : List String :=
  x.spaced.map (·.word)

/-- The line before these words. -/
def room : List Char :=
  x.indent.chars ++ (x.attributes.map BracketedText.chars).flatten

/-- The words before the name, as they are written. -/
def phrase : List Char :=
  (x.spaced.map SpacedWord.chars).flatten

/-- The line from the name on. -/
def fromName : List Char :=
  x.name.chars ++ (x.gap.chars ++ '(' :: x.rest)

/-- The line. -/
def text : List Char :=
  x.room ++ (x.phrase ++ x.fromName)

lemma word_mem {w : SpacedWord} (h : w ∈ x.spaced) :
    w.word ∈ visibilityWords ++ memberModifiers := by
  rw [spaced, ← List.cons_append, List.mem_append] at h
  exact List.mem_append.2 (h.imp (x.visibility_mem w) (x.modifiers_mem w))

lemma isRoom : Room x.room := by
  refine (Room.of_allBlank x.indent.valid).append (Room.flatten fun u hu => ?_)
  obtain ⟨a, -, rfl⟩ := List.mem_map.1 hu
  have h := Room.bracketed a.notMem (Room.of_allBlank a.gap.valid)
  simpa [BracketedText.chars] using h

lemma isPhrase : Phrase (x.words.map String.toList) x.phrase := by
  have hwords : ∀ w ∈ visibilityWords ++ memberModifiers, IsWord w.toList := by decide
  have hall : ∀ ws : List SpacedWord, (∀ w ∈ ws, IsWord w.word.toList) →
      Phrase ((ws.map (·.word)).map String.toList) (ws.map SpacedWord.chars).flatten := by
    intro ws hws
    induction ws with
    | nil => exact .nil
    | cons w ws ih =>
      obtain ⟨hw, hws⟩ := List.forall_mem_cons.1 hws
      exact (Phrase.single hw w.gap.ne_nil w.gap.valid).append (ih hws)
  exact hall x.spaced fun w hw => hwords _ (x.word_mem hw)

lemma isName : IsWord x.name.chars := by
  obtain ⟨c, u, hchars, -, -⟩ := isName_iff.1 x.name.valid
  exact ⟨by simp [hchars], fun _ => isWord_of_mem_name x.name.valid⟩

/-! ## What can be read -/

/-- Behind the name comes the parenthesis: no character of a dotted name, and no mark of a type. -/
lemma head_notDotted : ∀ c ∈ (x.gap.chars ++ '(' :: x.rest).head?,
    isDotted c = false ∧ c ∉ typeMarks :=
  head_blanks_cons x.gap.valid (fun _ => notDotted_of_isBlank) (by decide) x.rest

/-- The name is not the type of a member: behind a type comes a name. -/
lemma fromName_ne_fromType {m : MemberHeader} (y : MemberText x.text m) :
    x.fromName ≠ y.fromType := by
  intro h
  have hopen : ∀ c ∈ ('(' :: x.rest).head?, Text.isBlank c = false := by
    rintro c ⟨⟩
    decide
  obtain ⟨-, hbehind⟩ := y.isType.eq_word y.gap_ne_nil y.gap_blank x.isName.2 x.head_notDotted
    h.symm
  obtain ⟨-, hname⟩ := eq_of_append_eq_start hbehind y.gap_blank x.gap.valid
    y.head_fromName_notBlank hopen
  obtain ⟨c, v, hc, hword⟩ := y.isName.starts (y.gap' ++ y.mark :: y.rest)
  rw [MemberText.fromName, hc] at hname
  obtain rfl := (List.cons.inj hname).1
  exact absurd hword (by decide)

/-- The name is not one of the words before the type: behind them comes another word, or the
type. -/
lemma fromName_ne_word {m : MemberHeader} (y : MemberText x.text m) {ws : List (List Char)}
    {w g u : List Char} (hw : IsWord w) (hg : g ≠ []) (hblank : AllBlank g) (hu : Phrase ws u) :
    x.fromName ≠ w ++ (g ++ (u ++ y.fromType)) := by
  intro h
  have hfirst : afterWord x.fromName = some '(' :=
    afterWord_append _ x.isName.2 x.gap.valid (by decide) (.inr (by decide))
  have hnext : ∃ d t, u ++ y.fromType = d :: t ∧ isDotted d = true := by
    cases ws with
    | nil =>
      cases hu
      exact y.isType.isDotted_head (y.gap ++ y.fromName)
    | cons w' ws =>
      obtain ⟨d, t, hd, hword⟩ := hu.starts (by simp) y.fromType
      exact ⟨d, t, hd, by simp [isDotted, hword]⟩
  obtain ⟨d, t, hd, hdotted⟩ := hnext
  rw [h, hd, afterWord_append t hw.2 hblank (isBlank_eq_false_of_isDotted hdotted) (.inl hg)]
    at hfirst
  obtain rfl := Option.some.inj hfirst
  exact absurd hdotted (by decide)

/-- **A member on the line of a constructor** has the last of the words before the name as its type,
and the others before that. -/
lemma words_eq {m : MemberHeader} (y : MemberText x.text m) :
    x.words.map String.toList = y.words ++ [y.type] ∧ x.name.chars = y.name := by
  rcases y.words_cases x.isRoom x.isPhrase x.isName rfl with
    ⟨vs, v, -, hv, hrest⟩ | ⟨hwords, hrest⟩
  · cases hv with
    | nil => exact absurd hrest (x.fromName_ne_fromType y)
    | cons hw hg hblank hu =>
      exact absurd (by simpa [fromName] using hrest) (x.fromName_ne_word y hw hg hblank hu)
  · obtain ⟨hname, -⟩ := eq_of_append_eq_start hrest x.isName.2 y.isName.2
      (fun c hc => (Bool.or_eq_false_iff.1 (x.head_notDotted c hc).1).1)
      (head_blanks_cons y.gap'_blank (fun _ => Text.isWord_eq_false_of_isBlank)
        y.mark_notBlank_notWord.2 y.rest)
    exact ⟨hwords, hname⟩

/-- What the header of a method on such a line tells. -/
lemma of_methodHeader? {m : MemberHeader} (h : methodHeader? x.text = some m) :
    x.words.length ≠ 1 ∧ x.words.getLast? = some m.type ∧ m.name = String.ofList x.name.chars := by
  obtain ⟨y⟩ := exists_memberText_of_method h
  obtain ⟨hwords, hname⟩ := x.words_eq y
  refine ⟨fun hone => ?_, ?_, by rw [y.name_eq, hname]⟩
  · have hlength := congrArg List.length hwords
    have hpos := List.length_pos_iff.2 y.words_ne_nil
    simp only [List.length_map, List.length_append, List.length_singleton] at hlength
    omega
  · have hlast := congrArg List.getLast? hwords
    rw [List.getLast?_map, List.getLast?_concat] at hlast
    obtain ⟨w, hw, htype⟩ := Option.map_eq_some_iff.1 hlast
    rw [hw, y.type_eq, ← htype, String.ofList_toList]

end ConstructorLine

/-! ## What is read -/

section Readings

lemma Blanks.mem_gap (g : Blanks) : g.chars ∈ (gap : HeaderPattern).language :=
  mem_language_rounds_one (Nat.zero_le _) g.valid

lemma Gap.mem_gap1 (g : Gap) : g.chars ∈ (gap1 : HeaderPattern).language :=
  mem_language_rounds_one (List.length_pos_iff.2 g.ne_nil) g.valid

lemma mem_attributes (as : List BracketedText) :
    (as.map BracketedText.chars).flatten ∈ attributes.language := by
  refine flatten_mem_language_star fun u hu => ?_
  obtain ⟨a, -, rfl⟩ := List.mem_map.1 hu
  have hinner : a.inner ∈ (star (.one (.noneOf [']'])) : HeaderPattern).language := by
    refine mem_language_rounds_one (Nat.zero_le _) fun c hc => ?_
    have hne : c ≠ ']' := fun heq => a.notMem (heq ▸ hc)
    simp [CharTest.noneOf, CharTest.chars, CharTest.oneOf, CharTest.accepts, hne]
  have h : [['['], a.inner, [']'], a.gap.chars].flatten ∈ (concat [char '[',
      star (.one (.noneOf [']'])), char ']', gap] : HeaderPattern).language :=
    flatten_mem_language_concat (.cons (mem_language_char.2 rfl) (.cons hinner
      (.cons (mem_language_char.2 rfl) (.cons a.gap.mem_gap .nil))))
  simpa [BracketedText.chars] using h

/-- A word can be read as a type. -/
lemma mem_typeReference {w : List Char} (hw : IsWord w) : w ∈ typeReference.language := by
  have hname : w ∈ (plus (.one (.either (.word false) (.char '.'))) : HeaderPattern).language :=
    mem_language_rounds_one (List.length_pos_iff.2 hw.1) fun c hc => by
      simp [CharTest.accepts, hw.2 c hc]
  have h : [w, [], [], []].flatten ∈ typeReference.language :=
    flatten_mem_language_concat (.cons hname (.cons nil_mem_language_rounds
      (.cons nil_mem_language_rounds (.cons nil_mem_language_rounds .nil))))
  simpa using h

lemma mem_nameWord (n : Name) : n.chars ∈ nameWord.language := by
  obtain ⟨c, u, hchars, hc, hu⟩ := isName_iff.1 n.valid
  have hfirst : [c] ∈ (Pattern.one nameStart : HeaderPattern).language :=
    ⟨c, rfl, (accepts_nameStart c).trans hc⟩
  have hrest : u ∈ (star (.one (.word false)) : HeaderPattern).language :=
    mem_language_rounds_one (Nat.zero_le _) hu
  rw [hchars]
  exact Language.append_mem_mul hfirst hrest

end Readings

namespace ConstructorLine

variable (x : ConstructorLine)

/-- If there are two words at least, the last can be read as a type, with the others before it. -/
lemma exists_cut (h : x.words.length ≠ 1) :
    ∃ v ∈ visibilityRun.language, ∃ g ∈ (gap1 : HeaderPattern).language,
      ∃ u ∈ (star (seq memberModifier gap1)).language, ∃ w ∈ typeReference.language,
      ∃ g' ∈ (gap1 : HeaderPattern).language, x.phrase = v ++ (g ++ (u ++ (w ++ g'))) := by
  have hfirst : x.visibility.word.toList ∈ visibilityWord.language :=
    mem_language_words (x.visibility_mem _ (by simp))
  have hsecond : ∀ s, x.second = some s → s.word.toList ∈ visibilityWord.language :=
    fun s hs => mem_language_words (x.visibility_mem s (by simp [hs]))
  have htype : ∀ w ∈ x.spaced, w.word.toList ∈ typeReference.language := by
    have hwords : ∀ w ∈ visibilityWords ++ memberModifiers, IsWord w.toList := by decide
    exact fun w hw => mem_typeReference (hwords _ (x.word_mem hw))
  have hmodifier : ∀ w ∈ x.modifiers, w.chars ∈ (seq memberModifier gap1).language :=
    fun w hw => Language.append_mem_mul (mem_language_words (x.modifiers_mem w hw)) w.gap.mem_gap1
  rcases List.eq_nil_or_concat x.modifiers with hnone | ⟨ms, m, hms⟩
  · -- without modifiers, the second word of visibility is the type
    cases hs : x.second with
    | none => exact absurd (by simp [words, spaced, hs, hnone]) h
    | some s =>
      refine ⟨_, Language.append_mem_mul hfirst nil_mem_language_rounds, _,
        x.visibility.gap.mem_gap1, [], nil_mem_language_rounds, _,
        htype s (by simp [spaced, hs]), _, s.gap.mem_gap1, ?_⟩
      simp [phrase, spaced, SpacedWord.chars, hs, hnone]
  · have hlast := htype m (by simp [spaced, hms])
    have hothers : (ms.map SpacedWord.chars).flatten
        ∈ (star (seq memberModifier gap1)).language := by
      refine flatten_mem_language_star fun u hu => ?_
      obtain ⟨w, hw, rfl⟩ := List.mem_map.1 hu
      exact hmodifier w (by simp [hms, hw])
    cases hs : x.second with
    | none =>
      refine ⟨_, Language.append_mem_mul hfirst nil_mem_language_rounds, _,
        x.visibility.gap.mem_gap1, _, hothers, _, hlast, _, m.gap.mem_gap1, ?_⟩
      simp [phrase, spaced, SpacedWord.chars, hs, hms]
    | some s =>
      have hboth : x.visibility.gap.chars ++ s.word.toList
          ∈ (opt (seq gap1 visibilityWord) : HeaderPattern).language :=
        mem_language_opt (Language.append_mem_mul x.visibility.gap.mem_gap1 (hsecond s hs))
      refine ⟨_, Language.append_mem_mul hfirst hboth, _, s.gap.mem_gap1, _, hothers, _, hlast, _,
        m.gap.mem_gap1, ?_⟩
      simp [phrase, spaced, SpacedWord.chars, hs, hms]

/-- **The header of a method is found on the line of a constructor** with two words before the
name. -/
lemma isSome_methodHeader? (h : x.words.length ≠ 1) : (methodHeader? x.text).isSome = true := by
  obtain ⟨v, hv, g, hg, u, hu, w, hw, g', hg', hphrase⟩ := x.exists_cut h
  have hopen : ['('] ∈ (char '(' : HeaderPattern).language := mem_language_char.2 rfl
  -- behind the name, no type parameters and no further blanks are read
  have hmatch : (methodPattern.matchStart? ([x.indent.chars,
      (x.attributes.map BracketedText.chars).flatten, v, g, u, w, g', x.name.chars, x.gap.chars, [],
      [], ['(']].flatten ++ x.rest)).isSome = true := by
    refine isSome_matchStart? rfl ?_ x.rest
    exact .cons x.indent.mem_gap <| .cons (mem_attributes x.attributes) <| .cons hv <| .cons hg <|
      .cons hu <| .cons hw <| .cons hg' <| .cons (mem_nameWord x.name) <| .cons x.gap.mem_gap <|
      .cons nil_mem_language_rounds <| .cons nil_mem_language_rounds <| .cons hopen .nil
  rw [methodHeader?, Option.isSome_map]
  simpa [text, room, fromName, hphrase] using hmatch

/-! ## What is declared -/

/-- **A constructor is declared as a method** just if two words stand before its name, and the last
of them is not `new`. -/
theorem methods_of_constructorLine (path ns : String) (scope : LineScope) :
    ((lineDeclarations path ns { scope with text := String.ofList x.text }).filter
      (·.kind == .method)).map (·.name)
      = if x.words.length = 1 ∨ x.words.getLast? = some "new" then []
        else [String.ofList x.name.chars] := by
  have hnew : ∀ w ∈ visibilityWords ++ memberModifiers,
      (nonMemberTypes.contains w = true ↔ w = "new") := by decide
  rw [filter_method_lineDeclarations, String.toList_ofList]
  cases hm : methodHeader? x.text with
  | none =>
    have hone : x.words.length = 1 := by
      by_contra hmore
      exact absurd (x.isSome_methodHeader? hmore) (by simp [hm])
    simp [hone]
  | some m =>
    obtain ⟨hmore, hlast, hname⟩ := x.of_methodHeader? hm
    obtain ⟨w, hw, htype⟩ := List.mem_map.1 (List.mem_of_getLast? hlast)
    have hdeclares : m.declaresMember = true ↔ m.type ≠ "new" := by
      rw [MemberHeader.declaresMember, Bool.not_eq_true', ← Bool.not_eq_true,
        hnew m.type (htype ▸ x.word_mem hw)]
    rw [hlast]
    by_cases htype' : m.type = "new"
    · have hnone : m.declaresMember = false := by simp [← Bool.not_eq_true, hdeclares, htype']
      simp [hnone, htype']
    · simp [hdeclares.2 htype', hmore, htype', hname, memberDeclaration]

/-- The line of a constructor with two words of visibility. -/
def protectedInternal : ConstructorLine where
  indent := noBlanks
  attributes := []
  visibility := ⟨"protected", oneGap⟩
  second := some ⟨"internal", oneGap⟩
  modifiers := []
  name := ⟨"Order".toList, by decide⟩
  gap := noBlanks
  rest := "int id) \x7b \x7d".toList
  visibility_mem := by decide
  modifiers_mem := by decide

/-- The second word of visibility is taken for the type of a method. -/
theorem exists_method_of_constructor :
    String.ofList protectedInternal.text = "protected internal Order(int id) \x7b \x7d" ∧
      ∃ d ∈ lineDeclarations "Order.cs" "Unknown"
        ⟨1, String.ofList protectedInternal.text, 0, 0, ⟨0, 0, []⟩, []⟩,
        d.kind = .method ∧ d.name = "Order" ∧ d.modifiers = ["protected"] := by
  decide +kernel

end ConstructorLine

end Conformance.Source
