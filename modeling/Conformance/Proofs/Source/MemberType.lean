/-
# The word that stands as the type of a member

A line of blanks and attributes, and then of words with blanks after each, is cut into these parts
in one way only (`Room.unique`, `Phrase.compare`).  So if a name follows such words, and the header
of a member is found on the line, there are two cases (`MemberText.words_cases`): either the words
before the type of the member are those of the line, and perhaps more; or the last word of the line
stands where the type of the member should, and the name is that of the member.

On a line that starts with the header of a type the first case is impossible, since the word for the
sort of type is no modifier, and in the second case this word tells that there is no member
(`no_member_of_typeHeader`).
-/
import Conformance.Proofs.Pattern.Occurrences
import Conformance.Proofs.Source.Found
import Conformance.Proofs.Source.HeaderLine
import Conformance.Proofs.Source.HeaderMatch

namespace Conformance.Source

open Pattern

/-! ## One way to cut a text -/

/-- A text that starts with a word character. -/
def StartsWithWord (u : List Char) : Prop :=
  ∃ c v, u = c :: v ∧ Text.isWord c = true

/-- The first run of characters of a sort is where it is, however it is found. -/
lemma eq_of_append_eq_start {p : Char → Bool} {a b t k : List Char} (h : a ++ t = b ++ k)
    (ha : ∀ c ∈ a, p c = true) (hb : ∀ c ∈ b, p c = true)
    (ht : ∀ c ∈ t.head?, p c = false) (hk : ∀ c ∈ k.head?, p c = false) : a = b ∧ t = k := by
  have hreverse : t.reverse ++ a.reverse = k.reverse ++ b.reverse := by
    rw [← List.reverse_append, ← List.reverse_append, h]
  obtain ⟨htk, hab⟩ := eq_of_append_eq hreverse (by simpa using ha) (by simpa using hb)
    (fun c hc => ht c (by simpa using hc)) (fun c hc => hk c (by simpa using hc))
  exact ⟨List.reverse_injective hab, List.reverse_injective htk⟩

/-- Behind a word, or behind the dotted name of a type, come blanks. -/
lemma head_blanks_append {g : List Char} (hne : g ≠ []) (hblank : AllBlank g) (v : List Char) :
    ∀ c ∈ (g ++ v).head?, Text.isBlank c = true := by
  obtain ⟨b, g, rfl⟩ := List.exists_cons_of_ne_nil hne
  intro c hc
  obtain rfl : b = c := by simpa using hc
  exact hblank b List.mem_cons_self

/-- Behind blanks that can be missing comes a blank, or what stands behind them. -/
lemma head_blanks_cons {P : Char → Prop} {g : List Char} (hblank : AllBlank g)
    (hP : ∀ b, Text.isBlank b = true → P b) {c : Char} (hc : P c) (v : List Char) :
    ∀ d ∈ (g ++ c :: v).head?, P d := by
  intro d hd
  cases g with
  | nil =>
    obtain rfl : c = d := by simpa using hd
    exact hc
  | cons b g => exact hP d (head_blanks_append (by simp) hblank _ d hd)

/-- Blanks and attributes end where the first word starts. -/
lemma Room.unique {u v s t : List Char} (hu : Room u) (hv : Room v) (h : u ++ s = v ++ t)
    (hs : StartsWithWord s) (ht : StartsWithWord t) : u = v ∧ s = t := by
  have hblank : ∀ {b c : Char}, Text.isBlank b = true → Text.isWord c = true → c ≠ b :=
    fun hb hc => Text.ne_of_isWord hc (Text.isWord_eq_false_of_isBlank hb)
  have hbracket : ∀ {c : Char}, Text.isWord c = true → c ≠ '[' :=
    fun hc => Text.ne_of_isWord hc (by decide)
  obtain ⟨c, s, rfl, hc⟩ := hs
  obtain ⟨d, t, rfl, hd⟩ := ht
  induction hu generalizing v with
  | nil =>
    cases hv with
    | nil => exact ⟨rfl, h⟩
    | blank hb _ => exact absurd (List.cons.inj h).1 (hblank hb hc)
    | bracketed _ _ => exact absurd (List.cons.inj h).1 (hbracket hc)
  | blank hb _ ih =>
    cases hv with
    | nil => exact absurd (List.cons.inj h).1.symm (hblank hb hd)
    | blank _ hv =>
      obtain ⟨rfl, hrest⟩ := List.cons.inj h
      obtain ⟨rfl, hsame⟩ := ih hv hrest
      exact ⟨rfl, hsame⟩
    | bracketed _ _ =>
      exact absurd hb (by rw [(List.cons.inj h).1]; decide)
  | @bracketed inner u hinner _ ih =>
    cases hv with
    | nil => exact absurd (List.cons.inj h).1.symm (hbracket hd)
    | blank hb _ => exact absurd hb (by rw [← (List.cons.inj h).1]; decide)
    | @bracketed inner' v hinner' hv =>
      -- both attributes end with the first closing bracket
      have hne : ∀ {w : List Char}, ']' ∉ w → ∀ x ∈ w, (x != ']') = true :=
        fun hw x hx => bne_iff_ne.2 fun heq => hw (heq ▸ hx)
      have hboth : inner ++ ']' :: (u ++ c :: s) = inner' ++ ']' :: (v ++ d :: t) := by
        simpa using h
      obtain ⟨rfl, hrest⟩ := eq_of_append_eq_start hboth (hne hinner) (hne hinner') (by simp)
        (by simp)
      obtain ⟨rfl, hsame⟩ := ih hv (List.cons.inj hrest).2
      exact ⟨rfl, hsame⟩

namespace Phrase

variable {ws vs : List (List Char)} {u v r s : List Char}

/-- Where no blank follows, none stands at the start. -/
lemma head_notBlank (h : Phrase ws u) (hr : ∀ c ∈ r.head?, Text.isBlank c = false) :
    ∀ c ∈ (u ++ r).head?, Text.isBlank c = false := by
  cases h with
  | nil => exact hr
  | @cons w g u ws hw _ _ _ =>
    intro c hc
    obtain ⟨d, v, hd, hword⟩ := hw.starts (g ++ (u ++ r))
    have hhead : (w ++ (g ++ u) ++ r).head? = some d := by
      rw [List.append_assoc, List.append_assoc, hd, List.head?_cons]
    obtain rfl := Option.some.inj (hhead.symm.trans hc)
    exact Text.isBlank_eq_false_of_isWord hword

/-- Of two phrases at the start of one text, one goes on where the other ends. -/
lemma compare (hu : Phrase ws u) (hv : Phrase vs v) (h : u ++ r = v ++ s)
    (hr : ∀ c ∈ r.head?, Text.isBlank c = false) (hs : ∀ c ∈ s.head?, Text.isBlank c = false) :
    (∃ vs' v', vs = ws ++ vs' ∧ Phrase vs' v' ∧ r = v' ++ s) ∨
      ∃ ws' u', ws = vs ++ ws' ∧ Phrase ws' u' ∧ s = u' ++ r := by
  have hend : ∀ {g x : List Char}, g ≠ [] → AllBlank g →
      ∀ c ∈ (g ++ x).head?, Text.isWord c = false := by
    intro g x hg hblank c hc
    exact Text.isWord_eq_false_of_isBlank (head_blanks_append hg hblank x c hc)
  induction hu generalizing vs v with
  | nil => exact .inl ⟨vs, v, rfl, hv, h⟩
  | @cons w g u ws hw hg hblank hrest ih =>
    cases hv with
    | nil => exact .inr ⟨w :: ws, _, rfl, .cons hw hg hblank hrest, h.symm⟩
    | @cons w' g' v vs hw' hg' hblank' hrest' =>
      have hboth : w ++ (g ++ (u ++ r)) = w' ++ (g' ++ (v ++ s)) := by simpa using h
      obtain ⟨rfl, hgaps⟩ := eq_of_append_eq_start hboth hw.2 hw'.2 (hend hg hblank)
        (hend hg' hblank')
      obtain ⟨rfl, htails⟩ := eq_of_append_eq_start hgaps hblank hblank' (hrest.head_notBlank hr)
        (hrest'.head_notBlank hs)
      rcases ih hrest' htails with ⟨vs', v', rfl, hvs', rfl⟩ | ⟨ws', u', rfl, hws', rfl⟩
      · exact .inl ⟨vs', v', rfl, hvs', rfl⟩
      · exact .inr ⟨ws', u', rfl, hws', rfl⟩

end Phrase

/-! ## Types among words -/

/-- The words that modify a member. -/
def memberModifiers : List String :=
  ["static", "virtual", "override", "abstract", "sealed", "async", "extern", "unsafe", "new",
    "partial", "readonly", "required"]

/-- The characters of a dotted name are no blanks, and none of the marks behind it. -/
lemma notDotted_of_isBlank {c : Char} (h : Text.isBlank c = true) :
    isDotted c = false ∧ c ∉ typeMarks := by
  have hmarks : ∀ x ∈ '.' :: typeMarks, (!Text.isBlank x) = true := List.all_eq_true.1 rfl
  simp only [Bool.not_eq_true'] at hmarks
  refine ⟨?_, fun hmem => ?_⟩
  · have hdot : c ≠ '.' := Text.ne_of_isBlank h (hmarks _ (by simp))
    simp [isDotted, Text.isWord_eq_false_of_isBlank h, hdot]
  · exact absurd h (by simp [hmarks c (List.mem_cons_of_mem _ hmem)])

lemma isDotted_of_mem_typeMarks {c : Char} (h : c ∈ typeMarks) : isDotted c = false := by
  have hall : ∀ c ∈ typeMarks, (!isDotted c) = true := List.all_eq_true.1 rfl
  simpa using hall c h

lemma IsType.isDotted_head {t : List Char} (h : IsType t) (v : List Char) :
    ∃ c v', t ++ v = c :: v' ∧ isDotted c = true := by
  obtain ⟨name, tail, rfl, hne, hname, -⟩ := h.start
  obtain ⟨c, name, rfl⟩ := List.exists_cons_of_ne_nil hne
  exact ⟨c, _, rfl, hname c List.mem_cons_self⟩

lemma isBlank_eq_false_of_isDotted {c : Char} (h : isDotted c = true) : Text.isBlank c = false := by
  by_contra hblank
  rw [Bool.not_eq_false] at hblank
  exact absurd h (by simp [(notDotted_of_isBlank hblank).1])

/-- A type with blanks behind it is the word that stands at its place. -/
lemma IsType.eq_word {t w g x z : List Char} (ht : IsType t) (hg : g ≠ []) (hblank : AllBlank g)
    (hw : ∀ c ∈ w, Text.isWord c = true)
    (hz : ∀ c ∈ z.head?, isDotted c = false ∧ c ∉ typeMarks) (h : t ++ (g ++ x) = w ++ z) :
    t = w ∧ g ++ x = z := by
  obtain ⟨name, tail, rfl, -, hname, htail⟩ := ht.start
  have hend : ∀ c ∈ (tail ++ (g ++ x)).head?, isDotted c = false := by
    intro c hc
    cases tail with
    | nil => exact (notDotted_of_isBlank (head_blanks_append hg hblank x c hc)).1
    | cons d tail => exact isDotted_of_mem_typeMarks (htail c (by simpa using hc))
  rw [List.append_assoc] at h
  obtain ⟨rfl, hrest⟩ := eq_of_append_eq_start h hname
    (fun c hc => by simp [isDotted, hw c hc]) hend (fun c hc => (hz c hc).1)
  cases tail with
  | nil => exact ⟨List.append_nil _, hrest⟩
  | cons d tail =>
    -- a mark behind the name would stand behind the word
    have hmark : d ∈ typeMarks := htail d (by simp)
    exact absurd hmark (hz d (by rw [← hrest]; simp)).2

namespace MemberText

variable {chars : List Char} {m : MemberHeader} (y : MemberText chars m)

/-- The line from the name on. -/
def fromName : List Char :=
  y.name ++ (y.gap' ++ y.mark :: y.rest)

/-- The line from the type on. -/
def fromType : List Char :=
  y.type ++ (y.gap ++ y.fromName)

lemma mark_notBlank_notWord : Text.isBlank y.mark = false ∧ Text.isWord y.mark = false := by
  have hmarks : ∀ c ∈ memberMarks, (!Text.isBlank c && !Text.isWord c) = true :=
    List.all_eq_true.1 rfl
  simpa using hmarks _ y.mark_mem

/-- Behind the name comes a mark. -/
lemma afterWord_fromName : afterWord y.fromName = some y.mark :=
  afterWord_append y.rest y.isName.2 y.gap'_blank y.mark_notBlank_notWord.1
    (.inr y.mark_notBlank_notWord.2)

lemma head_fromName_notBlank : ∀ c ∈ y.fromName.head?, Text.isBlank c = false := by
  obtain ⟨c, v, hc, hword⟩ := y.isName.starts (y.gap' ++ y.mark :: y.rest)
  simpa [fromName, hc] using Text.isBlank_eq_false_of_isWord hword

/-- If a word stands where the type does, and further words with a name behind them, the word is the
type, and the name is that of the member. -/
lemma eq_of_fromType_eq {ws : List (List Char)} {w g u name rest : List Char} (hw : IsWord w)
    (hg : g ≠ []) (hblank : AllBlank g) (hu : Phrase ws u) (hname : IsWord name)
    (h : y.fromType = w ++ (g ++ (u ++ (name ++ rest)))) :
    y.type = w ∧ ws = [] ∧ name ++ rest = y.fromName := by
  have hnameHead : ∀ c ∈ (name ++ rest).head?, Text.isBlank c = false := by
    obtain ⟨c, v, hc, hword⟩ := hname.starts rest
    simpa [hc] using Text.isBlank_eq_false_of_isWord hword
  obtain ⟨htype, hgaps⟩ := y.isType.eq_word y.gap_ne_nil y.gap_blank hw.2
    (fun c hc => notDotted_of_isBlank (head_blanks_append hg hblank _ c hc)) h
  obtain ⟨-, hnames⟩ := eq_of_append_eq_start hgaps y.gap_blank hblank y.head_fromName_notBlank
    (hu.head_notBlank hnameHead)
  cases hu with
  | nil => exact ⟨htype, rfl, hnames.symm⟩
  | @cons w' g' u ws hw' hg' hblank' hu =>
    -- behind this word comes another one, and behind the name of the member a mark
    exfalso
    obtain ⟨c, v, hc, hword⟩ := hu.starts_word hname rest
    have hnames' : y.fromName = w' ++ (g' ++ c :: v) := by simpa [hc] using hnames
    have hmark := y.afterWord_fromName
    rw [hnames', afterWord_append v hw'.2 hblank' (Text.isBlank_eq_false_of_isWord hword)
      (.inl hg')] at hmark
    obtain rfl := Option.some.inj hmark
    exact absurd hword (by simp [y.mark_notBlank_notWord.2])

/-- **The words of a line and the words of a member.**  Words at the start of a line, with a name
behind them, are among those before the type of the member, or the last of them is the type. -/
theorem words_cases {ws : List (List Char)} {room u name rest : List Char} (hroom : Room room)
    (hu : Phrase ws u) (hname : IsWord name) (h : chars = room ++ (u ++ (name ++ rest))) :
    (∃ vs v, y.words = ws ++ vs ∧ Phrase vs v ∧ name ++ rest = v ++ y.fromType) ∨
      (ws = y.words ++ [y.type] ∧ name ++ rest = y.fromName) := by
  have hnameHead : ∀ c ∈ (name ++ rest).head?, Text.isBlank c = false := by
    obtain ⟨c, v, hc, hword⟩ := hname.starts rest
    simpa [hc] using Text.isBlank_eq_false_of_isWord hword
  have hfromType : ∀ c ∈ y.fromType.head?, Text.isBlank c = false := by
    obtain ⟨c, v, hc, hdotted⟩ := y.isType.isDotted_head (y.gap ++ y.fromName)
    simpa [fromType, hc] using isBlank_eq_false_of_isDotted hdotted
  have hall : room ++ (u ++ (name ++ rest)) = y.room ++ (y.phrase ++ y.fromType) :=
    h.symm.trans y.chars_eq
  obtain ⟨-, hline⟩ := hroom.unique y.isRoom hall (hu.starts_word hname rest)
    (y.isPhrase.starts y.words_ne_nil y.fromType)
  rcases hu.compare y.isPhrase hline hnameHead hfromType with
    ⟨vs, v, hwords, hv, hsame⟩ | ⟨ws', u', rfl, hu', hsame⟩
  · exact .inl ⟨vs, v, hwords, hv, hsame⟩
  · cases hu' with
    | nil => exact .inl ⟨[], [], by simp, .nil, by simpa using hsame.symm⟩
    | @cons w g u' ws' hw hg hblank hu' =>
      have hsame' : y.fromType = w ++ (g ++ (u' ++ (name ++ rest))) := by simpa using hsame
      obtain ⟨htype, rfl, hnames⟩ := y.eq_of_fromType_eq hw hg hblank hu' hname hsame'
      exact .inr ⟨by rw [htype], hnames⟩

/-- The words before the type of a member. -/
lemma exists_of_mem_words {w : List Char} (h : w ∈ y.words) :
    ∃ s ∈ visibilityWords ++ memberModifiers, w = s.toList := by
  rcases y.words_mem w h with hw | hw
  · obtain ⟨s, hs, rfl⟩ := exists_of_mem_language_words (by simp) hw
    exact ⟨s, List.mem_append_left _ hs, rfl⟩
  · obtain ⟨s, hs, rfl⟩ := exists_of_mem_language_words (by simp) hw
    exact ⟨s, List.mem_append_right _ hs, rfl⟩

/-- A member whose name stands behind the header of a type has the word for the sort of type as its
type, and so it is none. -/
lemma not_declaresMember (y : MemberText chars m) {h : ContainerHeader} (x : TypeText chars h)
    (hbefore : x.before = []) : m.declaresMember = false := by
  have hchars : chars = x.room ++ (x.phrase ++ (x.name ++ x.rest)) := by
    simpa [hbefore] using x.chars_eq
  rcases y.words_cases x.isRoom x.isPhrase x.isName hchars with ⟨vs, v, hwords, -⟩ | ⟨hwords, -⟩
  · -- the word for the sort of type would be a visibility or a modifier
    have hmem : x.keyword.toList ∈ y.words := by
      rw [hwords]
      simp
    obtain ⟨s, hs, hkeyword⟩ := y.exists_of_mem_words hmem
    have hnone : ∀ w ∈ typeWords, w ∉ visibilityWords ++ memberModifiers := by decide
    exact absurd (String.toList_inj.1 hkeyword ▸ hs) (hnone _ x.keyword_mem)
  · have htype : y.type = x.keyword.toList := by
      have hlast := congrArg List.getLast? hwords
      simpa using hlast.symm
    have hnot : ∀ w ∈ typeWords, nonMemberTypes.contains w = true := by decide
    rw [MemberHeader.declaresMember, y.type_eq, htype, String.ofList_toList,
      hnot _ x.keyword_mem, Bool.not_true]

end MemberText

/-! ## Lines that start with the header of a type -/

/-- A match at the start of a line is the first header on it, with nothing before it. -/
lemma exists_typeText_of_matchStart? {chars : List Char}
    (h : (containerPattern.matchStart? chars).isSome = true) :
    ∃ (header : ContainerHeader) (x : TypeText chars header), x.before = [] := by
  obtain ⟨m, hm⟩ := Option.isSome_iff_exists.1 h
  have hhead : (containerPattern.all chars).head? = some m := by
    rw [head?_all]
    exact searchFrom?_of_matchAt? hm
  have hmem : ContainerHeader.ofMatch m ∈ containerHeaders chars :=
    List.mem_map_of_mem (List.mem_of_head? hhead)
  obtain ⟨x⟩ := exists_typeText hmem
  refine ⟨_, x, List.eq_nil_of_length_eq_zero ?_⟩
  obtain ⟨hstart, -⟩ := matchAt?_reads hm
  rw [← x.column_eq]
  show m.start.column = 0
  rw [hstart]
  rfl

/-- **The header of a type is not that of a member.**  On a line that starts with the header of a
type, no method and no property is declared, whatever follows the name. -/
theorem no_member_of_typeHeader (path ns : String) (scope : LineScope)
    (h : (containerPattern.matchStart? scope.text.toList).isSome = true) :
    ∀ d ∈ lineDeclarations path ns scope, d.kind ≠ .method ∧ d.kind ≠ .property := by
  obtain ⟨header, x, hbefore⟩ := exists_typeText_of_matchStart? h
  have hnone : ∀ {m : MemberHeader}, Nonempty (MemberText scope.text.toList m) →
      m.declaresMember = false := by
    rintro m ⟨y⟩
    exact y.not_declaresMember x hbefore
  intro d hd
  cases declaredOn_of_mem hd with
  | type h _ => exact kind_containerDeclaration h
  | payload h _ _ => exact ⟨by simp, by simp⟩
  | method m hm hdeclares =>
    exact absurd hdeclares (by simp [hnone (exists_memberText_of_method hm)])
  | property m hm hdeclares =>
    exact absurd hdeclares (by simp [hnone (exists_memberText_of_property hm)])

/-- A record with attributes, modifiers, a parameter list that looks like that of a method, and a
base type. -/
def recordLine : LineScope :=
  ⟨1, "    [Serializable] public readonly record struct Point<T>(int X, int Y) : IPoint<T>;", 0, 0,
    ⟨0, 0, []⟩, []⟩

theorem no_member_of_typeHeader_record :
    (containerPattern.matchStart? recordLine.text.toList).isSome = true ∧
      ∀ d ∈ lineDeclarations "Point.cs" "Unknown" recordLine,
        d.kind ≠ .method ∧ d.kind ≠ .property := by
  have hheader : (containerPattern.matchStart? recordLine.text.toList).isSome = true := by
    decide +kernel
  exact ⟨hheader, no_member_of_typeHeader "Point.cs" "Unknown" recordLine hheader⟩

end Conformance.Source
