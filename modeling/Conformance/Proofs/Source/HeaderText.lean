/-
# The text of headers

What the patterns of headers read, told as texts.  The header of a type stands at the start of a
line or behind a brace or semicolon; blanks and attributes come first, then words with blanks after
each, the last of them that for the sort of type, then the name (`TypeText`).  The header of a
member stands at the start of a line; its words are followed by a type, which holds no brace and no
semicolon, blanks, the name, and a mark (`MemberText`).

Two headers on one line can share text, but not so that the member's name stands in the header of
the type or is its name (`TypeText.nameColumn_lt`).
-/
import Conformance.Proofs.Pattern.Language
import Conformance.Proofs.Source.MemberLine

namespace Conformance.Source

/-! ## Blanks, attributes and words -/

/-- A text of blanks. -/
def AllBlank (g : List Char) : Prop :=
  ∀ c ∈ g, Text.isBlank c = true

/-- A text of word characters that is not empty. -/
def IsWord (w : List Char) : Prop :=
  w ≠ [] ∧ ∀ c ∈ w, Text.isWord c = true

lemma IsWord.starts {w : List Char} (h : IsWord w) (v : List Char) :
    ∃ c v', w ++ v = c :: v' ∧ Text.isWord c = true := by
  obtain ⟨c, w, rfl⟩ := List.exists_cons_of_ne_nil h.1
  exact ⟨c, w ++ v, rfl, h.2 c List.mem_cons_self⟩

/-- Blanks and attributes in brackets. -/
inductive Room : List Char → Prop
  | nil : Room []
  | blank {c : Char} {u : List Char} (hc : Text.isBlank c = true) (h : Room u) : Room (c :: u)
  | bracketed {inner u : List Char} (hinner : ']' ∉ inner) (h : Room u) :
      Room ('[' :: (inner ++ ']' :: u))

namespace Room

lemma append {u v : List Char} (hu : Room u) (hv : Room v) : Room (u ++ v) := by
  induction hu with
  | nil => exact hv
  | blank hc _ ih => exact .blank hc ih
  | bracketed hinner _ ih =>
    rw [List.cons_append, List.append_assoc, List.cons_append]
    exact .bracketed hinner ih

lemma flatten {us : List (List Char)} (h : ∀ u ∈ us, Room u) : Room us.flatten := by
  induction us with
  | nil => exact .nil
  | cons u us ih =>
    exact (h u List.mem_cons_self).append (ih fun v hv => h v (List.mem_cons_of_mem _ hv))

lemma of_allBlank {g : List Char} (h : AllBlank g) : Room g := by
  induction g with
  | nil => exact .nil
  | cons c g ih =>
    exact .blank (h c List.mem_cons_self) (ih fun x hx => h x (List.mem_cons_of_mem _ hx))

/-- A word character in the room of a header stands inside brackets that are open. -/
lemma open_before_word {u x y : List Char} {c : Char} (h : Room u) (hu : u = x ++ c :: y)
    (hc : Text.isWord c = true) : ∃ x₁ x₂, x = x₁ ++ '[' :: x₂ ∧ ']' ∉ x₂ := by
  induction h generalizing x with
  | nil => exact absurd hu (by simp)
  | @blank b u hb _ ih =>
    cases x with
    | nil =>
      obtain ⟨rfl, -⟩ := List.cons.inj hu
      exact absurd hc (by simp [Text.isWord_eq_false_of_isBlank hb])
    | cons b' x =>
      obtain ⟨rfl, hrest⟩ := List.cons.inj hu
      obtain ⟨x₁, x₂, rfl, hx₂⟩ := ih hrest
      exact ⟨b :: x₁, x₂, rfl, hx₂⟩
  | @bracketed inner u hinner _ ih =>
    cases x with
    | nil =>
      obtain ⟨rfl, -⟩ := List.cons.inj hu
      exact absurd hc (by decide)
    | cons b x =>
      obtain ⟨rfl, hrest⟩ := List.cons.inj hu
      rcases List.append_eq_append_iff.1 hrest with ⟨z, rfl, hz⟩ | ⟨z, rfl, hz⟩
      · -- the character stands behind the attribute, or closes it
        cases z with
        | nil =>
          obtain ⟨rfl, -⟩ := List.cons.inj hz
          exact absurd hc (by decide)
        | cons d z =>
          obtain ⟨rfl, hbehind⟩ := List.cons.inj hz
          obtain ⟨x₁, x₂, rfl, hx₂⟩ := ih hbehind
          exact ⟨'[' :: (inner ++ ']' :: x₁), x₂, by simp, hx₂⟩
      · exact ⟨[], x, rfl, fun hx => hinner (List.mem_append_left _ hx)⟩

/-- A bracket that is opened in the room of a header is closed there. -/
lemma closed_after {u x y : List Char} (h : Room u) (hu : u = x ++ '[' :: y) : ']' ∈ y := by
  induction h generalizing x with
  | nil => exact absurd hu (by simp)
  | @blank b u hb _ ih =>
    cases x with
    | nil =>
      obtain ⟨rfl, -⟩ := List.cons.inj hu
      exact absurd hb (by decide)
    | cons b' x => exact ih (List.cons.inj hu).2
  | @bracketed inner u hinner _ ih =>
    cases x with
    | nil =>
      obtain ⟨-, rfl⟩ := List.cons.inj hu
      simp
    | cons b x =>
      obtain ⟨-, hrest⟩ := List.cons.inj hu
      rcases List.append_eq_append_iff.1 hrest with ⟨z, rfl, hz⟩ | ⟨z, -, hz⟩
      · cases z with
        | nil => exact absurd (List.cons.inj hz).1 (by decide)
        | cons d z => exact ih (List.cons.inj hz).2
      · -- the bracket stands inside the attribute
        cases z with
        | nil => exact absurd (List.cons.inj hz).1 (by decide)
        | cons d z =>
          obtain ⟨-, rfl⟩ := List.cons.inj hz
          simp

end Room

/-- Words, each with blanks after it. -/
inductive Phrase : List (List Char) → List Char → Prop
  | nil : Phrase [] []
  | cons {w g u : List Char} {ws : List (List Char)} (hw : IsWord w) (hg : g ≠ [])
      (hblank : AllBlank g) (h : Phrase ws u) : Phrase (w :: ws) (w ++ (g ++ u))

namespace Phrase

lemma single {w g : List Char} (hw : IsWord w) (hg : g ≠ []) (hblank : AllBlank g) :
    Phrase [w] (w ++ g) := by
  have h := Phrase.cons hw hg hblank .nil
  rwa [List.append_nil] at h

lemma append {ws vs : List (List Char)} {u v : List Char} (hu : Phrase ws u) (hv : Phrase vs v) :
    Phrase (ws ++ vs) (u ++ v) := by
  induction hu with
  | nil => exact hv
  | cons hw hg hblank _ ih =>
    rw [List.append_assoc, List.append_assoc]
    exact .cons hw hg hblank ih

/-- A phrase with a word in it starts with a word character. -/
lemma starts {ws : List (List Char)} {u : List Char} (h : Phrase ws u) (hne : ws ≠ [])
    (v : List Char) : ∃ c v', u ++ v = c :: v' ∧ Text.isWord c = true := by
  cases h with
  | nil => exact absurd rfl hne
  | cons hw _ _ _ =>
    rw [List.append_assoc]
    exact hw.starts _

lemma ne_nil {ws : List (List Char)} {u : List Char} (h : Phrase ws u) (hne : ws ≠ []) :
    u ≠ [] := by
  rintro rfl
  obtain ⟨c, v, hc, -⟩ := h.starts hne []
  exact absurd hc (by simp)

/-- So does any phrase that a word follows. -/
lemma starts_word {ws : List (List Char)} {u : List Char} (h : Phrase ws u) {name : List Char}
    (hname : IsWord name) (rest : List Char) :
    ∃ c v, u ++ (name ++ rest) = c :: v ∧ Text.isWord c = true := by
  cases ws with
  | nil =>
    cases h
    exact hname.starts rest
  | cons w ws => exact h.starts (by simp) _

/-- A phrase ends with a blank. -/
lemma isBlank_of_getLast? {ws : List (List Char)} {u : List Char} (h : Phrase ws u) {c : Char}
    (hc : u.getLast? = some c) : Text.isBlank c = true := by
  induction h with
  | nil => exact absurd hc (by simp)
  | @cons w g u ws _ hg hblank _ ih =>
    cases hu : u.getLast? with
    | some d =>
      rw [List.getLast?_append, List.getLast?_append, hu] at hc
      exact ih (hu.trans hc)
    | none =>
      rw [List.getLast?_eq_none_iff.1 hu, List.append_nil,
        List.getLast?_append_of_ne_nil _ hg] at hc
      exact hblank c (List.mem_of_getLast? hc)

/-- The last word of a phrase, with the blanks behind it. -/
lemma exists_last {ws : List (List Char)} {w u : List Char} (h : Phrase (ws ++ [w]) u) :
    ∃ v g, u = v ++ w ++ g ∧ Phrase ws v ∧ IsWord w ∧ g ≠ [] ∧ AllBlank g := by
  induction ws generalizing u with
  | nil =>
    obtain _ | ⟨hw, hg, hblank, hrest⟩ := h
    cases hrest
    exact ⟨[], _, by simp, .nil, hw, hg, hblank⟩
  | cons w' ws ih =>
    obtain _ | ⟨hw', hg', hblank', hrest⟩ := h
    obtain ⟨v, g, rfl, hv, hlast⟩ := ih hrest
    exact ⟨_, g, by simp, .cons hw' hg' hblank' hv, hlast⟩

end Phrase

/-! ## Behind a word -/

/-- The first character behind a word and the blanks after it. -/
def afterWord (u : List Char) : Option Char :=
  ((u.dropWhile Text.isWord).dropWhile Text.isBlank).head?

lemma afterWord_append {w g : List Char} {c : Char} (z : List Char)
    (hw : ∀ x ∈ w, Text.isWord x = true) (hblank : AllBlank g) (hc : Text.isBlank c = false)
    (hend : g ≠ [] ∨ Text.isWord c = false) : afterWord (w ++ (g ++ c :: z)) = some c := by
  have hstop : (g ++ c :: z).dropWhile Text.isWord = g ++ c :: z := by
    cases g with
    | nil => exact List.dropWhile_cons_of_neg (by simpa using hend)
    | cons x g =>
      refine List.dropWhile_cons_of_neg ?_
      simp [Text.isWord_eq_false_of_isBlank (hblank x List.mem_cons_self)]
  rw [afterWord, List.dropWhile_append_of_pos hw, hstop, List.dropWhile_append_of_pos hblank,
    List.dropWhile_cons_of_neg (by simp [hc])]
  rfl

/-- Inside a phrase that a word follows, a word comes behind a word. -/
lemma Phrase.afterWord_isWord {ws : List (List Char)} {u x v : List Char} (h : Phrase ws u)
    (hu : u = x ++ v) {c : Char} (hv : v.head? = some c) (hc : Text.isWord c = true)
    {name : List Char} (hname : IsWord name) (rest : List Char) :
    ∃ d, afterWord (v ++ (name ++ rest)) = some d ∧ Text.isWord d = true := by
  induction h generalizing x with
  | nil =>
    obtain ⟨-, rfl⟩ := List.append_eq_nil_iff.1 hu.symm
    exact absurd hv (by simp)
  | @cons w g u ws hw hg hblank hrest ih =>
    have hnot : ∀ {t : List Char}, AllBlank t → t ≠ [] → ∀ {t'}, v ≠ t ++ t' := by
      rintro t ht hne t' rfl
      obtain ⟨b, t, rfl⟩ := List.exists_cons_of_ne_nil hne
      obtain rfl := Option.some.inj hv
      exact absurd hc (by simp [Text.isWord_eq_false_of_isBlank (ht b List.mem_cons_self)])
    rcases List.append_eq_append_iff.1 hu with ⟨z, rfl, hz⟩ | ⟨t, rfl, rfl⟩
    · -- behind this word: among its blanks, or behind these
      rcases List.append_eq_append_iff.1 hz with ⟨z', -, hu'⟩ | ⟨t, rfl, rfl⟩
      · exact ih hu'
      · cases t with
        | nil => exact ih (x := []) rfl
        | cons b t =>
          have htail : AllBlank (b :: t) := fun y hy => hblank y (List.mem_append_right _ hy)
          exact absurd rfl (hnot htail (by simp))
    · cases t with
      | nil => exact absurd rfl (hnot hblank hg)
      | cons b t =>
        obtain ⟨d, z, hd, hword⟩ := hrest.starts_word hname rest
        refine ⟨d, ?_, hword⟩
        rw [List.append_assoc, List.append_assoc, hd]
        refine afterWord_append z (fun y hy => hw.2 y (List.mem_append_right _ hy)) hblank
          (Text.isBlank_eq_false_of_isWord hword) (.inl hg)

/-! ## The two sorts of headers -/

/-- The words for sorts of types. -/
def typeWords : List String := ["record", "class", "struct", "interface", "enum"]

/-- The text of the header of a type. -/
structure TypeText (chars : List Char) (h : ContainerHeader) where
  /-- The line before the header. -/
  before : List Char
  /-- Blanks and attributes. -/
  room : List Char
  /-- The words before the name. -/
  phrase : List Char
  /-- The name. -/
  name : List Char
  /-- The line behind the header. -/
  rest : List Char
  /-- The words but for the last. -/
  words : List (List Char)
  /-- The last word. -/
  keyword : String
  chars_eq : chars = before ++ (room ++ (phrase ++ (name ++ rest)))
  column_eq : h.column = before.length
  nameColumn_eq : h.nameColumn = before.length + room.length + phrase.length
  endColumn_eq : h.endColumn = h.nameColumn + name.length
  before_last : ∀ c, before.getLast? = some c → StackState.marks c = true
  before_eq : h.visibility.isSome = true → before = []
  isRoom : Room room
  isPhrase : Phrase (words ++ [keyword.toList]) phrase
  keyword_mem : keyword ∈ typeWords
  isName : IsWord name

/-- The characters of a dotted name. -/
def isDotted (c : Char) : Bool :=
  Text.isWord c || c == '.'

/-- The characters that can follow the dotted name of a type. -/
def typeMarks : List Char := ['<', '[', '?']

/-- A text for the type of a member: it holds no brace and no semicolon, and it is a dotted name or
ends with a closing bracket or a question mark. -/
structure IsType (u : List Char) : Prop where
  ne_nil : u ≠ []
  start : ∃ name tail, u = name ++ tail ∧ name ≠ [] ∧ (∀ c ∈ name, isDotted c = true) ∧
    ∀ c ∈ tail.head?, c ∈ typeMarks
  marks : ∀ c ∈ u, StackState.marks c = false
  last : (∀ c ∈ u, Text.isWord c = true ∨ c = '.') ∨ ∃ c ∈ ['>', ']', '?'], u.getLast? = some c

/-- The characters that can follow the name of a member. -/
def memberMarks : List Char := ['<', '(', '{', '=']

/-- The text of the header of a member. -/
structure MemberText (chars : List Char) (h : MemberHeader) where
  /-- Blanks and attributes. -/
  room : List Char
  /-- The words before the type. -/
  phrase : List Char
  /-- The type. -/
  type : List Char
  /-- The blanks behind the type. -/
  gap : List Char
  /-- The name. -/
  name : List Char
  /-- The blanks behind the name. -/
  gap' : List Char
  /-- The character behind these. -/
  mark : Char
  /-- The line behind that. -/
  rest : List Char
  /-- The words. -/
  words : List (List Char)
  chars_eq : chars = room ++ (phrase ++ (type ++ (gap ++ (name ++ (gap' ++ mark :: rest)))))
  nameColumn_eq : h.nameColumn = room.length + phrase.length + type.length + gap.length
  type_eq : h.type = String.ofList type
  name_eq : h.name = String.ofList name
  isRoom : Room room
  isPhrase : Phrase words phrase
  words_ne_nil : words ≠ []
  words_mem : ∀ w ∈ words, w ∈ visibilityWord.language ∨ w ∈ memberModifier.language
  isType : IsType type
  gap_ne_nil : gap ≠ []
  gap_blank : AllBlank gap
  isName : IsWord name
  gap'_blank : AllBlank gap'
  mark_mem : mark ∈ memberMarks

/-- The last run of characters of a sort is where it is, however it is found. -/
lemma eq_of_append_eq {p : Char → Bool} {a b t k : List Char} (h : a ++ t = b ++ k)
    (ht : ∀ c ∈ t, p c = true) (hk : ∀ c ∈ k, p c = true)
    (ha : ∀ c, a.getLast? = some c → p c = false) (hb : ∀ c, b.getLast? = some c → p c = false) :
    a = b ∧ t = k := by
  -- what one of the runs has more would end with a character of both sorts
  have hnil : ∀ {x y z : List Char}, (∀ c, (x ++ z).getLast? = some c → p c = false) →
      (∀ c ∈ z ++ y, p c = true) → z = [] := by
    intro x y z hlast hall
    by_contra hne
    have hc : z.getLast? = some (z.getLast hne) := List.getLast?_eq_some_getLast hne
    have hfalse := hlast _ ((List.getLast?_append_of_ne_nil x hne).trans hc)
    have htrue := hall _ (List.mem_append_left y (List.getLast_mem hne))
    exact absurd htrue (by simp [hfalse])
  rcases List.append_eq_append_iff.1 h with ⟨z, rfl, rfl⟩ | ⟨z, rfl, rfl⟩
  · obtain rfl := hnil hb ht
    simp
  · obtain rfl := hnil ha hk
    simp

/-- A phrase holds no brace and no semicolon. -/
lemma Phrase.marks_eq_false {ws : List (List Char)} {u : List Char} (hu : Phrase ws u) :
    ∀ c ∈ u, StackState.marks c = false := by
  induction hu with
  | nil => simp
  | cons hw _ hblank _ ih =>
    intro c hc
    rcases List.mem_append.1 hc with hc | hc
    · exact marks_of_isWord (hw.2 c hc)
    · rcases List.mem_append.1 hc with hc | hc
      · exact marks_of_isBlank (hblank c hc)
      · exact ih c hc

/-- The type of a member that ends a phrase, but for blanks, is its last word. -/
lemma Phrase.eq_last {ws : List (List Char)} {w u a t g : List Char} (h : Phrase (ws ++ [w]) u)
    (hu : u = (a ++ t) ++ g) (hg : AllBlank g) (ht : IsType t)
    (ha : ∀ c, a.getLast? = some c → Text.isBlank c = true) : t = w := by
  obtain ⟨v, g', rfl, hv, hw, -, hg'⟩ := h.exists_last
  have hother : ∀ c ∈ ['>', ']', '?'], Text.isBlank c = false ∧ Text.isWord c = false := by
    simp only [List.mem_cons, List.not_mem_nil, or_false, forall_eq_or_imp, forall_eq]
    decide
  have hlast : ∀ {l k : List Char} {c : Char}, k ≠ [] → (l ++ k).getLast? = some c → c ∈ k := by
    intro l k c hk hc
    rw [List.getLast?_append_of_ne_nil _ hk] at hc
    exact List.mem_of_getLast? hc
  have hnotBlank : ∀ c, Text.isWord c = true ∨ c = '.' → Text.isBlank c = false := by
    rintro c (hc | rfl)
    · exact Text.isBlank_eq_false_of_isWord hc
    · decide
  have htlast : ∀ c, (a ++ t).getLast? = some c → Text.isBlank c = false := by
    intro c hc
    rcases ht.last with hplain | ⟨d, hd, htd⟩
    · exact hnotBlank c (hplain c (hlast ht.ne_nil hc))
    · rw [List.getLast?_append_of_ne_nil _ ht.ne_nil, htd] at hc
      exact Option.some.inj hc ▸ (hother d hd).1
  have hwlast : ∀ c, (v ++ w).getLast? = some c → Text.isBlank c = false := fun c hc =>
    Text.isBlank_eq_false_of_isWord (hw.2 c (hlast hw.1 hc))
  obtain ⟨hsame, -⟩ := eq_of_append_eq hu.symm hg hg' htlast hwlast
  -- both end with the same character, which is one of a word
  have hplain : ∀ c ∈ t, Text.isWord c = true ∨ c = '.' := by
    refine ht.last.resolve_right ?_
    rintro ⟨c, hc, htc⟩
    have hcw : (v ++ w).getLast? = some c := by
      rw [← hsame, List.getLast?_append_of_ne_nil _ ht.ne_nil, htc]
    exact absurd (hw.2 c (hlast hw.1 hcw)) (by simp [(hother c hc).2])
  have hone := eq_of_append_eq (p := fun c => !Text.isBlank c) hsame
    (fun c hc => by simp [hnotBlank c (hplain c hc)])
    (fun c hc => by simp [Text.isBlank_eq_false_of_isWord (hw.2 c hc)])
    (fun c hc => by simp [ha c hc]) (fun c hc => by simp [hv.isBlank_of_getLast? hc])
  exact hone.2

namespace TypeText

variable {chars : List Char} {h : ContainerHeader} {m : MemberHeader}

/-- If the header of the type starts by the name of the member, it starts by the member's words:
between these and the name there is no brace or semicolon. -/
lemma before_length_le (x : TypeText chars h) (y : MemberText chars m)
    (hle : h.column ≤ m.nameColumn) : x.before.length ≤ y.room.length := by
  by_contra hlt
  have hboth := x.chars_eq.symm.trans y.chars_eq
  -- what is left of the line before the header reaches into the words, the type or its gap
  obtain ⟨z, hz, hrest⟩ : ∃ z, x.before = y.room ++ z ∧
      z ++ (x.room ++ (x.phrase ++ (x.name ++ x.rest)))
        = (y.phrase ++ (y.type ++ y.gap)) ++ (y.name ++ (y.gap' ++ y.mark :: y.rest)) := by
    rcases List.append_eq_append_iff.1 hboth with ⟨z, hz, -⟩ | ⟨z, hz, hrest⟩
    · exact absurd (congrArg List.length hz) (by simp; omega)
    · exact ⟨z, hz, by simpa using hrest.symm⟩
  have hne : z ≠ [] := by
    rintro rfl
    exact hlt (by rw [hz, List.append_nil])
  have hlength : z.length ≤ (y.phrase ++ (y.type ++ y.gap)).length := by
    have hcolumn := congrArg List.length hz
    rw [x.column_eq, y.nameColumn_eq] at hle
    simp only [List.length_append] at hcolumn ⊢
    omega
  have hinside : z <+: y.phrase ++ (y.type ++ y.gap) :=
    List.prefix_of_prefix_length_le ⟨_, hrest⟩ ⟨_, rfl⟩ hlength
  have hmark : StackState.marks (z.getLast hne) = true := by
    refine x.before_last _ ?_
    rw [hz, List.getLast?_append_of_ne_nil _ hne, List.getLast?_eq_some_getLast hne]
  have hnone : StackState.marks (z.getLast hne) = false := by
    rcases List.mem_append.1 (hinside.subset (List.getLast_mem hne)) with hmem | hmem
    · exact y.isPhrase.marks_eq_false _ hmem
    · rcases List.mem_append.1 hmem with hmem | hmem
      · exact y.isType.marks _ hmem
      · exact marks_of_isBlank (y.gap_blank _ hmem)
  exact absurd hmark (by simp [hnone])

/-- The blanks and attributes of the type end by the member's words: a letter of these would stand
in an attribute that is still open, but the member's attributes are closed. -/
lemma exists_room_eq (x : TypeText chars h) (y : MemberText chars m)
    (hle : h.column ≤ m.nameColumn) : ∃ z, y.room = x.before ++ (x.room ++ z) := by
  have hboth := x.chars_eq.symm.trans y.chars_eq
  obtain ⟨z, hz⟩ : ∃ z, y.room = x.before ++ z := by
    rcases List.append_eq_append_iff.1 hboth with ⟨z, hz, -⟩ | ⟨z, hz, -⟩
    · exact ⟨z, hz⟩
    · have hlength := congrArg List.length hz
      have hbefore := x.before_length_le y hle
      rw [List.length_append] at hlength
      have hnil : z = [] := List.eq_nil_of_length_eq_zero (by omega)
      exact ⟨[], by rw [hz, hnil]; simp⟩
  rw [hz, List.append_assoc] at hboth
  rcases List.append_eq_append_iff.1 (List.append_cancel_left hboth) with
    ⟨w, hw, -⟩ | ⟨w, hw, hrest⟩
  · exact ⟨w, by rw [hz, hw]⟩
  · cases w with
    | nil => exact ⟨[], by rw [hz, hw]; simp⟩
    | cons c w =>
      obtain ⟨d, v, hd, hword⟩ := y.isPhrase.starts y.words_ne_nil
        (y.type ++ (y.gap ++ (y.name ++ (y.gap' ++ y.mark :: y.rest))))
      obtain ⟨rfl, -⟩ := List.cons.inj (hd.symm.trans hrest)
      obtain ⟨z₁, z₂, hsplit, hopen⟩ := x.isRoom.open_before_word hw hword
      refine absurd (y.isRoom.closed_after (x := x.before ++ z₁) (y := z₂) ?_) hopen
      rw [hz, hsplit, List.append_assoc]

/-- **The name of a member stands behind the name of a type whose header starts by it.**  In the
words of the type's header it cannot stand, since a word and no mark would follow it, and if it were
the name of the type, then the word for the sort of type would be the type of the member. -/
theorem nameColumn_lt (x : TypeText chars h) (y : MemberText chars m)
    (hm : m.declaresMember = true) (hle : h.column ≤ m.nameColumn) :
    h.nameColumn < m.nameColumn := by
  by_contra hnot
  obtain ⟨z, hz⟩ := x.exists_room_eq y hle
  have hrest : x.phrase ++ (x.name ++ x.rest)
      = (z ++ (y.phrase ++ (y.type ++ y.gap))) ++ (y.name ++ (y.gap' ++ y.mark :: y.rest)) := by
    have hboth := x.chars_eq.symm.trans y.chars_eq
    rw [hz] at hboth
    simpa using hboth
  have hlength : (z ++ (y.phrase ++ (y.type ++ y.gap))).length ≤ x.phrase.length := by
    have hroom := congrArg List.length hz
    rw [x.nameColumn_eq, y.nameColumn_eq] at hnot
    simp only [List.length_append] at hroom ⊢
    omega
  obtain ⟨v, hv⟩ := List.prefix_of_prefix_length_le ⟨_, hrest.symm⟩ ⟨_, rfl⟩ hlength
  have htail : v ++ (x.name ++ x.rest) = y.name ++ (y.gap' ++ y.mark :: y.rest) := by
    rw [← hv, List.append_assoc] at hrest
    exact List.append_cancel_left hrest
  cases v with
  | nil =>
    have hphrase : x.phrase = (z ++ y.phrase ++ y.type) ++ y.gap := by simpa using hv.symm
    have htype : y.type = x.keyword.toList := by
      refine x.isPhrase.eq_last hphrase y.gap_blank y.isType ?_
      intro c hc
      rw [List.getLast?_append_of_ne_nil _ (y.isPhrase.ne_nil y.words_ne_nil)] at hc
      exact y.isPhrase.isBlank_of_getLast? hc
    have hsub : ∀ w ∈ typeWords, w ∈ nonMemberTypes := by decide
    have hnotMem : m.type ∉ nonMemberTypes := by simpa [MemberHeader.declaresMember] using hm
    refine hnotMem ?_
    rw [y.type_eq, htype, String.ofList_toList]
    exact hsub _ x.keyword_mem
  | cons c v =>
    obtain ⟨d, w, hd, hword⟩ := y.isName.starts (y.gap' ++ y.mark :: y.rest)
    obtain ⟨rfl, -⟩ := List.cons.inj (htail.trans hd)
    obtain ⟨e, he, heword⟩ := x.isPhrase.afterWord_isWord hv.symm rfl hword x.isName x.rest
    have hmarks : ∀ c ∈ memberMarks, Text.isBlank c = false ∧ Text.isWord c = false := by
      simp only [memberMarks, List.mem_cons, List.not_mem_nil, or_false, forall_eq_or_imp,
        forall_eq]
      decide
    obtain ⟨hmarkBlank, hmarkWord⟩ := hmarks _ y.mark_mem
    have hmark := afterWord_append y.rest y.isName.2 y.gap'_blank hmarkBlank (.inr hmarkWord)
    rw [htail, hmark] at he
    obtain rfl := Option.some.inj he
    exact absurd heword (by simp [hmarkWord])

end TypeText

end Conformance.Source
