/-
# What the patterns of headers read

Every header that is found on a line has the text of one: that of a type (`exists_typeText`), and
that of a method or property (`exists_memberText_of_method`, `exists_memberText_of_property`).  The
patterns are taken apart from left to right; each part reads a text of its language.
-/
import Conformance.Proofs.Pattern.Language
import Conformance.Proofs.Source.HeaderText

namespace Conformance.Source
open Pattern

/-! ## Blanks and attributes -/

section Parts

variable {u g : List Char}

lemma allBlank_of_mem_gap (h : u ∈ (gap : HeaderPattern).language) : AllBlank u :=
  (accepts_of_mem_language_rounds h).2

lemma allBlank_of_mem_gap1 (h : u ∈ (gap1 : HeaderPattern).language) : u ≠ [] ∧ AllBlank u := by
  obtain ⟨hlength, hblank⟩ := accepts_of_mem_language_rounds h
  exact ⟨List.length_pos_iff.1 hlength, hblank⟩

lemma room_of_mem_attributes (h : u ∈ attributes.language) : Room u := by
  obtain ⟨us, rfl, -, hus⟩ := exists_of_mem_language_rounds h
  refine Room.flatten fun v hv => ?_
  obtain ⟨_, hopen, _, htail, rfl⟩ := mem_language_concat_cons.1 (hus v hv)
  obtain ⟨inner, hinner, _, hend, rfl⟩ := mem_language_concat_cons.1 htail
  obtain ⟨_, hclose, g, hg, rfl⟩ := mem_language_concat_cons.1 hend
  rw [mem_language_char.1 hopen, mem_language_char.1 hclose]
  refine .bracketed ?_ (Room.of_allBlank (allBlank_of_mem_gap hg))
  intro hmem
  exact absurd ((accepts_of_mem_language_rounds hinner).2 ']' hmem) (by decide)

/-! ## Words -/

instance : DecidablePred IsWord :=
  fun w => decidable_of_iff (w ≠ [] ∧ w.all Text.isWord = true) (by simp [IsWord])

lemma isWord_of_mem_words {ws : List String} (hne : ws ≠ [])
    (hws : ∀ w ∈ ws, IsWord w.toList) (h : u ∈ (words ws : HeaderPattern).language) :
    IsWord u := by
  obtain ⟨w, hw, rfl⟩ := exists_of_mem_language_words hne h
  exact hws w hw

lemma isWord_of_mem_visibilityWord (h : u ∈ visibilityWord.language) : IsWord u :=
  isWord_of_mem_words (by simp) (by decide) h

lemma isWord_of_mem_typeModifier (h : u ∈ typeModifier.language) : IsWord u :=
  isWord_of_mem_words (by simp) (by decide) h

lemma isWord_of_mem_memberModifier (h : u ∈ memberModifier.language) : IsWord u :=
  isWord_of_mem_words (by simp) (by decide) h

lemma isWord_of_mem_nameWord (h : u ∈ nameWord.language) : IsWord u := by
  obtain ⟨_, ⟨c, rfl, hc⟩, w, hw, rfl⟩ := Language.mem_mul.1 h
  have hstart : Text.isNameStart c = true := (accepts_nameStart c).symm.trans hc
  refine ⟨by simp, fun x hx => ?_⟩
  rcases List.mem_append.1 hx with hx | hx
  · rw [List.mem_singleton.1 hx]
    exact Text.isWord_of_isNameStart hstart
  · exact (accepts_of_mem_language_rounds hw).2 x hx

/-- Phrases one after another make a phrase. -/
lemma exists_phrase_of_mem_rounds {p : HeaderPattern} {P : List Char → Prop} {least : Nat}
    {most : Option Nat} {greed : Greed}
    (hp : ∀ v ∈ p.language, ∃ ws, Phrase ws v ∧ ∀ w ∈ ws, P w)
    (h : u ∈ (rounds p least most greed).language) : ∃ ws, Phrase ws u ∧ ∀ w ∈ ws, P w := by
  obtain ⟨us, rfl, -, hus⟩ := exists_of_mem_language_rounds h
  clear h
  induction us with
  | nil => exact ⟨[], .nil, by simp⟩
  | cons v us ih =>
    obtain ⟨ws, hws, hwords⟩ := ih fun w hw => hus w (List.mem_cons_of_mem _ hw)
    obtain ⟨vs, hvs, hfirst⟩ := hp v (hus v List.mem_cons_self)
    exact ⟨vs ++ ws, hvs.append hws, fun w hw => (List.mem_append.1 hw).elim (hfirst w) (hwords w)⟩

/-- Modifiers with blanks after each make a phrase. -/
lemma exists_phrase_of_mem_modifiers {p : HeaderPattern} (hp : ∀ {w}, w ∈ p.language → IsWord w)
    (h : u ∈ (star (seq p gap1)).language) : ∃ ws, Phrase ws u ∧ ∀ w ∈ ws, w ∈ p.language := by
  refine exists_phrase_of_mem_rounds (fun v hv => ?_) h
  obtain ⟨w, hw, g, hg, rfl⟩ := Language.mem_mul.1 hv
  obtain ⟨hne, hblank⟩ := allBlank_of_mem_gap1 hg
  exact ⟨[w], Phrase.single (hp hw) hne hblank, by simpa using hw⟩

lemma exists_phrase_of_mem_visibilityRun (h : u ∈ visibilityRun.language) (hg : g ≠ [])
    (hblank : AllBlank g) :
    ∃ ws, ws ≠ [] ∧ Phrase ws (u ++ g) ∧ ∀ w ∈ ws, w ∈ visibilityWord.language := by
  obtain ⟨w, hw, t, ht, rfl⟩ := Language.mem_mul.1 h
  obtain ⟨us, rfl, -, hus⟩ := exists_of_mem_language_rounds ht
  clear h ht
  -- the blanks behind a word are those before the next, if there is one
  induction us generalizing w with
  | nil =>
    have hphrase := Phrase.single (isWord_of_mem_visibilityWord hw) hg hblank
    exact ⟨[w], by simp, by simpa using hphrase, by simpa using hw⟩
  | cons v us ih =>
    obtain ⟨g', hg', w', hw', rfl⟩ := Language.mem_mul.1 (hus v List.mem_cons_self)
    obtain ⟨hne, hblank'⟩ := allBlank_of_mem_gap1 hg'
    obtain ⟨ws, -, hws, hwords⟩ := ih w' hw' fun x hx => hus x (List.mem_cons_of_mem _ hx)
    have hall := (Phrase.single (isWord_of_mem_visibilityWord hw) hne hblank').append hws
    exact ⟨[w] ++ ws, by simp, by simpa using hall, by simpa using ⟨hw, hwords⟩⟩

/-- A keyword ends with one word for a sort of types. -/
lemma exists_phrase_of_mem_containerKeyword (h : u ∈ containerKeyword.language) (hg : g ≠ [])
    (hblank : AllBlank g) :
    ∃ ws, ∃ w ∈ typeWords, Phrase (ws ++ [w.toList]) (u ++ g) := by
  have hone : ∀ {w : String}, w ∈ typeWords → Phrase [w.toList] (w.toList ++ g) := by
    intro w hw
    have hwords : ∀ w ∈ typeWords, IsWord w.toList := by decide
    exact Phrase.single (hwords w hw) hg hblank
  have htwo : ∀ {w : String}, w ∈ typeWords →
      u ∈ (concat [word "record", gap1, word w] : HeaderPattern).language →
      ∃ ws, ∃ w ∈ typeWords, Phrase (ws ++ [w.toList]) (u ++ g) := by
    intro w hw hu
    obtain ⟨r, hr, _, htail, rfl⟩ := mem_language_concat_cons.1 hu
    obtain ⟨g', hg', w', hw', rfl⟩ := mem_language_concat_cons.1 htail
    obtain ⟨hne, hblank'⟩ := allBlank_of_mem_gap1 hg'
    have hrecord : IsWord "record".toList := by decide
    rw [mem_language_literal.1 hr, mem_language_literal.1 hw']
    refine ⟨["record".toList], w, hw, ?_⟩
    have hall := (Phrase.single hrecord hne hblank').append (hone hw)
    simpa using hall
  obtain ⟨p, hp, hu⟩ := exists_of_mem_language_oneOf (by simp) h
  simp only [List.mem_cons, List.not_mem_nil, or_false] at hp
  rcases hp with rfl | rfl | rfl | rfl | rfl | rfl | rfl
  · exact htwo (by decide) hu
  · exact htwo (by decide) hu
  all_goals
    rw [mem_language_literal.1 hu]
    exact ⟨[], _, by decide, hone (by decide)⟩

/-! ## Types of members -/

/-- What can follow the dotted name of a type: no brace and no semicolon, a mark at its start, and
at its end a closing bracket or a question mark. -/
structure IsTypeTail (u : List Char) : Prop where
  head : ∀ c ∈ u.head?, c ∈ typeMarks
  marks : ∀ c ∈ u, StackState.marks c = false
  last : u = [] ∨ ∃ c ∈ ['>', ']', '?'], u.getLast? = some c

namespace IsTypeTail

lemma append {v : List Char} (hu : IsTypeTail u) (hv : IsTypeTail v) : IsTypeTail (u ++ v) := by
  refine ⟨?_, fun c hc => (List.mem_append.1 hc).elim (hu.marks c) (hv.marks c), ?_⟩
  · cases u with
    | nil => exact hv.head
    | cons c u => exact hu.head
  rcases hv.last with rfl | ⟨c, hc, hlast⟩
  · rw [List.append_nil]
    exact hu.last
  · exact .inr ⟨c, hc, by rw [List.getLast?_append, hlast]; rfl⟩

lemma flatten {us : List (List Char)} (h : ∀ v ∈ us, IsTypeTail v) : IsTypeTail us.flatten := by
  induction us with
  | nil => exact ⟨by simp, by simp, .inl rfl⟩
  | cons v us ih =>
    exact (h v List.mem_cons_self).append (ih fun w hw => h w (List.mem_cons_of_mem _ hw))

/-- Texts in brackets that hold no brace and no semicolon. -/
lemma of_mem_brackets {o c : Char} {t : CharTest} {least least' : Nat} {most most' : Option Nat}
    {greed greed' : Greed}
    (h : u ∈ (rounds (concat [char o, rounds (.one t) least most greed, char c] : HeaderPattern)
      least' most' greed').language)
    (ht : ∀ x, t.accepts x = true → StackState.marks x = false)
    (ho : o ∈ typeMarks ∧ StackState.marks o = false)
    (hc : c ∈ ['>', ']', '?'] ∧ StackState.marks c = false) : IsTypeTail u := by
  obtain ⟨us, rfl, -, hus⟩ := exists_of_mem_language_rounds h
  refine flatten fun v hv => ?_
  obtain ⟨_, hopen, _, hrest, rfl⟩ := mem_language_concat_cons.1 (hus v hv)
  obtain ⟨inner, hinner, _, hclose, rfl⟩ := mem_language_concat_cons.1 hrest
  rw [mem_language_char.1 hopen, mem_language_char.1 hclose]
  refine ⟨by simpa using ho.1, ?_,
    .inr ⟨c, hc.1, List.getLast?_eq_some_iff.2 ⟨[o] ++ inner, by simp⟩⟩⟩
  intro x hx
  simp only [List.mem_append, List.mem_singleton] at hx
  rcases hx with rfl | hx | rfl
  · exact ho.2
  · exact ht x ((accepts_of_mem_language_rounds hinner).2 x hx)
  · exact hc.2

end IsTypeTail

/-- A dotted name with a tail is a type. -/
lemma IsTypeTail.isType {name tail : List Char} (hne : name ≠ [])
    (hname : ∀ c ∈ name, Text.isWord c = true ∨ c = '.') (htail : IsTypeTail tail) :
    IsType (name ++ tail) := by
  refine ⟨by simp [hne], ⟨name, tail, rfl, hne, by simpa [isDotted] using hname, htail.head⟩,
    fun c hc => ?_, ?_⟩
  · rcases List.mem_append.1 hc with hc | hc
    · rcases hname c hc with hword | rfl
      · exact marks_of_isWord hword
      · decide
    · exact htail.marks c hc
  · rcases htail.last with rfl | ⟨c, hc, hlast⟩
    · rw [List.append_nil]
      exact .inl hname
    · exact .inr ⟨c, hc, by rw [List.getLast?_append, hlast]; rfl⟩

lemma isType_of_mem_typeReference (h : u ∈ typeReference.language) : IsType u := by
  obtain ⟨name, hname, _, htail, rfl⟩ := mem_language_concat_cons.1 h
  obtain ⟨args, hargs, _, hrest, rfl⟩ := mem_language_concat_cons.1 htail
  obtain ⟨ranks, hranks, optional, hoptional, rfl⟩ := mem_language_concat_cons.1 hrest
  obtain ⟨hlength, hdotted⟩ := accepts_of_mem_language_rounds hname
  have hargs' : IsTypeTail args := by
    refine .of_mem_brackets hargs (fun x hx => ?_) (by decide) (by decide)
    simp_all [CharTest.noneOf, CharTest.chars, CharTest.oneOf, CharTest.accepts,
      StackState.marks]
  have hranks' : IsTypeTail ranks := by
    refine .of_mem_brackets hranks (fun x hx => ?_) (by decide) (by decide)
    rw [beq_iff_eq.1 hx]
    decide
  have hoptional' : IsTypeTail optional := by
    obtain ⟨us, rfl, -, hus⟩ := exists_of_mem_language_rounds hoptional
    refine .flatten fun v hv => ?_
    rw [mem_language_char.1 (hus v hv)]
    exact ⟨by simp [typeMarks], by simp [StackState.marks], .inr ⟨'?', by decide, rfl⟩⟩
  refine IsTypeTail.isType (List.length_pos_iff.1 hlength) (fun c hc => ?_)
    (hargs'.append (hranks'.append hoptional'))
  have haccepts := hdotted c hc
  simpa [CharTest.accepts] using haccepts

end Parts

/-! ## The start of a line -/

section Start

variable {c : Cursor} {k : Continuation Part} {r : Progress Part}

/-- At the start of a line stand blanks and attributes, and then a visibility with blanks behind
it. -/
lemma exists_of_run_lineStart {p : HeaderPattern} {P : List Char → Prop} {ps : List HeaderPattern}
    (hp : ∀ v ∈ p.language, ∀ g, g ≠ [] → AllBlank g →
      ∃ ws, ws ≠ [] ∧ Phrase ws (v ++ g) ∧ ∀ w ∈ ws, P w)
    (h : run (concat (.anchor .textStart :: gap :: attributes :: .group .visibility p :: gap1 ::
      ps)) ⟨c, []⟩ k = some r) :
    c.before = [] ∧ ∃ (s : Progress Part) (room u : List Char) (ws : List (List Char)),
      c.Reads (room ++ u) s.cursor ∧ Room room ∧ ws ≠ [] ∧ Phrase ws u ∧ (∀ w ∈ ws, P w) ∧
      run (concat ps) s k = some r := by
  rw [run_concat_cons] at h
  obtain ⟨hstart, h⟩ := of_run_anchor h
  obtain ⟨s₁, ⟨⟨g, hg, hread₁⟩, -⟩, h⟩ := reaches_of_run_concat_cons h
  obtain ⟨s₂, ⟨⟨a, ha, hread₂⟩, -⟩, h⟩ := reaches_of_run_concat_cons h
  obtain ⟨s₃, ⟨⟨v, hv, hread₃⟩, -⟩, h⟩ := reaches_of_run_concat_group h
  obtain ⟨s₄, ⟨⟨g', hg', hread₄⟩, -⟩, h⟩ := reaches_of_run_concat_cons h
  obtain ⟨hne, hblank⟩ := allBlank_of_mem_gap1 hg'
  obtain ⟨ws, hws, hphrase, hwords⟩ := hp v hv g' hne hblank
  refine ⟨List.isEmpty_iff.1 hstart, s₄, g ++ a, v ++ g', ws,
    (hread₁.trans hread₂).trans (hread₃.trans hread₄), ?_, hws, hphrase, hwords, h⟩
  exact (Room.of_allBlank (allBlank_of_mem_gap hg)).append (room_of_mem_attributes ha)

/-! ## Headers of types -/

/-- What the start of the header of a type reads, from a place to another. -/
structure TypeStart (c : Cursor) (s : Progress Part) : Prop where
  /-- Blanks and attributes, and then words. -/
  reads : ∃ room ws u, c.Reads (room ++ u) s.cursor ∧ Room room ∧ Phrase ws u
  before_last : ∀ x ∈ c.before.head?, StackState.marks x = true
  before_eq : (s.capture? .visibility).isSome = true → c.before = []

lemma typeStart_of_run_lineStart
    (h : run (concat [.anchor .textStart, gap, attributes,
      .group .visibility (alt visibilityRun (word "file")), gap1]) ⟨c, []⟩ k = some r) :
    ∃ s, TypeStart c s ∧ k s = some r := by
  have hvisibility : ∀ v ∈ (alt visibilityRun (word "file")).language, ∀ g, g ≠ [] → AllBlank g →
      ∃ ws, ws ≠ [] ∧ Phrase ws (v ++ g) ∧ ∀ w ∈ ws, True := by
    rintro v (hv | hv) g hne hblank
    · obtain ⟨ws, hws, hphrase, -⟩ := exists_phrase_of_mem_visibilityRun hv hne hblank
      exact ⟨ws, hws, hphrase, by simp⟩
    · have hfile : IsWord "file".toList := by decide
      rw [mem_language_literal.1 hv]
      exact ⟨_, by simp, Phrase.single hfile hne hblank, by simp⟩
  obtain ⟨hempty, s, room, u, ws, hread, hroom, -, hws, -, h⟩ :=
    exists_of_run_lineStart hvisibility h
  exact ⟨s, ⟨⟨room, ws, u, hread, hroom, hws⟩, by simp [hempty], fun _ => hempty⟩, h⟩

lemma typeStart_of_run_markStart
    (h : run (concat [.behind true 1 (.one (.chars ['{', '}', ';'])), gap, attributes,
      opt (seq (.group .nestedVisibility visibilityRun) gap1)]) ⟨c, []⟩ k = some r) :
    ∃ s, TypeStart c s ∧ k s = some r := by
  rw [run_concat_cons] at h
  obtain ⟨⟨x, hx, hmark⟩, h⟩ := of_run_behind_one h
  obtain ⟨s₁, h₁, h⟩ := reaches_of_run_concat_cons h
  obtain ⟨s₂, h₂, h⟩ := reaches_of_run_concat_cons h
  obtain ⟨s₃, h₃, h⟩ := reaches_of_run_concat_cons h
  -- no visibility at the start of the line is remembered
  have hnone : s₃.capture? .visibility = none := by
    rw [h₃.capture?_eq (by decide), h₂.capture?_eq (by decide), h₁.capture?_eq (by decide)]
    rfl
  obtain ⟨⟨g, hg, hread⟩, -⟩ := h₁
  obtain ⟨⟨a, ha, hread₂⟩, -⟩ := h₂
  obtain ⟨⟨v, hv, hread₃⟩, -⟩ := h₃
  obtain ⟨ws, hws, -⟩ : ∃ ws, Phrase ws v ∧ ∀ w ∈ ws, w ∈ visibilityWord.language := by
    refine exists_phrase_of_mem_rounds (fun u hu => ?_) hv
    obtain ⟨w, hw, g', hg', rfl⟩ := Language.mem_mul.1 hu
    obtain ⟨hne, hblank⟩ := allBlank_of_mem_gap1 hg'
    obtain ⟨ws, -, hws⟩ := exists_phrase_of_mem_visibilityRun hw hne hblank
    exact ⟨ws, hws⟩
  refine ⟨s₃, ⟨⟨g ++ a, ws, v, (hread.trans hread₂).trans hread₃, ?_, hws⟩, ?_, ?_⟩, h⟩
  · exact (Room.of_allBlank (allBlank_of_mem_gap hg)).append (room_of_mem_attributes ha)
  · intro y hy
    obtain rfl := Option.mem_unique hx hy
    simpa [CharTest.chars, CharTest.oneOf, CharTest.accepts, StackState.marks, or_assoc] using hmark
  · rw [hnone]
    simp

end Start

/-- What follows the start of a header. -/
lemma exists_of_run_keyword {s r : Progress Part} {k : Continuation Part}
    (h : run (concat [.group .modifiers (star (seq typeModifier gap1)),
      .group .keyword containerKeyword, gap1, .group .name nameWord]) s k = some r) :
    ∃ (s' s'' : Progress Part) (u name : List Char) (ws : List (List Char)), ∃ w ∈ typeWords,
      s.cursor.Reads u s'.cursor ∧ Phrase (ws ++ [w.toList]) u ∧
      s'.cursor.Reads name s''.cursor ∧ IsWord name ∧
      s''.capture? .visibility = s.capture? .visibility ∧
      k (s''.remember .name s'.cursor) = some r := by
  obtain ⟨s₁, h₁, h⟩ := reaches_of_run_concat_group h
  obtain ⟨s₂, h₂, h⟩ := reaches_of_run_concat_group h
  obtain ⟨s₃, h₃, h⟩ := reaches_of_run_concat_cons h
  obtain ⟨s₄, h₄, h⟩ := reaches_of_run_concat_group h
  have hvisibility : s₄.capture? .visibility = s.capture? .visibility := by
    rw [h₄.capture?_eq (by decide), h₃.capture?_eq (by decide),
      Progress.capture?_remember_of_ne _ (by decide), h₂.capture?_eq (by decide),
      Progress.capture?_remember_of_ne _ (by decide), h₁.capture?_eq (by decide)]
  obtain ⟨⟨mods, hmods, hread₁⟩, -⟩ := h₁
  obtain ⟨⟨keyword, hkeyword, hread₂⟩, -⟩ := h₂
  obtain ⟨⟨g, hg, hread₃⟩, -⟩ := h₃
  obtain ⟨⟨name, hname, hread₄⟩, -⟩ := h₄
  obtain ⟨hne, hblank⟩ := allBlank_of_mem_gap1 hg
  obtain ⟨ws₁, hws₁, -⟩ := exists_phrase_of_mem_modifiers isWord_of_mem_typeModifier hmods
  obtain ⟨ws₂, w, hw, hws₂⟩ := exists_phrase_of_mem_containerKeyword hkeyword hne hblank
  refine ⟨s₃, s₄, mods ++ (keyword ++ g), name, ws₁ ++ ws₂, w, hw,
    hread₁.trans (hread₂.trans hread₃), ?_, hread₄, isWord_of_mem_nameWord hname, hvisibility, h⟩
  rw [List.append_assoc]
  exact hws₁.append hws₂

/-- **A header of a type has the text of one.** -/
theorem exists_typeText {chars : List Char} {h : ContainerHeader}
    (hh : h ∈ containerHeaders chars) : Nonempty (TypeText chars h) := by
  obtain ⟨m, hm, rfl⟩ := List.mem_map.1 hh
  obtain ⟨⟨before, hbefore⟩, consuming, hmatch⟩ := exists_matchAt?_of_mem_allFrom hm
  obtain ⟨-, k, hk, hrun⟩ := run_of_matchAt? hmatch
  rw [containerPattern, run_concat_cons, run_alt, Option.or_eq_some_iff] at hrun
  obtain ⟨s, hstart, hrun⟩ := hrun.elim typeStart_of_run_lineStart
    fun hrun => typeStart_of_run_markStart hrun.2
  obtain ⟨s', s'', u, name, ws, w, hw, hread', hphrase, hread'', hname, hvisibility, hstop⟩ :=
    exists_of_run_keyword hrun
  obtain ⟨room, vs, v, hread, hroom, hvs⟩ := hstart.reads
  have hend : m.stop = s''.remember .name s'.cursor := (hk _ _ hstop).symm
  have hbeforeEq : m.start.before = before.reverse := by simpa [Cursor.start] using hbefore.2
  have hcolumn : m.start.column = before.length := by simp [Cursor.column, hbeforeEq]
  have hname? : m.capture? .name = some ⟨s'.cursor, s''.cursor⟩ := by
    rw [Match.capture?, hend]
    exact Progress.capture?_remember_self _ _ _
  have hnameColumn : (ContainerHeader.ofMatch m).nameColumn = s'.cursor.column := by
    simp [ContainerHeader.ofMatch, partColumn, hname?, Capture.column]
  have hvisibility? : m.capture? .visibility = s.capture? .visibility := by
    rw [Match.capture?, hend, ← hvisibility]
    exact Progress.capture?_remember_of_ne _ (by decide) _
  exact ⟨{
    before := before
    room := room
    phrase := v ++ u
    name := name
    rest := s''.cursor.after
    words := vs ++ ws
    keyword := w
    chars_eq := by
      have hall := (hbefore.trans (hread.trans (hread'.trans hread''))).1
      simpa [Cursor.start] using hall
    column_eq := hcolumn
    nameColumn_eq := by
      rw [hnameColumn, (hread.trans hread').column_eq, hcolumn]
      simp [Nat.add_assoc]
    endColumn_eq := by
      rw [hnameColumn, ← hread''.column_eq]
      exact congrArg (·.cursor.column) hend
    before_last := by
      intro c hc
      refine hstart.before_last c ?_
      rwa [hbeforeEq, List.head?_reverse]
    before_eq := by
      intro hsome
      have hcapture : (s.capture? .visibility).isSome = true := by
        rw [← hvisibility?]
        simpa [ContainerHeader.ofMatch, Match.captured?] using hsome
      simpa [hbeforeEq] using hstart.before_eq hcapture
    isRoom := hroom
    isPhrase := by
      rw [List.append_assoc]
      exact hvs.append hphrase
    keyword_mem := hw
    isName := hname }⟩

/-! ## Headers of members -/

/-- A text that shows a mark behind blanks. -/
def ShowsMark (u : List Char) : Prop :=
  ∃ g c v, u = g ++ c :: v ∧ AllBlank g ∧ c ∈ memberMarks

/-- **A header of a member has the text of one**, whatever shows a mark behind its name. -/
lemma exists_memberText_of_matchStart? {chars : List Char} {m : Match Part}
    {ps : List HeaderPattern} (hps : ∀ u ∈ (concat ps).language, ShowsMark u)
    (hkeys : (concat ps).keys = []) (h : (concat (memberStart ++ ps)).matchStart? chars = some m) :
    Nonempty (MemberText chars (MemberHeader.ofMatch m)) := by
  obtain ⟨-, k, hk, h⟩ := run_of_matchAt? h
  obtain ⟨-, s, room, u, vs, hread, hroom, hvs, hvisibility, hfirst, h⟩ := exists_of_run_lineStart
    (fun v hv g hne hblank => exists_phrase_of_mem_visibilityRun hv hne hblank) h
  obtain ⟨s₁, ⟨⟨mods, hmods, hread₁⟩, -⟩, h⟩ := reaches_of_run_concat_group h
  obtain ⟨s₂, ⟨⟨type, htype, hread₂⟩, -⟩, h⟩ := reaches_of_run_concat_group h
  obtain ⟨s₃, h₃, h⟩ := reaches_of_run_concat_cons h
  obtain ⟨s₄, h₄, h⟩ := reaches_of_run_concat_group h
  obtain ⟨s₅, h₅, h⟩ := reaches_of_run_concat_cons h
  obtain ⟨s₆, h₆, h⟩ := run_within (concat ps) _ _ _ h
  obtain rfl := hk _ _ h
  have hname? : m.capture? .name = some ⟨s₃.cursor, s₄.cursor⟩ := by
    rw [Match.capture?, h₆.capture?_eq (by simp [hkeys]), h₅.capture?_eq (by decide)]
    exact Progress.capture?_remember_self _ _ _
  have htype? : m.capture? .type = some ⟨s₁.cursor, s₂.cursor⟩ := by
    rw [Match.capture?, h₆.capture?_eq (by simp [hkeys]), h₅.capture?_eq (by decide),
      Progress.capture?_remember_of_ne _ (by decide), h₄.capture?_eq (by decide),
      h₃.capture?_eq (by decide)]
    exact Progress.capture?_remember_self _ _ _
  obtain ⟨⟨g, hg, hread₃⟩, -⟩ := h₃
  obtain ⟨⟨name, hname, hread₄⟩, -⟩ := h₄
  obtain ⟨⟨g₅, hg₅, hread₅⟩, -⟩ := h₅
  obtain ⟨⟨w, hw, hread₆⟩, -⟩ := h₆
  obtain ⟨g', mark, rest, rfl, hg', hmark⟩ := hps w hw
  obtain ⟨ws, hws, hmodifiers⟩ :=
    exists_phrase_of_mem_modifiers isWord_of_mem_memberModifier hmods
  have hread' := (hread.trans hread₁).trans (hread₂.trans hread₃)
  exact ⟨{
    room := room
    phrase := u ++ mods
    type := type
    gap := g
    name := name
    gap' := g₅ ++ g'
    mark := mark
    rest := rest ++ m.stop.cursor.after
    words := vs ++ ws
    chars_eq := by
      have hall := (hread'.trans (hread₄.trans (hread₅.trans hread₆))).1
      simpa [Cursor.start] using hall
    nameColumn_eq := by
      have hcolumn := hread'.column_eq
      simp only [MemberHeader.ofMatch, partColumn, hname?, Capture.column, Option.map_some,
        Option.getD_some]
      simpa [Cursor.start, Cursor.column, Nat.add_assoc] using hcolumn
    type_eq := by
      have htext : Capture.text ⟨s₁.cursor, s₂.cursor⟩ = type := hread₂.textSince_eq
      simp [MemberHeader.ofMatch, partText, Match.captured?, htype?, htext]
    name_eq := by
      have htext : Capture.text ⟨s₃.cursor, s₄.cursor⟩ = name := hread₄.textSince_eq
      simp [MemberHeader.ofMatch, partText, Match.captured?, hname?, htext]
    isRoom := hroom
    isPhrase := hvisibility.append hws
    words_ne_nil := by simp [hvs]
    words_mem := fun w hw => (List.mem_append.1 hw).imp (hfirst w) (hmodifiers w)
    isType := isType_of_mem_typeReference htype
    gap_ne_nil := (allBlank_of_mem_gap1 hg).1
    gap_blank := (allBlank_of_mem_gap1 hg).2
    isName := isWord_of_mem_nameWord hname
    gap'_blank := fun c hc => (List.mem_append.1 hc).elim (allBlank_of_mem_gap hg₅ c) (hg' c)
    mark_mem := hmark }⟩

lemma exists_memberText_of_method {chars : List Char} {h : MemberHeader}
    (hh : methodHeader? chars = some h) : Nonempty (MemberText chars h) := by
  obtain ⟨m, hm, rfl⟩ := Option.map_eq_some_iff.1 hh
  refine exists_memberText_of_matchStart? (fun u hu => ?_) rfl hm
  obtain ⟨args, hargs, _, hu', rfl⟩ := mem_language_concat_cons.1 hu
  obtain ⟨g, hg, _, hopen, rfl⟩ := mem_language_concat_cons.1 hu'
  rw [mem_language_char.1 hopen]
  obtain ⟨us, rfl, -, hus⟩ := exists_of_mem_language_rounds hargs
  cases us with
  | nil => exact ⟨g, '(', [], rfl, allBlank_of_mem_gap hg, by decide⟩
  | cons v us =>
    obtain ⟨_, hless, v', -, rfl⟩ := mem_language_concat_cons.1 (hus _ List.mem_cons_self)
    rw [mem_language_char.1 hless]
    exact ⟨[], '<', _, rfl, by simp [AllBlank], by decide⟩

lemma exists_memberText_of_property {chars : List Char} {h : MemberHeader}
    (hh : propertyHeader? chars = some h) : Nonempty (MemberText chars h) := by
  obtain ⟨m, hm, rfl⟩ := Option.map_eq_some_iff.1 hh
  refine exists_memberText_of_matchStart? (fun u hu => ?_) rfl hm
  rcases hu with hu | hu
  · obtain ⟨_, hopen, v, -, rfl⟩ := mem_language_concat_cons.1 hu
    rw [mem_language_char.1 hopen]
    exact ⟨[], '{', v, rfl, by simp [AllBlank], by decide⟩
  · rw [mem_language_literal.1 hu]
    exact ⟨[], '=', ['>'], rfl, by simp [AllBlank], by decide⟩

end Conformance.Source
