/-
# Lines of members, and lines without headers

The header of a type stands at the start of a line or behind a mark, so a line is free of them if
the pattern fails at these places (`containerHeaders_eq_nil`).  The line of a property holds the
header of the property and none of a type; a property needs an arrow, or a brace with something
behind it (`propertyHeader?_eq_none`).
-/
import Conformance.Proofs.Source.TypeLine

namespace Conformance.Source

open Pattern
open Progress (amid)

variable {b a : List Char} {cs : List (Part × Capture)} {k : Continuation Part}

/-! ## Lines without the header of a type -/

/-- The header of a type starts a line, or stands behind a brace or a semicolon. -/
lemma containerPattern_failsAt_inside {x : Char} (hx : StackState.marks x = false) :
    containerPattern.FailsAt (amid (x :: b) a cs) := by
  refine FailsAt.concat_cons (FailsAt.alt ?_ ?_) _
  · intro k'
    rw [run_concat_cons]
    rfl
  · have hmark : ¬ (CharTest.chars ['{', '}', ';']).accepts x = true := by
      simpa [CharTest.chars, CharTest.oneOf, CharTest.accepts, StackState.marks,
        and_assoc] using hx
    intro k'
    rw [run_concat_cons, run_behind_one, run_one_cons, if_neg hmark]
    rfl

/-- A line has no header of a type if none stands at its start or behind a mark. -/
lemma containerHeaders_eq_nil {text : List Char}
    (hstart : containerPattern.FailsAt (amid [] text []))
    (hmark : ∀ u x v, text = u ++ x :: v → StackState.marks x = true →
      containerPattern.FailsAt (amid (x :: u.reverse) v [])) : containerHeaders text = [] := by
  have hnone : containerPattern.searchFrom? false (Cursor.start text) = none := by
    refine searchFrom?_eq_none ?_ false
    intro u d hd
    rw [← Progress.amid_eq ⟨d, []⟩]
    have hbefore : d.before = u.reverse := by simpa [Cursor.start] using hd.2
    rcases List.eq_nil_or_concat u with rfl | ⟨u, x, rfl⟩
    · have hafter : d.after = text := by simpa [Cursor.start] using hd.1.symm
      simpa [hbefore, hafter] using hstart
    · have hafter : text = u ++ x :: d.after := by simpa [Cursor.start] using hd.1
      have hbefore' : d.before = x :: u.reverse := by simpa using hbefore
      simp only [hbefore']
      cases hx : StackState.marks x with
      | true => exact hmark u x d.after hafter hx
      | false => exact containerPattern_failsAt_inside hx
  rw [containerHeaders, all_eq_nil hnone, List.map_nil]

lemma containerHeaders_eq_nil_of_no_name {text : List Char}
    (h : ∀ x ∈ text, Text.isNameStart x = false) : containerHeaders text = [] := by
  have hreads : containerPattern.reads (· == nameStart) = true := by decide
  rw [containerHeaders, all_eq_nil, List.map_nil]
  exact searchFrom?_eq_none_of_reads hreads (fun x hx => not_chosen_nameStart (h x hx)) false

/-! ## Lists of names -/

/-- Words fail if what follows fails behind each of them. -/
lemma run_words_eq_none {w : String} {ws : List String}
    (h : ∀ v ∈ w :: ws, ∀ b' a', a = v.toList ++ a' → k (amid b' a' cs) = none) :
    run (words (w :: ws)) (amid b a cs) k = none := by
  refine run_oneOf_eq_none fun q (hq : q ∈ (w :: ws).map word) => ?_
  obtain ⟨v, hv, rfl⟩ := List.mem_map.1 hq
  exact run_word_eq_none fun a' ha => h v hv _ a' ha

/-- Behind word characters at the start of a text stands no blank. -/
def NoBlankBehindWord (text : List Char) : Prop :=
  ∀ w rest, text = w ++ rest → (∀ x ∈ w, Text.isWord x = true) →
    (CharTest.blank false).RefusesStart rest

/-- A visibility at the start of a line needs a blank behind it. -/
lemma containerPattern_failsAt_start {u v : List Char} (hu : ∀ x ∈ u, Text.isBlank x = true)
    (hbracket : (CharTest.char '[').RefusesStart v) (hv : NoBlankBehindWord v) :
    containerPattern.FailsAt (amid [] (u ++ v) cs) := by
  have hblank : (CharTest.blank false).RefusesStart v := hv [] v rfl (by simp)
  have hletters : ∀ w ∈ ["public", "internal", "private", "protected", "file"],
      ∀ x ∈ w.toList, Text.isWord x = true := by
    simp only [← List.all_eq_true]
    decide
  refine FailsAt.concat_cons (FailsAt.alt ?_ ?_) _
  · intro k'
    rw [run_lineStart hu hblank hbracket, run_concat_cons, run_group, run_alt]
    · -- behind the first word, which is all that a visibility can read, stands no blank
      have hvisibility : ∀ K : Continuation Part,
          (∀ b' a', (CharTest.blank false).RefusesStart a' → K (amid b' a' cs) = none) →
          run visibilityRun (amid u.reverse v cs) K = none := by
        intro K hK
        rw [visibilityRun, run_seq]
        refine run_words_eq_none fun w hw b' a' ha => ?_
        have hrest := hv w.toList a' ha (hletters w (List.mem_append_left ["file"] hw))
        rw [run_opt_of_failsAt (failsAt_gap1 hrest).seq]
        exact hK b' a' hrest
      have hgap : ∀ b' a', (CharTest.blank false).RefusesStart a' →
          run (concat [gap1]) ((amid b' a' cs).remember .visibility (amid u.reverse v cs).cursor) k'
            = none :=
        fun b' a' ha => failsAt_gap1 ha k'
      rw [hvisibility _ hgap, run_word_eq_none, Option.none_or]
      intro a' ha
      exact hgap _ a' (hv "file".toList a' ha (hletters "file" (by simp)))
    · intro b' x rest hx
      have hfile : (words ["file"] : HeaderPattern).FailsAt (amid b' (x :: rest) cs) :=
        failsAt_words_of_start Text.isBlank hx rfl
      exact (FailsAt.alt (visibilityWord_failsAt_blank hx).seq hfile).group _
  · intro k'
    rw [run_concat_cons]
    rfl

lemma noBlankBehindWord_append {m t : List Char} (hm : ∀ x ∈ m, Text.isWord x = true)
    (hblank : (CharTest.blank false).RefusesStart t)
    (hword : (CharTest.word false).RefusesStart t) : NoBlankBehindWord (m ++ t) := by
  intro w rest htext hw
  rcases List.append_eq_append_iff.1 htext with ⟨m', rfl, rfl⟩ | ⟨m', rfl, rfl⟩
  · cases m' with
    | nil => exact hblank
    | cons x m' =>
      have hx : Text.isWord x = false := hword x _ rfl
      exact absurd (hw x (by simp)) (by simp [hx])
  · cases m' with
    | nil => exact hblank
    | cons x m' =>
      exact CharTest.refusesStart_cons.2 (Text.isBlank_eq_false_of_isWord (hm x (by simp)))

/-! ## Properties -/

/-- What stands behind the name of a property. -/
def accessors : List Char :=
  " \x7b get; set; \x7d".toList

/-- The line of a public property. -/
def propertyLine (indent name : List Char) : List Char :=
  indent ++ ("public".toList ++ ' ' :: ("int".toList ++ ' ' :: (name ++ accessors)))

/-- The line of a public property up to the end of its name. -/
def propertyStart (indent name : List Char) : List Char :=
  indent ++ ("public".toList ++ ' ' :: ("int".toList ++ ' ' :: name))

lemma propertyLine_eq (indent name : List Char) :
    propertyLine indent name = propertyStart indent name ++ accessors := by
  simp [propertyLine, propertyStart]

lemma marks_of_isBlank {x : Char} (h : Text.isBlank x = true) : StackState.marks x = false := by
  have h₁ : x ≠ '{' := Text.ne_of_isBlank h rfl
  have h₂ : x ≠ '}' := Text.ne_of_isBlank h rfl
  have h₃ : x ≠ ';' := Text.ne_of_isBlank h rfl
  simp [StackState.marks, h₁, h₂, h₃]

lemma marks_of_isWord {x : Char} (h : Text.isWord x = true) : StackState.marks x = false := by
  have h₁ : x ≠ '{' := Text.ne_of_isWord h rfl
  have h₂ : x ≠ '}' := Text.ne_of_isWord h rfl
  have h₃ : x ≠ ';' := Text.ne_of_isWord h rfl
  simp [StackState.marks, h₁, h₂, h₃]

/-- A public declaration has blanks and words only, up to the end of its name. -/
lemma isBlank_or_isWord_of_mem {indent w name : List Char}
    (hindent : ∀ x ∈ indent, Text.isBlank x = true) (hw : ∀ x ∈ w, Text.isWord x = true)
    (hname : ∀ x ∈ name, Text.isWord x = true) {x : Char}
    (hx : x ∈ indent ++ ("public".toList ++ ' ' :: (w ++ ' ' :: name))) :
    Text.isBlank x = true ∨ Text.isWord x = true := by
  have hpublic : ∀ y ∈ "public".toList, Text.isWord y = true := List.all_eq_true.1 (by decide)
  simp only [List.mem_append, List.mem_cons] at hx
  rcases hx with hx | hx | rfl | hx | rfl | hx
  · exact .inl (hindent x hx)
  · exact .inr (hpublic x hx)
  · exact .inl rfl
  · exact .inr (hw x hx)
  · exact .inl rfl
  · exact .inr (hname x hx)

lemma marks_of_mem_propertyStart {indent name : List Char}
    (hindent : ∀ x ∈ indent, Text.isBlank x = true) (hname : ∀ x ∈ name, Text.isWord x = true)
    {x : Char} (hx : x ∈ propertyStart indent name) : StackState.marks x = false := by
  have hint : ∀ y ∈ "int".toList, Text.isWord y = true := List.all_eq_true.1 (by decide)
  exact (isBlank_or_isWord_of_mem hindent hint hname hx).elim marks_of_isBlank marks_of_isWord

/-- Every keyword has one of the letters `c` and `m`, and the accessors have neither. -/
lemma accessors_no_keyword : ∀ x ∈ accessors,
    ¬ Chosen (fun t => t == .char 'c' || t == .char 'm') x := by
  have hne : ∀ x ∈ accessors, x ≠ 'c' ∧ x ≠ 'm' := by
    have hall : accessors.all (fun x => x != 'c' && x != 'm') = true := by decide
    simpa using hall
  rintro x hx ⟨t, ht, haccepts⟩
  obtain ⟨hc, hm⟩ := hne x hx
  rcases Bool.or_eq_true_iff.1 ht with ht | ht
  · rw [beq_iff_eq.1 ht] at haccepts
    exact hc (beq_iff_eq.1 haccepts)
  · rw [beq_iff_eq.1 ht] at haccepts
    exact hm (beq_iff_eq.1 haccepts)

lemma containerHeaders_propertyLine {indent name : List Char}
    (hindent : ∀ x ∈ indent, Text.isBlank x = true) (hname : ∀ x ∈ name, Text.isWord x = true) :
    containerHeaders (propertyLine indent name) = [] := by
  have hreads : containerPattern.reads (fun t => t == .char 'c' || t == .char 'm') = true := by
    decide
  refine containerHeaders_eq_nil ?_ ?_
  · -- at the start of the line, the type stands where a keyword should
    intro k'
    have hvisibility : ∀ b' cs', visibilityWord.FailsAt
        (amid b' ("int".toList ++ ' ' :: (name ++ accessors)) cs') := fun _ _ => failsAt_words rfl
    have hmodifier : ∀ b' cs', typeModifier.FailsAt
        (amid b' ("int".toList ++ ' ' :: (name ++ accessors)) cs') := fun _ _ => failsAt_words rfl
    have hblank : (CharTest.blank false).RefusesStart
        ("int".toList ++ ' ' :: (name ++ accessors)) := CharTest.refusesStart_cons.2 rfl
    rw [propertyLine, run_containerPattern_start hindent hblank hvisibility, run_concat_cons,
      run_group, run_star_of_failsAt (hmodifier _ _).seq,
      Progress.remember_amid, run_concat_cons, run_group]
    refine run_oneOf_eq_none ?_
    intro q hq
    simp only [List.mem_cons, List.not_mem_nil, or_false] at hq
    rcases hq with rfl | rfl | rfl | rfl | rfl | rfl | rfl
    · exact (failsAt_word rfl).concat_cons _ _
    · exact (failsAt_word rfl).concat_cons _ _
    all_goals exact failsAt_word rfl _
  · -- the marks of the line belong to the accessors, which have no keyword
    intro u x v htext hx k'
    have hsuffix : v <:+ accessors := by
      have hsplit : propertyStart indent name ++ accessors = u ++ x :: v := by
        rw [← htext, propertyLine_eq]
      rcases List.append_eq_append_iff.1 hsplit with ⟨m, -, hm⟩ | ⟨m, hm, hm'⟩
      · exact ⟨m ++ [x], by simp [hm]⟩
      · cases m with
        | nil => exact ⟨[x], by simpa using hm'⟩
        | cons y m =>
          obtain ⟨rfl, -⟩ := List.cons.inj hm'
          have hmem : x ∈ propertyStart indent name := by
            rw [hm]
            simp
          exact absurd hx (by simp [marks_of_mem_propertyStart hindent hname hmem])
    refine failsAt_of_reads hreads ?_ k'
    intro y hy
    exact accessors_no_keyword y (hsuffix.subset hy)

/-- The end of the pattern of a property: its first accessor or its arrow. -/
def propertyBody : HeaderPattern :=
  alt
    (concat [char '{', gap, opt (seq visibilityWord gap1), words ["get", "set", "init"],
      .anchor (.wordEdge false)])
    (word "=>")

lemma run_typeReference_int {s : Progress Part}
    (hk : k (amid ("int".toList.reverse ++ b) (' ' :: a) cs) = some s) :
    run typeReference (amid b ("int".toList ++ ' ' :: a) cs) k = some s := by
  have hfirst : (CharTest.either (.word false) (.char '.')).accepts 'i' = true := rfl
  have hletters : ∀ x ∈ "nt".toList, (CharTest.either (.word false) (.char '.')).accepts x = true :=
    List.all_eq_true.1 (by decide)
  have hspace : (CharTest.either (.word false) (.char '.')).RefusesStart (' ' :: a) :=
    CharTest.refusesStart_cons.2 rfl
  have hsplit : "int".toList ++ ' ' :: a = 'i' :: ("nt".toList ++ ' ' :: a) := rfl
  have hfails : ∀ x, x ≠ ' ' → ∀ b', (char x : HeaderPattern).FailsAt (amid b' (' ' :: a) cs) := by
    intro x hx b'
    exact failsAt_one (CharTest.refusesStart_cons.2 (by simpa [CharTest.accepts] using hx.symm))
  rw [typeReference, run_concat_cons, run_plus, hsplit, run_one_cons, if_pos hfirst]
  refine run_star_one_eq_some hletters hspace ?_
  rw [run_concat_cons, run_opt_of_failsAt ((hfails '<' (by decide) _).concat_cons _),
    run_concat_cons, run_star_of_failsAt ((hfails '[' (by decide) _).concat_cons _),
    run_concat_cons, run_opt_of_failsAt (hfails '?' (by decide) _)]
  exact hk

/-- What the groups of the pattern remember of the line of a property. -/
def propertyCaptures (indent name : List Char) : List (Part × Capture) :=
  let afterPublic := "public".toList.reverse ++ indent.reverse
  let afterType := "int".toList.reverse ++ ' ' :: afterPublic
  [(.name, ⟨.amid (' ' :: afterType) (name ++ accessors),
      .amid (name.reverse ++ ' ' :: afterType) accessors⟩),
    (.type, ⟨.amid (' ' :: afterPublic) ("int".toList ++ ' ' :: (name ++ accessors)),
      .amid afterType (' ' :: (name ++ accessors))⟩),
    (.modifiers, ⟨.amid (' ' :: afterPublic) ("int".toList ++ ' ' :: (name ++ accessors)),
      .amid (' ' :: afterPublic) ("int".toList ++ ' ' :: (name ++ accessors))⟩),
    (.visibility, ⟨.amid indent.reverse
        ("public".toList ++ ' ' :: ("int".toList ++ ' ' :: (name ++ accessors))),
      .amid afterPublic (' ' :: ("int".toList ++ ' ' :: (name ++ accessors)))⟩)]

/-- What the pattern finds on the line of a property. -/
def propertyMatch (indent name : List Char) : Match Part where
  start := Cursor.start (propertyLine indent name)
  stop := amid ("teg \x7b ".toList ++ (name.reverse ++ ' ' :: ("int".toList.reverse ++ ' ' ::
    ("public".toList.reverse ++ indent.reverse)))) "; set; \x7d".toList
    (propertyCaptures indent name)

lemma matchStart?_propertyPattern {indent name : List Char}
    (hindent : ∀ x ∈ indent, Text.isBlank x = true) (hname : isName name = true) :
    propertyPattern.matchStart? (propertyLine indent name) = some (propertyMatch indent name) := by
  have hparts : propertyPattern = concat (.anchor .textStart :: gap :: attributes ::
      .group .visibility visibilityRun :: gap1 ::
      [.group .modifiers (star (seq memberModifier gap1)), .group .type typeReference, gap1,
        .group .name nameWord, gap, propertyBody]) := rfl
  have hvisibility : ∀ b', visibilityWord.FailsAt
      (amid b' ("int".toList ++ ' ' :: (name ++ accessors)) []) := fun _ => failsAt_words rfl
  have hmodifier : ∀ b' cs', memberModifier.FailsAt
      (amid b' ("int".toList ++ ' ' :: (name ++ accessors)) cs') := fun _ _ => failsAt_words rfl
  have hblank : (CharTest.blank false).RefusesStart
      ("int".toList ++ ' ' :: (name ++ accessors)) := CharTest.refusesStart_cons.2 rfl
  have hnameBlank := refusesStart_blank_name hname accessors
  have hend : (CharTest.word false).RefusesStart accessors := CharTest.refusesStart_cons.2 rfl
  have hspaces : ∀ x ∈ [' '], (CharTest.blank false).accepts x = true :=
    List.all_eq_true.1 (by decide)
  rw [matchStart?, matchAt?, Option.map_eq_some_iff]
  refine ⟨(propertyMatch indent name).stop, ?_, rfl⟩
  have hline : (⟨Cursor.start (propertyLine indent name), []⟩ : Progress Part)
      = amid [] (propertyLine indent name) [] := rfl
  rw [hline, hparts, propertyLine,
    run_lineStart_public hindent hblank hvisibility (fun _ _ _ => rfl)
      fun b' x rest hx => (visibilityWord_failsAt_blank hx).seq,
    run_concat_cons, run_group,
    run_star_of_failsAt (hmodifier _ _).seq, Progress.remember_amid, run_concat_cons, run_group]
  refine run_typeReference_int ?_
  rw [Progress.remember_amid, run_concat_cons, run_gap1_space hnameBlank, run_concat_cons,
    run_group]
  refine run_nameWord hname hend ?_
  rw [Progress.remember_amid, run_concat_cons]
  refine run_star_one_eq_some (u := [' ']) hspaces (CharTest.refusesStart_cons.2 rfl) ?_
  rfl

/-- The header of a public property that stands on a line. -/
def propertyHeader (indent name : List Char) : MemberHeader where
  column := 0
  endColumn := name.length + (indent.length + 11) + 6
  visibility := "public"
  modifiers := ""
  type := "int"
  name := String.ofList name
  nameColumn := indent.length + 11

theorem propertyHeader?_propertyLine {indent name : List Char}
    (hindent : ∀ x ∈ indent, Text.isBlank x = true) (hname : isName name = true) :
    propertyHeader? (propertyLine indent name) = some (propertyHeader indent name) := by
  have hvisibility : (propertyMatch indent name).captured? .visibility
      = some (String.ofList "public".toList) :=
    congrArg (fun u => some (String.ofList u)) (Cursor.textSince_amid _ _ _ _)
  have hmodifiers : (propertyMatch indent name).captured? .modifiers = some "" :=
    congrArg (fun u => some (String.ofList u)) (Cursor.textSince_amid _ _ [] _)
  have htype : (propertyMatch indent name).captured? .type = some (String.ofList "int".toList) :=
    congrArg (fun u => some (String.ofList u)) (Cursor.textSince_amid _ _ _ _)
  have hcaptured : (propertyMatch indent name).captured? .name = some (String.ofList name) :=
    congrArg (fun u => some (String.ofList u)) (Cursor.textSince_amid _ _ _ _)
  have hcolumn : partColumn (propertyMatch indent name) .name = indent.length + 11 := by
    have hlength : partColumn (propertyMatch indent name) .name
        = (' ' :: ("int".toList.reverse ++ ' ' ::
          ("public".toList.reverse ++ indent.reverse))).length := rfl
    rw [hlength]
    simp
  have hend : (propertyMatch indent name).endColumn = name.length + (indent.length + 11) + 6 := by
    have hlength : (propertyMatch indent name).endColumn
        = ("teg \x7b ".toList ++ (name.reverse ++ ' ' :: ("int".toList.reverse ++ ' ' ::
          ("public".toList.reverse ++ indent.reverse)))).length := rfl
    rw [hlength]
    simp
  rw [propertyHeader?, matchStart?_propertyPattern hindent hname, Option.map_some,
    MemberHeader.ofMatch]
  simp only [partText, hvisibility, hmodifiers, htype, hcaptured, hcolumn, hend, Option.getD_some,
    String.ofList_toList]
  rfl

/-- A property needs an arrow, or a brace and something behind it. -/
lemma propertyBody_failsAt {s : Progress Part} (harrow : '=' ∉ s.cursor.after)
    (hbrace : ∀ u v, s.cursor.after = u ++ '{' :: v → v = []) : propertyBody.FailsAt s := by
  rw [← Progress.amid_eq s]
  refine FailsAt.alt ?_ ?_
  · intro k
    cases ha : s.cursor.after with
    | nil => rfl
    | cons x rest =>
      rw [run_concat_cons, char, run_one_cons]
      by_cases hx : (CharTest.char '{').accepts x = true
      · have hrest : rest = [] := by
          refine hbrace [] rest ?_
          rw [ha, beq_iff_eq.1 hx, List.nil_append]
        have hreads : (concat [gap, opt (seq visibilityWord gap1), words ["get", "set", "init"],
            .anchor (.wordEdge false)] : HeaderPattern).reads (fun _ => true) = true := by decide
        rw [if_pos hx, hrest]
        exact failsAt_of_reads hreads (by simp) k
      · rw [if_neg hx]
  · exact failsAt_of_reads (show (word "=>" : HeaderPattern).needs '=' = true by decide)
      fun y hy => not_chosen_char fun hyx => harrow (hyx ▸ hy)

/-- Only a line with an arrow, or with something behind a brace, holds a property. -/
lemma propertyHeader?_eq_none {text : List Char} (harrow : '=' ∉ text)
    (hbrace : ∀ u v, text = u ++ '{' :: v → v = []) : propertyHeader? text = none := by
  have hfails : propertyPattern.FailsAt ⟨Cursor.start text, []⟩ := by
    intro k
    by_contra hne
    obtain ⟨r, hr⟩ := Option.ne_none_iff_exists'.1 hne
    have hparts : propertyPattern = concat (memberStart ++ [propertyBody]) := rfl
    rw [hparts, run_concat_append] at hr
    obtain ⟨s', u, hu, hk, -⟩ := run_forward (fun _ => true) _ _ _ _ hr
    have htext : text = u ++ s'.cursor.after := hu.1
    refine absurd hk ?_
    rw [run_concat_cons, propertyBody_failsAt]
    · simp
    · intro hmem
      exact harrow (by rw [htext]; exact List.mem_append_right _ hmem)
    · intro v w hvw
      refine hbrace (u ++ v) w ?_
      rw [htext, hvw, List.append_assoc]
  rw [propertyHeader?, matchStart?, hfails.matchAt?_eq_none, Option.map_none]

end Conformance.Source
