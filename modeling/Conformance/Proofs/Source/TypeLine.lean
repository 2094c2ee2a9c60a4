/-
# Lines with the header of a type

A line that starts with `public`, the word for a sort of type and a name holds the header of that
type and no other header (`containerHeaders_typeLine`).  The pattern is run on such a line piece by
piece.  After the word `record` a name may start like the word for a second sort; the pattern then
tries the longer keyword first and comes back, since no name is left behind it.
-/
import Conformance.Proofs.Pattern.Equations
import Conformance.Proofs.Text.Letters
import Conformance.Source.Scope

namespace Conformance.Source

open Pattern
open Progress (amid)

variable {b a : List Char} {cs : List (Part × Capture)} {k : Continuation Part}

/-! ## Blanks and attributes -/

lemma run_gap {u v : List Char} (hu : ∀ x ∈ u, Text.isBlank x = true)
    (hv : (CharTest.blank false).RefusesStart v)
    (hk : ∀ b' x rest, Text.isBlank x = true → k (amid b' (x :: rest) cs) = none) :
    run gap (amid b (u ++ v) cs) k = k (amid (u.reverse ++ b) v cs) :=
  run_star_one_eq hu hv hk

lemma run_gap1_space (h : (CharTest.blank false).RefusesStart a) :
    run gap1 (amid b (' ' :: a) cs) k = k (amid (' ' :: b) a cs) := by
  have hspace : (CharTest.blank false).accepts ' ' = true := rfl
  rw [gap1, run_plus, run_one_cons, if_pos hspace, run_star_of_failsAt (failsAt_one h)]

lemma failsAt_gap1 (h : (CharTest.blank false).RefusesStart a) :
    (gap1 : HeaderPattern).FailsAt (amid b a cs) :=
  (failsAt_one h).plus

lemma run_attributes (h : (CharTest.char '[').RefusesStart a) :
    run attributes (amid b a cs) k = k (amid b a cs) :=
  run_star_of_failsAt ((failsAt_one h).concat_cons _)

/-! ## Visibility -/

lemma run_visibilityWord_public :
    run visibilityWord (amid b ("public".toList ++ a) cs) k
      = k (amid ("public".toList.reverse ++ b) a cs) := by
  have hrest : (words ["internal", "private", "protected"] : HeaderPattern).FailsAt
      (amid b ("public".toList ++ a) cs) := failsAt_words rfl
  have hwords : run visibilityWord (amid b ("public".toList ++ a) cs) k
      = (run (word "public") (amid b ("public".toList ++ a) cs) k).or
        (run (words ["internal", "private", "protected"]) (amid b ("public".toList ++ a) cs) k) :=
    run_alt
  rw [hwords, hrest, run_word, Option.or_none]

/-- Where a line goes on after a visibility with what is none. -/
lemma run_visibilityRun_public (ha : (CharTest.blank false).RefusesStart a)
    (hv : visibilityWord.FailsAt (amid (' ' :: ("public".toList.reverse ++ b)) a cs)) :
    run visibilityRun (amid b ("public".toList ++ ' ' :: a) cs) k
      = k (amid ("public".toList.reverse ++ b) (' ' :: a) cs) := by
  rw [visibilityRun, run_seq, run_visibilityWord_public, run_opt, run_seq, run_gap1_space ha, hv,
    Option.none_or]

lemma visibilityWord_failsAt_blank {x : Char} (hx : Text.isBlank x = true) :
    visibilityWord.FailsAt (amid b (x :: a) cs) :=
  failsAt_words_of_start Text.isBlank hx rfl

/-- The start of a line is read up to its first word if what follows fails at blanks. -/
lemma run_lineStart {u v : List Char} (hu : ∀ x ∈ u, Text.isBlank x = true)
    (hv : (CharTest.blank false).RefusesStart v) (hv' : (CharTest.char '[').RefusesStart v)
    {p : HeaderPattern} (ps : List HeaderPattern)
    (hp : ∀ b' x rest, Text.isBlank x = true → p.FailsAt (amid b' (x :: rest) cs)) :
    run (concat (.anchor .textStart :: gap :: attributes :: p :: ps)) (amid [] (u ++ v) cs) k
      = run (concat (p :: ps)) (amid u.reverse v cs) k := by
  have hstart : ∀ k, run (.anchor .textStart) (amid [] (u ++ v) cs) k = k (amid [] (u ++ v) cs) :=
    fun _ => rfl
  rw [run_concat_cons, hstart, run_concat_cons, run_gap hu hv, List.append_nil, run_concat_cons,
    run_attributes hv']
  intro b' x rest hx
  have hbracket : x ≠ '[' := Text.ne_of_isBlank hx rfl
  rw [run_concat_cons, run_attributes (CharTest.refusesStart_cons.2 (by simpa [CharTest.accepts]))]
  exact (hp b' x rest hx).concat_cons ps k

/-! ## Keywords -/

lemma typeModifier_failsAt (kind : ContainerKind) :
    typeModifier.FailsAt (amid b (kind.word.toList ++ a) cs) := by
  cases kind <;> exact failsAt_words rfl

lemma visibilityWord_failsAt_keyword (kind : ContainerKind) :
    visibilityWord.FailsAt (amid b (kind.word.toList ++ a) cs) := by
  cases kind <;> exact failsAt_words rfl

/-- A keyword is read where it stands.  For a record, what follows must fail behind a second word,
which then belongs to the name. -/
lemma run_containerKeyword (kind : ContainerKind) (ha : (CharTest.blank false).RefusesStart a)
    (hk : ∀ w ∈ ["class", "struct"], ∀ b' a', a = w.toList ++ a' → k (amid b' a' cs) = none) :
    run containerKeyword (amid b (kind.word.toList ++ ' ' :: a) cs) k
      = k (amid (kind.word.toList.reverse ++ b) (' ' :: a) cs) := by
  -- keywords of two words are tried first and fail, for a record by what follows
  have hlong : ∀ w ∈ ["class", "struct"],
      run (concat [word "record", gap1, word w]) (amid b (kind.word.toList ++ ' ' :: a) cs) k
        = none := by
    intro w hw
    cases kind with
    | record =>
      rw [run_concat_cons, ContainerKind.word, run_word, run_concat_cons, run_gap1_space ha]
      exact run_word_eq_none fun a' ha' => hk w hw _ a' ha'
    | _ => exact (failsAt_word rfl).concat_cons _ k
  have hother : ∀ w ∈ ["record", "class", "struct", "interface", "enum"], w ≠ kind.word →
      run (word w) (amid b (kind.word.toList ++ ' ' :: a) cs) k = none := by
    intro w hw hne
    refine failsAt_word ?_ k
    simp only [List.mem_cons, List.not_mem_nil, or_false] at hw
    cases kind <;> rcases hw with rfl | rfl | rfl | rfl | rfl <;> first
      | exact absurd rfl hne
      | rfl
  rw [containerKeyword, run_oneOf_eq (p := word kind.word), run_word]
  · cases kind <;> simp [ContainerKind.word]
  · intro q hq hne
    simp only [List.mem_cons, List.not_mem_nil, or_false] at hq
    rcases hq with rfl | rfl | rfl | rfl | rfl | rfl | rfl
    · exact hlong "class" (by simp)
    · exact hlong "struct" (by simp)
    all_goals exact hother _ (by simp) fun hw => hne (by rw [hw])

/-! ## Names -/

/-- The test for the first character of a name. -/
def nameStart : CharTest :=
  .oneOf [.between 'A' 'Z', .between 'a' 'z', .char '_']

lemma accepts_nameStart (c : Char) : nameStart.accepts c = Text.isNameStart c := by
  rw [Bool.eq_iff_iff]
  simp only [nameStart, CharTest.oneOf, CharTest.accepts, CharTest.between, Text.isNameStart,
    Text.isAlpha_iff, Bool.or_eq_true, Bool.and_eq_true, decide_eq_true_eq]
  tauto

lemma not_chosen_nameStart {x : Char} (h : Text.isNameStart x = false) :
    ¬ Chosen (· == nameStart) x := by
  rintro ⟨t, ht, hx⟩
  rw [beq_iff_eq.1 ht, accepts_nameStart, h] at hx
  exact absurd hx (by simp)

lemma run_nameWord {name t : List Char} {s : Progress Part} (hname : isName name = true)
    (ht : (CharTest.word false).RefusesStart t)
    (hk : k (amid (name.reverse ++ b) t cs) = some s) :
    run nameWord (amid b (name ++ t) cs) k = some s := by
  obtain ⟨c, rest, rfl, hc, hrest⟩ := isName_iff.1 hname
  have hstart : nameStart.accepts c = true := by rw [accepts_nameStart, hc]
  have hword : run nameWord (amid b (c :: rest ++ t) cs) k
      = run (.one nameStart) (amid b (c :: (rest ++ t)) cs)
        fun s' => run (star (.one (.word false))) s' k := rfl
  rw [hword, run_one_cons, if_pos hstart]
  exact run_star_one_eq_some hrest ht (by simpa using hk)

lemma refusesStart_blank_name {name : List Char} (h : isName name = true) (t : List Char) :
    (CharTest.blank false).RefusesStart (name ++ t) := by
  obtain ⟨c, rest, rfl, hc, -⟩ := isName_iff.1 h
  exact CharTest.refusesStart_cons.2
    (Text.isBlank_eq_false_of_isWord (Text.isWord_of_isNameStart hc))

/-- Behind the start of a name no blank stands before another name. -/
lemma gap1_nameWord_eq_none {m t : List Char} (hm : ∀ x ∈ m, Text.isWord x = true)
    (ht : ∀ x ∈ t, Text.isNameStart x = false) :
    run (concat [gap1, .group .name nameWord]) (amid b (m ++ t) cs) k = none := by
  cases m with
  | nil =>
    have hreads : (concat [gap1, .group .name nameWord] : HeaderPattern).reads (· == nameStart)
        = true := by decide
    refine failsAt_of_reads hreads ?_ k
    intro x hx
    exact not_chosen_nameStart (ht x hx)
  | cons x m =>
    have hx : Text.isBlank x = false := Text.isBlank_eq_false_of_isWord (hm x List.mem_cons_self)
    exact (failsAt_gap1 (CharTest.refusesStart_cons.2 hx)).concat_cons _ k

/-! ## The header of a type -/

/-- A line that starts with the header of a public type. -/
def typeLine (indent : List Char) (kind : ContainerKind) (name rest : List Char) : List Char :=
  indent ++ ("public".toList ++ ' ' :: (kind.word.toList ++ ' ' :: (name ++ rest)))

/-- What the groups of the pattern remember of such a line. -/
def typeCaptures (indent : List Char) (kind : ContainerKind) (name rest : List Char) :
    List (Part × Capture) :=
  let start := indent.reverse
  let afterPublic := "public".toList.reverse ++ start
  let afterKind := kind.word.toList.reverse ++ ' ' :: afterPublic
  [(.name, ⟨.amid (' ' :: afterKind) (name ++ rest),
      .amid (name.reverse ++ ' ' :: afterKind) rest⟩),
    (.keyword, ⟨.amid (' ' :: afterPublic) (kind.word.toList ++ ' ' :: (name ++ rest)),
      .amid afterKind (' ' :: (name ++ rest))⟩),
    (.modifiers, ⟨.amid (' ' :: afterPublic) (kind.word.toList ++ ' ' :: (name ++ rest)),
      .amid (' ' :: afterPublic) (kind.word.toList ++ ' ' :: (name ++ rest))⟩),
    (.visibility,
      ⟨.amid start ("public".toList ++ ' ' :: (kind.word.toList ++ ' ' :: (name ++ rest))),
      .amid afterPublic (' ' :: (kind.word.toList ++ ' ' :: (name ++ rest)))⟩)]

/-- At the start of a line, a public visibility is read if what follows is neither a blank nor
another visibility. -/
lemma run_lineStart_public {u v : List Char} (hu : ∀ x ∈ u, Text.isBlank x = true)
    (hv : (CharTest.blank false).RefusesStart v)
    (hvis : ∀ b', visibilityWord.FailsAt (amid b' v cs)) {p : HeaderPattern}
    (hpublic : ∀ b' a' k', run p (amid b' ("public".toList ++ a') cs) k'
      = run visibilityRun (amid b' ("public".toList ++ a') cs) k')
    (hblank : ∀ b' x rest, Text.isBlank x = true → p.FailsAt (amid b' (x :: rest) cs))
    (ps : List HeaderPattern) :
    run (concat (.anchor .textStart :: gap :: attributes :: .group .visibility p :: gap1 :: ps))
      (amid [] (u ++ ("public".toList ++ ' ' :: v)) cs) k
      = run (concat ps) (amid (' ' :: ("public".toList.reverse ++ u.reverse)) v
        ((.visibility, ⟨.amid u.reverse ("public".toList ++ ' ' :: v),
          .amid ("public".toList.reverse ++ u.reverse) (' ' :: v)⟩) :: cs)) k := by
  have hcons : "public".toList ++ ' ' :: v = 'p' :: ("ublic".toList ++ ' ' :: v) := rfl
  have hstart : (CharTest.blank false).RefusesStart ("public".toList ++ ' ' :: v) := by
    rw [hcons]
    exact CharTest.refusesStart_cons.2 rfl
  have hbracket : (CharTest.char '[').RefusesStart ("public".toList ++ ' ' :: v) := by
    rw [hcons]
    exact CharTest.refusesStart_cons.2 rfl
  rw [run_lineStart hu hstart hbracket _ fun b' x rest hx => (hblank b' x rest hx).group _,
    run_concat_cons, run_group, hpublic, run_visibilityRun_public hv (hvis _), run_concat_cons]
  exact run_gap1_space hv

/-- At the start of a line, only the first way to start the header of a type remains. -/
lemma run_containerPattern_start {u v : List Char} (hu : ∀ x ∈ u, Text.isBlank x = true)
    (hv : (CharTest.blank false).RefusesStart v)
    (hvis : ∀ b' cs', visibilityWord.FailsAt (amid b' v cs')) :
    run containerPattern (amid [] (u ++ ("public".toList ++ ' ' :: v)) cs) k
      = run (concat [.group .modifiers (star (seq typeModifier gap1)),
          .group .keyword containerKeyword, gap1, .group .name nameWord])
        (amid (' ' :: ("public".toList.reverse ++ u.reverse)) v
          ((.visibility, ⟨.amid u.reverse ("public".toList ++ ' ' :: v),
            .amid ("public".toList.reverse ++ u.reverse) (' ' :: v)⟩) :: cs)) k := by
  -- the other way needs a character before the header
  have hbehind : ∀ ps : List HeaderPattern,
      (concat (.behind true 1 (.one (.chars ['{', '}', ';'])) :: ps)).FailsAt
        (amid [] (u ++ ("public".toList ++ ' ' :: v)) cs) := by
    intro ps k'
    rw [run_concat_cons]
    rfl
  rw [containerPattern, run_concat_cons, run_alt, hbehind, Option.or_none,
    run_lineStart_public hu hv (fun b' => hvis b' cs)]
  · rfl
  · intro b' a' k'
    have hfile : (word "file" : HeaderPattern).FailsAt (amid b' ("public".toList ++ a') cs) :=
      failsAt_word rfl
    rw [run_alt, hfile, Option.or_none]
  · intro b' x rest hx
    have hfile : (words ["file"] : HeaderPattern).FailsAt (amid b' (x :: rest) cs) :=
      failsAt_words_of_start Text.isBlank hx rfl
    exact FailsAt.alt (visibilityWord_failsAt_blank hx).seq hfile

/-- What may stand on a line behind the name of a type: nothing that belongs to the name, and no
other name. -/
structure EndsName (rest : List Char) : Prop where
  refuses_word : (CharTest.word false).RefusesStart rest
  no_nameStart : ∀ x ∈ rest, Text.isNameStart x = false

lemma run_containerPattern_typeLine {indent name rest : List Char} (kind : ContainerKind)
    (hindent : ∀ x ∈ indent, Text.isBlank x = true) (hname : isName name = true)
    (hrest : EndsName rest) {s : Progress Part}
    (hk : k (amid (name.reverse ++ ' ' :: (kind.word.toList.reverse ++ ' ' ::
      ("public".toList.reverse ++ indent.reverse))) rest (typeCaptures indent kind name rest))
        = some s) :
    run containerPattern (amid [] (typeLine indent kind name rest) []) k = some s := by
  have hnameBlank := refusesStart_blank_name hname rest
  have hkindBlank : (CharTest.blank false).RefusesStart
      (kind.word.toList ++ ' ' :: (name ++ rest)) := by
    cases kind <;> exact CharTest.refusesStart_cons.2 rfl
  rw [typeLine, run_containerPattern_start hindent hkindBlank
    fun b' cs' => visibilityWord_failsAt_keyword kind]
  rw [run_concat_cons, run_group, run_star_of_failsAt (typeModifier_failsAt kind).seq,
    Progress.remember_amid, run_concat_cons, run_group, run_containerKeyword kind hnameBlank,
    Progress.remember_amid, run_concat_cons, run_gap1_space hnameBlank, run_concat_cons, run_group]
  · exact run_nameWord hname hrest.refuses_word hk
  · -- behind a second word for the sort, what is left of the line is no name
    intro w hw b' a' ha
    rcases List.append_eq_append_iff.1 ha with ⟨m, -, hm⟩ | ⟨m, hm, rfl⟩
    · refine gap1_nameWord_eq_none (m := []) (by simp) fun x hx => hrest.no_nameStart x ?_
      rw [hm]
      exact List.mem_append_right _ hx
    · refine gap1_nameWord_eq_none (fun x hx => isWord_of_mem_name hname ?_) hrest.no_nameStart
      rw [hm]
      exact List.mem_append_right _ hx

/-- The header of a public type that stands on a line. -/
def typeHeader (indent : List Char) (kind : ContainerKind) (name rest : List Char) :
    ContainerHeader where
  column := 0
  endColumn := name.length + (indent.length + 7 + kind.word.length + 1)
  visibility := some "public"
  nestedVisibility := none
  modifiers := ""
  keyword := kind.word
  kind := kind
  name := String.ofList name
  nameColumn := indent.length + 7 + kind.word.length + 1
  tail := rest

/-- What the pattern finds at the start of such a line. -/
def typeMatch (indent : List Char) (kind : ContainerKind) (name rest : List Char) : Match Part where
  start := Cursor.start (typeLine indent kind name rest)
  stop := amid (name.reverse ++ ' ' :: (kind.word.toList.reverse ++ ' ' ::
    ("public".toList.reverse ++ indent.reverse))) rest (typeCaptures indent kind name rest)

lemma kindOfKeyword_word (kind : ContainerKind) : kindOfKeyword kind.word.toList = kind := by
  cases kind <;> decide

lemma ofMatch_typeMatch (indent : List Char) (kind : ContainerKind) (name rest : List Char) :
    ContainerHeader.ofMatch (typeMatch indent kind name rest)
      = typeHeader indent kind name rest := by
  have hvisibility : (typeMatch indent kind name rest).captured? .visibility
      = some (String.ofList "public".toList) := by
    exact congrArg (fun u => some (String.ofList u)) (Cursor.textSince_amid _ _ _ _)
  have hnested : (typeMatch indent kind name rest).captured? .nestedVisibility = none := rfl
  have hmodifiers : (typeMatch indent kind name rest).captured? .modifiers = some "" := by
    exact congrArg (fun u => some (String.ofList u)) (Cursor.textSince_amid _ _ [] _)
  have hkeyword : (typeMatch indent kind name rest).captured? .keyword
      = some (String.ofList kind.word.toList) := by
    exact congrArg (fun u => some (String.ofList u)) (Cursor.textSince_amid _ _ _ _)
  have hname : (typeMatch indent kind name rest).captured? .name = some (String.ofList name) := by
    exact congrArg (fun u => some (String.ofList u)) (Cursor.textSince_amid _ _ _ _)
  have hcolumn : partColumn (typeMatch indent kind name rest) .name
      = indent.length + 7 + kind.word.length + 1 := by
    have hlength : partColumn (typeMatch indent kind name rest) .name
        = (' ' :: (kind.word.toList.reverse ++ ' ' ::
          ("public".toList.reverse ++ indent.reverse))).length := rfl
    rw [hlength]
    simp [String.length_toList]
    omega
  have hend : (typeMatch indent kind name rest).endColumn
      = name.length + partColumn (typeMatch indent kind name rest) .name := by
    have hlength : (typeMatch indent kind name rest).endColumn
        = (name.reverse ++ ' ' :: (kind.word.toList.reverse ++ ' ' ::
          ("public".toList.reverse ++ indent.reverse))).length := rfl
    rw [hlength, List.length_append, List.length_reverse]
    rfl
  simp only [ContainerHeader.ofMatch, typeHeader, partText, hvisibility, hnested, hmodifiers,
    hkeyword, hname, hcolumn, hend, Option.getD_some, String.ofList_toList, kindOfKeyword_word]
  rfl

/-- A line that starts with the header of a public type has this header and no other. -/
theorem containerHeaders_typeLine {indent name rest : List Char} (kind : ContainerKind)
    (hindent : ∀ x ∈ indent, Text.isBlank x = true) (hname : isName name = true)
    (hrest : EndsName rest) :
    containerHeaders (typeLine indent kind name rest) = [typeHeader indent kind name rest] := by
  have hreads : containerPattern.reads (· == nameStart) = true := by decide
  have hmatch : containerPattern.matchAt? false (Cursor.start (typeLine indent kind name rest))
      = some (typeMatch indent kind name rest) := by
    rw [matchAt?, Option.map_eq_some_iff]
    exact ⟨_, run_containerPattern_typeLine kind hindent hname hrest rfl, rfl⟩
  have hnext : ∀ consuming, containerPattern.searchFrom? consuming
      (typeMatch indent kind name rest).stop.cursor = none :=
    searchFrom?_eq_none_of_reads hreads fun x hx => not_chosen_nameStart (hrest.no_nameStart x hx)
  rw [containerHeaders, all_eq_singleton hmatch hnext, List.map_singleton, ofMatch_typeMatch]

end Conformance.Source
