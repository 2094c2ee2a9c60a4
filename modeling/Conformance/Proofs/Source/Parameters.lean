/-
# Positional parameters

The parameters of a record are cut out of the tail of its header up to the first closing
parenthesis, split at the commas outside of brackets, and each is reduced to its name.  The first
step stops early where a parameter holds a parenthesis of its own: that parameter is cut, and those
behind it are lost.  Up to there each parameter is read for itself (`params_of_parameterList`).
-/
import Conformance.Proofs.Source.ParameterName

namespace Conformance.Source
open Pattern

/-! ## Parameters as they are written -/

/-- An attribute block: the text between its brackets, and the blanks behind it. -/
structure AttributeBlock where
  /-- The text between the brackets. -/
  inner : List Char
  /-- The blanks behind it. -/
  gap : Blanks
  inner_nested : Nested (fun _ => true) inner

/-- The text of a block. -/
def AttributeBlock.text (a : AttributeBlock) : List Char :=
  '[' :: (a.inner ++ ']' :: a.gap.chars)

/-- A positional parameter.  Brackets match in each of its parts, and no comma stands outside of
brackets. -/
structure Parameter where
  /-- The blanks before it. -/
  indent : Blanks
  /-- The attribute blocks. -/
  attributes : List AttributeBlock
  /-- The type, with the blanks around it. -/
  type : List Char
  /-- The name. -/
  name : Name
  /-- The blanks behind the name. -/
  gap : Blanks
  /-- The default value behind the sign of equality, if there is one. -/
  value? : Option (List Char)
  type_nested : Nested (· != ',') type
  value_nested : ∀ v ∈ value?, Nested (· != ',') v

/-- The word characters at the end of a text. -/
def wordAtEnd (u : List Char) : List Char :=
  (u.reverse.takeWhile Text.isWord).reverse

/-- Characters of a sort that holds no bracket and no comma are plain. -/
lemma plain_of_accepted {test : Char → Bool}
    (hsigns : ['<', '>', '(', ')', '[', ']', ','].all (!test ·) = true) {c : Char}
    (hc : test c = true) : isBracket c = false ∧ (c != ',') = true := by
  have hne : ∀ x ∈ ['<', '>', '(', ')', '[', ']', ','], c ≠ x := by
    rintro x hx rfl
    have hnot := List.all_eq_true.1 hsigns c hx
    simp [hc] at hnot
  simp only [List.forall_mem_cons] at hne
  simp [isBracket, bracketPairs, hne]

namespace Parameter

/-- The text before the name. -/
def head (p : Parameter) : List Char :=
  p.indent.chars ++ (p.attributes.flatMap AttributeBlock.text ++ p.type)

/-- The text behind the name. -/
def tail (p : Parameter) : List Char :=
  p.gap.chars ++ (match p.value? with
    | none => []
    | some v => '=' :: v)

/-- The text of a parameter. -/
def text (p : Parameter) : List Char :=
  p.head ++ (p.name.chars ++ p.tail)

/-- What is left before the name when the blocks in square brackets are removed. -/
def bare (p : Parameter) : List Char :=
  shown p.head

/-- The name can be told: a letter or an underscore stands before it, and none in the word that
goes on as the name. -/
structure Legible (p : Parameter) : Prop where
  start : ∃ c ∈ p.bare, Text.isNameStart c = true
  apart : ∀ c ∈ wordAtEnd p.bare, Text.isNameStart c = false

lemma nested_blanks (b : Blanks) : Nested (· != ',') b.chars :=
  .of_plain fun c hc => plain_of_accepted (by decide) (b.valid c hc)

lemma nested_head (p : Parameter) : Nested (· != ',') p.head := by
  have hattributes : ∀ as : List AttributeBlock,
      Nested (· != ',') (as.flatMap AttributeBlock.text) := by
    intro as
    induction as with
    | nil => exact .nil
    | cons a as ih =>
      have ha : Nested (· != ',') a.text :=
        .bracketed (by decide) a.inner_nested (nested_blanks a.gap)
      exact ha.append ih
  exact (nested_blanks p.indent).append ((hattributes p.attributes).append p.type_nested)

lemma nested_text (p : Parameter) : Nested (· != ',') p.text := by
  have hname : Nested (· != ',') p.name.chars := .of_plain fun c hc =>
    plain_of_accepted (by decide) (isWord_of_mem_name p.name.valid hc)
  refine p.nested_head.append (hname.append ((nested_blanks p.gap).append ?_))
  cases hvalue : p.value? with
  | none => exact .nil
  | some v => exact .cons (by decide) (by decide) (p.value_nested v hvalue)

/-! ## Reading one of them -/

lemma open_notMem_bare (p : Parameter) : '[' ∉ p.bare :=
  notMem_shown fun _ _ heq => p.nested_head.closing_mem (by decide) heq

lemma before_shown_text (p : Parameter) (h : '=' ∉ p.bare) :
    Text.before '=' (shown p.text) = p.bare ++ (p.name.chars ++ p.gap.chars) := by
  have hopen : '[' ∉ p.name.chars ++ p.gap.chars := by
    rw [List.mem_append, not_or]
    exact ⟨p.name.not_mem rfl, fun hmem => absurd (p.gap.valid _ hmem) (by decide)⟩
  have hvalue : '=' ∉ p.bare ++ (p.name.chars ++ p.gap.chars) := by
    simp only [List.mem_append, not_or]
    exact ⟨h, p.name.not_mem rfl, fun hmem => absurd (p.gap.valid _ hmem) (by decide)⟩
  have hself := shown_eq_self hopen
  have htext : ∀ v, shown (p.head ++ (p.name.chars ++ (p.gap.chars ++ v)))
      = (p.bare ++ (p.name.chars ++ p.gap.chars)) ++ shown v := by
    intro v
    rw [shown_append p.open_notMem_bare, ← List.append_assoc p.name.chars,
      shown_append (hself.symm ▸ hopen), hself, bare, ← List.append_assoc]
  rw [text, tail]
  cases p.value? with
  | none => rw [htext, Text.before_append_of_notMem hvalue, shown_eq_self List.not_mem_nil,
      Text.before_eq_self List.not_mem_nil, List.append_nil]
  | some v =>
    have hsign : shown ('=' :: v) = '=' :: shown v := by
      have hself' : shown ['='] = ['='] := shown_eq_self (by decide)
      have happend := shown_append (hself'.symm ▸ (by decide : '[' ∉ ['='])) v
      rwa [hself'] at happend
    have hcut : Text.before '=' ('=' :: shown v) = [] := List.takeWhile_cons_of_neg (by simp)
    rw [htext, Text.before_append_of_notMem hvalue, hsign, hcut, List.append_nil]

/-- The last word before the name goes on as the name, from its first letter or underscore on. -/
lemma exists_namesIn (p : Parameter) (h : '=' ∉ p.bare) : ∃ u w, p.bare = u ++ wordAtEnd p.bare ∧
    namesIn (Text.before '=' (shown p.text)) = namesIn u ++ [w ++ p.name.chars] ∧
    (w = [] ↔ ∀ c ∈ wordAtEnd p.bare, Text.isNameStart c = false) := by
  set e := wordAtEnd p.bare with he
  set u := (p.bare.reverse.dropWhile Text.isWord).reverse with hu
  set w := e.dropWhile (!Text.isNameStart ·) with hw
  have hbare : p.bare = u ++ e := by
    rw [hu, he, wordAtEnd, ← List.reverse_append, List.takeWhile_append_dropWhile,
      List.reverse_reverse]
  have hlast : ∀ c ∈ u.getLast?, Text.isWord c = false := by
    intro c hc
    rw [hu, List.getLast?_reverse] at hc
    obtain ⟨rest, hrest⟩ := List.head?_eq_some_iff.1 hc
    exact refusesStart_dropWhile_isWord _ _ _ hrest
  have hword : ∀ c ∈ e, Text.isWord c = true := fun c hc =>
    List.mem_takeWhile_imp (List.mem_reverse.1 hc)
  have hname : isName (w ++ p.name.chars) = true := by
    cases hcase : w with
    | nil => exact p.name.valid
    | cons c rest =>
      have hstart := List.head?_dropWhile_not (!Text.isNameStart ·) e
      rw [← hw, hcase] at hstart
      refine isName_iff.2 ⟨c, _, rfl, by simpa using hstart, fun x hx => ?_⟩
      rcases List.mem_append.1 hx with hx | hx
      · have hmem : x ∈ w := hcase ▸ List.mem_cons_of_mem c hx
        exact hword x ((List.dropWhile_sublist _).subset hmem)
      · exact isWord_of_mem_name p.name.valid hx
  refine ⟨u, w, hbare, ?_, ?_⟩
  · have hpassed : ∀ c ∈ e.takeWhile (!Text.isNameStart ·), Text.isNameStart c = false := by
      intro c hc
      simpa using List.mem_takeWhile_imp hc
    have hsplit : p.bare ++ (p.name.chars ++ p.gap.chars)
        = (u ++ (e.takeWhile (!Text.isNameStart ·) ++ (w ++ p.name.chars))) ++ p.gap.chars := by
      rw [hbare, ← List.append_assoc (e.takeWhile _), List.takeWhile_append_dropWhile]
      simp
    rw [p.before_shown_text h, hsplit, namesIn_append_blanks _ p.gap.valid,
      namesIn_append (.inl hlast), namesIn_append_of_no_start hpassed, namesIn_name hname]
  · rw [hw, List.dropWhile_eq_nil_iff]
    simp

/-- **A parameter whose blocks hide all its signs of equality is read by its name just if it is
legible.** -/
theorem parameterName?_eq_some_iff (p : Parameter) (h : '=' ∉ p.bare) :
    parameterName? p.text = some p.name.chars ↔ p.Legible := by
  obtain ⟨u, w, hbare, hnames, hw⟩ := p.exists_namesIn h
  have hlast : lastOfTwo (namesIn u ++ [w ++ p.name.chars]) = some p.name.chars ↔
      namesIn u ≠ [] ∧ w = [] := by
    have htwo : 2 ≤ (namesIn u ++ [w ++ p.name.chars]).length ↔ namesIn u ≠ [] := by
      rw [List.length_append, List.length_singleton, ← List.length_pos_iff]
      omega
    rw [lastOfTwo, Option.ite_none_right_eq_some, htwo, List.getLast?_concat, Option.some_inj,
      List.append_left_eq_self]
  have hstart : (∀ c ∈ wordAtEnd p.bare, Text.isNameStart c = false) →
      ((∃ c ∈ p.bare, Text.isNameStart c = true) ↔ ∃ c ∈ u, Text.isNameStart c = true) := by
    intro hend
    constructor
    · rintro ⟨c, hc, hstart⟩
      rw [hbare, List.mem_append] at hc
      exact ⟨c, hc.resolve_right fun hmem => absurd hstart (by simp [hend c hmem]), hstart⟩
    · rintro ⟨c, hc, hstart⟩
      exact ⟨c, hbare ▸ List.mem_append_left _ hc, hstart⟩
  rw [parameterName?_eq, hnames, hlast, hw, namesIn_ne_nil_iff]
  constructor
  · rintro ⟨hu, hend⟩
    exact ⟨(hstart hend).2 hu, hend⟩
  · rintro ⟨hp, hend⟩
    exact ⟨(hstart hend).1 hp, hend⟩

end Parameter

/-! ## Lists of parameters -/

/-- Parameters with commas between them. -/
def parameterList (ps : List Parameter) : List Char :=
  separated ',' (ps.map Parameter.text)

section Tail

variable {indent : List Char}

/-- The start of a tail is read up to its first sign. -/
lemma run_tailStart (hindent : ∀ c ∈ indent, Text.isBlank c = true) {v : List Char}
    (hv : (CharTest.blank false).RefusesStart v) {sign : Char} (hsign : Text.isBlank sign = false)
    (ps : List HeaderPattern) :
    run (concat (.anchor .textStart :: gap :: char sign :: ps))
        (Progress.amid [] (indent ++ v) []) some
      = run (concat (char sign :: ps)) (Progress.amid indent.reverse v []) some := by
  have hstart : ∀ k, run (.anchor .textStart) (Progress.amid [] (indent ++ v) []) k
      = k (Progress.amid (κ := Part) [] (indent ++ v) []) := fun _ => rfl
  rw [run_concat_cons, hstart, run_concat_cons, run_gap hindent hv, List.append_nil]
  intro b x rest hx
  exact (failsAt_char (Text.ne_of_isBlank hx hsign) b rest []).concat_cons ps some

/-- A tail that starts with another sign is no match. -/
lemma matchStart?_tailStart_eq_none (hindent : ∀ c ∈ indent, Text.isBlank c = true)
    {sign sign' : Char} (hblank : Text.isBlank sign' = false) (hne : sign' ≠ sign)
    (hsign : Text.isBlank sign = false) (ps : List HeaderPattern) (u : List Char) :
    (concat (.anchor .textStart :: gap :: char sign :: ps)).matchStart? (indent ++ sign' :: u)
      = none := by
  have hstart : (CharTest.blank false).RefusesStart (sign' :: u) :=
    CharTest.refusesStart_cons.2 hblank
  have hfails : run (concat (.anchor .textStart :: gap :: char sign :: ps))
      (Progress.amid [] (indent ++ sign' :: u) []) some = none := by
    rw [run_tailStart hindent hstart hsign]
    exact (failsAt_char hne _ u []).concat_cons _ some
  rw [matchStart?_eq, hfails]
  rfl

/-- No type parameters stand before another sign. -/
lemma skip_genericPattern (hindent : ∀ c ∈ indent, Text.isBlank c = true) {sign : Char}
    (hblank : Text.isBlank sign = false) (hne : sign ≠ '<') (u : List Char) :
    skip genericPattern (indent ++ sign :: u) = indent ++ sign :: u := by
  rw [skip, genericPattern, matchStart?_tailStart_eq_none hindent hblank hne rfl]

/-- The positional parameters end with the first closing parenthesis. -/
lemma partAtStart?_positionalPattern (hindent : ∀ c ∈ indent, Text.isBlank c = true)
    {w : List Char} (hw : ')' ∉ w) (v : List Char) :
    partAtStart? positionalPattern .params (indent ++ '(' :: (w ++ ')' :: v)) = some w := by
  have hopen : (CharTest.blank false).RefusesStart ('(' :: (w ++ ')' :: v)) :=
    CharTest.refusesStart_cons.2 rfl
  set start := Cursor.amid ('(' :: indent.reverse) (w ++ ')' :: v) with hstart
  set stop := Cursor.amid (w.reverse ++ '(' :: indent.reverse) (')' :: v) with hstop
  have hrun : run positionalPattern (Progress.amid [] (indent ++ '(' :: (w ++ ')' :: v)) []) some
      = some (Progress.amid (')' :: (w.reverse ++ '(' :: indent.reverse)) v
          [(.params, ⟨start, stop⟩)]) := by
    rw [positionalPattern, run_tailStart hindent hopen rfl, run_concat_cons, run_char_self,
      run_concat_cons, run_group, run_until hw, run_concat_cons, Progress.remember_amid,
      run_char_self, run_concat_nil]
    · rfl
    · intro b y rest hy
      rw [Progress.remember_amid]
      exact (failsAt_char hy b rest _).concat_cons [] some
  have htext : stop.textSince start = w := by
    rw [hstop, hstart, Cursor.textSince_amid]
  rw [partAtStart?, matchStart?_eq, hrun]
  exact congrArg some htext

lemma params_readTypeTail (hindent : ∀ c ∈ indent, Text.isBlank c = true) (u rest : List Char) :
    (readTypeTail (indent ++ '(' :: (u ++ ')' :: rest))).params
      = (splitTopLevel ',' (Text.before ')' u)).filterMap parameterName? := by
  obtain ⟨v, hv⟩ := Text.exists_dropWhile_eq (List.mem_append_right u List.mem_cons_self :
    ')' ∈ u ++ ')' :: rest)
  have hsplit : u ++ ')' :: rest = Text.before ')' (u ++ ')' :: rest) ++ ')' :: v := by
    rw [← hv, Text.before_append_dropWhile]
  have hcut : Text.before ')' (u ++ ')' :: rest) = Text.before ')' u := by
    by_cases hmem : ')' ∈ u
    · exact Text.before_append_of_mem hmem _
    · have hend : Text.before ')' (')' :: rest) = [] := List.takeWhile_cons_of_neg (by simp)
      rw [Text.before_append_of_notMem hmem, hend, List.append_nil, Text.before_eq_self hmem]
  rw [hcut] at hsplit
  rw [hsplit, readTypeTail]
  simp only [skip_genericPattern hindent (rfl : Text.isBlank '(' = false) (by decide)]
  rw [partAtStart?_positionalPattern hindent (Text.notMem_before ')' u)]
  rfl

end Tail

lemma filterMap_splitTopLevel (ps : List Parameter) :
    (splitTopLevel ',' (Text.before ')' (parameterList ps))).filterMap parameterName?
      = (untilSign ')' (ps.map Parameter.text)).filterMap parameterName? := by
  have hempty : parameterName? [] = none := rfl
  -- a piece without a name is dropped, so the empty ones need not be told apart
  have hnonempty : ∀ pieces : List (List Char),
      (pieces.filter (!·.isEmpty)).filterMap parameterName? = pieces.filterMap parameterName? := by
    intro pieces
    rw [List.filterMap_filter]
    refine List.filterMap_congr fun piece _ => ?_
    cases piece <;> simp [hempty]
  rw [splitTopLevel, splitTopLevelBy, hnonempty, parameterList, before_separated (by decide)]
  cases ps with
  | nil => rfl
  | cons p ps =>
    have hnested : ∀ q ∈ p.text :: ps.map Parameter.text, Nested (· != ',') q := by
      rw [← List.map_cons, List.forall_mem_map]
      exact fun q _ => q.nested_text
    rw [List.map_cons, topLevelFrom_untilSign rfl rfl hnested, List.filterMap_map]
    refine List.filterMap_congr fun piece _ => ?_
    rw [Function.comp_apply, parameterName?_trim]

/-- **The parameters of a record are read one by one up to the first closing parenthesis.**  The
parameter that holds one is read up to it, and those behind it are not read.  A parameter is read by
its name just if it is legible; so where no parameter holds a closing parenthesis, the names are
read just if all parameters are legible. -/
theorem params_of_parameterList (indent : Blanks) (ps : List Parameter) (rest : List Char) :
    let params := (readTypeTail (indent.chars ++ '(' :: (parameterList ps ++ ')' :: rest))).params
    params = (untilSign ')' (ps.map Parameter.text)).filterMap parameterName? ∧
    (∀ p ∈ ps, '=' ∉ p.bare → (parameterName? p.text = some p.name.chars ↔ p.Legible)) ∧
    ((∀ p ∈ ps, ')' ∉ p.text ∧ '=' ∉ p.bare) →
      (params = ps.map (·.name.chars) ↔ ∀ p ∈ ps, p.Legible)) := by
  have hparams := (params_readTypeTail indent.valid (parameterList ps) rest).trans
    (filterMap_splitTopLevel ps)
  refine ⟨hparams, fun p _ => p.parameterName?_eq_some_iff, fun hps => ?_⟩
  have hwhole : untilSign ')' (ps.map Parameter.text) = ps.map Parameter.text :=
    untilSign_eq_self (List.forall_mem_map.2 fun p hp => (hps p hp).1)
  rw [hparams, hwhole, List.filterMap_map, List.filterMap_eq_map_iff_forall_eq_some]
  refine forall₂_congr fun p hp => ?_
  rw [Function.comp_apply, p.parameterName?_eq_some_iff (hps p hp).2]

/-! ## A map, and a tuple -/

/-- `[Required] Map<int, string> ages` -/
def agesParameter : Parameter where
  indent := noBlanks
  attributes := [⟨"Required".toList, oneBlank, .of_all_plain (by decide)⟩]
  type := "Map<int, string> ".toList
  name := ⟨"ages".toList, rfl⟩
  gap := noBlanks
  value? := none
  type_nested := (Nested.of_all_plain (u := "Map".toList) (by decide)).append
    (.bracketed (o := '<') (u := "int, string".toList) (v := [' ']) (by decide)
      (.of_all_plain (by decide)) (.of_all_plain (by decide)))
  value_nested := by simp

/-- `int count = 3`, behind a blank. -/
def countParameter : Parameter where
  indent := oneBlank
  attributes := []
  type := "int ".toList
  name := ⟨"count".toList, rfl⟩
  gap := oneBlank
  value? := some " 3".toList
  type_nested := .of_all_plain (by decide)
  value_nested := by
    rintro v ⟨⟩
    exact .of_all_plain (by decide)

/-- `(int, int) pair` -/
def pairParameter : Parameter where
  indent := noBlanks
  attributes := []
  type := "(int, int) ".toList
  name := ⟨"pair".toList, rfl⟩
  gap := noBlanks
  value? := none
  type_nested := .bracketed (o := '(') (u := "int, int".toList) (v := [' ']) (by decide)
    (.of_all_plain (by decide)) (.of_all_plain (by decide))
  value_nested := by simp

theorem params_of_parameterList_map :
    (readTypeTail ('(' :: (parameterList [agesParameter, countParameter] ++
      ')' :: " : Entity;".toList))).params = ["ages".toList, "count".toList] := by
  have hlegible : ∀ p ∈ [agesParameter, countParameter], p.Legible := by
    have hblank : ∀ p ∈ [agesParameter, countParameter], wordAtEnd p.bare = [] := by decide +kernel
    have hages : agesParameter.Legible :=
      ⟨List.any_eq_true.1 (by decide +kernel), by simp [hblank]⟩
    have hcount : countParameter.Legible :=
      ⟨List.any_eq_true.1 (by decide +kernel), by simp [hblank]⟩
    simp [hages, hcount]
  exact ((params_of_parameterList noBlanks [agesParameter, countParameter]
    " : Entity;".toList).2.2 (by decide +kernel)).2 hlegible

/-- The parenthesis of a tuple ends the list: the parameter is cut, and the next one is lost. -/
theorem params_cut_at_tuple :
    parameterList [pairParameter, countParameter] = "(int, int) pair, int count = 3".toList ∧
    (readTypeTail ('(' :: (parameterList [pairParameter, countParameter] ++ [')']))).params
      = ["int".toList] := by
  decide +kernel

end Conformance.Source
