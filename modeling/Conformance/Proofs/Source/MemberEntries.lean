/-
# The members of an enumeration with attributes, values and comments

An entry in the body of an enumeration has attributes, a name and perhaps a value; blanks and
comments may stand between these.  The names are read by removing the comments between marks, then
those up to the ends of lines, then the attributes, and by splitting what is left at commas.  Along
an entry each removal takes away what it is for and nothing else, but for the slash at the end of a
value, which goes with a comment behind it (`exists_withoutLines`).  So reading gives back the names
that were written (`readEnumMembers_chars`).
-/
import Conformance.Proofs.Source.Comments

namespace Conformance.Source
open Pattern

/-! ## Written entries -/

/-- What may stand between the parts of an entry: a blank, a comment between marks, or a comment up
to the end of its line, in which no comment between marks seems to start. -/
inductive Filler
  | blank (c : Char) (isBlank : Text.isBlank c = true)
  | block (text : List Char) (notClosed : ¬ ['*', '/'] <:+: text)
  | line (text : List Char) (oneLine : '\n' ∉ text)
      (noBlock : ¬ ['/', '*'] <:+: '/' :: '/' :: text)

namespace Filler

/-- The characters of a filler. -/
def chars : Filler → List Char
  | blank c _ => [c]
  | block text _ => '/' :: '*' :: (text ++ ['*', '/'])
  | line text _ _ => '/' :: '/' :: (text ++ ['\n'])

/-- What is left of a filler without comments between marks. -/
def afterBlocks : Filler → List Char
  | block _ _ => []
  | filler => filler.chars

/-- What is left of a filler without comments. -/
def afterLines : Filler → List Char
  | blank c _ => [c]
  | block _ _ => []
  | line _ _ _ => ['\n']

end Filler

/-- The text of an attribute inside its brackets. -/
structure AttributeText where
  /-- The characters. -/
  chars : List Char
  notClosed : ']' ∉ chars
  noLine : ¬ ['/', '/'] <:+: chars
  noBlock : ¬ ['/', '*'] <:+: chars

/-- The attribute. -/
def AttributeText.inBrackets (a : AttributeText) : List Char :=
  '[' :: (a.chars ++ [']'])

/-- The value of a member behind the sign of equality. -/
structure MemberValue where
  /-- What stands before the value. -/
  before : List Filler
  /-- The characters of the value. -/
  chars : List Char
  /-- What stands behind the value. -/
  behind : List Filler
  noComma : ',' ∉ chars
  noBracket : '[' ∉ chars
  noLine : ¬ ['/', '/'] <:+: chars
  noBlock : ¬ ['/', '*'] <:+: chars

/-- The value with its sign of equality, where fillers are written in a given way. -/
def MemberValue.written (filler : Filler → List Char) (v : MemberValue) : List Char :=
  '=' :: (v.before.flatMap filler ++ (v.chars ++ v.behind.flatMap filler))

/-- A member of an enumeration, as it is written. -/
structure MemberEntry where
  /-- The attributes, each with what stands before it. -/
  attributes : List (List Filler × AttributeText)
  /-- What stands before the name. -/
  before : List Filler
  /-- The name. -/
  name : Name
  /-- What stands behind the name. -/
  behind : List Filler
  /-- The value. -/
  value : Option MemberValue

namespace MemberEntry

/-- The entry up to its value, where fillers and attributes are written in given ways. -/
def lead (filler : Filler → List Char) (bracket : AttributeText → List Char)
    (e : MemberEntry) : List Char :=
  (e.attributes.flatMap fun a => a.1.flatMap filler ++ bracket a.2) ++
    (e.before.flatMap filler ++ (e.name.chars ++ e.behind.flatMap filler))

/-- The characters of the entry. -/
def chars (e : MemberEntry) : List Char :=
  e.lead Filler.chars AttributeText.inBrackets ++ e.value.toList.flatMap (·.written Filler.chars)

end MemberEntry

/-- The body of an enumeration, as it is written: entries with commas between them, and perhaps one
more comma with what stands behind it.  Without entries there is no comma. -/
structure MemberBody where
  /-- The entries. -/
  entries : List MemberEntry
  /-- What stands behind a trailing comma. -/
  trailing : Option (List Filler)

/-- The characters of the body. -/
def MemberBody.chars (b : MemberBody) : List Char :=
  [','].intercalate (b.entries.map MemberEntry.chars ++
    b.trailing.toList.map fun fillers => fillers.flatMap Filler.chars)

/-! ## Removals along a text -/

/-- A removal makes `u'` of `u` in front of every text that is empty or starts with an allowed
character. -/
def Becomes (remove : List Char → List Char) (next : Char → Prop) (u u' : List Char) : Prop :=
  ∀ v, (∀ c ∈ v.head?, next c) → remove (u ++ v) = u' ++ remove v

/-- A removal makes `u'` of `u` wherever it stands. -/
abbrev BecomesAnywhere (remove : List Char → List Char) (u u' : List Char) : Prop :=
  Becomes remove (fun _ => True) u u'

section Becomes

variable {remove : List Char → List Char} {next : Char → Prop} {u u' v v' : List Char}

lemma Becomes.nil : Becomes remove next [] [] :=
  fun _ _ => rfl

lemma Becomes.append (hu : BecomesAnywhere remove u u') (hv : Becomes remove next v v') :
    Becomes remove next (u ++ v) (u' ++ v') := by
  intro w hw
  rw [List.append_assoc, hu _ fun _ _ => trivial, hv w hw, List.append_assoc]

lemma Becomes.cons {c : Char} (hc : ∀ w, remove (c :: w) = c :: remove w)
    (hv : Becomes remove next v v') : Becomes remove next (c :: v) (c :: v') := by
  intro w hw
  rw [List.cons_append, hc, hv w hw]
  rfl

lemma Becomes.flatMap {α : Type} {f f' : α → List Char}
    (h : ∀ x, BecomesAnywhere remove (f x) (f' x)) (xs : List α) :
    BecomesAnywhere remove (xs.flatMap f) (xs.flatMap f') := by
  induction xs with
  | nil => exact .nil
  | cons x xs ih => exact (h x).append ih

/-- Characters that are kept each for itself. -/
lemma Becomes.of_forall (h : ∀ c ∈ u, ∀ w, remove (c :: w) = c :: remove w) :
    BecomesAnywhere remove u u := by
  induction u with
  | nil => exact .nil
  | cons c u ih =>
    exact .cons (h c List.mem_cons_self) (ih fun x hx => h x (List.mem_cons_of_mem _ hx))

end Becomes

/-- A removal along the part of an entry up to its value. -/
lemma MemberEntry.becomes_lead {remove : List Char → List Char}
    {filler filler' : Filler → List Char} {bracket bracket' : AttributeText → List Char}
    (hfiller : ∀ x, BecomesAnywhere remove (filler x) (filler' x))
    (hbracket : ∀ a, BecomesAnywhere remove (bracket a) (bracket' a))
    (hname : ∀ n : Name, BecomesAnywhere remove n.chars n.chars) (e : MemberEntry) :
    BecomesAnywhere remove (e.lead filler bracket) (e.lead filler' bracket') := by
  have hattributes : BecomesAnywhere remove
      (e.attributes.flatMap fun a => a.1.flatMap filler ++ bracket a.2)
      (e.attributes.flatMap fun a => a.1.flatMap filler' ++ bracket' a.2) :=
    Becomes.flatMap (fun a => (Becomes.flatMap hfiller a.1).append (hbracket a.2)) e.attributes
  exact hattributes.append ((Becomes.flatMap hfiller _).append
    ((hname _).append (Becomes.flatMap hfiller _)))

/-! ## Parts of an entry without comments -/

section Takes

variable {p : HeaderPattern} {take : List Char → Option (List Char × List Char)} {b : Char}

lemma Name.becomes_chars (h : p.Takes take) (hstart : StartsWith take '/' b) (n : Name) :
    BecomesAnywhere p.removeFrom n.chars n.chars := by
  refine .of_forall fun c hc v => h.removeFrom_cons_of_ne hstart ?_ v
  exact Text.ne_of_isWord (isWord_of_mem_name n.valid hc) rfl

lemma AttributeText.becomes_inBrackets (h : p.Takes take) (hstart : StartsWith take '/' b)
    (hb : b ≠ ']') (a : AttributeText) (ha : ¬ ['/', b] <:+: a.chars) :
    BecomesAnywhere p.removeFrom a.inBrackets a.inBrackets := by
  intro v _
  have hkeep := h.removeFrom_append hstart (v := ']' :: v) ha fun _ heq =>
    hb (Option.some.inj heq).symm
  rw [h.removeFrom_cons_of_ne hstart (by decide)] at hkeep
  have hopen := h.removeFrom_cons_of_ne hstart (x := '[') (by decide) (a.chars ++ ']' :: v)
  simp only [inBrackets, List.cons_append, List.append_assoc, List.nil_append, hopen, hkeep]

end Takes

/-! ## Without comments between marks -/

lemma withoutBlocks_cons {c : Char} (hc : c ≠ '/') (v : List Char) :
    withoutBlocks (c :: v) = c :: withoutBlocks v :=
  takes_blockComment.removeFrom_cons_of_ne startsWith_blockComment hc v

lemma withoutBlocks_append {u v : List Char} (hu : ¬ ['/', '*'] <:+: u)
    (hv : v.head? ≠ some '*') : withoutBlocks (u ++ v) = u ++ withoutBlocks v :=
  takes_blockComment.removeFrom_append startsWith_blockComment hu fun _ => hv

lemma Filler.becomes_afterBlocks (x : Filler) :
    BecomesAnywhere withoutBlocks x.chars x.afterBlocks := by
  intro v _
  cases x with
  | blank c hc => exact withoutBlocks_cons (Text.ne_of_isBlank hc rfl) v
  | block text hclosed =>
    have hcomment := withoutBlocks_comment hclosed v
    simpa [chars, afterBlocks] using hcomment
  | line text _ hblock =>
    have hkeep := withoutBlocks_append (v := '\n' :: v) hblock (by simp)
    rw [withoutBlocks_cons (by decide)] at hkeep
    simpa [chars, afterBlocks] using hkeep

/-- Fillers do not start with a star, and neither does what stands behind them. -/
lemma head_fillers {fillers : List Filler} {v : List Char} (hv : ∀ c ∈ v.head?, c = ',') :
    (fillers.flatMap Filler.chars ++ v).head? ≠ some '*' := by
  cases fillers with
  | nil =>
    intro hhead
    exact absurd (hv '*' hhead) (by decide)
  | cons x fillers =>
    cases x with
    | blank c hc =>
      have hne : c ≠ '*' := Text.ne_of_isBlank hc rfl
      simpa [Filler.chars] using hne
    | block text _ => simp [Filler.chars]
    | line text _ _ => simp [Filler.chars]

lemma MemberValue.becomes_afterBlocks (v : MemberValue) :
    Becomes withoutBlocks (· = ',') (v.written Filler.chars) (v.written Filler.afterBlocks) := by
  refine .cons (withoutBlocks_cons (by decide)) ?_
  refine (Becomes.flatMap Filler.becomes_afterBlocks _).append fun w hw => ?_
  rw [List.append_assoc, withoutBlocks_append v.noBlock (head_fillers hw),
    Becomes.flatMap Filler.becomes_afterBlocks _ w fun _ _ => trivial, List.append_assoc]

/-! ## Without comments up to the ends of lines -/

lemma withoutLines_cons {c : Char} (hc : c ≠ '/') (v : List Char) :
    withoutLines (c :: v) = c :: withoutLines v :=
  takes_lineComment.removeFrom_cons_of_ne startsWith_lineComment hc v

lemma withoutLines_append {u v : List Char} (hu : ¬ ['/', '/'] <:+: u)
    (hv : u.getLast? = some '/' → v.head? ≠ some '/') :
    withoutLines (u ++ v) = u ++ withoutLines v :=
  takes_lineComment.removeFrom_append startsWith_lineComment hu hv

lemma Filler.becomes_afterLines (x : Filler) :
    BecomesAnywhere withoutLines x.afterBlocks x.afterLines := by
  intro v _
  cases x with
  | blank c hc => exact withoutLines_cons (Text.ne_of_isBlank hc rfl) v
  | block text _ => rfl
  | line text hend _ =>
    have hcomment := withoutLines_comment hend v
    simpa [afterBlocks, chars, afterLines] using hcomment

lemma Filler.isBlank_of_mem_afterLines {x : Filler} {c : Char} (hc : c ∈ x.afterLines) :
    Text.isBlank c = true := by
  cases x with
  | blank d hd =>
    obtain rfl := List.mem_singleton.1 hc
    exact hd
  | block text _ => exact absurd hc List.not_mem_nil
  | line text _ _ =>
    obtain rfl := List.mem_singleton.1 hc
    rfl

lemma isBlank_of_mem_fillers {fillers : List Filler} {c : Char}
    (hc : c ∈ fillers.flatMap Filler.afterLines) : Text.isBlank c = true := by
  obtain ⟨x, -, hc⟩ := List.mem_flatMap.1 hc
  exact x.isBlank_of_mem_afterLines hc

/-- What may be left of a value: it holds no comma and no bracket. -/
def IsRest (u : List Char) : Prop :=
  ',' ∉ u ∧ '[' ∉ u

lemma IsRest.append_fillers {u : List Char} (hu : IsRest u) (fillers : List Filler) :
    IsRest (u ++ fillers.flatMap Filler.afterLines) := by
  have hblank : ∀ {c : Char}, Text.isBlank c = false → c ∉ fillers.flatMap Filler.afterLines :=
    fun hc hmem => absurd (isBlank_of_mem_fillers hmem) (by simp [hc])
  simp only [IsRest, List.mem_append, not_or]
  exact ⟨⟨hu.1, hblank rfl⟩, hu.2, hblank rfl⟩

/-- Behind the text of a value, comments up to the ends of lines are removed.  A slash at the end of
the value starts a comment together with the first slash of the comment behind it. -/
lemma exists_withoutLines {u : List Char} (hu : IsRest u) (hline : ¬ ['/', '/'] <:+: u)
    (fillers : List Filler) :
    ∃ rest, IsRest rest ∧
      Becomes withoutLines (· = ',') (u ++ fillers.flatMap Filler.afterBlocks) rest := by
  have hmore : ∀ (fs : List Filler) (w : List Char),
      withoutLines (fs.flatMap Filler.afterBlocks ++ w)
        = fs.flatMap Filler.afterLines ++ withoutLines w :=
    fun fs w => Becomes.flatMap Filler.becomes_afterLines fs w fun _ _ => trivial
  induction fillers with
  | nil =>
    refine ⟨u, hu, fun w hw => ?_⟩
    rw [List.flatMap_nil, List.append_nil]
    exact withoutLines_append hline fun _ hhead => absurd (hw '/' hhead) (by decide)
  | cons x fillers ih =>
    cases x with
    | block text _ =>
      -- such a comment is gone, and what is behind it follows the value
      exact ih
    | blank c hc =>
      refine ⟨_, hu.append_fillers (.blank c hc :: fillers), fun w _ => ?_⟩
      have hne : c ≠ '/' := Text.ne_of_isBlank hc rfl
      have hkeep := withoutLines_append (v := c :: (fillers.flatMap Filler.afterBlocks ++ w))
        hline fun _ => by simpa using hne
      rw [withoutLines_cons hne, hmore] at hkeep
      simpa [Filler.afterBlocks, Filler.chars, Filler.afterLines] using hkeep
    | line text hend hblock =>
      by_cases hlast : u.getLast? = some '/'
      · obtain ⟨short, rfl⟩ := List.getLast?_eq_some_iff.1 hlast
        have hshort : IsRest short :=
          ⟨fun h => hu.1 (List.mem_append_left _ h), fun h => hu.2 (List.mem_append_left _ h)⟩
        refine ⟨_, hshort.append_fillers (.line text hend hblock :: fillers), fun w _ => ?_⟩
        have hfree : ¬ ['/', '/'] <:+: short :=
          fun h => hline (h.trans (List.prefix_append _ _).isInfix)
        have hends : short.getLast? ≠ some '/' := by
          intro h
          obtain ⟨shorter, rfl⟩ := List.getLast?_eq_some_iff.1 h
          exact hline ⟨shorter, [], by simp⟩
        have hkeep := withoutLines_append
          (v := '/' :: '/' :: ('/' :: text ++ '\n' :: (fillers.flatMap Filler.afterBlocks ++ w)))
          hfree fun h => absurd h hends
        rw [withoutLines_comment (by simpa using hend), hmore] at hkeep
        simpa [Filler.afterBlocks, Filler.chars, Filler.afterLines] using hkeep
      · refine ⟨_, hu.append_fillers (.line text hend hblock :: fillers), fun w _ => ?_⟩
        have hkeep := withoutLines_append
          (v := '/' :: '/' :: (text ++ '\n' :: (fillers.flatMap Filler.afterBlocks ++ w)))
          hline fun h => absurd h hlast
        rw [withoutLines_comment hend, hmore] at hkeep
        simpa [Filler.afterBlocks, Filler.chars, Filler.afterLines] using hkeep

/-- What is left of a value starts with the sign of equality. -/
lemma MemberValue.exists_withoutLines (v : MemberValue) :
    ∃ rest, IsRest rest ∧
      Becomes withoutLines (· = ',') (v.written Filler.afterBlocks) ('=' :: rest) := by
  obtain ⟨rest, hrest, hbecomes⟩ :=
    Source.exists_withoutLines ⟨v.noComma, v.noBracket⟩ v.noLine v.behind
  have hbefore : IsRest (v.before.flatMap Filler.afterLines) := by
    have hnil : IsRest [] := ⟨List.not_mem_nil, List.not_mem_nil⟩
    exact hnil.append_fillers v.before
  refine ⟨v.before.flatMap Filler.afterLines ++ rest, ?_, ?_⟩
  · simp only [IsRest, List.mem_append, not_or]
    exact ⟨⟨hbefore.1, hrest.1⟩, hbefore.2, hrest.2⟩
  · refine .cons (withoutLines_cons (by decide)) ?_
    exact (Becomes.flatMap Filler.becomes_afterLines _).append hbecomes

/-! ## Without attributes -/

lemma becomes_shown {u : List Char} (hu : '[' ∉ u) : BecomesAnywhere shown u u := by
  intro v _
  have hself := shown_eq_self hu
  rw [shown_append (hself.symm ▸ hu), hself]

lemma AttributeText.becomes_shown (a : AttributeText) : BecomesAnywhere shown a.inBrackets [] := by
  intro v _
  have htake : takeBlock (a.inBrackets ++ v) = some (a.inBrackets, v) := by
    have hchars : a.inBrackets ++ v = '[' :: (a.chars ++ ']' :: v) := by simp [inBrackets]
    have hbefore : Text.before ']' (a.chars ++ ']' :: v) = a.chars := by
      rw [Text.before_append_of_notMem a.notClosed]
      simp [Text.before]
    rw [hchars, takeBlock, if_pos (by simp), hbefore, Text.dropWhile_append_sign a.notClosed]
    rfl
  exact takes_attributeBlock.removeFrom_of_some htake

/-! ## Reading an entry -/

/-- The body of an enumeration without comments and attributes. -/
def cleaned (u : List Char) : List Char :=
  shown (withoutLines (withoutBlocks u))

lemma cleaned_comma (v : List Char) : cleaned (',' :: v) = ',' :: cleaned v := by
  have hshown : ∀ w, shown (',' :: w) = ',' :: shown w :=
    fun w => becomes_shown (u := [',']) (by decide) w fun _ _ => trivial
  rw [cleaned, withoutBlocks_cons (by decide), withoutLines_cons (by decide), hshown, cleaned]

/-- A text in front of a comma, or at the end, is read as a member with a name, or as none. -/
def ReadAs (u : List Char) (name : Option (List Char)) : Prop :=
  ∃ left, ',' ∉ left ∧ memberName? left = name ∧
    ∀ v, (∀ c ∈ v.head?, c = ',') → cleaned (u ++ v) = left ++ cleaned v

/-- The three removals one after another. -/
lemma cleaned_append {u₀ u₁ u₂ u₃ : List Char} (hblocks : Becomes withoutBlocks (· = ',') u₀ u₁)
    (hlines : Becomes withoutLines (· = ',') u₁ u₂) (hshown : BecomesAnywhere shown u₂ u₃)
    {v : List Char} (hv : ∀ c ∈ v.head?, c = ',') : cleaned (u₀ ++ v) = u₃ ++ cleaned v := by
  have hnext : ∀ c ∈ (withoutBlocks v).head?, c = ',' := by
    cases v with
    | nil => simp [withoutBlocks, takes_blockComment.removeFrom_eq (.nil rfl)]
    | cons c v =>
      obtain rfl := hv c rfl
      rw [withoutBlocks_cons (by decide)]
      simp
  rw [cleaned, hblocks v hv, hlines _ hnext, hshown _ fun _ _ => trivial, cleaned]

/-- Blanks alone are no member. -/
lemma readAs_fillers (fillers : List Filler) : ReadAs (fillers.flatMap Filler.chars) none := by
  have hblank : ∀ c ∈ fillers.flatMap Filler.afterLines, Text.isBlank c = true :=
    fun c hc => isBlank_of_mem_fillers hc
  have hnot : ∀ {c : Char}, Text.isBlank c = false → c ∉ fillers.flatMap Filler.afterLines :=
    fun hc hmem => absurd (hblank _ hmem) (by simp [hc])
  have hblocks : Becomes withoutBlocks (· = ',') (fillers.flatMap Filler.chars)
      (fillers.flatMap Filler.afterBlocks) :=
    fun w _ => Becomes.flatMap Filler.becomes_afterBlocks fillers w fun _ _ => trivial
  have hlines : Becomes withoutLines (· = ',') (fillers.flatMap Filler.afterBlocks)
      (fillers.flatMap Filler.afterLines) :=
    fun w _ => Becomes.flatMap Filler.becomes_afterLines fillers w fun _ _ => trivial
  exact ⟨_, hnot rfl, memberName?_blanks hblank,
    fun _ hv => cleaned_append hblocks hlines (becomes_shown (hnot rfl)) hv⟩

/-- What stands behind a sign of equality does not matter for the name. -/
lemma memberName?_append_value {u : List Char} (hu : '=' ∉ u) (v : List Char) :
    memberName? (u ++ '=' :: v) = memberName? u := by
  have hbefore : Text.before '=' (u ++ '=' :: v) = Text.before '=' u := by
    rw [Text.before_append_of_notMem hu, Text.before_eq_self hu]
    simp [Text.before]
  rw [memberName?, hbefore, memberName?]

namespace MemberEntry

variable (e : MemberEntry)

/-- What is left of an entry up to its value. -/
lemma exists_lead_eq : ∃ a b, e.lead Filler.afterLines (fun _ => []) = a ++ e.name.chars ++ b ∧
    (∀ c ∈ a, Text.isBlank c = true) ∧ ∀ c ∈ b, Text.isBlank c = true := by
  refine ⟨(e.attributes.flatMap fun a => a.1.flatMap Filler.afterLines ++ []) ++
    e.before.flatMap Filler.afterLines, e.behind.flatMap Filler.afterLines, ?_, ?_,
    fun c hc => isBlank_of_mem_fillers hc⟩
  · simp only [lead, List.append_assoc]
  · intro c hc
    rcases List.mem_append.1 hc with hc | hc
    · obtain ⟨a, -, hc⟩ := List.mem_flatMap.1 hc
      rw [List.append_nil] at hc
      exact isBlank_of_mem_fillers hc
    · exact isBlank_of_mem_fillers hc

/-- What is left of an entry behind its lead: nothing, or a sign of equality and more. -/
lemma exists_value_eq : ∃ left, (left = [] ∨ ∃ rest, left = '=' :: rest) ∧ IsRest left ∧
    ∃ middle,
      Becomes withoutBlocks (· = ',') (e.value.toList.flatMap (·.written Filler.chars)) middle ∧
      Becomes withoutLines (· = ',') middle left := by
  cases e.value with
  | none => exact ⟨[], .inl rfl, ⟨List.not_mem_nil, List.not_mem_nil⟩, [], .nil, .nil⟩
  | some v =>
    obtain ⟨rest, hrest, hlines⟩ := v.exists_withoutLines
    refine ⟨'=' :: rest, .inr ⟨rest, rfl⟩, ?_, v.written Filler.afterBlocks, ?_, hlines⟩
    · simpa [IsRest] using hrest
    · have hvalue : (some v).toList.flatMap (·.written Filler.chars) = v.written Filler.chars := by
        simp
      rw [hvalue]
      exact v.becomes_afterBlocks

/-- An entry is read as its name. -/
lemma readAs_chars : ReadAs e.chars (some e.name.chars) := by
  obtain ⟨a, b, hlead, ha, hb⟩ := e.exists_lead_eq
  obtain ⟨left, hleft, hrest, middle, hblocks, hlines⟩ := e.exists_value_eq
  have hblank : ∀ {u : List Char} {c : Char}, (∀ x ∈ u, Text.isBlank x = true) →
      Text.isBlank c = false → c ∉ u := fun hu hc hmem => absurd (hu _ hmem) (by simp [hc])
  have hplain : ∀ {c : Char}, Text.isBlank c = false → Text.isWord c = false →
      c ∉ a ++ e.name.chars ++ b := by
    intro c hc hword
    simp only [List.mem_append, not_or]
    exact ⟨⟨hblank ha hc, e.name.not_mem hword⟩, hblank hb hc⟩
  -- each removal goes along the lead and the value of what the one before it has left
  have hfirst : Becomes withoutBlocks (· = ',') e.chars
      (e.lead Filler.afterBlocks AttributeText.inBrackets ++ middle) := by
    refine (e.becomes_lead Filler.becomes_afterBlocks (fun a => ?_) fun n => ?_).append hblocks
    · exact a.becomes_inBrackets takes_blockComment startsWith_blockComment (by decide) a.noBlock
    · exact n.becomes_chars takes_blockComment startsWith_blockComment
  have hsecond : Becomes withoutLines (· = ',')
      (e.lead Filler.afterBlocks AttributeText.inBrackets ++ middle)
      (e.lead Filler.afterLines AttributeText.inBrackets ++ left) := by
    refine (e.becomes_lead Filler.becomes_afterLines (fun a => ?_) fun n => ?_).append hlines
    · exact a.becomes_inBrackets takes_lineComment startsWith_lineComment (by decide) a.noLine
    · exact n.becomes_chars takes_lineComment startsWith_lineComment
  have hthird : BecomesAnywhere shown (e.lead Filler.afterLines AttributeText.inBrackets ++ left)
      (e.lead Filler.afterLines (fun _ => []) ++ left) := by
    refine (e.becomes_lead (fun x => becomes_shown fun hmem => ?_) AttributeText.becomes_shown
      fun n => becomes_shown (n.not_mem rfl)).append (becomes_shown hrest.2)
    exact absurd (x.isBlank_of_mem_afterLines hmem) (by decide)
  refine ⟨a ++ e.name.chars ++ b ++ left, ?_, ?_, fun v hv => ?_⟩
  · rw [List.mem_append, not_or]
    exact ⟨hplain rfl rfl, hrest.1⟩
  · have hname := memberName?_name ha e.name hb
    rcases hleft with rfl | ⟨rest, rfl⟩
    · rwa [List.append_nil]
    · rwa [memberName?_append_value (hplain rfl rfl)]
  · rw [← hlead]
    exact cleaned_append hfirst hsecond hthird hv

end MemberEntry

/-! ## Reading a body -/

/-- The names in texts with commas between them are read one after another. -/
lemma readEnumMembers_intercalate {us : List (List Char)} {names : List (Option (List Char))}
    (h : List.Forall₂ ReadAs us names) :
    readEnumMembers ([','].intercalate us) = names.filterMap id := by
  have hread : ∀ u, readEnumMembers u = (Text.splitOn ',' (cleaned u)).filterMap memberName? :=
    fun _ => rfl
  have hnil : cleaned [] = [] := by decide
  induction h with
  | nil => decide
  | @cons u name us names hu hus ih =>
    obtain ⟨left, hcomma, rfl, hclean⟩ := hu
    cases hus with
    | nil =>
      have hlast := hclean [] (by simp)
      rw [List.append_nil, hnil, List.append_nil] at hlast
      rw [List.intercalate_singleton, hread, hlast, Text.splitOn_eq_singleton hcomma]
      simp only [List.filterMap_cons, List.filterMap_nil, id]
    | @cons u' name' us names hu' hus =>
      have hfirst := hclean (',' :: [','].intercalate (u' :: us)) (by simp)
      rw [cleaned_comma] at hfirst
      rw [List.intercalate_cons_cons, List.append_assoc, List.singleton_append, hread, hfirst,
        Text.splitOn_append_cons hcomma]
      rw [hread] at ih
      simp only [List.filterMap_cons, ih, id]

/-- **Reading the members of an enumeration gives back the names that were written**, whatever
attributes, values, blanks and comments stand around them. -/
theorem readEnumMembers_chars (b : MemberBody) :
    readEnumMembers b.chars = b.entries.map (·.name.chars) := by
  have hentries : ∀ es : List MemberEntry, List.Forall₂ ReadAs (es.map MemberEntry.chars)
      (es.map fun e => some e.name.chars) := by
    intro es
    rw [List.forall₂_map_left_iff, List.forall₂_map_right_iff, List.forall₂_same]
    exact fun e _ => e.readAs_chars
  have htrailing : ∀ fs : List (List Filler),
      List.Forall₂ ReadAs (fs.map fun fillers => fillers.flatMap Filler.chars)
        (fs.map fun _ => none) := by
    intro fs
    rw [List.forall₂_map_left_iff, List.forall₂_map_right_iff, List.forall₂_same]
    exact fun fillers _ => readAs_fillers fillers
  rw [MemberBody.chars, readEnumMembers_intercalate
    (List.rel_append (hentries b.entries) (htrailing b.trailing.toList)), List.filterMap_append,
    List.filterMap_map, List.filterMap_map]
  have hnames : (id ∘ fun e : MemberEntry => some e.name.chars) = some ∘ (·.name.chars) := rfl
  have hnone : (id ∘ fun _ : List Filler => (none : Option (List Char))) = fun _ => none := rfl
  rw [hnames, hnone, List.filterMap_eq_map, List.filterMap_none, List.append_nil]

/-- Two members: one with an attribute and a value, and comments of both sorts between them. -/
def switchBody : MemberBody where
  entries := [
    { attributes := [([], ⟨"Flag(1, 2)".toList, by decide, by decide, by decide⟩)]
      before := [.blank ' ' rfl]
      name := ⟨"On".toList, by decide⟩
      behind := [.blank ' ' rfl]
      value := some
        { before := [.blank ' ' rfl]
          chars := "1".toList
          behind := [.block " was, 2 ".toList (by decide)]
          noComma := by decide
          noBracket := by decide
          noLine := by decide
          noBlock := by decide } },
    { attributes := []
      before := [.line " next, last".toList (by decide) (by decide)]
      name := ⟨"Off".toList, by decide⟩
      behind := []
      value := none }]
  trailing := some [.blank ' ' rfl]

/-- The commas in the attribute and in the comments do not divide entries. -/
theorem readEnumMembers_chars_switch :
    switchBody.chars = "[Flag(1, 2)] On = 1/* was, 2 */,// next, last\nOff, ".toList ∧
    readEnumMembers switchBody.chars = ["On".toList, "Off".toList] :=
  ⟨by decide, readEnumMembers_chars switchBody⟩

end Conformance.Source
