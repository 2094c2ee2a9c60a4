/-
# The members of an enumeration in a layout

From the name in its header on, the text of an enumeration is read up to its first brace, and from
there to the brace that matches it.  Between them stand the members with blanks around them, and
splitting at commas and trimming gives their names back (`enumMembersAt_enum`).
-/
import Conformance.Proofs.Source.Layout
import Conformance.Proofs.Text.Pieces

namespace Conformance.Text

/-! ## Trimming and splitting -/

/-- Trimming word characters with blanks around them. -/
lemma trim_eq_word {u m v : List Char} (hu : ∀ x ∈ u, isBlank x = true)
    (hm : ∀ x ∈ m, isWord x = true) (hne : m ≠ []) (hv : ∀ x ∈ v, isBlank x = true) :
    trim (u ++ m ++ v) = m := by
  have hblank : ∀ x ∈ m, isBlank x = false := fun x hx => isBlank_eq_false_of_isWord (hm x hx)
  rw [List.append_assoc]
  exact trim_eq hu hne (fun x hx => hblank x (List.mem_of_mem_head? hx))
    (fun x hx => hblank x (List.mem_of_getLast? hx)) hv

lemma trim_blanks {u : List Char} (hu : ∀ x ∈ u, isBlank x = true) : trim u = [] := by
  have hstart : trimStart u = [] := List.dropWhile_eq_nil_iff.2 hu
  rw [trim, hstart]
  rfl

end Conformance.Text

namespace Conformance.Source

open Pattern

/-! ## Names between commas -/

lemma Name.ne_nil (n : Name) : n.chars ≠ [] := by
  obtain ⟨c, rest, hchars, -⟩ := isName_iff.1 n.valid
  simp [hchars]

lemma Name.not_mem (n : Name) {x : Char} (hx : Text.isWord x = false) : x ∉ n.chars :=
  fun h => absurd (isWord_of_mem_name n.valid h) (by simp [hx])

/-- A name with blanks around it is the name of a member. -/
lemma memberName?_name {u v : List Char} (hu : ∀ x ∈ u, Text.isBlank x = true) (n : Name)
    (hv : ∀ x ∈ v, Text.isBlank x = true) : memberName? (u ++ n.chars ++ v) = some n.chars := by
  have hvalue : '=' ∉ u ++ n.chars ++ v := by
    simp only [List.mem_append, not_or]
    refine ⟨⟨?_, n.not_mem rfl⟩, ?_⟩
    · exact fun h => absurd (hu _ h) (by decide)
    · exact fun h => absurd (hv _ h) (by decide)
  have htrim := Text.trim_eq_word hu (fun x hx => isWord_of_mem_name n.valid hx) n.ne_nil hv
  simp only [memberName?, Text.before_eq_self hvalue, htrim, n.valid, if_true]

lemma memberName?_blanks {u : List Char} (hu : ∀ x ∈ u, Text.isBlank x = true) :
    memberName? u = none := by
  have hvalue : '=' ∉ u := fun h => absurd (hu _ h) (by decide)
  simp [memberName?, Text.before_eq_self hvalue, Text.trim_blanks hu, isName]

/-- The pieces between the commas of a list of names, with blanks before and behind it, are the
names. -/
lemma filterMap_memberName?_commaSeparated {u v : List Char} (gap : Blanks) (ns : List Name)
    (hu : ∀ x ∈ u, Text.isBlank x = true) (hv : ∀ x ∈ v, Text.isBlank x = true) :
    (Text.splitOn ',' (u ++ commaSeparated gap.chars ns ++ v)).filterMap memberName?
      = ns.map Name.chars := by
  have hcomma : ∀ {w : List Char}, (∀ x ∈ w, Text.isBlank x = true) → ',' ∉ w :=
    fun hw h => absurd (hw _ h) (by decide)
  -- after the first name, the gap behind its comma takes the place of `u`
  induction ns generalizing u with
  | nil =>
    have hblanks : ∀ x ∈ u ++ v, Text.isBlank x = true := by
      intro x hx
      exact (List.mem_append.1 hx).elim (hu x) (hv x)
    simp only [commaSeparated, List.append_nil]
    rw [Text.splitOn_eq_singleton (hcomma hblanks), List.filterMap_cons_none
      (memberName?_blanks hblanks)]
    rfl
  | cons n ns ih =>
    have hfirst : ',' ∉ u ++ n.chars := by
      simp only [List.mem_append, not_or]
      exact ⟨hcomma hu, n.not_mem rfl⟩
    cases ns with
    | nil =>
      have hnone : ',' ∉ u ++ n.chars ++ v := by
        rw [List.mem_append, not_or]
        exact ⟨hfirst, hcomma hv⟩
      rw [commaSeparated, Text.splitOn_eq_singleton hnone,
        List.filterMap_cons_some (memberName?_name hu n hv)]
      rfl
    | cons n' ns =>
      have hsplit : u ++ commaSeparated gap.chars (n :: n' :: ns) ++ v
          = (u ++ n.chars) ++ ',' :: (gap.chars ++ commaSeparated gap.chars (n' :: ns) ++ v) := by
        simp [commaSeparated]
      have hname : memberName? (u ++ n.chars) = some n.chars := by
        simpa using memberName?_name hu n (v := []) (by simp)
      rw [hsplit, Text.splitOn_append_cons hfirst, List.filterMap_cons_some hname, ih gap.valid]
      rfl

/-! ## The text between the braces -/

/-- A body starts behind the first brace. -/
lemma enumBodyFrom_opening {u : List Char} (hu : ∀ x ∈ u, x ≠ '{' ∧ x ≠ ';')
    (body v : List Char) : enumBodyFrom 0 body (u ++ '{' :: v) = enumBodyFrom 1 body v := by
  induction u with
  | nil => simp [enumBodyFrom]
  | cons x u ih =>
    obtain ⟨hbrace, hsemicolon⟩ := hu x List.mem_cons_self
    rw [List.cons_append, enumBodyFrom, ih fun y hy => hu y (List.mem_cons_of_mem _ hy)]
    simp [hbrace, hsemicolon]

/-- A body without braces ends at the next closing brace. -/
lemma enumBodyFrom_closing {u : List Char} (hu : ∀ x ∈ u, x ≠ '{' ∧ x ≠ '}')
    (body v : List Char) : enumBodyFrom 1 body (u ++ '}' :: v) = some (body.reverse ++ u) := by
  induction u generalizing body with
  | nil => simp [enumBodyFrom]
  | cons x u ih =>
    obtain ⟨hopening, hclosing⟩ := hu x List.mem_cons_self
    rw [List.cons_append, enumBodyFrom, ih fun y hy => hu y (List.mem_cons_of_mem _ hy)]
    simp [hopening, hclosing]

/-- Nothing is a comment or an attribute in a listing. -/
lemma readEnumMembers_listing {text : List Char} (h : Listing text) :
    readEnumMembers text = (Text.splitOn ',' text).filterMap memberName? := by
  have hslash : '/' ∉ text := h.not_mem ⟨rfl, rfl, by decide⟩
  have hbracket : '[' ∉ text := h.not_mem ⟨rfl, rfl, by decide⟩
  have hblock : blockComment.removeFrom text = text :=
    removeFrom_eq_self_of_needs (x := '/') (by decide) hslash
  have hline : lineComment.removeFrom text = text :=
    removeFrom_eq_self_of_needs (x := '/') (by decide) hslash
  have hattribute : attributeBlock.removeFrom text = text :=
    removeFrom_eq_self_of_needs (x := '[') (by decide) hbracket
  simp only [readEnumMembers, hblock, hline, hattribute]

/-! ## An enumeration in a text -/

lemma drop_nameColumn (kind : ContainerKind) (head : Head) :
    (Line.header kind head).chars.drop (head.nameColumn kind) = head.name.chars ++ head.rest := by
  have hsplit : (Line.header kind head).chars = (head.indent.chars ++ ("public".toList ++
      ' ' :: (kind.word.toList ++ [' ']))) ++ (head.name.chars ++ head.rest) := by
    simp [Line.chars, typeLine]
  have hlength :
      (head.indent.chars ++ ("public".toList ++ ' ' :: (kind.word.toList ++ [' ']))).length
      = head.nameColumn kind := by
    simp [Head.nameColumn, String.length_toList]
    omega
  rw [hsplit, ← hlength, List.drop_left]

/-- What stands between the braces of an enumeration. -/
def MemberList.body (m : MemberList) (closing : Blanks) : List Char :=
  ('\n' :: m.indent.chars) ++ commaSeparated m.gap.chars m.names ++ ('\n' :: closing.chars)

/-- The text from the name of an enumeration on: up to a brace, the body, a brace, and more. -/
lemma textFrom_enum {lines rest : List String} {i : Nat} {head : Head} {members : MemberList}
    {closing : Blanks}
    (h : lines.drop i = render (TypeTree.enum head members closing).lines ++ rest) :
    ∃ lead more, textFrom lines i (head.nameColumn .enum)
        = lead ++ '{' :: (members.body closing ++ '}' :: more) ∧
      ∀ x ∈ lead, Text.isWord x = true ∨ Text.isBlank x = true := by
  have hname : ∀ x ∈ head.name.chars, Text.isWord x = true :=
    fun x hx => isWord_of_mem_name head.name.valid hx
  have hfirst := drop_nameColumn .enum head
  cases hbrace : head.brace with
  | sameLine gap =>
    refine ⟨head.name.chars ++ gap.chars, rest.flatMap fun l => '\n' :: l.toList, ?_, ?_⟩
    · have hlines : render (TypeTree.enum head members closing).lines
          = [String.ofList (Line.header .enum head).chars,
            String.ofList (Line.members members).chars,
            String.ofList (Line.closing closing).chars] := by
        simp [TypeTree.lines, Head.lines, hbrace, render]
      have hrest : head.rest = gap.chars ++ ['{'] := by simp [Head.rest, hbrace]
      rw [textFrom, h, hlines]
      simp only [List.cons_append, String.toList_ofList, hfirst, hrest]
      simp [Line.chars, MemberList.body]
    · intro x hx
      exact (List.mem_append.1 hx).imp (hname x) (gap.valid x)
  | nextLine indent =>
    refine ⟨head.name.chars ++ '\n' :: indent.chars, rest.flatMap fun l => '\n' :: l.toList, ?_, ?_⟩
    · have hlines : render (TypeTree.enum head members closing).lines
          = [String.ofList (Line.header .enum head).chars,
            String.ofList (Line.opening indent).chars,
            String.ofList (Line.members members).chars,
            String.ofList (Line.closing closing).chars] := by
        simp [TypeTree.lines, Head.lines, hbrace, render]
      have hrest : head.rest = [] := by simp [Head.rest, hbrace]
      rw [textFrom, h, hlines]
      simp only [List.cons_append, String.toList_ofList, hfirst, hrest]
      simp [Line.chars, MemberList.body]
    · intro x hx
      rcases List.mem_append.1 hx with hx | hx
      · exact Or.inl (hname x hx)
      · rcases List.mem_cons.1 hx with rfl | hx
        · exact Or.inr rfl
        · exact Or.inr (indent.valid x hx)

lemma listing_body (m : MemberList) (closing : Blanks) : Listing (m.body closing) := by
  intro x hx
  simp only [MemberList.body, List.mem_append, List.mem_cons] at hx
  rcases hx with ((rfl | hx) | hx) | rfl | hx
  · exact Or.inr (Or.inl rfl)
  · exact Or.inr (Or.inl (m.indent.valid x hx))
  · exact listing_commaSeparated m.gap m.names x hx
  · exact Or.inr (Or.inl rfl)
  · exact Or.inr (Or.inl (closing.valid x hx))

/-- The members read from the place of an enumeration are those that it lists. -/
theorem enumMembersAt_enum {lines rest : List String} {i : Nat} {head : Head} {members : MemberList}
    {closing : Blanks}
    (h : lines.drop i = render (TypeTree.enum head members closing).lines ++ rest) :
    enumMembersAt lines i (head.nameColumn .enum)
      = members.names.map fun n => String.ofList n.chars := by
  obtain ⟨lead, more, htext, hlead⟩ := textFrom_enum h
  have hlisting := listing_body members closing
  have hopening : ∀ x ∈ lead, x ≠ '{' ∧ x ≠ ';' := by
    intro x hx
    rcases hlead x hx with hx | hx
    · exact ⟨Text.ne_of_isWord hx rfl, Text.ne_of_isWord hx rfl⟩
    · exact ⟨Text.ne_of_isBlank hx rfl, Text.ne_of_isBlank hx rfl⟩
  have hclosing : ∀ x ∈ members.body closing, x ≠ '{' ∧ x ≠ '}' := by
    intro x hx
    have h₁ : '{' ∉ members.body closing := hlisting.not_mem ⟨rfl, rfl, by decide⟩
    have h₂ : '}' ∉ members.body closing := hlisting.not_mem ⟨rfl, rfl, by decide⟩
    exact ⟨fun h => h₁ (h ▸ hx), fun h => h₂ (h ▸ hx)⟩
  have hbody : enumBody? lines i (head.nameColumn .enum) = some (members.body closing) := by
    rw [enumBody?, htext, enumBodyFrom_opening hopening, enumBodyFrom_closing hclosing]
    rfl
  have hblanks : ∀ w : Blanks, ∀ x ∈ '\n' :: w.chars, Text.isBlank x = true := by
    intro w x hx
    rcases List.mem_cons.1 hx with rfl | hx
    · rfl
    · exact w.valid x hx
  -- the ends of the lines count as blanks before the first name and behind the last
  have hnames := filterMap_memberName?_commaSeparated members.gap members.names
    (hblanks members.indent) (hblanks closing)
  simp only [enumMembersAt, hbody, readEnumMembers_listing hlisting]
  rw [MemberList.body, hnames, List.map_map]
  rfl

end Conformance.Source
