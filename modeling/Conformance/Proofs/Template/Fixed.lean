/-
# Rendering in another memory

Where an operation of a value stands in memory shows in a message, and so do the members of a class
and its features.  All other values are written in the same way in every memory
(`FieldValue.isFixed`).  So a template whose fields hold such values alone is rendered in the same
way in two memories, unless one of them lacks the room for a layout
(`Template.render_sameUnlessFull`).  Which values the fields hold is told by their types, and so by
samples (`Template.fixedIn_of_samples`).
-/
import Conformance.Proofs.Template.Alike

namespace Conformance

/-! ## Outcomes in two memories -/

section SameUnlessFull

variable {α β : Type} {differs : Prop}

/-- Two outcomes are the same, unless the rooms differ and one of them is that there is none
left. -/
def SameUnlessFull (differs : Prop) (x y : Except TemplateFault α) : Prop :=
  x = y ∨ differs ∧ (x = .error .outOfMemory ∨ y = .error .outOfMemory)

lemma SameUnlessFull.refl (x : Except TemplateFault α) : SameUnlessFull differs x x :=
  .inl rfl

lemma SameUnlessFull.bind {x y : Except TemplateFault α} {f g : α → Except TemplateFault β}
    (h : SameUnlessFull differs x y)
    (hnext : ∀ a, x = .ok a → SameUnlessFull differs (f a) (g a)) :
    SameUnlessFull differs (x >>= f) (y >>= g) := by
  rcases h with rfl | ⟨hdiffers, rfl | rfl⟩
  · cases x with
    | error e => exact .inl rfl
    | ok a => exact hnext a rfl
  · exact .inr ⟨hdiffers, .inl rfl⟩
  · exact .inr ⟨hdiffers, .inr rfl⟩

lemma SameUnlessFull.mono {differs' : Prop} {x y : Except TemplateFault α}
    (h : SameUnlessFull differs x y) (hdiffers : differs → differs') :
    SameUnlessFull differs' x y :=
  h.imp_right (And.imp_left hdiffers)

/-- Where both succeed, they give the same. -/
lemma SameUnlessFull.eq_of_ok {x y : Except TemplateFault α} (h : SameUnlessFull differs x y)
    {a b : α} (hx : x = .ok a) (hy : y = .ok b) : a = b := by
  rcases h with rfl | ⟨-, h | h⟩
  · exact Except.ok.inj (hx.symm.trans hy)
  · exact absurd (hx.symm.trans h) (by simp)
  · exact absurd (hy.symm.trans h) (by simp)

/-- Where the rooms are the same, so are the outcomes. -/
lemma SameUnlessFull.eq {x y : Except TemplateFault α} (h : SameUnlessFull differs x y)
    (hsame : ¬differs) : x = y :=
  h.resolve_right fun hfull => hsame hfull.1

end SameUnlessFull

/-! ## Layouts -/

namespace Layout

lemma text_sameUnlessFull (room room' : Nat) (l : Layout) (cs : List Char) :
    SameUnlessFull (room ≠ room') (l.text room cs) (l.text room' cs) := by
  rcases eq_or_ne room room' with rfl | hne
  · exact .refl _
  unfold text
  split_ifs
  all_goals first
    | exact .refl _
    | exact .inr ⟨hne, .inl rfl⟩
    | exact .inr ⟨hne, .inr rfl⟩

lemma real_sameUnlessFull (room room' : Nat) (l : Layout) (typeName : String) (x : Binary64) :
    SameUnlessFull (room ≠ room') (l.real room typeName x) (l.real room' typeName x) := by
  rcases eq_or_ne room room' with rfl | hne
  · exact .refl _
  unfold real
  split
  · exact .refl _
  · split_ifs
    all_goals first
      | exact .refl _
      | exact .inr ⟨hne, .inl rfl⟩
      | exact .inr ⟨hne, .inr rfl⟩

lemma character_sameUnlessFull (room room' : Nat) (l : Layout) (i : Int) :
    SameUnlessFull (room ≠ room') (l.character room i) (l.character room' i) := by
  rcases eq_or_ne room room' with rfl | hne
  · exact .refl _
  unfold character
  split_ifs
  all_goals first
    | exact .refl _
    | exact .inr ⟨hne, .inl rfl⟩
    | exact .inr ⟨hne, .inr rfl⟩

lemma integer_sameUnlessFull (room room' : Nat) (l : Layout) (typeName : String) (i : Int) :
    SameUnlessFull (room ≠ room') (l.integer room typeName i) (l.integer room' typeName i) := by
  rcases eq_or_ne room room' with rfl | hne
  · exact .refl _
  unfold integer
  dsimp only
  split
  · split
    · exact .refl _
    split
    · exact .refl _
    split
    · exact l.character_sameUnlessFull room room' i
    · split_ifs
      all_goals first
        | exact .refl _
        | exact .inr ⟨hne, .inl rfl⟩
        | exact .inr ⟨hne, .inr rfl⟩
  · split
    · split
      · exact .refl _
      · exact l.real_sameUnlessFull room room' typeName _
    · exact .refl _

end Layout

/-! ## Values -/

namespace FieldValue

/-- Whether a value is written in the same way in every memory. -/
def isFixed : FieldValue → Bool
  | .operation .. => false
  | .member .staticMethod _ _ => false
  | .namespace _ => false
  | .features _ => false
  | _ => true

variable {v w : FieldValue}

lemma Alike.isFixed_eq {long : Prop} (h : Alike long v w) : v.isFixed = w.isFixed := by
  cases h <;> rfl

section Memories

variable {m n : Memory}

lemma shown_eq (h : v.isFixed = true) (o : Occasion) :
    v.shown (m := m) o = v.shown (m := n) o := by
  cases v with
  | member kind keeper name => cases kind <;> first | rfl | exact absurd h (by simp [isFixed])
  | _ => first | rfl | exact absurd h (by simp [isFixed])

lemma quoted_eq (h : v.isFixed = true) (o : Occasion) :
    v.quoted (m := m) o = v.quoted (m := n) o := by
  have hshown := @shown_eq v m n h o
  cases v with
  | text s => rfl
  | «namespace» c => exact absurd h (by simp [isFixed])
  | _ => exact hshown

lemma convert_eq (h : v.isFixed = true) (o : Occasion) (conversion : Option Char) :
    v.convert (m := m) o conversion = v.convert (m := n) o conversion := by
  simp only [convert, @shown_eq v m n h o, @quoted_eq v m n h o]

/-- What comes of a conversion of such a value is one. -/
lemma isFixed_of_convert (h : v.isFixed = true) {o : Occasion} {conversion : Option Char}
    (hw : v.convert (m := m) o conversion = .ok w) : w.isFixed = true := by
  by_cases htext : w.isText = true
  · obtain ⟨s, rfl⟩ := exists_of_isText htext
    rfl
  · obtain ⟨-, rfl⟩ := eq_none_of_convert hw (Bool.eq_false_of_not_eq_true htext)
    exact h

lemma layOut_sameUnlessFull (h : v.isFixed = true) (o : Occasion) (layout : List Char) :
    SameUnlessFull (m.room o ≠ n.room o) (v.layOut (m := m) o layout)
      (v.layOut (m := n) o layout) := by
  simp only [layOut, @shown_eq v m n h o]
  split
  · exact .refl _
  cases v with
  | text s => exact .bind (.refl _) fun l _ => l.text_sameUnlessFull _ _ _
  | int i => exact .bind (.refl _) fun l _ => l.integer_sameUnlessFull _ _ _ _
  | flag b => exact .bind (.refl _) fun l _ => l.integer_sameUnlessFull _ _ _ _
  | real x => exact .bind (.refl _) fun l _ => l.real_sameUnlessFull _ _ _ _
  | features c => exact absurd h (by simp [isFixed])
  | _ => exact .refl _

end Memories

end FieldValue

/-! ## Fields and templates -/

section Rendering

variable [Host]

/-- Whether the field of a template shows nothing of memory, told by samples. -/
def TemplateField.isFixed (samples : FieldValues) (f : TemplateField) : Bool :=
  match Template.valueOf samples f.name with
  | .ok v => v.isFixed
  | .error _ => false

/-- A field holds a value that is written in the same way in every memory, if it holds any. -/
def TemplateField.FixedIn (values : FieldValues) (f : TemplateField) : Prop :=
  ∀ v, Template.valueOf values f.name = .ok v → v.isFixed = true

namespace Template
open FieldValue

/-- Whether a template shows nothing of memory, its layouts included, told by samples. -/
def isFixed (samples : FieldValues) (t : Template) : Bool :=
  t.fields.all fun f =>
    f.isFixed samples && (!f.nested || (read f.layout).fields.all (·.isFixed samples))

/-- All fields of a template, those of its layouts included, are of that sort. -/
def FixedIn (values : FieldValues) (t : Template) : Prop :=
  ∀ f ∈ t.fields, f.FixedIn values ∧
    (f.nested = true → ∀ g ∈ (read f.layout).fields, g.FixedIn values)

variable {steady : List String} {samples values : FieldValues}

lemma fixedIn_of_isFixed (h : ValuesAlike steady samples values) {f : TemplateField}
    (hf : f.isFixed samples = true) : f.FixedIn values := by
  intro w hw
  unfold TemplateField.isFixed at hf
  split at hf
  · rename_i v hv
    rcases valueOf_follows h f.name v hv with ⟨w', hw', hvw⟩ | ⟨e, -, he⟩
    · obtain rfl := Except.ok.inj (hw.symm.trans hw')
      exact hvw.isFixed_eq ▸ hf
    · exact absurd (hw.symm.trans he) (by simp)
  · exact absurd hf Bool.false_ne_true

/-- A template that shows nothing of memory with samples does not with values of the same types. -/
lemma fixedIn_of_samples (h : ValuesAlike steady samples values) {t : Template}
    (ht : t.isFixed samples = true) : t.FixedIn values := by
  intro f hf
  have hfixed := List.all_eq_true.1 ht f hf
  rw [Bool.and_eq_true, Bool.or_eq_true, Bool.not_eq_true', List.all_eq_true] at hfixed
  refine ⟨fixedIn_of_isFixed h hfixed.1, fun hnested g hg => ?_⟩
  refine fixedIn_of_isFixed h (hfixed.2.resolve_left ?_ g hg)
  rw [hnested]
  exact Bool.noConfusion

variable {m n : Memory} {layouts layouts' : TemplateField → Except TemplateFault (List Char)}

/-- Somewhere there is more room in one memory than in the other. -/
def RoomsDiffer (m n : Memory) : Prop :=
  ∃ o, m.room o ≠ n.room o

lemma renderField_sameUnlessFull {f : TemplateField} (hf : f.FixedIn values)
    (hlayouts : SameUnlessFull (RoomsDiffer m n) (layouts f) (layouts' f)) (o : Occasion) :
    SameUnlessFull (RoomsDiffer m n) (renderField (m := m) o values layouts f)
      (renderField (m := n) o values layouts' f) := by
  refine .bind (.refl _) fun v hv => ?_
  rw [@convert_eq v m n (hf v hv) o]
  refine .bind (.refl _) fun w hw => ?_
  refine .bind hlayouts fun layout _ => ?_
  exact (layOut_sameUnlessFull (isFixed_of_convert (hf v hv) hw) o layout).mono fun h => ⟨o, h⟩

lemma renderPieces_sameUnlessFull {inLayout : Bool} {pieces : List TemplatePiece}
    (h : ∀ f, .field f ∈ pieces →
      f.FixedIn values ∧ SameUnlessFull (RoomsDiffer m n) (layouts f) (layouts' f)) :
    SameUnlessFull (RoomsDiffer m n) (renderPieces (m := m) values inLayout layouts pieces)
      (renderPieces (m := n) values inLayout layouts' pieces) := by
  induction pieces with
  | nil => exact .refl _
  | cons piece pieces ih =>
    have hrest := ih fun f hf => h f (List.mem_cons_of_mem _ hf)
    cases piece with
    | text cs => exact hrest.bind fun _ _ => .refl _
    | field f =>
      obtain ⟨hf, hlayouts⟩ := h f List.mem_cons_self
      rw [renderPieces_field (m := m), renderPieces_field (m := n)]
      refine .bind (renderField_sameUnlessFull hf hlayouts _) fun _ _ => ?_
      exact hrest.bind fun _ _ => .refl _

lemma renderWith_sameUnlessFull {inLayout : Bool} {t : Template}
    (h : ∀ f ∈ t.fields,
      f.FixedIn values ∧ SameUnlessFull (RoomsDiffer m n) (layouts f) (layouts' f)) :
    SameUnlessFull (RoomsDiffer m n) (renderWith (m := m) values inLayout layouts t)
      (renderWith (m := n) values inLayout layouts' t) := by
  simp only [← field_mem_iff] at h
  exact .bind (renderPieces_sameUnlessFull h) fun _ _ => .refl _

/-- **A template that shows nothing of memory is rendered in the same way in two memories**, unless
one of them lacks room. -/
theorem render_sameUnlessFull {t : Template} (ht : t.FixedIn values) :
    SameUnlessFull (RoomsDiffer m n) (t.render (m := m) values) (t.render (m := n) values) := by
  refine .bind (renderWith_sameUnlessFull fun f hf => ⟨(ht f hf).1, ?_⟩) fun _ _ => .refl _
  unfold outerLayout
  split
  · rename_i hnested
    exact renderWith_sameUnlessFull fun g hg => ⟨(ht f hf).2 hnested g hg, .refl _⟩
  · exact .refl _

end Template

end Rendering

end Conformance
