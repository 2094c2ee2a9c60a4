/-
# Rendering with other values of the same types

A template that renders with one set of values need not render with another: a text can be too short
for an index, a whole number too large for its presentation, a layout that is rendered itself can
become anything, and there can be less room than a layout asks for.  Nothing else can go wrong, as
long as the values have the same types (`Template.render_follows`).  `Follows` says how the outcome
with one set of values follows that with another, and every step of rendering is shown to keep it.
The two sets may be rendered in different memories.
-/
import Conformance.Proofs.Template.Layout

namespace Conformance

/-! ## Outcomes that follow others -/

section Follows

variable {α β γ δ : Type}

/-- Where `x` succeeds, so does `y` with a related result, unless it fails with one of some
faults. -/
def Follows (R : α → β → Prop) (faults : TemplateFault → Prop) (x : Except TemplateFault α)
    (y : Except TemplateFault β) : Prop :=
  ∀ a, x = .ok a → (∃ b, y = .ok b ∧ R a b) ∨ ∃ e, faults e ∧ y = .error e

variable {R : α → β → Prop} {faults : TemplateFault → Prop} {x : Except TemplateFault α}
  {y : Except TemplateFault β}

lemma Follows.ok {a : α} {b : β} (h : R a b) : Follows R faults (.ok a) (.ok b) := by
  intro a' ha
  obtain rfl := Except.ok.inj ha
  exact .inl ⟨b, rfl, h⟩

lemma Follows.of_error {e : TemplateFault} : Follows R faults (.error e) y := by
  intro a ha
  exact absurd ha (by simp)

lemma Follows.of_fault {e : TemplateFault} (h : faults e) : Follows R faults x (.error e) :=
  fun _ _ => .inr ⟨e, h, rfl⟩

lemma Follows.refl {R : α → α → Prop} (hR : ∀ a, R a a) (x : Except TemplateFault α) :
    Follows R faults x x :=
  fun a ha => .inl ⟨a, ha, hR a⟩

lemma Follows.mono {R' : α → β → Prop} {faults' : TemplateFault → Prop}
    (h : Follows R faults x y) (hR : ∀ a b, R a b → R' a b) (hfaults : ∀ e, faults e → faults' e) :
    Follows R' faults' x y := by
  intro a ha
  rcases h a ha with ⟨b, hb, hab⟩ | ⟨e, he, hy⟩
  · exact .inl ⟨b, hb, hR a b hab⟩
  · exact .inr ⟨e, hfaults e he, hy⟩

lemma Follows.mono_faults {faults' : TemplateFault → Prop} (h : Follows R faults x y)
    (hfaults : ∀ e, faults e → faults' e) : Follows R faults' x y :=
  h.mono (fun _ _ hab => hab) hfaults

/-- The outcomes of two steps follow each other if those of each do. -/
lemma Follows.bind {S : γ → δ → Prop} {f : α → Except TemplateFault γ}
    {g : β → Except TemplateFault δ} (h : Follows R faults x y)
    (hnext : ∀ a b, x = .ok a → R a b → Follows S faults (f a) (g b)) :
    Follows S faults (x >>= f) (y >>= g) := by
  intro c hc
  obtain ⟨a, ha, hc⟩ := bind_eq_ok.1 hc
  rcases h a ha with ⟨b, hb, hab⟩ | ⟨e, he, hy⟩
  · rw [hb, ok_bind]
    exact hnext a b ha hab c hc
  · rw [hy, error_bind]
    exact .inr ⟨e, he, rfl⟩

/-- The first step is the same. -/
lemma Follows.bind_same {S : γ → δ → Prop} {f : α → Except TemplateFault γ}
    {g : α → Except TemplateFault δ} (hnext : ∀ a, x = .ok a → Follows S faults (f a) (g a)) :
    Follows S faults (x >>= f) (x >>= g) := by
  refine Follows.bind (Follows.refl (fun _ => rfl) x) ?_
  rintro a b ha rfl
  exact hnext a ha

end Follows

/-! ## Values of one type -/

namespace FieldValue

/-- Two values of one type; where it is known to be `long`, the second text is at least as long as
the first. -/
inductive Alike (long : Prop) : FieldValue → FieldValue → Prop
  | same (v : FieldValue) : Alike long v v
  | text (s t : String) (h : long → s.length ≤ t.length) : Alike long (.text s) (.text t)
  | int (i j : Int) : Alike long (.int i) (.int j)
  | real (x y : Binary64) : Alike long (.real x) (.real y)
  | operation {v w : FieldValue} (keeper : ValueClass) (slot : Bool) (name : String)
    (h : Alike long v w) :
      Alike long (.operation keeper v slot name) (.operation keeper w slot name)

/-- Whether a value is a text. -/
def isText : FieldValue → Bool
  | .text _ => true
  | _ => false

variable {long : Prop} {v w : FieldValue}

lemma exists_of_isText (h : v.isText = true) : ∃ s, v = .text s := by
  cases v with
  | text s => exact ⟨s, rfl⟩
  | _ => exact absurd h (by simp [isText])

lemma Alike.forget (h : Alike long v w) : Alike False v w := by
  induction h with
  | same v => exact .same v
  | text s t _ => exact .text s t False.elim
  | int i j => exact .int i j
  | real x y => exact .real x y
  | operation keeper slot name _ ih => exact .operation keeper slot name ih

lemma Alike.valueClass_eq (h : Alike long v w) : v.valueClass = w.valueClass := by
  cases h <;> rfl

lemma Alike.namingClass_eq (h : Alike long v w) : v.namingClass = w.namingClass := by
  cases h <;> rfl

lemma rel_self (x : Option FieldValue) : Option.Rel (Alike long) x x := by
  cases x with
  | none => exact .none
  | some u => exact .some (.same u)

lemma Alike.wholeFact? (h : Alike long v w) (name : String) :
    Option.Rel (Alike long) (FieldValue.wholeFact? v name) (FieldValue.wholeFact? w name) := by
  unfold FieldValue.wholeFact?
  split
  · exact .some h
  · exact .some h
  · exact rel_self _
  · exact rel_self _
  · exact .none

lemma realFact?_alike (x y : Binary64) (name : String) :
    Option.Rel (Alike long) (realFact? x name) (realFact? y name) := by
  unfold realFact?
  split
  · exact .some (.real x y)
  · exact rel_self _
  · exact .none

section Lookup

variable [Host]

/-- Of the owner of an operation, only the owner itself tells more than its class. -/
lemma Alike.operationFact? (h : Alike long v w) (keeper : ValueClass) (slot : Bool)
    (op name : String) : Option.Rel (Alike long) (FieldValue.operationFact? keeper v slot op name)
      (FieldValue.operationFact? keeper w slot op name) := by
  unfold FieldValue.operationFact?
  rw [h.namingClass_eq]
  split
  case h_2 =>
    split_ifs
    · exact rel_self _
    · exact .some h
  all_goals exact rel_self _

/-- What one value tells, another of its type tells too. -/
lemma Alike.fact? (h : Alike long v w) (name : String) :
    Option.Rel (Alike long) (v.fact? name) (w.fact? name) := by
  unfold FieldValue.fact?
  rw [h.valueClass_eq]
  split_ifs
  · exact rel_self _
  · cases h with
    | same v => exact rel_self _
    | text s t _ => exact .none
    | int i j => exact (Alike.int i j).wholeFact? name
    | real x y => exact realFact?_alike x y name
    | operation keeper slot op h => exact h.operationFact? keeper slot op name

lemma Alike.fact_follows (h : Alike long v w) (name : String) {faults : TemplateFault → Prop} :
    Follows (Alike long) faults (v.fact name) (w.fact name) := by
  have hfact := h.fact? name
  unfold fact
  generalize v.fact? name = x at hfact ⊢
  generalize w.fact? name = y at hfact ⊢
  cases hfact with
  | some hx => exact .ok hx
  | none =>
    split
    · exact absurd ‹none = some _› (by simp)
    · exact .of_error
    · exact .of_error

lemma Alike.bound_follows (h : Alike long v w) (keeper : ValueClass) (kind : MemberKind)
    (name : String) {faults : TemplateFault → Prop} :
    Follows (Alike long) faults (v.bound keeper kind name) (w.bound keeper kind name) := by
  cases kind with
  | slot => exact .ok (.operation keeper true name h)
  | method => exact .ok (.operation keeper false name h)
  | classMethod =>
    simp only [bound, h.valueClass_eq]
    exact .ok (.same _)
  | «attribute» => exact h.fact_follows name
  | field => exact h.fact_follows name
  | staticMethod => exact .ok (.same _)
  | maker => exact .ok (.same _)
  | help => exact .ok (.same _)
  | unhashable => exact .ok (.same _)

lemma Alike.ownProperty_follows (h : Alike long v w) (name : String)
    {faults : TemplateFault → Prop} :
    Follows (Alike long) faults (v.ownProperty name) (w.ownProperty name) := by
  unfold ownProperty
  rw [h.valueClass_eq]
  split
  · exact h.bound_follows _ _ name
  · exact .of_error

/-- An attribute of a value is there for all values of the type. -/
lemma Alike.property_follows (h : Alike long v w) (name : String) {faults : TemplateFault → Prop} :
    Follows (Alike long) faults (v.property name) (w.property name) := by
  cases h with
  | same v => exact Follows.refl .same _
  | text s t h => exact (Alike.text s t h).ownProperty_follows name
  | int i j => exact (Alike.int i j).ownProperty_follows name
  | real x y => exact (Alike.real x y).ownProperty_follows name
  | operation keeper slot op h => exact (Alike.operation keeper slot op h).ownProperty_follows name

/-- An item of a text may be missing from another text. -/
lemma Alike.itemAt_follows (h : Alike long v w) (key : ItemKey) :
    Follows (Alike long) (fun e => ¬long ∧ e = .indexOutOfRange) (v.itemAt key)
      (w.itemAt key) := by
  cases h with
  | same v => exact Follows.refl .same _
  | text s t hlength =>
    cases key with
    | word _ => exact .of_error
    | place n =>
      simp only [itemAt]
      cases hs : s.toList[n]? with
      | none => exact .of_error
      | some c =>
        cases ht : t.toList[n]? with
        | some d => exact .ok (.text _ _ fun _ => by simp)
        | none =>
          -- the one text has the character and the other is shorter
          refine .of_fault ⟨fun hlong => ?_, rfl⟩
          have hlt := (List.getElem?_eq_some_iff.1 hs).1
          have hge := List.getElem?_eq_none_iff.1 ht
          have hle := hlength hlong
          simp only [String.length_toList] at hlt hge
          omega
  | int i j => cases key <;> exact .of_error
  | real x y => cases key <;> exact .of_error
  | operation keeper slot name _ => cases key <;> exact .of_error

lemma Alike.item_follows (h : Alike long v w) (index : List Char) :
    Follows (Alike long) (fun e => ¬long ∧ e = .indexOutOfRange) (v.item index) (w.item index) := by
  simp only [item]
  refine Follows.bind_same fun i _ => ?_
  cases i with
  | some n => exact h.itemAt_follows _
  | none => exact h.itemAt_follows _

end Lookup

end FieldValue

namespace Template
open FieldValue

variable [Host]

/-- Looking up attributes and items may fail where an index is written. -/
lemma lookUp_follows {long : Prop} (fuel : Nat) {v w : FieldValue} (h : Alike long v w)
    (cs : List Char) :
    Follows (Alike long) (fun e => '[' ∈ cs ∧ ¬long ∧ e = .indexOutOfRange)
      (lookUp fuel v cs) (lookUp fuel w cs) := by
  -- the two values read the same text, so that only the values differ in each case
  fun_induction lookUp fuel v cs generalizing w with
  | case1 v cs => exact .ok h
  | case2 fuel v => exact .ok h
  | case3 => exact .of_error
  | case4 fuel v cs name hname =>
    rename_i ih
    have hw : lookUp (fuel + 1) w ('.' :: cs) = w.property (String.ofList (rootOf cs)) >>=
        fun u => lookUp fuel u (cs.drop (rootOf cs).length) := by
      simp only [lookUp]
      exact if_neg hname
    rw [hw]
    refine Follows.bind (h.property_follows _) fun u u' _ hu => ?_
    refine (ih u hu).mono_faults ?_
    rintro e ⟨hmem, he⟩
    exact ⟨List.mem_cons_of_mem _ (List.mem_of_mem_drop hmem), he⟩
  | case5 => exact .of_error
  | case6 => exact .of_error
  | case7 fuel v cs index c rest hrest hindex =>
    rename_i ih
    have hw : lookUp (fuel + 1) w ('[' :: cs) =
        w.item (cs.takeWhile (· != ']')) >>= fun u => lookUp fuel u rest := by
      simp only [lookUp]
      rw [hrest]
      exact if_neg hindex
    rw [hw]
    refine Follows.bind ((h.item_follows _).mono_faults fun e he => ?_) fun u u' _ hu => ?_
    · exact ⟨List.mem_cons_self, he⟩
    · refine (ih u hu).mono_faults ?_
      rintro e ⟨-, he⟩
      exact ⟨List.mem_cons_self, he⟩
  | case8 => exact .of_error

end Template

/-! ## Sets of values -/

/-- Two sets of values with the same fields and types; the texts of the `steady` fields of the
second are at least as long as those of the first. -/
def ValuesAlike (steady : List String) (samples values : FieldValues) : Prop :=
  List.Forall₂ (fun s x => s.1 = x.1 ∧
    FieldValue.Alike (s.1 ∈ steady ∨ s.2.isText = false) s.2 x.2) samples values

variable {steady : List String} {samples values : FieldValues}

lemma ValuesAlike.lookup (h : ValuesAlike steady samples values) {name : String} {v : FieldValue}
    (hv : samples.lookup name = some v) :
    ∃ w, values.lookup name = some w ∧ v.Alike (name ∈ steady ∨ v.isText = false) w := by
  induction h with
  | nil => exact absurd hv (by simp)
  | @cons s x samples values hfirst _ ih =>
    obtain ⟨field, u⟩ := s
    obtain ⟨field', w⟩ := x
    obtain ⟨rfl, huw⟩ := hfirst
    rw [List.lookup_cons] at hv ⊢
    by_cases hname : name = field
    · subst hname
      rw [beq_self_eq_true] at hv ⊢
      obtain rfl := Option.some.inj hv
      exact ⟨w, rfl, huw⟩
    · rw [beq_eq_false_iff_ne.2 hname] at hv ⊢
      exact ih hv

namespace Template
open FieldValue

variable [Host]

/-- The value of a field may be missing where an index is written in the name of a field that holds
a text and is not steady. -/
lemma valueOf_follows (h : ValuesAlike steady samples values) (name : List Char) :
    Follows (Alike False)
      (fun e => '[' ∈ name ∧ String.ofList (rootOf name) ∉ steady ∧
        (∃ s, samples.lookup (String.ofList (rootOf name)) = some (.text s)) ∧
        e = .indexOutOfRange)
      (valueOf samples name) (valueOf values name) := by
  simp only [valueOf]
  split
  · exact .of_error
  · exact .of_error
  · split_ifs
    · exact .of_error
    · cases hv : samples.lookup (String.ofList (rootOf name)) with
      | none => exact .of_error
      | some v =>
        obtain ⟨w, hw, hvw⟩ := h.lookup hv
        rw [hw]
        refine (lookUp_follows name.length hvw _).mono (fun _ _ h => h.forget) ?_
        rintro e ⟨hmem, hlong, rfl⟩
        rw [not_or, Bool.not_eq_false] at hlong
        exact ⟨List.mem_of_mem_drop hmem, hlong.1, by
          obtain ⟨s, rfl⟩ := exists_of_isText hlong.2
          exact ⟨s, rfl⟩, rfl⟩

end Template

namespace FieldValue

variable {v w : FieldValue}

lemma exists_convert [Memory] {c : Char} (hc : c = 'r' ∨ c = 's' ∨ c = 'a') (o : Occasion)
    (v : FieldValue) : ∃ s, v.convert o (some c) = .ok (.text s) := by
  rcases hc with rfl | rfl | rfl <;> exact ⟨_, rfl⟩

lemma convert_unknown [Memory] {c : Char} (hc : ¬(c = 'r' ∨ c = 's' ∨ c = 'a')) (o : Occasion)
    (v : FieldValue) : v.convert o (some c) = .error (.unknownConversion c) := by
  unfold convert
  split <;> simp_all

section Memories

variable {m n : Memory}

/-- A conversion is known or not, whatever the value; it makes a text. -/
lemma Alike.convert_follows (h : Alike False v w) (o o' : Occasion) (conversion : Option Char)
    {faults : TemplateFault → Prop} :
    Follows (Alike False) faults (v.convert (m := m) o conversion)
      (w.convert (m := n) o' conversion) := by
  cases conversion with
  | none => exact .ok h
  | some c =>
    by_cases hc : c = 'r' ∨ c = 's' ∨ c = 'a'
    · obtain ⟨s, hs⟩ := @exists_convert m c hc o v
      obtain ⟨t, ht⟩ := @exists_convert n c hc o' w
      rw [hs, ht]
      exact .ok (.text s t False.elim)
    · rw [@convert_unknown m c hc o v]
      exact .of_error

/-- A value that is no text has not been converted. -/
lemma eq_none_of_convert {o : Occasion} {conversion : Option Char} {u : FieldValue}
    (h : v.convert (m := m) o conversion = .ok u) (hu : u.isText = false) :
    conversion = none ∧ v = u := by
  cases conversion with
  | none => exact ⟨rfl, Except.ok.inj h⟩
  | some c =>
    by_cases hc : c = 'r' ∨ c = 's' ∨ c = 'a'
    · obtain ⟨s, hs⟩ := @exists_convert m c hc o v
      obtain rfl := Except.ok.inj (hs.symm.trans h)
      exact absurd hu (by simp [isText])
    · exact absurd ((@convert_unknown m c hc o v).symm.trans h) (by simp)

/-- Whether a value is a whole number that is not known before it is written. -/
def isOpenNumber : FieldValue → Bool
  | .int _ => true
  | .features _ => true
  | _ => false

/-- What can go wrong when a value is laid out, though another one of its type was laid out: a whole
number passes a range, or there is less room than the layout asks for. -/
inductive LayoutFails (n : Memory) (v : FieldValue) (layout : List Char) : TemplateFault → Prop
  | range {p : Char} {e : TemplateFault} (hv : v.isOpenNumber = true)
    (hlast : layout.getLast? = some p) (he : e ∈ Layout.rangeFaults p) : LayoutFails n v layout e
  | room {typeName : String} {align : Char} {presentation : Option Char} {l : Layout}
    (hread : Layout.read typeName align presentation layout = .ok l) {o : Occasion}
    (hroom : n.room o < l.demand) : LayoutFails n v layout .outOfMemory

/-- A whole number that is laid out where another one was. -/
lemma integer_follows {v : FieldValue} (hv : v.isOpenNumber = true) {layout : List Char}
    (o : Occasion) (room : Nat) (i j : Int) :
    Follows (fun _ _ => True) (LayoutFails n v layout)
      ((Layout.read "int" '>' (some 'd') layout).bind (·.integer room "int" i))
      ((Layout.read "int" '>' (some 'd') layout).bind (·.integer (n.room o) "int" j)) := by
  refine Follows.bind_same fun l hl shown hshown => ?_
  rcases Layout.integer_fits hshown (n.room o) j with
    ⟨shown', hshown'⟩ | ⟨p, hp, e, he, herror⟩ | ⟨hroom, herror⟩
  · exact .inl ⟨shown', hshown', trivial⟩
  · have hread := Layout.read_leaves "int" '>' (some 'd') layout
    rw [hl] at hread
    rcases hread.1 with hdefault | hlast
    · -- the default presentation has no range
      obtain rfl := Option.some.inj (hp.symm.trans hdefault)
      exact absurd he (by simp [Layout.rangeFaults])
    · exact .inr ⟨e, .range hv (hlast.trans hp) he, herror⟩
  · exact .inr ⟨_, .room hl hroom, herror⟩

/-- A value whose layout fits all values of its type or none is laid out where another one was. -/
lemma uniform_follows {α : Type} {write : Nat → Layout → α → Except TemplateFault (List Char)}
    (hwrite : ∀ l : Layout, Layout.Uniform l.demand (write · l)) {v : FieldValue}
    (typeName : String) (align : Char) (presentation : Option Char) (layout : List Char)
    (o : Occasion) (room : Nat) (a b : α) :
    Follows (fun _ _ => True) (LayoutFails n v layout)
      ((Layout.read typeName align presentation layout).bind (write room · a))
      ((Layout.read typeName align presentation layout).bind (write (n.room o) · b)) := by
  refine Follows.bind_same fun l hl shown hshown => ?_
  rcases (hwrite l).fits hshown (n.room o) b with ⟨shown', hshown'⟩ | ⟨hroom, herror⟩
  · exact .inl ⟨shown', hshown', trivial⟩
  · exact .inr ⟨_, .room hl hroom, herror⟩

/-- A layout that fits a value fits the others of its type, limits apart. -/
lemma Alike.layOut_follows (h : Alike False v w) (o o' : Occasion) (layout : List Char) :
    Follows (fun _ _ => True) (LayoutFails n v layout) (v.layOut (m := m) o layout)
      (w.layOut (m := n) o' layout) := by
  simp only [layOut]
  split_ifs
  · exact .ok trivial
  cases h with
  | same v =>
    cases v with
    | text s => exact uniform_follows Layout.text_uniform "str" '<' (some 's') layout o' _ _ _
    | int i => exact integer_follows rfl o' _ i i
    | features c => exact integer_follows rfl o' _ _ _
    | real x =>
      exact uniform_follows (Layout.real_uniform · "float") "float" '>' none layout o' _ x x
    | flag b =>
      refine Follows.bind_same fun l hl shown hshown => ?_
      rcases Layout.integer_room hshown (n.room o') with ⟨shown', hshown'⟩ | ⟨hroom, herror⟩
      · exact .inl ⟨shown', hshown', trivial⟩
      · exact .inr ⟨_, .room hl hroom, herror⟩
    | _ => exact .of_error
  | text s t _ => exact uniform_follows Layout.text_uniform "str" '<' (some 's') layout o' _ _ _
  | int i j => exact integer_follows rfl o' _ i j
  | real x y =>
    exact uniform_follows (Layout.real_uniform · "float") "float" '>' none layout o' _ x y
  | operation keeper slot name _ => exact .of_error

end Memories

end FieldValue

/-! ## Fields and templates -/

namespace Template

lemma field_mem_iff {t : Template} {f : TemplateField} :
    .field f ∈ t.pieces ↔ f ∈ t.fields := by
  rw [fields, List.mem_filterMap]
  constructor
  · intro h
    exact ⟨_, h, rfl⟩
  · rintro ⟨piece, hpiece, hf⟩
    cases piece with
    | text cs => exact absurd hf (by simp)
    | field g =>
      obtain rfl := Option.some.inj hf
      exact hpiece

lemma isLimit_of_mem_rangeFaults {p : Char} {e : TemplateFault} (h : e ∈ Layout.rangeFaults p) :
    e.isLimit = true := by
  unfold Layout.rangeFaults at h
  split at h <;> simp at h
  · rcases h with rfl | rfl <;> rfl
  all_goals
    subst h
    rfl

/-- The layout inside a layout is there if it holds no fields. -/
lemma innerLayout_of_plain {f : TemplateField} (h : f.nested = false) :
    innerLayout f = .ok f.layout := by
  simp [innerLayout, h]

end Template

section Rendering

variable [Host]

/-- The faults that a field can have with values, though it has none with samples of the same
types. -/
inductive TemplateField.CanFail [m : Memory] (steady : List String) (samples : FieldValues)
    (f : TemplateField) : TemplateFault → Prop
  /-- A text is too short for an index. -/
  | index {s : String} (hname : '[' ∈ f.name)
    (hroot : String.ofList (Template.rootOf f.name) ∉ steady)
    (htext : samples.lookup (String.ofList (Template.rootOf f.name)) = some (.text s)) :
    CanFail steady samples f .indexOutOfRange
  /-- A whole number passes the range of what it is written as. -/
  | range {v : FieldValue} {p : Char} {e : TemplateFault} (hconversion : f.conversion = none)
    (hvalue : Template.valueOf samples f.name = .ok v) (hnumber : v.isOpenNumber = true)
    (hnested : f.nested = false) (hlast : f.layout.getLast? = some p)
    (he : e ∈ Layout.rangeFaults p) : CanFail steady samples f e
  /-- There is less room than the layout asks for. -/
  | room {typeName : String} {align : Char} {presentation : Option Char} {l : Layout}
    (hnested : f.nested = false)
    (hread : Layout.read typeName align presentation f.layout = .ok l) {o : Occasion}
    (hroom : m.room o < l.demand) : CanFail steady samples f .outOfMemory
  /-- A layout that holds fields cannot be rendered, or does not fit the value. -/
  | layout {e : TemplateFault} (hnested : f.nested = true)
    (he : e = .indexOutOfRange ∨ e.concernsLayout = true ∨ e.isLimit = true) :
    CanFail steady samples f e

namespace Template
open FieldValue

/-- A field is rendered on an occasion. -/
def renderField [m : Memory] (o : Occasion) (values : FieldValues)
    (layouts : TemplateField → Except TemplateFault (List Char)) (f : TemplateField) :
    Except TemplateFault (List Char) := do
  let v ← valueOf values f.name
  let v ← v.convert o f.conversion
  let layout ← layouts f
  v.layOut o layout

lemma renderPieces_field [m : Memory] (values : FieldValues) (inLayout : Bool)
    (layouts : TemplateField → Except TemplateFault (List Char)) (f : TemplateField)
    (rest : List TemplatePiece) :
    renderPieces values inLayout layouts (.field f :: rest) = (do
      let text ← renderField ⟨values, inLayout, .field f :: rest⟩ values layouts f
      let texts ← renderPieces values inLayout layouts rest
      return text ++ texts) := by
  simp only [renderPieces, renderField, bind_assoc]

variable {m n : Memory} {steady : List String} {samples values : FieldValues}
  {layouts layouts' : TemplateField → Except TemplateFault (List Char)}

section Pieces

variable {canFail : TemplateField → TemplateFault → Prop} {inLayout : Bool}

/-- Pieces can fail where one of their fields can. -/
lemma renderPieces_follows {pieces : List TemplatePiece}
    (h : ∀ f, .field f ∈ pieces → ∀ o o', Follows (fun _ _ => True) (canFail f)
      (renderField (m := m) o samples layouts f) (renderField (m := n) o' values layouts' f)) :
    Follows (fun _ _ => True) (fun e => ∃ f, .field f ∈ pieces ∧ canFail f e)
      (renderPieces (m := m) samples inLayout layouts pieces)
      (renderPieces (m := n) values inLayout layouts' pieces) := by
  induction pieces with
  | nil => exact .ok trivial
  | cons piece pieces ih =>
    have hrest : Follows (fun _ _ => True) (fun e => ∃ f, .field f ∈ piece :: pieces ∧ canFail f e)
        (renderPieces (m := m) samples inLayout layouts pieces)
        (renderPieces (m := n) values inLayout layouts' pieces) := by
      refine (ih fun f hf => h f (List.mem_cons_of_mem _ hf)).mono_faults ?_
      rintro e ⟨f, hf, he⟩
      exact ⟨f, List.mem_cons_of_mem _ hf, he⟩
    cases piece with
    | text cs => exact Follows.bind hrest fun _ _ _ _ => .ok trivial
    | field f =>
      rw [renderPieces_field (m := m), renderPieces_field (m := n)]
      refine Follows.bind ((h f List.mem_cons_self _ _).mono_faults fun e he => ?_)
        fun _ _ _ _ => ?_
      · exact ⟨f, List.mem_cons_self, he⟩
      · exact Follows.bind hrest fun _ _ _ _ => .ok trivial

lemma renderWith_follows {t : Template}
    (h : ∀ f ∈ t.fields, ∀ o o', Follows (fun _ _ => True) (canFail f)
      (renderField (m := m) o samples layouts f) (renderField (m := n) o' values layouts' f)) :
    Follows (fun _ _ => True) (fun e => ∃ f ∈ t.fields, canFail f e)
      (renderWith (m := m) samples inLayout layouts t)
      (renderWith (m := n) values inLayout layouts' t) := by
  simp only [← field_mem_iff] at h ⊢
  refine Follows.bind (renderPieces_follows h) fun _ _ _ _ => ?_
  cases t.fault with
  | some e => exact .of_error
  | none => exact .ok trivial

end Pieces

section Fields

variable (h : ValuesAlike steady samples values) {f : TemplateField}

include h

/-- A field whose layout holds no fields. -/
lemma renderField_follows (hnested : f.nested = false) (hlayouts : layouts f = .ok f.layout)
    (hlayouts' : layouts' f = .ok f.layout) (o o' : Occasion) :
    Follows (fun _ _ => True) (f.CanFail (m := n) steady samples)
      (renderField (m := m) o samples layouts f) (renderField (m := n) o' values layouts' f) := by
  refine Follows.bind ((valueOf_follows h f.name).mono_faults ?_) fun v w hv hvw => ?_
  · rintro e ⟨hname, hroot, ⟨s, htext⟩, rfl⟩
    exact .index hname hroot htext
  refine Follows.bind (hvw.convert_follows o o' f.conversion) fun u u' hu huu' => ?_
  rw [hlayouts, hlayouts', ok_bind, ok_bind]
  refine (huu'.layOut_follows o o' f.layout).mono_faults ?_
  rintro e (⟨hnumber, hlast, he⟩ | ⟨hread, hroom⟩)
  · have htext : u.isText = false := by
      cases u with
      | text s => exact absurd hnumber (by simp [isOpenNumber])
      | _ => rfl
    obtain ⟨hconversion, rfl⟩ := eq_none_of_convert hu htext
    exact .range hconversion hv hnumber hnested hlast he
  · exact .room hnested hread hroom

/-- A field whose layout holds fields. -/
lemma renderField_nested_follows (hnested : f.nested = true)
    (hlayouts : Follows (fun _ _ => True)
      (fun e => e = .indexOutOfRange ∨ e.concernsLayout = true ∨ e.isLimit = true)
      (layouts f) (layouts' f)) (o o' : Occasion) :
    Follows (fun _ _ => True) (f.CanFail (m := n) steady samples)
      (renderField (m := m) o samples layouts f) (renderField (m := n) o' values layouts' f) := by
  refine Follows.bind ((valueOf_follows h f.name).mono_faults ?_) fun v w _ hvw => ?_
  · rintro e ⟨hname, hroot, ⟨s, htext⟩, rfl⟩
    exact .index hname hroot htext
  refine Follows.bind (hvw.convert_follows o o' f.conversion) fun u u' _ _ => ?_
  refine Follows.bind (hlayouts.mono_faults fun e he => ?_) fun _ layout _ _ => ?_
  · exact .layout hnested he
  · -- the layouts may differ, so nothing carries over from the samples
    intro shown _
    cases hshown : u'.layOut (m := n) o' layout with
    | ok shown' => exact .inl ⟨shown', rfl, trivial⟩
    | error e => exact .inr ⟨e, .layout hnested (.inr (layOut_error hshown)), rfl⟩

end Fields

lemma outerLayout_of_plain [m : Memory] {f : TemplateField} (h : f.nested = false)
    (values : FieldValues) : outerLayout values f = .ok f.layout := by
  simp [outerLayout, h]

lemma outerLayout_follows (h : ValuesAlike steady samples values) {f : TemplateField}
    (hnested : f.nested = true) :
    Follows (fun _ _ => True)
      (fun e => e = .indexOutOfRange ∨ e.concernsLayout = true ∨ e.isLimit = true)
      (outerLayout (m := m) samples f) (outerLayout (m := n) values f) := by
  have hinner : Follows (fun _ _ => True)
      (fun e => ∃ g ∈ (read f.layout).fields, g.CanFail (m := n) steady samples e)
      (renderWith (m := m) samples true innerLayout (read f.layout))
      (renderWith (m := n) values true innerLayout (read f.layout)) := by
    refine renderWith_follows fun g _ o o' => ?_
    cases hg : g.nested with
    | true =>
      -- a layout inside a layout holds no fields: this fails with the samples already
      intro shown hshown
      obtain ⟨v, -, hshown⟩ := bind_eq_ok.1 hshown
      obtain ⟨u, -, hshown⟩ := bind_eq_ok.1 hshown
      obtain ⟨layout, hlayout, -⟩ := bind_eq_ok.1 hshown
      exact absurd hlayout (by simp [innerLayout, hg])
    | false =>
      exact renderField_follows h hg (innerLayout_of_plain hg) (innerLayout_of_plain hg) o o'
  simp only [outerLayout, if_pos hnested]
  refine hinner.mono_faults ?_
  rintro e ⟨g, -, he⟩
  cases he with
  | index => exact .inl rfl
  | range _ _ _ _ _ he => exact .inr (.inr (isLimit_of_mem_rangeFaults he))
  | room => exact .inr (.inr rfl)
  | layout _ he => exact he

/-- A template that renders with samples renders with values of the same types, or it fails where
one of its fields can. -/
theorem render_follows (h : ValuesAlike steady samples values) {t : Template} {shown : String}
    (hshown : t.render (m := m) samples = .ok shown) :
    (∃ shown', t.render (m := n) values = .ok shown') ∨
      ∃ f ∈ t.fields, ∃ e, f.CanFail (m := n) steady samples e ∧
        t.render (m := n) values = .error e := by
  have hfollows : Follows (fun _ _ => True)
      (fun e => ∃ f ∈ t.fields, f.CanFail (m := n) steady samples e)
      (t.render (m := m) samples) (t.render (m := n) values) := by
    refine Follows.bind (renderWith_follows fun f _ o o' => ?_) fun _ _ _ _ => .ok trivial
    cases hf : f.nested with
    | true => exact renderField_nested_follows h hf (outerLayout_follows h hf) o o'
    | false =>
      exact renderField_follows h hf (outerLayout_of_plain (m := m) hf _)
        (outerLayout_of_plain (m := n) hf _) o o'
  rcases hfollows shown hshown with ⟨shown', hshown', -⟩ | ⟨e, ⟨f, hf, he⟩, herror⟩
  · exact .inl ⟨shown', hshown'⟩
  · exact .inr ⟨f, hf, e, he, herror⟩

end Template

end Rendering

end Conformance
