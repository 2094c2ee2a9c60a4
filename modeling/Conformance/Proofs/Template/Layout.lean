/-
# What a layout makes of a value

Whether a layout fits a value is decided by the type of the value: of texts, and of real numbers, it
fits all or none (`Layout.text_uniform`, `Layout.real_uniform`).  A whole number can be too large
for what it is written as, and nothing else about it matters (`Layout.integer_fits`).  What fits may
still need more room than there is, and then the layout asks for as much.
-/
import Conformance.Proofs.Steps
import Conformance.Template.Render

namespace Conformance

/-- Whether a fault is one that a layout has with some value, limits apart. -/
def TemplateFault.concernsLayout : TemplateFault → Bool
  | .tooManyDigits | .noLayout _ | .badLayout .. | .missingPrecision | .bothSeparators => true
  | .separatorWith .. | .unknownPresentation .. | .signOnText | .spaceOnText => true
  | .zeroCoercion _ | .alternateOnText | .signPaddingOnText | .precisionOnInteger => true
  | .precisionTooBig | .signOnCharacter | .alternateOnCharacter => true
  | _ => false

namespace Layout

/-! ## Reading -/

lemma takeAlign_suffix (cs : List Char) : (takeAlign cs).2 <:+ cs := by
  unfold takeAlign
  split
  · rename_i f a rest
    split
    · exact (List.suffix_cons a rest).trans (List.suffix_cons f _)
    · split
      · exact List.suffix_cons f _
      · exact List.suffix_refl _
  · split
    · exact List.nil_suffix
    · exact List.suffix_refl _
  · exact List.suffix_refl _

lemma takeIf_suffix (test : Char → Bool) (cs : List Char) : (takeIf test cs).2 <:+ cs := by
  unfold takeIf
  split
  · split
    · exact List.suffix_cons _ _
    · exact List.suffix_refl _
  · exact List.suffix_refl _

/-- A part of a layout is read: what is left is an end of the text, and a fault is one of
layouts. -/
def Leaves {α : Type} (cs : List Char) : Except TemplateFault (α × List Char) → Prop
  | .ok (_, rest) => rest <:+ cs
  | .error e => e.concernsLayout = true

/-- A number is read in the same way, and has no more digits than there are characters. -/
def LeavesNumber (cs : List Char) : Except TemplateFault (Option Nat × List Char) → Prop
  | .ok (n, rest) => rest <:+ cs ∧ n.getD 0 < 10 ^ cs.length
  | .error e => e.concernsLayout = true

lemma digitValue?_getD_lt (c : Char) : (Text.digitValue? c).getD 0 < 10 := by
  unfold Text.digitValue?
  split
  · split
    · rename_i hdigit
      have hrange := Char.isDigit_iff_toNat.1 hdigit
      simp only [Char.reduceToNat] at hrange
      simp only [Option.getD_some, Char.reduceToNat]
      omega
    · simp
  · cases Text.digitRanges.offset? c with
    | none => simp
    | some n => exact Nat.mod_lt n (by decide)

lemma foldl_digits_lt (ds : List Char) (n : Nat) :
    ds.foldl (fun n c => 10 * n + (Text.digitValue? c).getD 0) n < (n + 1) * 10 ^ ds.length := by
  induction ds generalizing n with
  | nil => simp
  | cons c ds ih =>
    refine (ih _).trans_le ?_
    have hdigit := digitValue?_getD_lt c
    calc (10 * n + (Text.digitValue? c).getD 0 + 1) * 10 ^ ds.length
        ≤ ((n + 1) * 10) * 10 ^ ds.length := Nat.mul_le_mul_right _ (by omega)
      _ = (n + 1) * 10 ^ (c :: ds).length := by
        rw [List.length_cons, Nat.pow_succ, Nat.mul_assoc, Nat.mul_comm 10]

lemma takeNumber_leaves (cs : List Char) : LeavesNumber cs (takeNumber cs) := by
  simp only [takeNumber]
  split
  · exact ⟨List.suffix_refl _, Nat.pow_pos (by decide)⟩
  · split
    · rfl
    · refine ⟨List.drop_suffix _ _, (foldl_digits_lt _ 0).trans_le ?_⟩
      rw [Nat.zero_add, Nat.one_mul]
      exact Nat.pow_le_pow_right (by decide) (List.takeWhile_prefix _).length_le

lemma takeSeparator_leaves (cs : List Char) : Leaves cs (takeSeparator cs) := by
  have hsuffix : (takeIf (· == '_') (takeIf (· == ',') cs).2).2 <:+ cs :=
    (takeIf_suffix _ _).trans (takeIf_suffix _ _)
  simp only [takeSeparator]
  split
  · rfl
  · split
    · rfl
    · exact hsuffix
  · exact hsuffix

lemma takePrecision_leaves (cs : List Char) : LeavesNumber cs (takePrecision cs) := by
  unfold takePrecision
  split
  · rename_i cs
    have hnumber := takeNumber_leaves cs
    split
    · rename_i e he
      rw [he] at hnumber
      exact hnumber
    · rfl
    · rename_i n rest hrest
      rw [hrest] at hnumber
      refine ⟨hnumber.1.trans (List.suffix_cons _ _), hnumber.2.trans_le ?_⟩
      exact Nat.pow_le_pow_right (by decide) (Nat.le_succ _)
  · exact ⟨List.suffix_refl _, Nat.pow_pos (by decide)⟩

lemma checkSeparator_error {separator presentation : Option Char} {e : TemplateFault}
    (h : checkSeparator separator presentation = .error e) : e.concernsLayout = true := by
  unfold checkSeparator at h
  split at h
  · exact absurd h (by simp)
  · exact absurd h (by simp)
  · split_ifs at h
    obtain rfl := Except.error.inj h
    rfl

/-- The end of a layout is read: nothing is left, or a presentation stands there. -/
lemma ends_leaves {text cs : List Char} (hend : cs <:+ text) (typeName : String)
    (presentation separator : Option Char) {make : Option Char → Layout}
    (hmake : ∀ p, (make p).presentation = p) {bound : Nat}
    (hdemand : ∀ p, (make p).demand < bound) :
    match (do
        let p ← match cs with
          | [] => pure presentation
          | [p] => pure (some p)
          | _ => throw (.badLayout (String.ofList text) typeName)
        checkSeparator separator p
        return make p : Except TemplateFault Layout) with
    | .ok l => (l.presentation = presentation ∨ text.getLast? = l.presentation) ∧ l.demand < bound
    | .error e => e.concernsLayout = true := by
  have hchecked : ∀ p : Option Char, p = presentation ∨ text.getLast? = p →
      match (do checkSeparator separator p; return make p : Except TemplateFault Layout) with
      | .ok l => (l.presentation = presentation ∨ text.getLast? = l.presentation) ∧
        l.demand < bound
      | .error e => e.concernsLayout = true := by
    intro p hp
    have hcheck := @checkSeparator_error separator p
    cases h : checkSeparator separator p with
    | error e => exact hcheck h
    | ok u =>
      rw [← hmake p] at hp
      exact ⟨hp, hdemand p⟩
  rcases cs with _ | ⟨p, _ | ⟨q, rest⟩⟩
  · exact hchecked presentation (.inl rfl)
  · obtain ⟨before, rfl⟩ := hend
    exact hchecked (some p) (.inr List.getLast?_concat)
  · rfl

/-- The outcome of reading a layout: a presentation that is written stands at its end, and the
numbers have no more digits than there are characters. -/
lemma read_leaves (typeName : String) (align : Char) (presentation : Option Char)
    (text : List Char) :
    match read typeName align presentation text with
    | .ok l => (l.presentation = presentation ∨ text.getLast? = l.presentation) ∧
      l.demand < 10 ^ text.length
    | .error e => e.concernsLayout = true := by
  rw [read]
  rcases haligned : takeAlign text with ⟨aligned, cs₁⟩
  dsimp only
  rcases hsign : takeIf (fun c => c == ' ' || c == '+' || c == '-') cs₁ with ⟨sign, cs₂⟩
  rcases hz : takeIf (· == 'z') cs₂ with ⟨z, cs₃⟩
  rcases halternate : takeIf (· == '#') cs₃ with ⟨alternate, cs₄⟩
  dsimp only
  rcases hzero : takeIf (fun c => !(aligned.bind (·.1)).isSome && c == '0') cs₄ with ⟨zero, cs₅⟩
  -- each part leaves a suffix, so the last character left is the last of the text
  have hsuffix : cs₅ <:+ text := by
    have h₁ := takeAlign_suffix text
    have h₂ := takeIf_suffix (fun c => c == ' ' || c == '+' || c == '-') cs₁
    have h₃ := takeIf_suffix (· == 'z') cs₂
    have h₄ := takeIf_suffix (· == '#') cs₃
    have h₅ := takeIf_suffix (fun c => !(aligned.bind (·.1)).isSome && c == '0') cs₄
    rw [haligned] at h₁
    rw [hsign] at h₂
    rw [hz] at h₃
    rw [halternate] at h₄
    rw [hzero] at h₅
    exact h₅.trans (h₄.trans (h₃.trans (h₂.trans h₁)))
  clear haligned hsign hz halternate hzero
  dsimp only
  have hwidth := takeNumber_leaves cs₅
  generalize takeNumber cs₅ = x at hwidth ⊢
  rcases x with e | ⟨width, cs₆⟩
  · exact hwidth
  have hseparator := takeSeparator_leaves cs₆
  rw [ok_bind]
  dsimp only
  generalize takeSeparator cs₆ = x at hseparator ⊢
  rcases x with e | ⟨separator, cs₇⟩
  · exact hseparator
  have hprecision := takePrecision_leaves cs₇
  rw [ok_bind]
  dsimp only
  generalize takePrecision cs₇ = x at hprecision ⊢
  rcases x with e | ⟨precision, cs₈⟩
  · exact hprecision
  rw [ok_bind]
  have hend : cs₈ <:+ text :=
    hprecision.1.trans (hseparator.trans (hwidth.1.trans hsuffix))
  -- a number has no more digits than there are characters where it is read
  have hdemand : max (width.getD 0) (precision.getD 0) < 10 ^ text.length := by
    have hlonger : ∀ {cs : List Char}, cs <:+ text → 10 ^ cs.length ≤ 10 ^ text.length :=
      fun h => Nat.pow_le_pow_right (by decide) h.length_le
    refine max_lt (hwidth.2.trans_le (hlonger hsuffix)) (hprecision.2.trans_le (hlonger ?_))
    exact hseparator.trans (hwidth.1.trans hsuffix)
  exact ends_leaves hend typeName presentation separator (fun _ => rfl) fun _ => hdemand

/-- A layout asks for less than its characters can write as a number. -/
lemma demand_lt_of_read {typeName : String} {align : Char} {presentation : Option Char}
    {text : List Char} {l : Layout} (h : read typeName align presentation text = .ok l) :
    l.demand < 10 ^ text.length := by
  have hleaves := read_leaves typeName align presentation text
  rw [h] at hleaves
  exact hleaves.2

/-! ## Writing -/

/-- A way of writing values fits all of them or none; where it fits, there may be less room than is
asked for. -/
def Uniform {α : Type} (asked : Nat) (write : Nat → α → Except TemplateFault (List Char)) : Prop :=
  (∀ room a, (∃ shown, write room a = .ok shown) ∨
    room < asked ∧ write room a = .error .outOfMemory) ∨
  ∃ e, e.concernsLayout = true ∧ ∀ room a, write room a = .error e

section Uniform

variable {α : Type} {asked : Nat} {write : Nat → α → Except TemplateFault (List Char)}

lemma Uniform.fits (h : Uniform asked write) {room : Nat} {a : α} {shown : List Char}
    (ha : write room a = .ok shown) (room' : Nat) (b : α) :
    (∃ shown', write room' b = .ok shown') ∨
      room' < asked ∧ write room' b = .error .outOfMemory := by
  rcases h with hall | ⟨e, -, hnone⟩
  · exact hall room' b
  · exact absurd ((hnone room a).symm.trans ha) (by simp)

lemma Uniform.error (h : Uniform asked write) {room : Nat} {a : α} {e : TemplateFault}
    (ha : write room a = .error e) : e.concernsLayout = true ∨ e.isLimit = true := by
  rcases h with hall | ⟨e', he', hnone⟩
  · rcases hall room a with ⟨shown, hshown⟩ | ⟨-, hmemory⟩
    · exact absurd (hshown.symm.trans ha) (by simp)
    · obtain rfl := Except.error.inj (hmemory.symm.trans ha)
      exact .inr rfl
  · obtain rfl := Except.error.inj ((hnone room a).symm.trans ha)
    exact .inl he'

/-- A way of writing that fits all values, if there is room. -/
lemma Uniform.of_room (h : ∀ room a, ∃ least ≤ asked, ∃ shown, write room a
      = if room < least then .error .outOfMemory else .ok shown) : Uniform asked write := by
  refine .inl fun room a => ?_
  obtain ⟨least, hleast, shown, heq⟩ := h room a
  rw [heq]
  split_ifs with hroom
  · exact .inr ⟨hroom.trans_le hleast, rfl⟩
  · exact .inl ⟨_, rfl⟩

/-- A way of writing that fits no value. -/
lemma Uniform.of_error {e : TemplateFault} (he : e.concernsLayout = true)
    (h : ∀ r a, write r a = .error e) : Uniform asked write :=
  .inr ⟨e, he, h⟩

end Uniform

lemma width_le_demand (l : Layout) : l.width.getD 0 ≤ l.demand :=
  le_max_left _ _

lemma realDemand_le_demand (l : Layout) (x : Binary64) : l.realDemand x ≤ l.demand := by
  unfold realDemand
  split
  · exact le_refl _
  · exact l.width_le_demand

theorem text_uniform (l : Layout) : Uniform l.demand (text · l) := by
  unfold text
  split_ifs
  all_goals first
    | exact .of_error rfl fun room cs => rfl
    | exact .of_room fun room cs => ⟨_, l.width_le_demand, _, rfl⟩

theorem real_uniform (l : Layout) (typeName : String) :
    Uniform l.demand (real · l typeName) := by
  unfold real
  split
  · exact .of_error rfl fun room x => rfl
  · split_ifs
    · exact .of_error rfl fun room x => rfl
    · exact .of_room fun room x => ⟨_, l.realDemand_le_demand x, _, rfl⟩

/-- The faults of numbers that are too large for what a presentation writes them as. -/
def rangeFaults : Char → List TemplateFault
  | 'c' => [.noCodePoint, .tooLargeForCodePoint]
  | 'e' | 'E' | 'f' | 'F' | 'g' | 'G' | '%' => [.tooLargeForReal]
  | _ => []

/-- A presentation of real numbers that is not one of whole numbers has a range. -/
lemma rangeFaults_of_isRealPresentation {p : Char} (h : isRealPresentation p = true)
    (hwhole : ['b', 'c', 'd', 'o', 'x', 'X', 'n'].contains p = false) :
    rangeFaults p = [.tooLargeForReal] := by
  simp only [isRealPresentation, List.contains_eq_mem, decide_eq_true_eq, decide_eq_false_iff_not,
    List.mem_cons, List.not_mem_nil, or_false] at h hwhole
  rcases h with rfl | rfl | rfl | rfl | rfl | rfl | rfl | rfl <;> simp_all [rangeFaults]

/-- A presentation that is not the default is written. -/
lemma presentation_of_getD {l : Layout} {p : Char} (h : l.presentation.getD 'd' = p)
    (hp : p ≠ 'd') : l.presentation = some p := by
  cases hl : l.presentation with
  | none => exact absurd (by rw [← h, hl]; rfl) hp
  | some q => rw [← h, hl]; rfl

/-- What a layout decides about whole numbers before it sees one. -/
lemma integer_cases (l : Layout) (typeName : String) :
    Uniform l.demand (integer · l typeName) ∨
    (l.presentation = some 'c' ∧ ∀ room i, integer room l typeName i = character room l i) ∨
    (∃ p, l.presentation = some p ∧ rangeFaults p = [.tooLargeForReal] ∧
      ∀ i, (∀ room, integer room l typeName i = .error .tooLargeForReal) ∨
        ∃ x, ∀ room, integer room l typeName i = real room l typeName x) := by
  by_cases hwhole : ['b', 'c', 'd', 'o', 'x', 'X', 'n'].contains (l.presentation.getD 'd') = true
  · by_cases hprecision : l.precision.isSome = true
    · refine .inl (.of_error (e := .precisionOnInteger) rfl fun room i => ?_)
      simp only [integer, if_pos hwhole, if_pos hprecision]
    · by_cases hcoerce : l.coerceZero = true
      · refine .inl (.of_error (e := .zeroCoercion "integer") rfl fun room i => ?_)
        simp only [integer, if_pos hwhole, if_neg hprecision, if_pos hcoerce]
      · by_cases hc : (l.presentation.getD 'd' == 'c') = true
        · refine .inr (.inl ⟨?_, fun room i => ?_⟩)
          · exact presentation_of_getD (beq_iff_eq.1 hc) (by decide)
          · simp only [integer, if_pos hwhole, if_neg hprecision, if_neg hcoerce, if_pos hc]
        · refine .inl (.of_room fun room i => ⟨_, l.width_le_demand, ?_⟩)
          simp only [integer, if_pos hwhole, if_neg hprecision, if_neg hcoerce, if_neg hc]
          exact ⟨_, rfl⟩
  · by_cases hreal : isRealPresentation (l.presentation.getD 'd') = true
    · refine .inr (.inr ⟨_, presentation_of_getD rfl ?_,
        rangeFaults_of_isRealPresentation hreal (by simpa using hwhole), fun i => ?_⟩)
      · rintro hd
        exact hwhole (by rw [hd]; decide)
      · simp only [integer, if_neg hwhole, if_pos hreal]
        split
        · exact .inl fun room => rfl
        · exact .inr ⟨_, fun room => rfl⟩
    · refine .inl (.of_error (e := .unknownPresentation (l.presentation.getD 'd') typeName) rfl
        fun room i => ?_)
      simp only [integer, if_neg hwhole, if_neg hreal]

lemma character_cases (room : Nat) (l : Layout) (i : Int) :
    (∃ shown, character room l i = .ok shown) ∨
    (∃ e ∈ rangeFaults 'c', ∀ room', character room' l i = .error e) ∨
    (room < l.demand ∧ character room l i = .error .outOfMemory) ∨
    ∃ e, e.concernsLayout = true ∧ ∀ room' j, character room' l j = .error e := by
  unfold character
  split_ifs with hsign halternate hlarge hpoint hroom
  · exact .inr (.inr (.inr ⟨_, rfl, fun room' j => rfl⟩))
  · exact .inr (.inr (.inr ⟨_, rfl, fun room' j => rfl⟩))
  · exact .inr (.inl ⟨_, List.mem_cons_of_mem _ List.mem_cons_self, fun room' => rfl⟩)
  · exact .inr (.inl ⟨_, List.mem_cons_self, fun room' => rfl⟩)
  · exact .inr (.inr (.inl ⟨hroom.trans_le l.width_le_demand, rfl⟩))
  · exact .inl ⟨_, rfl⟩

/-- Whether a layout fits a whole number depends on its presentation and the number's range. -/
theorem integer_fits {l : Layout} {typeName : String} {room : Nat} {i : Int} {shown : List Char}
    (h : integer room l typeName i = .ok shown) (room' : Nat) (j : Int) :
    (∃ shown', integer room' l typeName j = .ok shown') ∨
      (∃ p, l.presentation = some p ∧ ∃ e ∈ rangeFaults p,
        integer room' l typeName j = .error e) ∨
      room' < l.demand ∧ integer room' l typeName j = .error .outOfMemory := by
  -- only as a character or as a real number does a whole number have a range to keep to
  rcases l.integer_cases typeName with huniform | ⟨hp, hcharacter⟩ | ⟨p, hp, hfaults, hreal⟩
  · rcases huniform.fits h room' j with hok | hmemory
    · exact .inl hok
    · exact .inr (.inr hmemory)
  · rw [hcharacter room' j]
    rcases character_cases room' l j with hok | ⟨e, he, hfault⟩ | hmemory | ⟨e, -, hnone⟩
    · exact .inl hok
    · exact .inr (.inl ⟨'c', hp, e, he, hfault room'⟩)
    · exact .inr (.inr hmemory)
    · rw [hcharacter room i, hnone room i] at h
      exact absurd h (by simp)
  · rcases hreal j with hj | ⟨y, hy⟩
    · exact .inr (.inl ⟨p, hp, .tooLargeForReal, by simp [hfaults], hj room'⟩)
    · rcases hreal i with hi | ⟨x, hx⟩
      · exact absurd ((hi room).symm.trans h) (by simp)
      · rw [hy room']
        rcases (l.real_uniform typeName).fits ((hx room).symm.trans h) room' y with hok | hmemory
        · exact .inl hok
        · exact .inr (.inr hmemory)

/-- The same whole number is written wherever there is room. -/
lemma integer_room {l : Layout} {typeName : String} {room : Nat} {i : Int} {shown : List Char}
    (h : integer room l typeName i = .ok shown) (room' : Nat) :
    (∃ shown', integer room' l typeName i = .ok shown') ∨
      room' < l.demand ∧ integer room' l typeName i = .error .outOfMemory := by
  rcases l.integer_cases typeName with huniform | ⟨-, hcharacter⟩ | ⟨p, -, -, hreal⟩
  · exact huniform.fits h room' i
  · rw [hcharacter room i] at h
    rw [hcharacter room' i]
    rcases character_cases room' l i with hok | ⟨e, -, hfault⟩ | hmemory | ⟨e, -, hnone⟩
    · exact .inl hok
    · exact absurd ((hfault room).symm.trans h) (by simp)
    · exact .inr hmemory
    · exact absurd ((hnone room i).symm.trans h) (by simp)
  · rcases hreal i with hi | ⟨x, hx⟩
    · exact absurd ((hi room).symm.trans h) (by simp)
    · rw [hx room']
      exact (l.real_uniform typeName).fits ((hx room).symm.trans h) room' x

lemma integer_error {l : Layout} {typeName : String} {room : Nat} {i : Int} {e : TemplateFault}
    (h : integer room l typeName i = .error e) : e.concernsLayout = true ∨ e.isLimit = true := by
  rcases l.integer_cases typeName with huniform | ⟨-, hcharacter⟩ | ⟨p, -, -, hreal⟩
  · exact huniform.error h
  · rw [hcharacter room i] at h
    rcases character_cases room l i with
      ⟨shown, hok⟩ | ⟨e', he', hfault⟩ | ⟨-, hmemory⟩ | ⟨e', he', hnone⟩
    · exact absurd (hok.symm.trans h) (by simp)
    · obtain rfl := Except.error.inj ((hfault room).symm.trans h)
      simp only [rangeFaults, List.mem_cons, List.not_mem_nil, or_false] at he'
      rcases he' with rfl | rfl <;> exact .inr rfl
    · obtain rfl := Except.error.inj (hmemory.symm.trans h)
      exact .inr rfl
    · obtain rfl := Except.error.inj ((hnone room i).symm.trans h)
      exact .inl he'
  · rcases hreal i with hi | ⟨x, hx⟩
    · obtain rfl := Except.error.inj ((hi room).symm.trans h)
      exact .inr rfl
    · exact (l.real_uniform typeName).error ((hx room).symm.trans h)

/-- What is read as a layout and then written fails as reading does, or as writing does. -/
lemma read_bind_error {typeName : String} {align : Char} {presentation : Option Char}
    {text : List Char} {write : Layout → Except TemplateFault (List Char)}
    (hwrite : ∀ l e, write l = .error e → e.concernsLayout = true ∨ e.isLimit = true)
    {e : TemplateFault} (h : (read typeName align presentation text).bind write = .error e) :
    e.concernsLayout = true ∨ e.isLimit = true := by
  have hread := read_leaves typeName align presentation text
  cases hl : read typeName align presentation text with
  | error e' =>
    rw [hl] at h hread
    obtain rfl := Except.error.inj h
    exact .inl hread
  | ok l =>
    rw [hl] at h
    exact hwrite l e h

end Layout

namespace FieldValue

/-- A value that cannot be laid out has a fault of layouts or passes a limit. -/
lemma layOut_error [Memory] {o : Occasion} {v : FieldValue} {layout : List Char}
    {e : TemplateFault} (h : v.layOut o layout = .error e) :
    e.concernsLayout = true ∨ e.isLimit = true := by
  unfold layOut at h
  dsimp only at h
  split_ifs at h
  split at h
  · exact Layout.read_bind_error (fun l _ => l.text_uniform.error) h
  · exact Layout.read_bind_error (fun _ _ => Layout.integer_error) h
  · exact Layout.read_bind_error (fun _ _ => Layout.integer_error) h
  · exact Layout.read_bind_error (fun _ _ => Layout.integer_error) h
  · exact Layout.read_bind_error (fun l _ => (l.real_uniform "float").error) h
  · obtain rfl := Except.error.inj h
    exact .inl rfl

end FieldValue
end Conformance
