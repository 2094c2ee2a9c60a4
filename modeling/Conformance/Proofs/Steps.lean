/-
# Steps that can fail

A computation that can fail is run step by step, and the first failure is its outcome.  A step done
for each item of a list succeeds when it succeeds for every item; then the order of the items is the
order of the results and nothing else.
-/
import Conformance.Fault
import Mathlib.Data.List.Forall2
import Mathlib.Data.List.Perm.Basic
import Mathlib.Tactic

namespace Conformance

variable {ε α β γ : Type}

lemma bind_eq_ok {x : Except ε α} {f : α → Except ε β} {b : β} :
    x >>= f = .ok b ↔ ∃ a, x = .ok a ∧ f a = .ok b := by
  cases x with
  | error e => simp [bind, Except.bind]
  | ok a => simp [bind, Except.bind]

lemma map_eq_ok {f : α → β} {x : Except ε α} {b : β} :
    x.map f = .ok b ↔ ∃ a, x = .ok a ∧ f a = b := by
  cases x with
  | error e => simp [Except.map]
  | ok a => simp [Except.map]

lemma mapError_eq_ok {f : ε → β} {x : Except ε α} {a : α} :
    x.mapError f = .ok a ↔ x = .ok a := by
  cases x <;> simp [Except.mapError]

lemma error_bind (e : ε) (f : α → Except ε β) : (Except.error e : Except ε α) >>= f = .error e :=
  rfl

lemma ok_bind (a : α) (f : α → Except ε β) : (Except.ok a : Except ε α) >>= f = f a :=
  rfl

lemma bind_map (x : Except ε α) (f : α → Except ε β) (g : β → γ) :
    (x >>= f).map g = x >>= fun a => (f a).map g := by
  cases x <;> rfl

lemma exists_ok_of_isSome {x : Except ε α} (h : x.toOption.isSome = true) : ∃ a, x = .ok a := by
  cases x with
  | error e => cases h
  | ok a => exact ⟨a, rfl⟩

/-- A step for each item succeeds just if it succeeds for every item. -/
lemma mapM_eq_ok_iff {f : α → Except ε β} {l : List α} {rs : List β} :
    l.mapM f = .ok rs ↔ List.Forall₂ (fun a r => f a = .ok r) l rs := by
  induction l generalizing rs with
  | nil =>
    rw [List.mapM_nil, List.forall₂_nil_left_iff]
    exact ⟨fun h => (Except.ok.inj h).symm, fun h => by rw [h]; rfl⟩
  | cons a l ih =>
    rw [List.mapM_cons, bind_eq_ok, List.forall₂_cons_left_iff]
    constructor
    · rintro ⟨r, hr, h⟩
      obtain ⟨rs', hrs', h⟩ := bind_eq_ok.1 h
      exact ⟨r, rs', hr, ih.1 hrs', (Except.ok.inj h).symm⟩
    · rintro ⟨r, rs', hr, hrs', rfl⟩
      exact ⟨r, hr, bind_eq_ok.2 ⟨rs', ih.2 hrs', rfl⟩⟩

lemma forM_eq_ok {f : α → Except ε PUnit} {l : List α} :
    l.forM f = .ok () ↔ ∀ a ∈ l, f a = .ok () := by
  induction l with
  | nil => exact ⟨fun _ a ha => absurd ha (by simp), fun _ => rfl⟩
  | cons a l ih =>
    rw [List.forall_mem_cons, ← ih]
    refine bind_eq_ok.trans ⟨?_, fun ⟨ha, hrest⟩ => ⟨(), ha, hrest⟩⟩
    rintro ⟨_, ha, hrest⟩
    exact ⟨ha, hrest⟩

/-- Every result is that of an item. -/
lemma exists_of_mem_mapM {f : α → Except ε β} {l : List α} {rs : List β} (h : l.mapM f = .ok rs)
    {r : β} (hr : r ∈ rs) : ∃ a ∈ l, f a = .ok r := by
  induction mapM_eq_ok_iff.1 h with
  | nil => exact absurd hr (by simp)
  | cons hfirst hrest ih =>
    rcases List.mem_cons.1 hr with rfl | hr
    · exact ⟨_, List.mem_cons_self, hfirst⟩
    · obtain ⟨a, ha, hfa⟩ := ih (mapM_eq_ok_iff.2 hrest) hr
      exact ⟨a, List.mem_cons_of_mem _ ha, hfa⟩

/-- A failure is that of an item. -/
lemma exists_of_mapM_error {f : α → Except ε β} {l : List α} {e : ε} (h : l.mapM f = .error e) :
    ∃ a ∈ l, f a = .error e := by
  induction l with
  | nil => exact absurd h (by simp [pure, Except.pure])
  | cons a l ih =>
    rw [List.mapM_cons] at h
    cases ha : f a with
    | error e' =>
      rw [ha, error_bind] at h
      obtain rfl := Except.error.inj h
      exact ⟨a, List.mem_cons_self, ha⟩
    | ok r =>
      rw [ha, ok_bind] at h
      cases hrest : l.mapM f with
      | error e' =>
        rw [hrest, error_bind] at h
        obtain rfl := Except.error.inj h
        obtain ⟨b, hb, hfb⟩ := ih hrest
        exact ⟨b, List.mem_cons_of_mem _ hb, hfb⟩
      | ok rs =>
        rw [hrest, ok_bind] at h
        exact absurd h (by simp [pure, Except.pure])

/-- The first failure among the first items is that of all items. -/
lemma mapM_append_error {f : α → Except ε β} {l : List α} {e : ε} (h : l.mapM f = .error e)
    (l' : List α) : (l ++ l').mapM f = .error e := by
  rw [List.mapM_append, h]
  rfl

lemma mapM_take_error {f : α → Except ε β} {l : List α} {n : Nat} {e : ε}
    (h : (l.take n).mapM f = .error e) : l.mapM f = .error e := by
  have hsplit := mapM_append_error h (l.drop n)
  rwa [List.take_append_drop] at hsplit

/-- The results of a step for each item, when the items come in another order. -/
lemma exists_mapM_perm {f : α → Except ε β} {l l' : List α} (hperm : l.Perm l') {rs : List β}
    (h : l.mapM f = .ok rs) : ∃ rs', l'.mapM f = .ok rs' ∧ rs.Perm rs' := by
  obtain ⟨rs', hrs', hperm'⟩ := List.perm_comp_forall₂ hperm.symm (mapM_eq_ok_iff.1 h)
  exact ⟨rs', mapM_eq_ok_iff.2 hrs', hperm'.symm⟩

lemma exists_mapM_ok {f : α → Except ε β} {l : List α} (h : ∀ a ∈ l, ∃ r, f a = .ok r) :
    ∃ rs, l.mapM f = .ok rs := by
  induction l with
  | nil => exact ⟨[], rfl⟩
  | cons a l ih =>
    obtain ⟨r, hr⟩ := h a List.mem_cons_self
    obtain ⟨rs, hrs⟩ := ih fun b hb => h b (List.mem_cons_of_mem _ hb)
    exact ⟨r :: rs, mapM_eq_ok_iff.2 (.cons hr (mapM_eq_ok_iff.1 hrs))⟩

/-- Every item has its result. -/
lemma exists_result_of_mem {f : α → Except ε β} {l : List α} {rs : List β}
    (h : l.mapM f = .ok rs) {a : α} (ha : a ∈ l) : ∃ r ∈ rs, f a = .ok r := by
  induction mapM_eq_ok_iff.1 h with
  | nil => exact absurd ha (by simp)
  | cons hfirst hrest ih =>
    rcases List.mem_cons.1 ha with rfl | ha
    · exact ⟨_, List.mem_cons_self, hfirst⟩
    · obtain ⟨r, hr, hfa⟩ := ih (mapM_eq_ok_iff.2 hrest) ha
      exact ⟨r, List.mem_cons_of_mem _ hr, hfa⟩

/-- What is in one of several results that are lists. -/
lemma mem_flatten_of_mapM {f : α → Except ε (List β)} {l : List α} {rs : List (List β)}
    (h : l.mapM f = .ok rs) {b : β} :
    b ∈ rs.flatten ↔ ∃ a ∈ l, ∃ r, f a = .ok r ∧ b ∈ r := by
  rw [List.mem_flatten]
  constructor
  · rintro ⟨r, hr, hb⟩
    obtain ⟨a, ha, hfa⟩ := exists_of_mem_mapM h hr
    exact ⟨a, ha, r, hfa, hb⟩
  · rintro ⟨a, ha, r, hfa, hb⟩
    obtain ⟨r', hr', hfa'⟩ := exists_result_of_mem h ha
    obtain rfl := Except.ok.inj (hfa.symm.trans hfa')
    exact ⟨r, hr', hb⟩

lemma exists_ok_of_mem {f : α → Except ε β} {l : List α} {rs : List β} (h : l.mapM f = .ok rs)
    {a : α} (ha : a ∈ l) : ∃ r, f a = .ok r := by
  obtain ⟨r, -, hr⟩ := exists_result_of_mem h ha
  exact ⟨r, hr⟩

lemma mapM_congr {f g : α → Except ε β} {l : List α} (h : ∀ a ∈ l, f a = g a) :
    l.mapM f = l.mapM g := by
  induction l with
  | nil => rfl
  | cons a l ih =>
    rw [List.mapM_cons, List.mapM_cons, h a List.mem_cons_self,
      ih fun b hb => h b (List.mem_cons_of_mem _ hb)]

/-- What each result keeps of its item. -/
lemma map_eq_of_mapM {f : α → Except ε β} {k : α → γ} {k' : β → γ}
    (hkeep : ∀ a r, f a = .ok r → k' r = k a) {l : List α} {rs : List β} (h : l.mapM f = .ok rs) :
    rs.map k' = l.map k := by
  induction mapM_eq_ok_iff.1 h with
  | nil => rfl
  | cons hfirst hrest ih =>
    rw [List.map_cons, List.map_cons, hkeep _ _ hfirst, ih (mapM_eq_ok_iff.2 hrest)]

/-- What the results of two steps have in common. -/
lemma map_eq_map_of_mapM {f g : α → Except ε β} {k : β → γ} {l : List α}
    (hkeep : ∀ a ∈ l, ∀ b c, f a = .ok b → g a = .ok c → k b = k c) {bs cs : List β}
    (hf : l.mapM f = .ok bs) (hg : l.mapM g = .ok cs) : bs.map k = cs.map k := by
  rw [mapM_eq_ok_iff] at hf hg
  induction hf generalizing cs with
  | nil =>
    obtain rfl := List.forall₂_nil_left_iff.1 hg
    rfl
  | @cons a b l bs hb _ ih =>
    obtain ⟨c, cs, hc, hrest, rfl⟩ := List.forall₂_cons_left_iff.1 hg
    rw [List.map_cons, List.map_cons, hkeep a List.mem_cons_self b c hb hc,
      ih (fun a' ha' => hkeep a' (List.mem_cons_of_mem _ ha')) hrest]

/-- Two steps on related items, each item with its result. -/
lemma forall₂_zip_of_mapM {f g : α → Except ε β} {R : α → α → Prop} {S : α × β → α × β → Prop}
    (hS : ∀ x y v w, R x y → f x = .ok v → g y = .ok w → S (x, v) (y, w)) {xs ys : List α}
    (h : List.Forall₂ R xs ys) {vs ws : List β} (hvs : xs.mapM f = .ok vs)
    (hws : ys.mapM g = .ok ws) : List.Forall₂ S (xs.zip vs) (ys.zip ws) := by
  rw [mapM_eq_ok_iff] at hvs hws
  induction h generalizing vs ws with
  | nil => exact .nil
  | cons hxy _ ih =>
    obtain _ | ⟨hv, hvs⟩ := hvs
    obtain _ | ⟨hw, hws⟩ := hws
    exact .cons (hS _ _ _ _ hxy hv hw) (ih hvs hws)

/-- The results of a step for the items that pass a test. -/
lemma mapM_filter_eq_ok {f : α → Except ε β} {p : α → Bool} {q : β → Bool}
    (hkeep : ∀ a r, f a = .ok r → q r = p a) {l : List α} {rs : List β} (h : l.mapM f = .ok rs) :
    (l.filter p).mapM f = .ok (rs.filter q) := by
  rw [mapM_eq_ok_iff] at h ⊢
  induction h with
  | nil => exact .nil
  | @cons a r l rs hfirst _ ih =>
    rw [List.filter_cons, List.filter_cons, hkeep a r hfirst]
    split
    · exact .cons hfirst ih
    · exact ih

/-- The results of a step for the items that pass a test, whatever becomes of the step, if it
succeeds for the others. -/
lemma mapM_filter_eq_map {f : α → Except ε β} {p : α → Bool} {q : β → Bool} {l : List α}
    (hkeep : ∀ a ∈ l, ∀ r, f a = .ok r → q r = p a)
    (hpass : ∀ a ∈ l, p a = false → ∃ r, f a = .ok r) :
    (l.filter p).mapM f = (l.mapM f).map (·.filter q) := by
  induction l with
  | nil => rfl
  | cons a l ih =>
    have hrest := ih (fun b hb => hkeep b (List.mem_cons_of_mem _ hb))
      fun b hb => hpass b (List.mem_cons_of_mem _ hb)
    cases ha : f a with
    | error e =>
      have hp : p a = true := by
        by_contra hp
        obtain ⟨r, hr⟩ := hpass a List.mem_cons_self (Bool.eq_false_of_not_eq_true hp)
        exact absurd (ha.symm.trans hr) (by simp)
      rw [List.filter_cons_of_pos hp, List.mapM_cons, List.mapM_cons, ha]
      rfl
    | ok r =>
      have hq := hkeep a List.mem_cons_self r ha
      rw [List.mapM_cons, ha, ok_bind, bind_map, List.filter_cons]
      cases hp : p a with
      | false =>
        rw [if_neg Bool.false_ne_true, hrest]
        cases l.mapM f with
        | error e => rfl
        | ok rs => exact congrArg Except.ok (List.filter_cons_of_neg (by simp [hq, hp])).symm
      | true =>
        rw [if_pos rfl, List.mapM_cons, ha, ok_bind, hrest]
        cases l.mapM f with
        | error e => rfl
        | ok rs => exact congrArg Except.ok (List.filter_cons_of_pos (by rw [hq, hp])).symm

/-- The results of a step for some of the items. -/
lemma exists_mapM_sublist {f : α → Except ε β} {l' l : List α} (hsub : l'.Sublist l) {rs : List β}
    (h : l.mapM f = .ok rs) : ∃ rs', l'.mapM f = .ok rs' ∧ rs'.Sublist rs := by
  induction hsub generalizing rs with
  | slnil => exact ⟨rs, h, List.Sublist.refl _⟩
  | cons a _ ih =>
    obtain ⟨r, rs₀, -, hrest, rfl⟩ := List.forall₂_cons_left_iff.1 (mapM_eq_ok_iff.1 h)
    obtain ⟨rs', hrs', hsub'⟩ := ih (mapM_eq_ok_iff.2 hrest)
    exact ⟨rs', hrs', hsub'.cons r⟩
  | cons_cons a _ ih =>
    obtain ⟨r, rs₀, hr, hrest, rfl⟩ := List.forall₂_cons_left_iff.1 (mapM_eq_ok_iff.1 h)
    obtain ⟨rs', hrs', hsub'⟩ := ih (mapM_eq_ok_iff.2 hrest)
    exact ⟨r :: rs', mapM_eq_ok_iff.2 (.cons hr (mapM_eq_ok_iff.1 hrs')), hsub'.cons_cons r⟩

/-- A step for the items that pass a filter is a step for the filtered list. -/
lemma filterMapM_eq_mapM {F : α → Except ε (Option γ)} {g : α → Option β} {f : β → Except ε γ}
    {l : List α} (hnone : ∀ a ∈ l, g a = none → F a = .ok none)
    (hsome : ∀ a ∈ l, ∀ b, g a = some b → F a = (f b).map some) :
    l.filterMapM F = (l.filterMap g).mapM f := by
  induction l with
  | nil => rfl
  | cons a l ih =>
    have hrest := ih (fun b hb => hnone b (List.mem_cons_of_mem _ hb))
      fun b hb => hsome b (List.mem_cons_of_mem _ hb)
    rw [List.filterMapM_cons]
    cases ha : g a with
    | none => rw [hnone a List.mem_cons_self ha, ok_bind, List.filterMap_cons_none ha, hrest]
    | some b =>
      rw [hsome a List.mem_cons_self b ha, List.filterMap_cons_some ha, List.mapM_cons, hrest]
      cases f b <;> rfl

end Conformance
