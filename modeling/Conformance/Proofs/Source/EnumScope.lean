/-
# The body of an enumeration and its scope

The body of an enumeration is read from the name on with a counter of its own, the containers are
followed with a stack through the whole file.  Where a brace follows the header, with no closing
brace and no semicolon before it, both find the same pair of braces: the text between them is the
body, and it is what the container encloses (`enumBody_agrees`).  If the brace is never closed there
is no body, and the container encloses all that follows.

Both are compared with the braces that match in the text (`BracesMatch`).
-/
import Conformance.Proofs.Source.Ownership

namespace Conformance.Source

/-! ## Matching braces -/

/-- A text whose braces match. -/
inductive BracesMatch : List Char → Prop
  | nil : BracesMatch []
  | cons {c u} : c ≠ '{' → c ≠ '}' → BracesMatch u → BracesMatch (c :: u)
  | braced {u v} : BracesMatch u → BracesMatch v → BracesMatch ('{' :: (u ++ '}' :: v))

/-- No closing brace of a text comes before its opening one. -/
def NeverBelow (u : List Char) : Prop :=
  ∀ p, p <+: u → 0 ≤ braceDepth p

lemma braceDepth_opening (u : List Char) : braceDepth ('{' :: u) = braceDepth u + 1 := by
  simp [braceDepth]
  omega

lemma braceDepth_closing (u : List Char) : braceDepth ('}' :: u) = braceDepth u - 1 := by
  simp [braceDepth]
  omega

lemma braceDepth_cons_of_ne {c : Char} (hopening : c ≠ '{') (hclosing : c ≠ '}')
    (u : List Char) : braceDepth (c :: u) = braceDepth u := by
  simp [braceDepth, hopening, hclosing]

/-- A prefix of two texts ends in the first or in the second of them. -/
lemma prefix_append_cases {p u v : List Char} (h : p <+: u ++ v) :
    p <+: u ∨ ∃ q, p = u ++ q ∧ q <+: v := by
  rcases List.prefix_or_prefix_of_prefix h (List.prefix_append u v) with hp | ⟨q, rfl⟩
  · exact .inl hp
  · exact .inr ⟨q, rfl, (List.prefix_append_right_inj u).1 h⟩

lemma NeverBelow.of_isPrefix {p u : List Char} (hu : NeverBelow u) (hp : p <+: u) : NeverBelow p :=
  fun _ hq => hu _ (hq.trans hp)

/-- Behind a text whose braces match the depth is what it was before it, and it is never less. -/
lemma BracesMatch.braceDepth_eq {u : List Char} (h : BracesMatch u) : braceDepth u = 0 := by
  induction h with
  | nil => rfl
  | cons hopening hclosing _ ih => rw [braceDepth_cons_of_ne hopening hclosing, ih]
  | braced _ _ ihu ihv =>
    rw [braceDepth_opening, braceDepth_append, braceDepth_closing, ihu, ihv]
    rfl

lemma BracesMatch.neverBelow {u : List Char} (h : BracesMatch u) : NeverBelow u := by
  induction h with
  | nil =>
    intro p hp
    rw [List.prefix_nil.1 hp]
    exact le_rfl
  | cons hopening hclosing _ ih =>
    intro p hp
    rcases List.prefix_cons_iff.1 hp with rfl | ⟨q, rfl, hq⟩
    · exact le_rfl
    · rw [braceDepth_cons_of_ne hopening hclosing]
      exact ih q hq
  | braced hu hv ihu ihv =>
    intro p hp
    rcases List.prefix_cons_iff.1 hp with rfl | ⟨q, rfl, hq⟩
    · exact le_rfl
    · rw [braceDepth_opening]
      rcases prefix_append_cases hq with hq | ⟨r, rfl, hr⟩
      · have := ihu q hq
        omega
      · rw [braceDepth_append, hu.braceDepth_eq]
        rcases List.prefix_cons_iff.1 hr with rfl | ⟨s, rfl, hs⟩
        · decide
        · rw [braceDepth_closing]
          have := ihv s hs
          omega

/-- The first closing brace that comes before its opening one. -/
lemma exists_closing {u : List Char} (h : ¬ NeverBelow u) :
    ∃ inner after, u = inner ++ '}' :: after ∧ braceDepth inner = 0 ∧ NeverBelow inner := by
  induction u using List.reverseRecOn with
  | nil =>
    refine absurd (fun p hp => ?_) h
    rw [List.prefix_nil.1 hp]
    exact le_rfl
  | append_singleton u c ih =>
    by_cases hu : NeverBelow u
    · have hlow : braceDepth (u ++ [c]) < 0 := by
        by_contra hle
        refine h fun p hp => ?_
        rcases List.prefix_concat_iff.1 hp with rfl | hp
        · omega
        · exact hu p hp
      have hdepth := hu u List.prefix_rfl
      rw [braceDepth_append_singleton] at hlow
      unfold braceStep at hlow
      split at hlow
      · omega
      · split at hlow
        · rename_i hc
          exact ⟨u, [], by rw [beq_iff_eq.1 hc], by omega, hu⟩
        · omega
    · obtain ⟨inner, after, rfl, hinner⟩ := ih hu
      exact ⟨inner, after ++ [c], by simp, hinner⟩

lemma bracesMatch_of_neverBelow {u : List Char} (hdepth : braceDepth u = 0)
    (hu : NeverBelow u) : BracesMatch u := by
  -- behind an opening brace the depth must fall, and where it first does the brace is closed
  match u with
  | [] => exact .nil
  | c :: u =>
    by_cases hopening : c = '{'
    · subst hopening
      rw [braceDepth_opening] at hdepth
      have hfalls : ¬ NeverBelow u := fun h => by
        have := h u List.prefix_rfl
        omega
      obtain ⟨inner, after, rfl, hinner, hbelow⟩ := exists_closing hfalls
      rw [braceDepth_append, braceDepth_closing, hinner] at hdepth
      refine .braced (bracesMatch_of_neverBelow hinner hbelow)
        (bracesMatch_of_neverBelow (by omega) fun p hp => ?_)
      have hprefix : '{' :: (inner ++ '}' :: p) <+: '{' :: (inner ++ '}' :: after) :=
        (List.prefix_cons_inj _).2 ((List.prefix_append_right_inj _).2
          ((List.prefix_cons_inj _).2 hp))
      have hlow := hu _ hprefix
      rw [braceDepth_opening, braceDepth_append, braceDepth_closing, hinner] at hlow
      omega
    · by_cases hclosing : c = '}'
      · subst hclosing
        have hlow := hu ['}'] (by simp)
        exact absurd hlow (by decide)
      · rw [braceDepth_cons_of_ne hopening hclosing] at hdepth
        refine .cons hopening hclosing (bracesMatch_of_neverBelow hdepth fun p hp => ?_)
        have hlow := hu (c :: p) ((List.prefix_cons_inj c).2 hp)
        rwa [braceDepth_cons_of_ne hopening hclosing] at hlow
termination_by u.length
decreasing_by
  all_goals simp_all <;> omega

/-- A brace is closed by the closing brace that matches it, or never. -/
lemma exists_matching_or_neverBelow (u : List Char) :
    (∃ inner after, u = inner ++ '}' :: after ∧ BracesMatch inner) ∨ NeverBelow u := by
  by_cases h : NeverBelow u
  · exact .inr h
  · obtain ⟨inner, after, hu, hdepth, hbelow⟩ := exists_closing h
    exact .inl ⟨inner, after, hu, bracesMatch_of_neverBelow hdepth hbelow⟩

/-! ## Reading a body -/

lemma enumBodyFrom_brace (depth : Nat) (body v : List Char) :
    enumBodyFrom (depth + 1) body ('{' :: v) = enumBodyFrom (depth + 2) ('{' :: body) v := by
  simp [enumBodyFrom]

lemma enumBodyFrom_closingBrace (depth : Nat) (body v : List Char) :
    enumBodyFrom (depth + 2) body ('}' :: v) = enumBodyFrom (depth + 1) ('}' :: body) v := by
  simp [enumBodyFrom]

lemma enumBodyFrom_cons_of_ne {c : Char} (hopening : c ≠ '{') (hclosing : c ≠ '}') (depth : Nat)
    (body v : List Char) :
    enumBodyFrom (depth + 1) body (c :: v) = enumBodyFrom (depth + 1) (c :: body) v := by
  simp [enumBodyFrom, hopening, hclosing]

/-- A text whose braces match is read into the body, whatever the depth. -/
lemma enumBodyFrom_bracesMatch {u : List Char} (h : BracesMatch u) (depth : Nat)
    (body v : List Char) :
    enumBodyFrom (depth + 1) body (u ++ v) = enumBodyFrom (depth + 1) (u.reverse ++ body) v := by
  induction h generalizing depth body v with
  | nil => rfl
  | cons hopening hclosing _ ih =>
    rw [List.cons_append, enumBodyFrom_cons_of_ne hopening hclosing, ih]
    simp
  | braced _ _ ihu ihv =>
    rw [List.cons_append, enumBodyFrom_brace, List.append_assoc, ihu, List.cons_append,
      enumBodyFrom_closingBrace, ihv]
    simp

/-- The body is the text up to the matching brace. -/
lemma enumBodyFrom_matching {inner : List Char} (h : BracesMatch inner) (after : List Char) :
    enumBodyFrom 1 [] (inner ++ '}' :: after) = some inner := by
  rw [enumBodyFrom_bracesMatch h]
  simp [enumBodyFrom]

/-- There is no body where the depth never falls so far. -/
lemma enumBodyFrom_eq_none {u : List Char} {depth : Nat}
    (h : ∀ p, p <+: u → -(depth : Int) ≤ braceDepth p) (body : List Char) :
    enumBodyFrom (depth + 1) body u = none := by
  induction u generalizing depth body with
  | nil => rfl
  | cons c u ih =>
    have hcons : ∀ p, p <+: u → -(depth : Int) ≤ braceDepth (c :: p) :=
      fun p hp => h _ ((List.prefix_cons_inj c).2 hp)
    by_cases hopening : c = '{'
    · subst hopening
      rw [enumBodyFrom_brace]
      have hdeeper : ∀ p, p <+: u → -((depth + 1 : Nat) : Int) ≤ braceDepth p := by
        intro p hp
        have hlow := hcons p hp
        rw [braceDepth_opening] at hlow
        omega
      exact ih hdeeper _
    · by_cases hclosing : c = '}'
      · subst hclosing
        cases depth with
        | zero => exact absurd (hcons [] List.nil_prefix) (by decide)
        | succ depth =>
          rw [enumBodyFrom_closingBrace]
          refine ih (fun p hp => ?_) _
          have := hcons p hp
          rw [braceDepth_closing] at this
          omega
      · rw [enumBodyFrom_cons_of_ne hopening hclosing]
        refine ih (fun p hp => ?_) _
        have := hcons p hp
        rwa [braceDepth_cons_of_ne hopening hclosing] at this

/-! ## The end of a container, told from braces and semicolons -/

open StackState (marks)

lemma braceDepth_filter_marks (u : List Char) : braceDepth (u.filter marks) = braceDepth u := by
  simp only [braceDepth]
  rw [List.count_filter (by rfl), List.count_filter (by rfl)]

lemma braceDepth_of_no_marks {u : List Char} (h : ∀ c ∈ u, marks c = false) :
    braceDepth u = 0 := by
  rw [← braceDepth_filter_marks, List.filter_eq_nil_iff.2 fun c hc => by simp [h c hc]]
  rfl

/-- What is neither a brace nor a semicolon does not end a container. -/
lemma ends_filter_marks (start since : List Char) :
    Ends start (since.filter marks) ↔ Ends start since := by
  induction since using List.reverseRecOn with
  | nil => rfl
  | append_singleton since c ih =>
    rw [List.filter_append, ends_append_singleton]
    cases hc : marks c with
    | true =>
      have hdepth : ∀ v, braceDepth (start ++ since.filter marks ++ v)
          = braceDepth (start ++ since ++ v) := by
        intro v
        simp only [braceDepth_append, braceDepth_filter_marks]
      have hlast := hdepth []
      simp only [List.append_nil] at hlast
      rw [List.filter_cons_of_pos hc, List.filter_nil, ends_append_singleton, ih, hdepth, hlast]
    | false =>
      rw [List.filter_cons_of_neg (by simp [hc]), List.filter_nil, List.append_nil, ih]
      have hother : c ≠ '}' ∧ c ≠ ';' := by
        constructor <;> rintro rfl <;> exact absurd hc (by decide)
      simp [hother]

/-- Behind a header and the brace that opens its body, the container is open as long as the
braces behind that one match. -/
lemma not_ends_of_neverBelow {lead inside : List Char} (hlead : ∀ c ∈ lead, marks c = false)
    (hinside : NeverBelow inside) (start : List Char) :
    ¬ Ends start (lead ++ '{' :: inside) ∧ 0 < braceDepth (lead ++ '{' :: inside) := by
  have hdepth : ∀ p, p <+: inside → 0 < braceDepth (lead ++ '{' :: p) := by
    intro p hp
    rw [braceDepth_append, braceDepth_of_no_marks hlead, braceDepth_opening]
    have := hinside p hp
    omega
  refine ⟨?_, hdepth inside List.prefix_rfl⟩
  rintro ⟨k, hk, hends⟩
  -- a character that ends a container is none of the header and not the brace
  have hmark : ∀ c, (lead ++ '{' :: inside)[k]? = some c → marks c = true → c ≠ '{' →
      lead.length < k := by
    intro c hc hcm hne
    by_contra hle
    rcases Nat.lt_or_ge k lead.length with hlt | hge
    · rw [List.getElem?_append_left hlt] at hc
      exact absurd hcm (by simp [hlead c (List.mem_of_getElem? hc)])
    · obtain rfl : k = lead.length := by omega
      rw [List.getElem?_append_right le_rfl, Nat.sub_self] at hc
      exact hne (Option.some.inj hc).symm
  have htake : ∀ n, lead.length < n → ∃ p, p <+: inside ∧
      (lead ++ '{' :: inside).take n = lead ++ '{' :: p := by
    intro n hn
    obtain ⟨m, rfl⟩ := Nat.exists_eq_add_of_lt hn
    refine ⟨inside.take m, List.take_prefix _ _, ?_⟩
    rw [Nat.add_assoc, List.take_length_add_append, List.take_succ_cons]
  rcases hends with ⟨hc, hlow⟩ | ⟨hc, hlow⟩
  · have hlt := hmark _ hc (by rfl) (by decide)
    obtain ⟨p, hp, heq⟩ := htake (k + 1) (by omega)
    have hopen := hdepth p hp
    rw [heq, braceDepth_append] at hlow
    omega
  · have hlt := hmark _ hc (by rfl) (by decide)
    obtain ⟨p, hp, heq⟩ := htake k hlt
    have hopen := hdepth p hp
    rw [heq, braceDepth_append] at hlow
    omega

/-- The brace that matches the one that opens the body ends the container. -/
lemma ends_of_bracesMatch {lead inner : List Char} (hlead : ∀ c ∈ lead, marks c = false)
    (hinner : BracesMatch inner) (start after : List Char) :
    Ends start (lead ++ '{' :: (inner ++ '}' :: after)) := by
  have hread : ∀ u v : List Char, (u ++ '}' :: v)[u.length]? = some '}' ∧
      (u ++ '}' :: v).take (u.length + 1) = u ++ ['}'] := by
    intro u v
    refine ⟨by simp, ?_⟩
    rw [List.take_length_add_append]
    rfl
  have hsplit : lead ++ '{' :: (inner ++ '}' :: after)
      = (lead ++ '{' :: inner) ++ '}' :: after := by simp
  obtain ⟨hat, htake⟩ := hread (lead ++ '{' :: inner) after
  rw [hsplit]
  refine ⟨(lead ++ '{' :: inner).length, by simp, .inl ⟨hat, ?_⟩⟩
  have hdepth : braceDepth (lead ++ '{' :: inner ++ ['}']) = 0 := by
    rw [braceDepth_append_singleton, braceDepth_append, braceDepth_of_no_marks hlead,
      braceDepth_opening, hinner.braceDepth_eq]
    rfl
  rw [htake, braceDepth_append, hdepth]
  omega

/-- No container is open before the brace behind its header. -/
lemma braceDepth_of_isPrefix {lead since rest : List Char} (hlead : ∀ c ∈ lead, marks c = false)
    (hsince : since <+: lead ++ '{' :: rest) :
    (braceDepth since = 0 ∧ since.length ≤ lead.length) ∨
    ∃ inside, since = lead ++ '{' :: inside ∧ inside <+: rest := by
  rcases prefix_append_cases hsince with hp | ⟨q, rfl, hq⟩
  · exact .inl ⟨braceDepth_of_no_marks fun c hc => hlead c (hp.subset hc), hp.length_le⟩
  · rcases List.prefix_cons_iff.1 hq with rfl | ⟨inside, rfl, hinside⟩
    · rw [List.append_nil]
      exact .inl ⟨braceDepth_of_no_marks hlead, le_rfl⟩
    · exact .inr ⟨inside, rfl, hinside⟩

/-- Behind a header, the container is open from the brace on if no closing brace matches it. -/
lemma open_iff_of_neverBelow {lead since rest : List Char} (hlead : ∀ c ∈ lead, marks c = false)
    (hrest : NeverBelow rest) (hsince : since <+: lead ++ '{' :: rest) (start : List Char) :
    ¬ Ends start since ∧ 0 < braceDepth since ↔ lead.length + 1 ≤ since.length := by
  rcases braceDepth_of_isPrefix hlead hsince with ⟨hdepth, hlength⟩ | ⟨inside, rfl, hinside⟩
  · rw [hdepth]
    omega
  · refine iff_of_true (not_ends_of_neverBelow hlead (hrest.of_isPrefix hinside) start) ?_
    simp only [List.length_append, List.length_cons]
    omega

/-- Behind a header, the container is open from the brace on, up to the brace that matches it. -/
lemma open_iff_of_bracesMatch {lead since inner after : List Char}
    (hlead : ∀ c ∈ lead, marks c = false) (hinner : BracesMatch inner)
    (hsince : since <+: lead ++ '{' :: (inner ++ '}' :: after)) (start : List Char) :
    ¬ Ends start since ∧ 0 < braceDepth since ↔
      lead.length + 1 ≤ since.length ∧ since.length ≤ lead.length + 1 + inner.length := by
  rcases braceDepth_of_isPrefix hlead hsince with ⟨hdepth, hlength⟩ | ⟨inside, rfl, hinside⟩
  · rw [hdepth]
    omega
  · have hinner' : ∀ u, u <+: inner → (¬ Ends start (lead ++ '{' :: u) ∧
        0 < braceDepth (lead ++ '{' :: u) ↔ lead.length + 1 ≤ (lead ++ '{' :: u).length ∧
          (lead ++ '{' :: u).length ≤ lead.length + 1 + inner.length) := by
      intro u hu
      refine iff_of_true (not_ends_of_neverBelow hlead (hinner.neverBelow.of_isPrefix hu) start) ?_
      have hlength := hu.length_le
      simp only [List.length_append, List.length_cons]
      omega
    rcases prefix_append_cases hinside with hp | ⟨q, rfl, hq⟩
    · exact hinner' inside hp
    · rcases List.prefix_cons_iff.1 hq with rfl | ⟨behind, rfl, -⟩
      · rw [List.append_nil]
        exact hinner' inner List.prefix_rfl
      · have hends := ends_of_bracesMatch hlead hinner start behind
        refine iff_of_false (fun hopen => hopen.1 hends) ?_
        simp only [List.length_append, List.length_cons]
        omega

/-! ## Places of a text with line ends -/

/-- The text before a place, with a line feed for each end of a line. -/
def textUpTo (lines : List String) (line column : Nat) : List Char :=
  (lines.take line).flatMap (fun l => l.toList ++ ['\n']) ++
    (lines[line]?.getD "").toList.take column

lemma filter_marks_textUpTo (lines : List String) (line column : Nat) :
    (textUpTo lines line column).filter marks = (textBefore lines line column).filter marks := by
  have hlines : ∀ ls : List String, (ls.flatMap fun l => l.toList ++ ['\n']).filter marks
      = (ls.flatMap String.toList).filter marks := by
    intro ls
    induction ls with
    | nil => rfl
    | cons l ls ih =>
      rw [List.flatMap_cons, List.flatMap_cons, List.filter_append, List.filter_append,
        List.filter_append, ih]
      exact congrArg (· ++ _) (List.append_nil _)
  rw [textUpTo, textBefore, List.filter_append, List.filter_append, hlines]

lemma textFrom_of_getElem? {lines : List String} {line : Nat} {text : String}
    (h : lines[line]? = some text) (column : Nat) :
    textFrom lines line column = text.toList.drop column ++
      (lines.drop (line + 1)).flatMap fun l => '\n' :: l.toList := by
  obtain ⟨hlt, rfl⟩ := List.getElem?_eq_some_iff.1 h
  rw [textFrom, List.drop_eq_getElem_cons hlt]

/-- A place divides the whole text. -/
lemma textUpTo_append_textFrom {lines : List String} {line : Nat} (h : line < lines.length)
    (column : Nat) :
    textUpTo lines line column ++ textFrom lines line column = textFrom lines 0 0 := by
  induction line generalizing lines with
  | zero =>
    obtain ⟨first, rest, rfl⟩ := List.exists_cons_of_length_pos h
    rw [textFrom_of_getElem? (by rfl), textFrom_of_getElem? (by rfl)]
    simp only [textUpTo, List.take_zero, List.flatMap_nil, List.nil_append, List.drop_zero,
      List.getElem?_cons_zero, Option.getD_some]
    rw [← List.append_assoc, List.take_append_drop]
  | succ line ih =>
    cases lines with
    | nil => exact absurd h (by simp)
    | cons first rest =>
      have hlt : line < rest.length := by simpa using h
      obtain ⟨second, more, rfl⟩ := List.exists_cons_of_length_pos (Nat.zero_lt_of_lt hlt)
      have hfirst : textUpTo (first :: second :: more) (line + 1) column
          = first.toList ++ '\n' :: textUpTo (second :: more) line column := by
        simp [textUpTo]
      have hrest : textFrom (first :: second :: more) (line + 1) column
          = textFrom (second :: more) line column := rfl
      rw [hfirst, hrest, List.append_assoc, List.cons_append, ih hlt]
      simp [textFrom]

/-- The text before a place starts with the text before an earlier place. -/
lemma textUpTo_isPrefix {lines : List String} {line line' column column' : Nat}
    (h : line < line' ∨ (line = line' ∧ column ≤ column')) (hline : line < lines.length) :
    textUpTo lines line column <+: textUpTo lines line' column' := by
  rcases h with hlt | ⟨rfl, hle⟩
  · obtain ⟨n, rfl⟩ := Nat.exists_eq_add_of_lt hlt
    have hsplit : lines.take (line + n + 1)
        = lines.take line ++ lines[line] :: (lines.drop (line + 1)).take n := by
      rw [Nat.add_assoc, List.take_add, List.drop_eq_getElem_cons hline, List.take_succ_cons]
    have hget : (lines[line]?.getD "").toList = lines[line].toList := by
      rw [List.getElem?_eq_getElem hline, Option.getD_some]
    refine ⟨lines[line].toList.drop column ++ '\n' ::
      (((lines.drop (line + 1)).take n).flatMap (fun l => l.toList ++ ['\n']) ++
        (lines[line + n + 1]?.getD "").toList.take column'), ?_⟩
    rw [textUpTo, textUpTo, hsplit, hget, List.append_assoc,
      ← List.append_assoc (lines[line].toList.take column), List.take_append_drop]
    simp
  · exact (List.prefix_append_right_inj _).2 (List.take_prefix_take_left hle)

/-! ## What a container encloses -/

lemma PlacedHeader.eq_of_frame_eq {lines : List String} {h h' : PlacedHeader}
    (hh : h ∈ placedHeaders .full lines) (hh' : h' ∈ placedHeaders .full lines)
    (hframe : h.frame lines = h'.frame lines) : h = h' := by
  have hline : h.line + 1 = h'.line + 1 := congrArg Frame.startLine hframe
  exact eq_of_place_eq hh hh' (by omega) (congrArg Frame.startColumn hframe)

/-- What encloses a place starts by it. -/
lemma startsBy_of_mem_enclosingAt {lines : List String} {h : PlacedHeader}
    (hh : h ∈ placedHeaders .full lines) {scope : LineScope}
    (hscope : scope ∈ (Tracker.full.track lines).scopes) {column : Nat}
    (hmem : h.frame lines ∈ scope.enclosingAt column) : h.StartsBy (scope.number - 1) column := by
  obtain ⟨-, h', hh', hstarts, hframe⟩ :=
    exists_placedHeader_of_mem_stack rfl hscope (mem_frames_of_mem_enclosingAt hmem).1
  rwa [PlacedHeader.eq_of_frame_eq hh hh' hframe]

/-- A container that starts by a place encloses it if nothing since has ended the container, and the
depth exceeds the depth at the header. -/
lemma exists_since_of_startsBy {lines : List String} {h : PlacedHeader}
    (hh : h ∈ placedHeaders .full lines) {scope : LineScope}
    (hscope : scope ∈ (Tracker.full.track lines).scopes) {column : Nat}
    (hstarts : h.StartsBy (scope.number - 1) column) :
    ∃ since, textBefore lines (scope.number - 1) column = h.start lines ++ since ∧
      (h.frame lines ∈ scope.enclosingAt column ↔
        ¬ Ends (h.start lines) since ∧ 0 < braceDepth since) := by
  obtain ⟨hget, htext, -⟩ := Tracker.full.getElem?_of_mem_scopes hscope
  have hi : scope.number - 1 < lines.length := (List.getElem?_eq_some_iff.1 htext).1
  obtain ⟨scope', hscope', hpoints⟩ :=
    exists_scope_agrees .full lines.length [] lines .initial Agrees.initial hi
  obtain rfl := Option.some.inj (hscope'.symm.trans hget)
  obtain ⟨s, ⟨hdepth, hframes⟩, hagree⟩ := hpoints column
  simp only [List.nil_append, List.length_nil, Nat.zero_add] at hagree
  have hentered : h.entered lines ∈ ((placedHeaders .full lines).filter
      (·.StartsBy (scope'.number - 1) column)).map (·.entered lines) :=
    List.mem_map.2 ⟨h, List.mem_filter.2 ⟨hh, decide_eq_true hstarts⟩, rfl⟩
  obtain ⟨since, hsince⟩ := hagree.start_isPrefix _ hentered
  change h.start lines ++ since = _ at hsince
  have hlive : (h.entered lines).isLive (h.start lines ++ since) = true ↔
      ¬ Ends (h.start lines) since := by
    have hdrop : (h.start lines ++ since).drop (h.entered lines).start.length = since :=
      List.drop_left
    rw [Entered.isLive, hdrop, Bool.not_eq_true', decide_eq_false_iff_not]
    rfl
  have hdepthAt : scope'.depthAt column = braceDepth (h.start lines) + braceDepth since := by
    rw [← braceDepth_append, hsince]
    exact hdepth.trans hagree.depth_eq
  have hframe : h.frame lines ∈ (scope'.pointAt column).frames ↔
      ¬ Ends (h.start lines) since := by
    rw [hframes, hagree.frames_eq, ← hsince, ← hlive]
    constructor
    · intro hmem
      obtain ⟨e, he, hsame⟩ := List.mem_map.1 hmem
      obtain ⟨he, hlive⟩ := List.mem_filter.1 he
      obtain ⟨h', hh', rfl⟩ := List.mem_map.1 he
      -- different headers have different frames
      obtain rfl := PlacedHeader.eq_of_frame_eq (List.mem_filter.1 hh').1 hh hsame
      exact hlive
    · exact fun hlive => List.mem_map.2 ⟨_, List.mem_filter.2 ⟨hentered, hlive⟩, rfl⟩
  refine ⟨since, hsince.symm, ?_⟩
  rw [← hframe]
  refine List.mem_filter.trans (and_congr_right fun _ => decide_eq_true_iff.trans ?_)
  change braceDepth (h.start lines) < scope'.depthAt column ↔ _
  omega

/-- The same, told from the text with its line ends: what follows the start of the header must open
a brace and not have ended the container. -/
lemma frame_mem_enclosingAt_iff {lines : List String} {h : PlacedHeader}
    (hh : h ∈ placedHeaders .full lines) {scope : LineScope}
    (hscope : scope ∈ (Tracker.full.track lines).scopes) (column : Nat) :
    h.frame lines ∈ scope.enclosingAt column ↔
      ∃ since, textUpTo lines (scope.number - 1) column
          = textUpTo lines h.line h.header.column ++ since ∧
        ¬ Ends (h.start lines) since ∧ 0 < braceDepth since := by
  obtain ⟨-, htext, -⟩ := Tracker.full.getElem?_of_mem_scopes hscope
  have hi : scope.number - 1 < lines.length := (List.getElem?_eq_some_iff.1 htext).1
  by_cases hstarts : h.StartsBy (scope.number - 1) column
  · obtain ⟨flat, hflat, hmem⟩ := exists_since_of_startsBy hh hscope hstarts
    obtain ⟨since, hsince⟩ := textUpTo_isPrefix hstarts (line_lt_of_mem_placedHeaders hh)
    -- the two texts behind the start of the header have the same braces and semicolons
    have hsame : flat.filter marks = since.filter marks := by
      have hmarks := filter_marks_textUpTo lines (scope.number - 1) column
      rw [← hsince, hflat, List.filter_append, List.filter_append, filter_marks_textUpTo] at hmarks
      exact (List.append_cancel_left hmarks).symm
    rw [hmem, ← ends_filter_marks, ← braceDepth_filter_marks flat, hsame, ends_filter_marks,
      braceDepth_filter_marks]
    constructor
    · exact fun hopen => ⟨since, hsince.symm, hopen⟩
    · rintro ⟨since', hsince', hopen⟩
      obtain rfl := List.append_cancel_left (hsince.trans hsince')
      exact hopen
  · -- the place is before the header, and no text lies between
    have hbefore : scope.number - 1 < h.line ∨
        (scope.number - 1 = h.line ∧ column ≤ h.header.column) := by
      simp only [PlacedHeader.StartsBy] at hstarts
      omega
    refine ⟨fun hmem => absurd (startsBy_of_mem_enclosingAt hh hscope hmem) hstarts, ?_⟩
    rintro ⟨since, hsince, -, hdepth⟩
    have hlength := (textUpTo_isPrefix hbefore hi).length_le
    rw [hsince, List.length_append] at hlength
    obtain rfl : since = [] := List.eq_nil_of_length_eq_zero (by omega)
    exact absurd hdepth (by decide)

/-! ## The body and the container of an enumeration -/

namespace PlacedHeader

/-- The text of a header, from its first column to the end of the name. -/
def text (lines : List String) (h : PlacedHeader) : List Char :=
  ((lines[h.line]?.getD "").toList.take h.header.endColumn).drop h.header.column

/-- The container of a header encloses just those places of a text whose number of characters before
them, the ends of lines included, satisfies a condition. -/
def EnclosesJust (lines : List String) (h : PlacedHeader) (p : Nat → Prop) : Prop :=
  ∀ scope ∈ (Tracker.full.track lines).scopes, ∀ column : Nat,
    h.frame lines ∈ scope.enclosingAt column ↔ p (textUpTo lines (scope.number - 1) column).length

variable {lines : List String} {h : PlacedHeader}

lemma columns_le (hh : h ∈ placedHeaders .full lines) :
    h.header.column ≤ h.header.nameColumn ∧ h.header.nameColumn ≤ h.header.endColumn ∧
    ∃ line, lines[h.line]? = some line ∧ h.header.endColumn ≤ line.toList.length := by
  obtain ⟨line, hline, hmem⟩ := exists_of_mem_placedHeaders hh
  obtain ⟨x⟩ := exists_typeText (List.mem_filter.1 hmem).1
  have hlength := congrArg List.length x.chars_eq
  simp only [List.length_append] at hlength
  rw [x.endColumn_eq, x.nameColumn_eq, x.column_eq]
  exact ⟨by omega, by omega, line, hline, by omega⟩

lemma textUpTo_endColumn (hh : h ∈ placedHeaders .full lines) :
    textUpTo lines h.line h.header.endColumn
      = textUpTo lines h.line h.header.column ++ h.text lines := by
  obtain ⟨hname, hend, -⟩ := columns_le hh
  have hsplit := List.take_append_drop h.header.column
    ((lines[h.line]?.getD "").toList.take h.header.endColumn)
  rw [List.take_take, Nat.min_eq_left (hname.trans hend)] at hsplit
  rw [textUpTo, textUpTo, text, List.append_assoc, hsplit]

/-- The text from a column of a header on: the rest of the header, and what stands behind it. -/
lemma textFrom_column (hh : h ∈ placedHeaders .full lines) {column : Nat}
    (hle : column ≤ h.header.endColumn) :
    textFrom lines h.line column
      = ((lines[h.line]?.getD "").toList.take h.header.endColumn).drop column ++
        textFrom lines h.line h.header.endColumn := by
  obtain ⟨-, -, line, hline, hend⟩ := columns_le hh
  have htake : column ≤ (line.toList.take h.header.endColumn).length := by
    rw [List.length_take]
    omega
  have hsplit : line.toList.drop column = (line.toList.take h.header.endColumn).drop column ++
      line.toList.drop h.header.endColumn := by
    rw [← List.drop_append_of_le_length htake, List.take_append_drop]
  rw [textFrom_of_getElem? hline, textFrom_of_getElem? hline, hline, Option.getD_some, hsplit,
    List.append_assoc]

/-- What a container encloses, told from the text behind the start of its header. -/
lemma enclosesJust_of_iff (hh : h ∈ placedHeaders .full lines) {p : Nat → Prop}
    (hpos : ∀ n, p n → (textUpTo lines h.line h.header.column).length ≤ n)
    (hp : ∀ since, since <+: textFrom lines h.line h.header.column →
      (¬ Ends (h.start lines) since ∧ 0 < braceDepth since ↔
        p ((textUpTo lines h.line h.header.column).length + since.length))) :
    h.EnclosesJust lines p := by
  intro scope hscope column
  obtain ⟨-, htext, -⟩ := Tracker.full.getElem?_of_mem_scopes hscope
  have hi : scope.number - 1 < lines.length := (List.getElem?_eq_some_iff.1 htext).1
  have hplace := textUpTo_append_textFrom hi column
  rw [← textUpTo_append_textFrom (line_lt_of_mem_placedHeaders hh) h.header.column] at hplace
  rw [frame_mem_enclosingAt_iff hh hscope]
  constructor
  · rintro ⟨since, hsince, hopen⟩
    rw [hsince, List.append_assoc] at hplace
    have hprefix : since <+: textFrom lines h.line h.header.column :=
      ⟨_, List.append_cancel_left hplace⟩
    rw [hsince, List.length_append]
    exact (hp since hprefix).1 hopen
  · intro hlength
    -- the place is behind the start of the header
    have hprefix := List.prefix_of_prefix_length_le (List.prefix_append _ _)
      ⟨_, hplace⟩ (hpos _ hlength)
    obtain ⟨since, hsince⟩ := hprefix
    rw [← hsince, List.append_assoc] at hplace
    rw [← hsince, List.length_append] at hlength
    exact ⟨since, hsince.symm, (hp since ⟨_, List.append_cancel_left hplace⟩).2 hlength⟩

/-- From the start of a header on, the brace stands behind the header and the gap. -/
lemma textFrom_lead (hh : h ∈ placedHeaders .full lines) {gap rest : List Char}
    (hrest : textFrom lines h.line h.header.endColumn = gap ++ '{' :: rest) :
    textFrom lines h.line h.header.column = h.text lines ++ gap ++ '{' :: rest ∧
    (textUpTo lines h.line h.header.endColumn).length
      = (textUpTo lines h.line h.header.column).length + (h.text lines).length := by
  obtain ⟨hname, hend, -⟩ := columns_le hh
  refine ⟨?_, by rw [textUpTo_endColumn hh, List.length_append]⟩
  rw [textFrom_column hh (hname.trans hend), hrest, List.append_assoc]
  rfl

/-- Where a brace follows a header, the container encloses what stands behind the brace, up to the
brace that matches it. -/
lemma enclosesJust_of_bracesMatch (hh : h ∈ placedHeaders .full lines)
    {gap inner after : List Char} (hplain : ∀ c ∈ h.text lines ++ gap, marks c = false)
    (hinner : BracesMatch inner) (hrest : textFrom lines h.line h.header.endColumn
      = gap ++ '{' :: (inner ++ '}' :: after)) :
    h.EnclosesJust lines fun n =>
      (textUpTo lines h.line h.header.endColumn).length + gap.length + 1 ≤ n ∧
      n ≤ (textUpTo lines h.line h.header.endColumn).length + gap.length + 1 + inner.length := by
  obtain ⟨hstart, hlength⟩ := textFrom_lead hh hrest
  refine enclosesJust_of_iff hh (fun n hn => by omega) fun since hsince => ?_
  rw [hstart] at hsince
  rw [open_iff_of_bracesMatch hplain hinner hsince, List.length_append, hlength]
  omega

/-- Where a brace follows a header and is never closed, the container encloses all that stands
behind the brace. -/
lemma enclosesJust_of_neverBelow (hh : h ∈ placedHeaders .full lines) {gap rest : List Char}
    (hplain : ∀ c ∈ h.text lines ++ gap, marks c = false) (hbelow : NeverBelow rest)
    (hrest : textFrom lines h.line h.header.endColumn = gap ++ '{' :: rest) :
    h.EnclosesJust lines fun n =>
      (textUpTo lines h.line h.header.endColumn).length + gap.length + 1 ≤ n := by
  obtain ⟨hstart, hlength⟩ := textFrom_lead hh hrest
  refine enclosesJust_of_iff hh (fun n hn => by omega) fun since hsince => ?_
  rw [hstart] at hsince
  rw [open_iff_of_neverBelow hplain hbelow hsince, List.length_append, hlength]
  omega

/-- Where a brace follows a header, a body is read from the brace on. -/
lemma enumBody?_nameColumn (hh : h ∈ placedHeaders .full lines) {gap rest : List Char}
    (hplain : ∀ c ∈ h.text lines ++ gap, marks c = false)
    (hrest : textFrom lines h.line h.header.endColumn = gap ++ '{' :: rest) :
    enumBody? lines h.line h.header.nameColumn = enumBodyFrom 1 [] rest := by
  obtain ⟨hname, hend, -⟩ := columns_le hh
  have hstart := textFrom_column hh hend
  rw [hrest, ← List.append_assoc] at hstart
  rw [enumBody?, hstart, enumBodyFrom_opening]
  intro c hc
  have hmem : c ∈ h.text lines ++ gap := by
    refine (List.mem_append.1 hc).elim (fun hc => List.mem_append_left _ ?_)
      (List.mem_append_right _)
    -- the name is the end of the header
    obtain ⟨n, hn⟩ := Nat.exists_eq_add_of_le hname
    rw [hn, ← List.drop_drop] at hc
    exact List.mem_of_mem_drop hc
  have hmark := hplain c hmem
  constructor <;> rintro rfl <;> exact absurd hmark (by decide)

end PlacedHeader

/-- **The body of an enumeration is what its container encloses.**  Let the header of an
enumeration and the text behind it, up to the next opening brace, hold no brace and no semicolon;
the brace may stand on a later line.  If a closing brace matches it, the body is the text between
the two, with a line feed for each end of a line, and the container encloses just the places behind
the one brace and not behind the other.  If none does, there is no body, and the container encloses
every place behind the brace. -/
theorem enumBody_agrees (t : Tracker) (file : SourceFile) {d : Declaration}
    (hd : d ∈ (extract t file).declarations) (hkind : d.kind = .enum) :
    ∃ h ∈ placedHeaders .full file.lines, h.Declares d ∧
      ∀ gap rest, (∀ c ∈ h.text file.lines ++ gap, marks c = false) →
        textFrom file.lines h.line h.header.endColumn = gap ++ '{' :: rest →
        let first := (textUpTo file.lines h.line h.header.endColumn).length + gap.length + 1
        (∀ inner after, BracesMatch inner → rest = inner ++ '}' :: after →
          enumBody? file.lines (d.line - 1).toNat d.column.toNat = some inner ∧
          h.EnclosesJust file.lines fun n => first ≤ n ∧ n ≤ first + inner.length) ∧
        ((¬ ∃ inner after, BracesMatch inner ∧ rest = inner ++ '}' :: after) →
          enumBody? file.lines (d.line - 1).toNat d.column.toNat = none ∧
          h.EnclosesJust file.lines fun n => first ≤ n) := by
  obtain ⟨h, hh, hdeclares⟩ := exists_header_of_mem_extract hd (.inr hkind)
  refine ⟨h, hh, hdeclares, fun gap rest hplain hrest => ?_⟩
  have hline : (d.line - 1).toNat = h.line := by
    rw [hdeclares.line_eq]
    omega
  have hcolumn : d.column.toNat = h.header.nameColumn := by
    rw [hdeclares.column_eq, Int.toNat_natCast]
  have hbody := PlacedHeader.enumBody?_nameColumn hh hplain hrest
  rw [hline, hcolumn, hbody]
  refine ⟨fun inner after hinner hsplit => ?_, fun hnone => ?_⟩
  · subst hsplit
    exact ⟨enumBodyFrom_matching hinner after,
      PlacedHeader.enclosesJust_of_bracesMatch hh hplain hinner hrest⟩
  · have hbelow : NeverBelow rest := by
      rcases exists_matching_or_neverBelow rest with ⟨inner, after, hsplit, hinner⟩ | hbelow
      · exact absurd ⟨inner, after, hinner, hsplit⟩ hnone
      · exact hbelow
    have hlow : ∀ p, p <+: rest → -((0 : Nat) : Int) ≤ braceDepth p := by
      simpa [NeverBelow] using hbelow
    exact ⟨enumBodyFrom_eq_none hlow [],
      PlacedHeader.enclosesJust_of_neverBelow hh hplain hbelow hrest⟩

/-- An enumeration whose brace stands on the next line, with braces inside its body. -/
def enumFile : SourceFile :=
  ⟨"E.cs", ["public enum E", "\x7b A, // \x7b\x7d", "B \x7d int x;"]⟩

/-- The declaration of the enumeration. -/
def enumDeclaration : Declaration :=
  { kind := .enum, name := "E", path := "E.cs", line := 1, column := 12
    modifiers := ["public"], members := ["A", "B"] }

/-- The container encloses the places from behind the brace on the second line to before the last
one on the third. -/
theorem enumBody_agrees_nextLine :
    enumDeclaration ∈ (extract .full enumFile).declarations ∧
    enumBody? enumFile.lines 0 12 = some " A, // \x7b\x7d\nB ".toList ∧
    ∃ h ∈ placedHeaders .full enumFile.lines, h.Declares enumDeclaration ∧
      h.EnclosesJust enumFile.lines fun n => 15 ≤ n ∧ n ≤ 27 := by
  have hmem : enumDeclaration ∈ (extract .full enumFile).declarations := by
    refine (List.mergeSort_perm _ _).mem_iff.2 ?_
    decide +kernel
  have hinner : BracesMatch " A, // \x7b\x7d\nB ".toList :=
    bracesMatch_of_neverBelow (by decide) fun p hp => by
      have hprefixes : ∀ p ∈ " A, // \x7b\x7d\nB ".toList.inits, 0 ≤ braceDepth p := by decide
      exact hprefixes p (List.mem_inits _ _ |>.2 hp)
  obtain ⟨h, hh, hdeclares, hmain⟩ := enumBody_agrees .full enumFile hmem rfl
  have hheader : ∀ h ∈ placedHeaders .full enumFile.lines,
      (h.text enumFile.lines ++ ['\n']).any marks = false ∧
      textFrom enumFile.lines h.line h.header.endColumn
        = ['\n'] ++ '{' :: " A, // \x7b\x7d\nB \x7d int x;".toList ∧
      (textUpTo enumFile.lines h.line h.header.endColumn).length = 13 := by
    decide +kernel
  obtain ⟨hmarks, hrest, hlength⟩ := hheader h hh
  have hplain : ∀ c ∈ h.text enumFile.lines ++ ['\n'], marks c = false := by
    simpa only [List.any_eq_false, Bool.not_eq_true] using hmarks
  have hboth := (hmain _ _ hplain hrest).1 _ " int x;".toList hinner (by decide)
  rw [hlength] at hboth
  exact ⟨hmem, hboth.1, h, hh, hdeclares, hboth.2⟩

end Conformance.Source
