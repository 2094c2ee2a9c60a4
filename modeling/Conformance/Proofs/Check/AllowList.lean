/-
# Allow-lists

What a rule allows is never reported, and allowing more only takes findings away.  Both are said of
the rule that has an identity in an accepted set: `RuleSet.allowing` gives this rule another
allow-list, as if it had been written so (`RuleSet.ofSpecs_allowing`).  The findings become a part
of what they were (`RuleSet.keys_allowing`); their messages are worded anew, since a message may
tell how many findings there are.  This is where allowing more can fail: a text that was long enough
for the template need not be so when fewer names are left (`RuleSet.message_fails_for_fewer_twins`).
-/
import Conformance.Proofs.Check.DuplicateClasses
import Conformance.Proofs.Check.Memories
import Conformance.Proofs.Check.Narrower
import Conformance.Proofs.Check.Wording

namespace Conformance
open Source

/-! ## Another allow-list -/

/-- A heading with another allow-list. -/
def RuleHeading.allowing (h : RuleHeading) (names : List String) : RuleHeading :=
  { h with allowList := names }

/-- A rule with another allow-list. -/
def Rule.allowing (r : Rule) (names : List String) : Rule :=
  { r with heading := r.heading.allowing names }

/-- A rule as written, with another allow-list if it has the identity. -/
def RuleSpec.allowing (id : String) (names : List String) (spec : RuleSpec) : RuleSpec :=
  if spec.heading.id = id then { spec with heading := spec.heading.allowing names } else spec

/-- A set of rules in which the rule with the identity has another allow-list. -/
def RuleSet.allowing (s : RuleSet) (id : String) (names : List String) : RuleSet :=
  ⟨s.rules.map fun r => if r.id = id then r.allowing names else r⟩

lemma RuleHeading.within_allowing {h : RuleHeading} {names : List String}
    (hnames : h.allowList ⊆ names) : h.Within (h.allowing names) := by
  intro name hname
  simp only [allows, allowing, List.contains_eq_mem, decide_eq_true_eq] at hname ⊢
  exact hnames hname

lemma RuleHeading.not_mem_allowList {h : RuleHeading} {name : String} :
    name ∉ h.allowList ↔ h.allows name = false := by
  simp [allows]

/-- No check of a rule asks for the allow-list. -/
lemma RuleSpec.compile_allowing [Host] [m : Memory] {spec : RuleSpec} {r : Rule}
    (h : spec.compile = .ok r) (id : String) (names : List String) :
    (spec.allowing id names).compile = .ok (if r.id = id then r.allowing names else r) := by
  have hid : r.id = spec.heading.id := congrArg RuleHeading.id (compile_eq_ok h).1
  unfold allowing
  rw [hid]
  split
  · obtain ⟨_, hnamed, h⟩ := bind_eq_ok.1 h
    obtain ⟨_, hthreshold, h⟩ := bind_eq_ok.1 h
    obtain ⟨template, htemplate, h⟩ := bind_eq_ok.1 h
    obtain ⟨check, hcheck, h⟩ := bind_eq_ok.1 h
    obtain rfl := Except.ok.inj h
    exact bind_eq_ok.2 ⟨_, hnamed, bind_eq_ok.2 ⟨_, hthreshold,
      bind_eq_ok.2 ⟨template, htemplate, bind_eq_ok.2 ⟨check, hcheck, rfl⟩⟩⟩⟩
  · exact h

namespace RuleSet

variable {specs : List RuleSpec} {s : RuleSet} {r : Rule}

lemma compileFrom_allowing [Host] [m : Memory] (id : String) (names : List String)
    {seen : List String} {rules : List Rule} (h : compileFrom seen specs = .ok rules) :
    compileFrom seen (specs.map (RuleSpec.allowing id names))
      = .ok (rules.map fun r => if r.id = id then r.allowing names else r) := by
  induction specs generalizing seen rules with
  | nil =>
    obtain rfl := Except.ok.inj h
    rfl
  | cons spec specs ih =>
    obtain ⟨_, hnew, h⟩ := bind_eq_ok.1 h
    obtain ⟨r, hr, h⟩ := bind_eq_ok.1 h
    obtain ⟨rest, hrest, h⟩ := bind_eq_ok.1 h
    obtain rfl := Except.ok.inj h
    have hid : (spec.allowing id names).heading.id = spec.heading.id := by
      unfold RuleSpec.allowing
      split <;> rfl
    rw [List.map_cons, List.map_cons, compileFrom, hid]
    exact bind_eq_ok.2 ⟨_, hnew, bind_eq_ok.2 ⟨_, RuleSpec.compile_allowing hr id names,
      bind_eq_ok.2 ⟨_, ih hrest, rfl⟩⟩⟩

/-- Rules that are accepted are accepted with another allow-list. -/
lemma ofSpecs_allowing [Host] [m : Memory] (h : ofSpecs specs = .ok s) (id : String)
    (names : List String) :
    ofSpecs (specs.map (RuleSpec.allowing id names)) = .ok (s.allowing id names) := by
  obtain ⟨rules, hrules, rfl⟩ := map_eq_ok.1 h
  exact map_eq_ok.2 ⟨_, compileFrom_allowing id names hrules, rfl⟩

/-- A rule is known by its identity. -/
lemma eq_of_id_eq [Host] [m : Memory] (h : ofSpecs specs = .ok s) (hr : r ∈ s.rules) {r' : Rule}
    (hr' : r' ∈ s.rules) (hid : r'.id = r.id) : r' = r :=
  List.inj_on_of_nodup_map (ids_nodup h) hr' hr hid

/-! ## Fewer findings -/

lemma ofKind_allowing (s : RuleSet) (id : String) (names : List String) (kind : RuleKind) :
    (s.allowing id names).ofKind kind
      = (s.ofKind kind).map fun r => if r.id = id then r.allowing names else r := by
  rw [ofKind, allowing, List.filter_map, ofKind]
  congr 1
  refine List.filter_congr fun r _ => ?_
  dsimp only [Function.comp]
  split <;> rfl

/-- The findings of each of some rules, when the rule with the identity allows more. -/
lemma keys_flatMap_allowing [Host] [m : Memory] (h : ofSpecs specs = .ok s) (hr : r ∈ s.rules)
    {names : List String} (hnames : r.heading.allowList ⊆ names) {rules : List Rule}
    (hrules : rules ⊆ s.rules) (drafts : Check → RuleHeading → List Draft)
    (hdrafts : ∀ c (h h' : RuleHeading), h.Within h' →
      ((drafts c h').map Draft.place).Subperm ((drafts c h).map Draft.place)) :
    (((rules.map fun q => if q.id = r.id then q.allowing names else q).flatMap fun q =>
        (drafts q.check q.heading).map (q, ·)).map draftKey).Subperm
      ((rules.flatMap fun q => (drafts q.check q.heading).map (q, ·)).map draftKey) := by
  rw [List.flatMap_map, List.map_flatMap, List.map_flatMap]
  refine subperm_flatMap (List.Subperm.refl _) fun q hq => ?_
  -- the key of a draft is its place with the identity of the rule
  have hkeys : ∀ (q : Rule) (ds : List Draft), (ds.map (q, ·)).map draftKey
      = (ds.map Draft.place).map fun x => (x.1, x.2.1, q.id, x.2.2) := by
    intro q ds
    rw [List.map_map, List.map_map]
    rfl
  split
  · rename_i hid
    obtain rfl := eq_of_id_eq h hr (hrules hq) hid
    rw [hkeys, hkeys]
    exact subperm_map (hdrafts _ _ _ (RuleHeading.within_allowing hnames)) _
  · exact List.Subperm.refl _

/-- The findings of a set of rules in which one rule allows more are a part of what they were. -/
lemma keys_allowing [Host] [m : Memory] (h : ofSpecs specs = .ok s) (hr : r ∈ s.rules)
    {names : List String} (hnames : r.heading.allowList ⊆ names) (files : List FileDeclarations) :
    (((s.allowing r.id names).drafts files).map draftKey).Subperm
      ((s.drafts files).map draftKey) := by
  have hkind : ∀ kind, s.ofKind kind ⊆ s.rules := fun kind q hq => (mem_ofKind.1 hq).1
  have hfiles : ((files.flatMap (s.allowing r.id names).fileDrafts).map draftKey).Subperm
      ((files.flatMap s.fileDrafts).map draftKey) := by
    rw [List.map_flatMap, List.map_flatMap]
    refine subperm_flatMap (List.Subperm.refl _) fun f _ => ?_
    rw [fileDrafts, fileDrafts, ofKind_allowing, ofKind_allowing, ofKind_allowing,
      ← List.map_append, ← List.map_append]
    refine keys_flatMap_allowing h hr hnames ?_ (fun c heading => c.fileDrafts heading f)
      fun c h h' hwithin => ?_
    · exact List.append_subset.2 ⟨List.append_subset.2 ⟨hkind _, hkind _⟩, hkind _⟩
    · exact ((c.fileDrafts_sublist hwithin f).map _).subperm
  have hjoint : (((s.allowing r.id names).jointDrafts (files.flatMap (·.declarations))).map
      draftKey).Subperm ((s.jointDrafts (files.flatMap (·.declarations))).map draftKey) := by
    rw [jointDrafts, jointDrafts, ofKind_allowing, ofKind_allowing, ← List.map_append]
    refine keys_flatMap_allowing h hr hnames ?_ (fun c heading => c.jointDrafts heading _)
      fun c h h' hwithin => ?_
    · exact List.append_subset.2 ⟨hkind _, hkind _⟩
    · exact c.jointDrafts_subperm hwithin _
  rw [drafts, drafts, List.map_append, List.map_append]
  exact hfiles.append hjoint

section Memories

-- the rules are accepted in one memory; what they allow is evaluated in a second one, and what they
-- allow then in a third one
variable [Host] {l m n : Memory}

/-- Evaluating with a longer allow-list: every other rule words its findings as before. -/
lemma reports_allowing (h : ofSpecs (m := l) specs = .ok s) (hr : r ∈ s.rules) (names : List String)
    {files : List FileDeclarations} {vs : List Violation}
    (hvs : s.evaluate (m := m) files = .ok vs) :
    (∃ ws, ((s.allowing r.id names).drafts files).mapM (report (m := n)) = .ok ws) ∨
      ∃ e, (∃ q ∈ s.rules, q.CanFail (m := n) e ∧ (s.Unaffected m n → q = r)) ∧
        ((s.allowing r.id names).drafts files).mapM (report (m := n)) = .error (.template e) := by
  refine mapM_ok_or fun x hx => ?_
  obtain ⟨q, d⟩ := x
  obtain ⟨hq, hd⟩ := mem_drafts.1 hx
  obtain ⟨q₀, hq₀, rfl⟩ := List.mem_map.1 hq
  dsimp only at hd
  have hfits : d.Fits q₀.check.kind := by
    have hcheck : (if q₀.id = r.id then q₀.allowing names else q₀).check = q₀.check := by
      split <;> rfl
    rw [hcheck] at hd
    rcases hd with ⟨f, -, hd⟩ | hd
    · exact Check.fits_of_mem_fileDrafts hd
    · exact Check.fits_of_mem_jointDrafts hd
  have hworded := report_ok_or (n := n) h hq₀ hfits
  by_cases hid : q₀.id = r.id
  · rw [if_pos hid]
    refine hworded.imp_right ?_
    rintro ⟨e, he, herror⟩
    exact ⟨e, ⟨q₀, hq₀, he, fun _ => eq_of_id_eq (m := l) h hr hq₀ hid⟩, herror⟩
  · rw [if_neg hid] at hd ⊢
    obtain ⟨reported, hreported, -⟩ := exists_reports_of_evaluate (m := m) hvs
    have hdraft : (q₀, d) ∈ s.drafts files := mem_drafts.2 ⟨hq₀, hd⟩
    obtain ⟨v, hv⟩ := exists_ok_of_mem hreported hdraft
    refine hworded.imp_right ?_
    rintro ⟨e, he, herror⟩
    refine ⟨e, ⟨q₀, hq₀, he, fun hsame => ?_⟩, herror⟩
    -- where memory makes no difference, the finding is worded as it was
    rw [report_eq_of_unaffected hsame hq₀ hfits, herror] at hv
    exact absurd hv (by simp)

/-- Allowing more gives a part of the violations, unless the messages of the rule can fail and one
does, or the one of another rule does in a memory in which it fails. -/
lemma evaluate_allowing (h : ofSpecs (m := l) specs = .ok s) (hr : r ∈ s.rules)
    {names : List String} (hnames : r.heading.allowList ⊆ names) {files : List FileDeclarations}
    {vs : List Violation} (hvs : s.evaluate (m := m) files = .ok vs) :
    (∃ ws, (s.allowing r.id names).evaluate (m := n) files = .ok ws ∧
      (ws.map Violation.key).Subperm (vs.map Violation.key)) ∨
    ∃ e, (∃ q ∈ s.rules, q.CanFail (m := n) e ∧ (s.Unaffected m n → q = r)) ∧
      (s.allowing r.id names).evaluate (m := n) files = .error (.template e) := by
  rcases reports_allowing (n := n) h hr names hvs with ⟨ws, hws⟩ | ⟨e, he, herror⟩
  · have heval : (s.allowing r.id names).evaluate (m := n) files = .ok (Violation.sort ws) := by
      rw [evaluate_eq (m := n), hws]
      rfl
    refine .inl ⟨_, heval, ?_⟩
    refine (keys_of_evaluate (m := n) heval).subperm.trans ?_
    have hbefore := (keys_of_evaluate (m := m) hvs).symm.subperm
    exact (keys_allowing (m := l) h hr hnames files).trans hbefore
  · exact .inr ⟨e, he, by rw [evaluate_eq (m := n), herror]; rfl⟩

end Memories

end RuleSet

/-! ## Similar pairs -/

/-- Two names in order, with a comma between them. -/
def pairKey (a b : String) : String :=
  min a b ++ "," ++ max a b

lemma RuleHeading.allowsPair_eq_false {h : RuleHeading} {a b : String} :
    h.allowsPair a b = false ↔
      pairKey a b ∉ h.allowList ∧ a ∉ h.allowList ∧ b ∉ h.allowList := by
  have hkey : (if Text.precedes a b then a ++ "," ++ b else b ++ "," ++ a) = pairKey a b := by
    unfold pairKey Text.precedes
    rcases lt_or_ge b a with hlt | hle
    · simp [hlt, min_eq_right hlt.le, max_eq_left hlt.le]
    · simp [not_lt.2 hle, min_eq_left hle, max_eq_right hle]
  rw [allowsPair, hkey]
  simp only [not_mem_allowList, Bool.or_eq_false_iff, and_assoc]

namespace Similarity

/-- A pair that is not yet worded is not allowed. -/
lemma draft?_eq_some {heading : RuleHeading} {subjects : List Subject} {p : SimilarPair}
    {x : SimilarPair × Draft} (h : draft? heading subjects p = some x) :
    (x.1.first = p.first ∧ x.1.second = p.second) ∧
    ∃ a b, declarationOf subjects p.first = some a ∧ declarationOf subjects p.second = some b ∧
      heading.allowsPair p.first p.second = false ∧ heading.allowsPair a.name b.name = false := by
  unfold draft? at h
  split at h
  · rename_i a b ha hb
    split at h
    · exact absurd h (by simp)
    · rename_i hallowed
      obtain rfl := Option.some.inj h
      simp only [Bool.or_eq_true, not_or, Bool.not_eq_true] at hallowed
      exact ⟨⟨rfl, rfl⟩, a, b, ha, hb, hallowed⟩
  · exact absurd h (by simp)

/-- Of a pair, a rule asks only whether it is allowed. -/
lemma draft?_of_within {h h' : RuleHeading} (hwithin : h.Within h') {subjects : List Subject}
    {p : SimilarPair} {x : SimilarPair × Draft} (hx : draft? h' subjects p = some x) :
    draft? h subjects p = some x := by
  have hpair : ∀ {a b}, h'.allowsPair a b = false → h.allowsPair a b = false := by
    intro a b hab
    simp only [RuleHeading.allowsPair, Bool.or_eq_false_iff] at hab ⊢
    exact ⟨⟨hwithin.allows_eq_false hab.1.1, hwithin.allows_eq_false hab.1.2⟩,
      hwithin.allows_eq_false hab.2⟩
  obtain ⟨-, a, b, ha, hb, hkeys, hnames⟩ := draft?_eq_some hx
  simp only [draft?, ha, hb, hkeys, hnames, hpair hkeys, hpair hnames] at hx ⊢
  exact hx

lemma drafts_allowing {t : Similarity} {r : Rule} {names : List String}
    (hnames : r.heading.allowList ⊆ names) (ds : List Declaration) (blockSize : Option Int) :
    (t.drafts (r.allowing names) ds blockSize).Sublist (t.drafts r ds blockSize) :=
  filterMap_sublist_filterMap
    (fun _ _ hx => draft?_of_within (RuleHeading.within_allowing hnames) hx) _

/-- The subjects of the pairs are those of the drafts. -/
lemma subjects_of_check [Host] [m : Memory] {t : Similarity} {r : Rule} {ds : List Declaration}
    {blockSize : Option Int} {ps : List SimilarPair} (hps : t.check r ds blockSize = .ok ps) :
    ps.map (fun p => (p.first, p.second))
      = (t.drafts r ds blockSize).map fun x => (x.1.first, x.1.second) := by
  rw [check_eq] at hps
  refine map_eq_of_mapM ?_ hps
  intro x p hp
  obtain ⟨message, -, rfl⟩ := map_eq_ok.1 hp
  rfl

/-- Allowing more gives a part of the pairs, unless a message fails in a memory that makes a
difference. -/
lemma check_allowing [Host] {l m n : Memory} {specs : List RuleSpec} {s : RuleSet}
    (h : RuleSet.ofSpecs (m := l) specs = .ok s) {r : Rule} (hr : r ∈ s.rules) {t : Similarity}
    (ht : r.check = .similarity t) {names : List String} (hnames : r.heading.allowList ⊆ names)
    {ds : List Declaration} {blockSize : Option Int} {ps : List SimilarPair}
    (hps : t.check (m := m) r ds blockSize = .ok ps) :
    (∃ qs, t.check (m := n) (r.allowing names) ds blockSize = .ok qs ∧
      (qs.map fun q => (q.first, q.second)).Subperm (ps.map fun p => (p.first, p.second))) ∨
    ¬s.Unaffected m n ∧ ∃ e, r.CanFail (m := n) e ∧
      t.check (m := n) (r.allowing names) ds blockSize = .error (.template e) := by
  have hallowed : r.allowing names ∈ (s.allowing r.id names).rules :=
    List.mem_map.2 ⟨r, hr, if_pos rfl⟩
  have haccepted := RuleSet.ofSpecs_allowing (m := l) h r.id names
  rcases RuleSet.similarityCheck_ok_or (n := n) haccepted hallowed ht ds blockSize with
    ⟨qs, hqs⟩ | ⟨e, he, herror⟩
  · refine .inl ⟨qs, hqs, ?_⟩
    rw [subjects_of_check (m := n) hqs, subjects_of_check (m := m) hps]
    exact ((drafts_allowing hnames ds blockSize).map _).subperm
  · refine .inr ⟨fun hsame => ?_, e, he, herror⟩
    -- where memory makes no difference, the pairs that are left are worded as they were
    rw [RuleSet.similarityCheck_eq_of_unaffected hsame hr ht, check_eq (m := n)] at hps
    obtain ⟨qs, hqs, -⟩ := exists_mapM_sublist (drafts_allowing hnames ds blockSize) hps
    rw [check_eq (m := n)] at herror
    exact absurd (hqs.symm.trans herror) (by simp)

/-- No pair is allowed, by its keys or by the declared names. -/
lemma not_allowed_of_mem_check [Host] [m : Memory] {t : Similarity} {r : Rule}
    {ds : List Declaration} {blockSize : Option Int} {ps : List SimilarPair}
    (hps : t.check r ds blockSize = .ok ps) {p : SimilarPair} (hp : p ∈ ps) :
    ∃ a b, declarationOf (selectSubjects t.kinds t.subjects ds) p.first = some a ∧
      declarationOf (selectSubjects t.kinds t.subjects ds) p.second = some b ∧
      r.heading.allowsPair p.first p.second = false ∧
      r.heading.allowsPair a.name b.name = false := by
  rw [check_eq] at hps
  obtain ⟨x, hx, hreport⟩ := exists_of_mem_mapM hps hp
  obtain ⟨q, -, hq⟩ := List.mem_filterMap.1 hx
  obtain ⟨⟨hfirst, hsecond⟩, hq⟩ := draft?_eq_some hq
  obtain ⟨message, -, rfl⟩ := map_eq_ok.1 hreport
  dsimp only
  rw [hfirst, hsecond]
  exact hq

end Similarity

/-! ## What is never reported -/

lemma Placement.not_allows_of_applies {p : Placement} {h : RuleHeading} {d : Declaration}
    (hd : p.applies h d = true) : h.allows d.name = false ∧ h.allows d.qualifiedName = false := by
  simp only [applies, Bool.and_eq_true, Bool.not_eq_true'] at hd
  exact ⟨hd.1.1.2, hd.1.2⟩

/-- A finding of a placement rule is about a declaration that the rule is about. -/
lemma Placement.exists_of_mem_fileDrafts {p : Placement} {h : RuleHeading} {f : FileDeclarations}
    {x : Draft} (hx : x ∈ (Check.placement p).fileDrafts h f) :
    ∃ d ∈ f.declarations, p.applies h d = true ∧
      ∃ reason frame, x.context = .ofDeclaration d reason frame := by
  simp only [Check.fileDrafts] at hx
  split at hx
  · obtain ⟨d, hd, hdraft⟩ := List.mem_filterMap.1 hx
    obtain ⟨problem, -, rfl⟩ := Option.map_eq_some_iff.1 hdraft
    exact ⟨d, (List.mem_filter.1 hd).1, (List.mem_filter.1 hd).2, _, _, rfl⟩
  · exact absurd hx (by simp)

lemma Placement.exists_of_mem_jointDrafts {p : Placement} {h : RuleHeading}
    {ds : List Declaration} {x : Draft} (hx : x ∈ (Check.placement p).jointDrafts h ds) :
    ∃ d ∈ ds, p.applies h d = true ∧
      ∃ reason frame, x.context = .ofDeclaration d reason frame := by
  simp only [Check.jointDrafts] at hx
  split at hx
  · simp only [countDrafts] at hx
    split at hx
    · exact absurd hx (by simp)
    · obtain ⟨d, hd, rfl⟩ := List.mem_map.1 hx
      have hd := List.mem_filter.1 ((List.mergeSort_perm _ _).mem_iff.1 hd)
      exact ⟨d, hd.1, hd.2, _, _, rfl⟩
  · exact absurd hx (by simp)

lemma NamespaceSpec.not_allows_of_mem_drafts {n : NamespaceSpec} {h : RuleHeading}
    {f : FileDeclarations} {x : Draft} (hx : x ∈ n.drafts h f) :
    h.allows x.context.name = false := by
  simp only [drafts] at hx
  split at hx
  · exact absurd hx (by simp)
  split at hx
  · exact absurd hx (by simp)
  · split at hx
    · exact absurd hx (by simp)
    · rename_i hnot
      obtain rfl := List.mem_singleton.1 hx
      simp only [Bool.or_eq_true, not_or, Bool.not_eq_true] at hnot
      exact hnot.1.2

lemma Usage.not_allows_of_mem_drafts {u : Usage} {h : RuleHeading} {f : FileDeclarations}
    {x : Draft} (hx : x ∈ u.drafts h f) : h.allows x.context.name = false := by
  simp only [drafts] at hx
  split at hx
  · exact absurd hx (by simp)
  · obtain ⟨line, -, hline⟩ := List.mem_filterMap.1 hx
    obtain ⟨subject, hsubject, rfl⟩ := Option.map_eq_some_iff.1 hline
    unfold subject? at hsubject
    split at hsubject
    · exact absurd hsubject (by simp)
    · simpa using (Option.filter_eq_some_iff.1 hsubject).2

/-- A finding of a duplicate rule is about a declaration that neither its name nor its base
allows. -/
lemma Duplication.not_allows_of_mem_drafts {r : Duplication} {h : RuleHeading}
    {ds : List Declaration} {x : Draft} (hx : x ∈ r.drafts h ds) :
    h.allows x.context.name = false ∧ h.allows (r.baseKey x.context.name) = false := by
  obtain ⟨g, hg, hx⟩ := List.mem_flatMap.1 hx
  obtain ⟨d, hd, rfl⟩ := List.mem_map.1 hx
  obtain ⟨⟨base, members⟩, hgroup, rfl⟩ := List.mem_map.1 hg
  obtain ⟨hgroup, hqualifies⟩ := List.mem_filter.1 hgroup
  obtain ⟨_, -, heq⟩ := List.mem_map.1 hgroup
  obtain ⟨rfl, rfl⟩ := Prod.mk.inj heq
  obtain ⟨hcandidate, hbase⟩ := List.mem_filter.1 ((List.mergeSort_perm _ _).mem_iff.1 hd)
  have happlies : r.applies h d = true := by
    obtain ⟨parts, hparts, hmember⟩ := List.mem_flatMap.1 hcandidate
    obtain ⟨name, -, rfl⟩ := List.mem_map.1 hparts
    exact (List.mem_filter.1 (List.mem_filter.1 (mem_of_mem_mergeParts hmember)).1).2
  simp only [applies, Bool.and_eq_true, Bool.not_eq_true'] at happlies
  simp only [qualifies, Bool.and_eq_true, Bool.not_eq_true'] at hqualifies
  refine ⟨happlies.2, ?_⟩
  have hkey : r.baseKey d.name = _ := beq_iff_eq.1 hbase
  exact (congrArg h.allows hkey).trans hqualifies.1.1.1

namespace Check

variable {c : Check} {h : RuleHeading} {x : Draft}

lemma not_allows_of_mem_fileDrafts {f : FileDeclarations} (hx : x ∈ c.fileDrafts h f) :
    h.allows x.context.name = false := by
  cases c with
  | placement p =>
    obtain ⟨d, -, happlies, reason, frame, hcontext⟩ := p.exists_of_mem_fileDrafts hx
    rw [hcontext]
    exact (Placement.not_allows_of_applies happlies).1
  | nameSpace n => exact n.not_allows_of_mem_drafts hx
  | usage u => exact u.not_allows_of_mem_drafts hx
  | duplicate d => exact absurd hx (by simp [fileDrafts])
  | similarity t => exact absurd hx (by simp [fileDrafts])

lemma not_allows_of_mem_jointDrafts {ds : List Declaration} (hx : x ∈ c.jointDrafts h ds) :
    h.allows x.context.name = false := by
  cases c with
  | placement p =>
    obtain ⟨d, -, happlies, reason, frame, hcontext⟩ := p.exists_of_mem_jointDrafts hx
    rw [hcontext]
    exact (Placement.not_allows_of_applies happlies).1
  | duplicate d => exact (d.not_allows_of_mem_drafts hx).1
  | nameSpace n => exact absurd hx (by simp [jointDrafts])
  | usage u => exact absurd hx (by simp [jointDrafts])
  | similarity t => exact absurd hx (by simp [jointDrafts])

end Check

/-- A violation is about a declaration. -/
structure Violation.IsAbout (v : Violation) (d : Declaration) : Prop where
  /-- It is in the same file. -/
  path_eq : v.path = d.path
  /-- It is in the same line. -/
  line_eq : v.line = d.line
  /-- It names the declaration. -/
  subject_eq : v.subject = d.name
  /-- It tells the namespace of the declaration. -/
  namespace_eq : v.namespaceName = some d.namespaceName

lemma Violation.Tells.isAbout {v : Violation} {r : Rule} {x : Draft} (h : v.Tells (r, x))
    {d : Declaration} {reason : String} {frame : Option Frame}
    (hx : x.context = .ofDeclaration d reason frame) : v.IsAbout d where
  path_eq := by rw [h.path_eq, hx]; rfl
  line_eq := by rw [h.line_eq, hx]; rfl
  subject_eq := by rw [h.subject_eq, hx]; rfl
  namespace_eq := by rw [h.namespace_eq, hx]; rfl

namespace RuleSet

variable {specs : List RuleSpec} {s : RuleSet} {r : Rule}

/-- What a violation is about has one qualified name. -/
lemma qualifiedName_eq {v : Violation} {d e : Declaration} (hd : v.IsAbout d) (he : v.IsAbout e) :
    d.qualifiedName = e.qualifiedName := by
  have hname : d.name = e.name := hd.subject_eq.symm.trans he.subject_eq
  have hnamespace : d.namespaceName = e.namespaceName :=
    Option.some.inj (hd.namespace_eq.symm.trans he.namespace_eq)
  simp only [Declaration.qualifiedName, hname, hnamespace]

section Memories

variable [Host] {l m n : Memory}

/-- A violation of a rule is that of a draft of the rule. -/
lemma exists_draft_of_rule (h : ofSpecs (m := l) specs = .ok s) (hr : r ∈ s.rules)
    {files : List FileDeclarations} {vs : List Violation} (hvs : s.evaluate (m := m) files = .ok vs)
    {v : Violation} (hv : v ∈ vs) (hid : v.ruleId = r.id) :
    ∃ d : Draft, v.Tells (r, d) ∧
      ((∃ f ∈ files, d ∈ r.check.fileDrafts r.heading f) ∨
        d ∈ r.check.jointDrafts r.heading (files.flatMap (·.declarations))) := by
  obtain ⟨⟨q, d⟩, hx, htells⟩ := exists_draft_of_mem_evaluate (m := m) hvs hv
  obtain ⟨hq, hd⟩ := mem_drafts.1 hx
  obtain rfl := eq_of_id_eq (m := l) h hr hq (htells.ruleId_eq.symm.trans hid)
  exact ⟨d, htells, hd⟩

lemma subject_not_allowed (h : ofSpecs (m := l) specs = .ok s) (hr : r ∈ s.rules)
    {files : List FileDeclarations} {vs : List Violation} (hvs : s.evaluate (m := m) files = .ok vs)
    {v : Violation} (hv : v ∈ vs) (hid : v.ruleId = r.id) : v.subject ∉ r.heading.allowList := by
  obtain ⟨d, htells, hd⟩ := exists_draft_of_rule h hr hvs hv hid
  rw [htells.subject_eq, RuleHeading.not_mem_allowList]
  rcases hd with ⟨f, -, hd⟩ | hd
  · exact Check.not_allows_of_mem_fileDrafts hd
  · exact Check.not_allows_of_mem_jointDrafts hd

/-- A violation of a placement rule is about a declaration that the rule is about. -/
lemma declaration_of_placement (h : ofSpecs (m := l) specs = .ok s) (hr : r ∈ s.rules)
    {p : Placement} (hp : r.check = .placement p) {files : List FileDeclarations}
    {vs : List Violation} (hvs : s.evaluate (m := m) files = .ok vs) {v : Violation} (hv : v ∈ vs)
    (hid : v.ruleId = r.id) :
    ∃ d ∈ files.flatMap (·.declarations), v.IsAbout d ∧ p.applies r.heading d = true := by
  obtain ⟨x, htells, hx⟩ := exists_draft_of_rule h hr hvs hv hid
  rw [hp] at hx
  rcases hx with ⟨f, hf, hx⟩ | hx
  · obtain ⟨d, hd, happlies, reason, frame, hcontext⟩ := p.exists_of_mem_fileDrafts hx
    exact ⟨d, List.mem_flatMap.2 ⟨f, hf, hd⟩, htells.isAbout hcontext, happlies⟩
  · obtain ⟨d, hd, happlies, reason, frame, hcontext⟩ := p.exists_of_mem_jointDrafts hx
    exact ⟨d, hd, htells.isAbout hcontext, happlies⟩

lemma base_not_allowed (h : ofSpecs (m := l) specs = .ok s) (hr : r ∈ s.rules) {d : Duplication}
    (hd : r.check = .duplicate d) {files : List FileDeclarations} {vs : List Violation}
    (hvs : s.evaluate (m := m) files = .ok vs) {v : Violation} (hv : v ∈ vs)
    (hid : v.ruleId = r.id) :
    d.baseKey v.subject ∉ r.heading.allowList := by
  obtain ⟨x, htells, hx⟩ := exists_draft_of_rule h hr hvs hv hid
  rw [htells.subject_eq, RuleHeading.not_mem_allowList]
  rw [hd] at hx
  rcases hx with ⟨f, -, hx⟩ | hx
  · exact absurd hx (by simp [Check.fileDrafts])
  · exact (d.not_allows_of_mem_drafts hx).2

/-- What a rule allows is not reported: not as the subject of a violation, nor as the qualified name
of what a placement rule is about, nor as the base of duplicates, nor as a key, a declared name or a
pair of them in a similar pair.  Allowing more is accepted, and gives a part of the violations and
of the similar pairs; only wording the violations that are left can fail, where the template of the
rule asks for more than types promise.  (In a memory that makes a difference, wording what is left
can fail in such a way for any rule.) -/
theorem allowList_respected_and_narrowing (h : ofSpecs (m := l) specs = .ok s) (hr : r ∈ s.rules) :
    (∀ files vs, s.evaluate (m := m) files = .ok vs → ∀ v ∈ vs, v.ruleId = r.id →
      v.subject ∉ r.heading.allowList ∧
      (∀ p, r.check = .placement p →
        (∃ d ∈ files.flatMap (·.declarations), v.IsAbout d) ∧
        ∀ d, v.IsAbout d → d.qualifiedName ∉ r.heading.allowList) ∧
      ∀ d, r.check = .duplicate d → d.baseKey v.subject ∉ r.heading.allowList) ∧
    (∀ t, r.check = .similarity t → ∀ ds blockSize ps, t.check (m := m) r ds blockSize = .ok ps →
      ∀ p ∈ ps, ∃ a b,
        Similarity.declarationOf (selectSubjects t.kinds t.subjects ds) p.first = some a ∧
        Similarity.declarationOf (selectSubjects t.kinds t.subjects ds) p.second = some b ∧
        ∀ name ∈ [p.first, p.second, pairKey p.first p.second, a.name, b.name,
          pairKey a.name b.name], name ∉ r.heading.allowList) ∧
    ∀ names, r.heading.allowList ⊆ names →
      ofSpecs (m := l) (specs.map (RuleSpec.allowing r.id names))
        = .ok (s.allowing r.id names) ∧
      (∀ files vs, s.evaluate (m := m) files = .ok vs →
        (∃ ws, (s.allowing r.id names).evaluate (m := n) files = .ok ws ∧
          (ws.map Violation.key).Subperm (vs.map Violation.key)) ∨
        ∃ e, (∃ q ∈ s.rules, q.CanFail (m := n) e ∧ (s.Unaffected m n → q = r)) ∧
          (s.allowing r.id names).evaluate (m := n) files = .error (.template e)) ∧
      ∀ t, r.check = .similarity t → ∀ ds blockSize ps, t.check (m := m) r ds blockSize = .ok ps →
        (∃ qs, t.check (m := n) (r.allowing names) ds blockSize = .ok qs ∧
          (qs.map fun q => (q.first, q.second)).Subperm (ps.map fun p => (p.first, p.second))) ∨
        ¬s.Unaffected m n ∧ ∃ e, r.CanFail (m := n) e ∧
          t.check (m := n) (r.allowing names) ds blockSize = .error (.template e) := by
  refine ⟨fun files vs hvs v hv hid => ⟨?_, fun p hp => ?_, fun d hd => ?_⟩, ?_,
    fun names hnames => ⟨ofSpecs_allowing (m := l) h _ _, fun files vs hvs => ?_, ?_⟩⟩
  · exact subject_not_allowed h hr hvs hv hid
  · obtain ⟨d, hd, habout, happlies⟩ := declaration_of_placement h hr hp hvs hv hid
    refine ⟨⟨d, hd, habout⟩, fun e he => ?_⟩
    rw [qualifiedName_eq he habout, RuleHeading.not_mem_allowList]
    exact (Placement.not_allows_of_applies happlies).2
  · exact base_not_allowed h hr hd hvs hv hid
  · intro t _ ds blockSize ps hps p hp
    obtain ⟨a, b, ha, hb, hkeys, hnames⟩ := Similarity.not_allowed_of_mem_check (m := m) hps hp
    refine ⟨a, b, ha, hb, ?_⟩
    rw [RuleHeading.allowsPair_eq_false] at hkeys hnames
    simp only [List.mem_cons, List.not_mem_nil, or_false]
    rintro name (rfl | rfl | rfl | rfl | rfl | rfl)
    exacts [hkeys.2.1, hkeys.2.2, hkeys.1, hnames.2.1, hnames.2.2, hnames.1]
  · exact evaluate_allowing h hr hnames hvs
  · intro t ht ds blockSize ps hps
    exact Similarity.check_allowing h hr ht hnames hps

end Memories

/-! ### A message that tells the whole group -/

/-- A rule about classes whose names differ in a digit.  Its message takes the ninth character of
the names in a group. -/
def twinsSpec (allowed : List String) : RuleSpec :=
  ⟨{ id := "twins", allowList := allowed, message := "\x7bgroup[8]\x7d" },
    .duplicate { kinds := ["type"], suffixPattern := "[0-9]" }⟩

/-- What such a rule looks for. -/
def twinsCheck : Duplication :=
  { kinds := [.type], suffix := .one (.range 48 57), distinctSuffixes := false, minGroup := 2,
    ignoreFileScoped := true }

/-- The rule when it is accepted. -/
def twinsRule (allowed : List String) : Rule :=
  ⟨(twinsSpec allowed).heading, Template.read (twinsSpec []).templateText.toList,
    .duplicate twinsCheck⟩

section Plain

attribute [local instance] Host.plain Memory.plain

/-- Its message can only be too short. -/
theorem allowList_respected_and_narrowing_twins :
    ofSpecs [twinsSpec ["B"]] = .ok ⟨[twinsRule ["B"]]⟩ ∧
    ∀ files vs, RuleSet.evaluate ⟨[twinsRule ["B"]]⟩ files = .ok vs →
      (∀ v ∈ vs, v.ruleId = "twins" → v.subject ≠ "B") ∧
      ((∃ ws, RuleSet.evaluate ⟨[twinsRule ["B", "A1"]]⟩ files = .ok ws ∧
          (ws.map Violation.key).Subperm (vs.map Violation.key)) ∨
        RuleSet.evaluate ⟨[twinsRule ["B", "A1"]]⟩ files
          = .error (.template .indexOutOfRange)) := by
  have haccepted : ofSpecs [twinsSpec ["B"]] = .ok ⟨[twinsRule ["B"]]⟩ := by decide +kernel
  refine ⟨haccepted, fun files vs hvs => ?_⟩
  obtain ⟨hreported, -, hmore⟩ :=
    allowList_respected_and_narrowing (m := Memory.plain) (n := Memory.plain) haccepted
      (List.mem_singleton_self _)
  constructor
  · intro v hv hid hsubject
    exact (hreported files vs hvs v hv hid).1 (by rw [hsubject]; decide)
  · refine ((hmore ["B", "A1"] (by decide)).2.1 files vs hvs).imp id ?_
    rintro ⟨e, ⟨q, hq, ⟨g, hg, hcan⟩, -⟩, herror⟩
    obtain rfl := List.mem_singleton.1 hq
    have hfields : ∀ g ∈ (twinsRule ["B"]).template.fields,
        g.nested = false ∧ g.layout = [] := by
      decide +kernel
    obtain ⟨hnested, hlayout⟩ := hfields g hg
    cases hcan with
    | index _ _ _ => exact herror
    | range _ _ _ _ hlast _ => exact absurd hlast (by simp [hlayout])
    | @room _ _ _ l _ hread o hless =>
      -- a layout of no characters asks for no room
      have hdemand : l.demand < 10 ^ g.layout.length := Layout.demand_lt_of_read hread
      rw [hlayout] at hdemand
      have hnothing : l.demand = 0 := Nat.lt_one_iff.1 hdemand
      omega
    | layout hnested' _ => exact absurd (hnested'.symm.trans hnested) (by simp)

/-- Three files with a class each, whose names differ in a digit. -/
def twinFiles : List FileDeclarations :=
  ["A", "A1", "A2"].map fun name =>
    extract Tracker.full ⟨name ++ ".cs", ["public class " ++ name ++ " \x7b \x7d"]⟩

/-- The classes in these files. -/
def twins : List Declaration :=
  ["A", "A1", "A2"].map fun name =>
    { kind := .type, name, path := name ++ ".cs", line := 1, column := 13, modifiers := ["public"] }

/-- The findings about some of the classes. -/
def twinDrafts (ds : List Declaration) : List Draft :=
  ds.map fun d => ⟨.ofDeclaration d "shares base name A" none,
    [("base", .text "A"), ("count", .int ds.length),
      ("group", .text (", ".intercalate (ds.map (·.name))))]⟩

lemma evaluate_twins {allowed : List String} {ds : List Declaration}
    (h : twinsCheck.drafts (twinsSpec allowed).heading twins = twinDrafts ds) :
    RuleSet.evaluate ⟨[twinsRule allowed]⟩ twinFiles
      = (((twinDrafts ds).map (twinsRule allowed, ·)).mapM report).map Violation.sort := by
  have hclasses : twinFiles.flatMap (·.declarations) = twins := by decide +kernel
  have hfile : twinFiles.flatMap (RuleSet.fileDrafts ⟨[twinsRule allowed]⟩) = [] := rfl
  have hjoint : RuleSet.jointDrafts ⟨[twinsRule allowed]⟩ twins
      = (twinsCheck.drafts (twinsSpec allowed).heading twins).map (twinsRule allowed, ·) := by
    simp [jointDrafts, ofKind, twinsRule, Check.kind, Check.jointDrafts]
  rw [evaluate_eq, drafts, hclasses, hfile, List.nil_append, hjoint, h]

/-- Allowing one of three twins leaves a group whose names are too short for the message of the
others. -/
theorem message_fails_for_fewer_twins :
    ofSpecs [twinsSpec []] = .ok ⟨[twinsRule []]⟩ ∧
    ofSpecs [twinsSpec ["A1"]] = .ok ⟨[twinsRule ["A1"]]⟩ ∧
    (∃ vs, RuleSet.evaluate ⟨[twinsRule []]⟩ twinFiles = .ok vs) ∧
    RuleSet.evaluate ⟨[twinsRule ["A1"]]⟩ twinFiles = .error (.template .indexOutOfRange) := by
  refine ⟨by decide +kernel, by decide +kernel, ?_, ?_⟩
  · have hdrafts : twinsCheck.drafts (twinsSpec []).heading twins = twinDrafts twins := by cbv
    have hreports : (((twinDrafts twins).map (twinsRule [], ·)).mapM report).isOk = true := by
      decide +kernel
    rw [evaluate_twins hdrafts]
    cases h : ((twinDrafts twins).map (twinsRule [], ·)).mapM report with
    | error e => exact absurd hreports (by rw [h]; simp [Except.isOk, Except.toBool])
    | ok vs => exact ⟨_, rfl⟩
  · have hdrafts : twinsCheck.drafts (twinsSpec ["A1"]).heading twins
        = twinDrafts (twins.filter (·.name != "A1")) := by cbv
    rw [evaluate_twins hdrafts]
    decide +kernel

end Plain

end RuleSet
end Conformance
