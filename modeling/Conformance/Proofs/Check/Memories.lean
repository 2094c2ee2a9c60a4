/-
# Findings in two memories

Rules are evaluated in one memory and then in another.  The violations are the same but for their
messages, and the messages of a rule whose template shows nothing of memory are the same too
(`RuleSet.evaluate_certain`).  In one and the same memory, or where the rooms agree and all
templates are of that sort, there is no difference at all (`RuleSet.evaluate_eq_of_unaffected`).
-/
import Conformance.Proofs.Check.Wording
import Conformance.Proofs.Similarity.NamePairs
import Conformance.Proofs.Template.Fixed

namespace Conformance
open Source

/-! ## What findings tell in every memory -/

/-- A violation without its message. -/
def Violation.unworded (v : Violation) : Violation :=
  { v with message := "" }

/-- A pair without its message. -/
def SimilarPair.unworded (p : SimilarPair) : SimilarPair :=
  { p with message := "" }

/-- Whether the messages of a rule show nothing of memory. -/
def Rule.isFixed [Host] (r : Rule) : Bool :=
  r.template.isFixed (r.check.kind.samples r.id)

/-! ## Pairs of a rule -/

namespace Similarity

variable {threshold : Binary64} {ruleId : String} {blockSize : Option Int} {p : SimilarPair}

lemma ruleId_of_mem_similarNames {names : List String}
    (h : p ∈ similarNames names threshold ruleId) : p.ruleId = ruleId := by
  obtain ⟨_, -, _, -, -, -, rfl⟩ := mem_similarNames.1 h
  rfl

lemma ruleId_of_mem_similarPairs {sets : MemberSets} {least : Int}
    (h : p ∈ similarPairs sets threshold least ruleId blockSize) : p.ruleId = ruleId := by
  simp only [similarPairs] at h
  split_ifs at h
  · exact absurd h (by simp)
  · obtain ⟨_, -, h⟩ := List.mem_flatMap.1 h
    obtain ⟨_, -, h⟩ := List.mem_flatMap.1 h
    obtain ⟨_, -, h⟩ := List.mem_filterMap.1 h
    -- the two rows are looked up before they are compared
    obtain ⟨_, -, h⟩ := Option.bind_eq_some_iff.1 h
    obtain ⟨_, -, h⟩ := Option.bind_eq_some_iff.1 h
    simp only [pairOfRows] at h
    split_ifs at h
    obtain rfl := Option.some.inj h
    rfl

lemma ruleId_of_mem_pairs {t : Similarity} {subjects : List Subject}
    (h : p ∈ t.pairs ruleId subjects blockSize) : p.ruleId = ruleId := by
  unfold pairs at h
  split at h
  · exact ruleId_of_mem_similarNames h
  · exact ruleId_of_mem_similarPairs h

/-- A pair that is reported is one of the rule. -/
lemma ruleId_of_mem_drafts {t : Similarity} {r : Rule} {ds : List Declaration}
    {x : SimilarPair × Draft} (hx : x ∈ t.drafts r ds blockSize) : x.1.ruleId = r.id := by
  obtain ⟨p, hp, hx⟩ := List.mem_filterMap.1 hx
  have hid : p.ruleId = r.id := ruleId_of_mem_pairs hp
  unfold draft? at hx
  split at hx
  · split_ifs at hx
    obtain rfl := Option.some.inj hx
    exact hid
  · exact absurd hx (by simp)

end Similarity

namespace RuleSet

section Certain

variable [Host]

/-- Whether the messages of the rules with an identity show nothing of memory. -/
def isCertain (s : RuleSet) (id : String) : Bool :=
  s.rules.all fun r => r.id != id || r.isFixed

/-- What a violation tells in every memory: the message is left out if it may show something of
it. -/
def certain (s : RuleSet) (v : Violation) : Violation :=
  if s.isCertain v.ruleId then v else v.unworded

/-- What a pair tells in every memory. -/
def certainPair (s : RuleSet) (p : SimilarPair) : SimilarPair :=
  if s.isCertain p.ruleId then p else p.unworded

/-- Two memories make no difference to the rules: they are the same, or the rooms are the same and
no message shows anything of them. -/
def Unaffected (s : RuleSet) (m n : Memory) : Prop :=
  m = n ∨ ¬Template.RoomsDiffer m n ∧ ∀ r ∈ s.rules, r.isFixed = true

variable {s : RuleSet}

lemma isFixed_of_isCertain {r : Rule} (hr : r ∈ s.rules) (h : s.isCertain r.id = true) :
    r.isFixed = true := by
  have hfixed := List.all_eq_true.1 h r hr
  simpa using hfixed

lemma certain_eq_of_message {v w : Violation} (h : v.unworded = w.unworded)
    (hmessage : s.isCertain v.ruleId = true → v.message = w.message) :
    s.certain v = s.certain w := by
  have hid : v.unworded.ruleId = w.unworded.ruleId := congrArg Violation.ruleId h
  have hid : v.ruleId = w.ruleId := hid
  unfold certain
  rw [← hid]
  split
  · calc v = { v.unworded with message := v.message } := rfl
      _ = { w.unworded with message := w.message } := by rw [h, hmessage ‹_›]
      _ = w := rfl
  · exact h

lemma certainPair_eq_of_message {p q : SimilarPair} (h : p.unworded = q.unworded)
    (hmessage : s.isCertain p.ruleId = true → p.message = q.message) :
    s.certainPair p = s.certainPair q := by
  have hid : p.unworded.ruleId = q.unworded.ruleId := congrArg SimilarPair.ruleId h
  have hid : p.ruleId = q.ruleId := hid
  unfold certainPair
  rw [← hid]
  split
  · calc p = { p.unworded with message := p.message } := rfl
      _ = { q.unworded with message := q.message } := by rw [h, hmessage ‹_›]
      _ = q := rfl
  · exact h

@[simp]
lemma path_certain (v : Violation) : (s.certain v).path = v.path := by
  unfold certain
  split <;> rfl

@[simp]
lemma line_certain (v : Violation) : (s.certain v).line = v.line := by
  unfold certain
  split <;> rfl

@[simp]
lemma ruleId_certain (v : Violation) : (s.certain v).ruleId = v.ruleId := by
  unfold certain
  split <;> rfl

@[simp]
lemma subject_certain (v : Violation) : (s.certain v).subject = v.subject := by
  unfold certain
  split <;> rfl

@[simp]
lemma ruleId_certainPair (p : SimilarPair) : (s.certainPair p).ruleId = p.ruleId := by
  unfold certainPair
  split <;> rfl

@[simp]
lemma first_certainPair (p : SimilarPair) : (s.certainPair p).first = p.first := by
  unfold certainPair
  split <;> rfl

@[simp]
lemma second_certainPair (p : SimilarPair) : (s.certainPair p).second = p.second := by
  unfold certainPair
  split <;> rfl

/-- Violations are sorted by what is told in every memory. -/
lemma map_certain_sort (vs : List Violation) :
    (Violation.sort vs).map s.certain = Violation.sort (vs.map s.certain) := by
  refine List.map_mergeSort fun v _ w _ => ?_
  simp [Violation.precedes]

lemma map_certainPair_sort (ps : List SimilarPair) :
    (SimilarPair.sort ps).map s.certainPair = SimilarPair.sort (ps.map s.certainPair) := by
  refine List.map_mergeSort fun p _ q _ => ?_
  simp [SimilarPair.precedes]

end Certain

/-! ## Messages -/

section Messages

variable [Host] {m n : Memory} {s : RuleSet} {r : Rule} {d : Draft}

/-- The message of a rule that shows nothing of memory. -/
lemma render_sameUnlessFull (hr : r.isFixed = true) (hd : d.Fits r.check.kind) :
    SameUnlessFull (Template.RoomsDiffer m n)
      (r.template.render (m := m) (d.context.values r.id d.own))
      (r.template.render (m := n) (d.context.values r.id d.own)) :=
  Template.render_sameUnlessFull (Template.fixedIn_of_samples (hd.values_alike r.id) hr)

lemma message_eq_of_isFixed (hr : r.isFixed = true) (hd : d.Fits r.check.kind)
    {message message' : String} (h : r.message (m := m) d.context d.own = .ok message)
    (h' : r.message (m := n) d.context d.own = .ok message') : message = message' :=
  (render_sameUnlessFull hr hd).eq_of_ok (mapError_eq_ok.1 h) (mapError_eq_ok.1 h')

lemma message_eq_of_unaffected (h : s.Unaffected m n) (hr : r ∈ s.rules)
    (hd : d.Fits r.check.kind) :
    r.message (m := m) d.context d.own = r.message (m := n) d.context d.own := by
  rcases h with rfl | ⟨hrooms, hfixed⟩
  · rfl
  · simp only [Rule.message, (render_sameUnlessFull (hfixed r hr) hd).eq hrooms]

lemma report_eq_of_unaffected (h : s.Unaffected m n) (hr : r ∈ s.rules)
    (hd : d.Fits r.check.kind) : report (m := m) (r, d) = report (m := n) (r, d) := by
  simp only [Conformance.report, Rule.violation, message_eq_of_unaffected h hr hd]

/-- A draft is worded in the same way in both memories, as far as its message is certain. -/
lemma certain_eq_of_report (hr : r ∈ s.rules) (hd : d.Fits r.check.kind) {v w : Violation}
    (hv : report (m := m) (r, d) = .ok v) (hw : report (m := n) (r, d) = .ok w) :
    s.certain v = s.certain w := by
  obtain ⟨message, hmessage, hv⟩ := bind_eq_ok.1 hv
  obtain ⟨message', hmessage', hw⟩ := bind_eq_ok.1 hw
  obtain rfl := Except.ok.inj hv
  obtain rfl := Except.ok.inj hw
  refine certain_eq_of_message rfl fun hcertain => ?_
  exact message_eq_of_isFixed (isFixed_of_isCertain hr hcertain) hd hmessage hmessage'

end Messages

/-! ## Evaluations -/

/-- Drafts of rules of the set that fit them. -/
def AreFitting (s : RuleSet) (xs : List (Rule × Draft)) : Prop :=
  ∀ x ∈ xs, x.1 ∈ s.rules ∧ x.2.Fits x.1.check.kind

lemma areFitting_fileDrafts (s : RuleSet) (f : FileDeclarations) :
    s.AreFitting (s.fileDrafts f) := by
  intro x hx
  obtain ⟨hr, hd⟩ := mem_fileDrafts.1 hx
  exact ⟨hr, Check.fits_of_mem_fileDrafts hd⟩

lemma areFitting_jointDrafts (s : RuleSet) (ds : List Declaration) :
    s.AreFitting (s.jointDrafts ds) := by
  intro x hx
  obtain ⟨hr, hd⟩ := mem_jointDrafts.1 hx
  exact ⟨hr, Check.fits_of_mem_jointDrafts hd⟩

lemma areFitting_drafts (s : RuleSet) (files : List FileDeclarations) :
    s.AreFitting (s.drafts files) := by
  intro x hx
  rcases List.mem_append.1 hx with hx | hx
  · obtain ⟨f, -, hx⟩ := List.mem_flatMap.1 hx
    exact s.areFitting_fileDrafts f x hx
  · exact s.areFitting_jointDrafts _ x hx

lemma fits_of_mem_similarityDrafts {r : Rule} {t : Similarity} (ht : r.check = .similarity t)
    {ds : List Declaration} {blockSize : Option Int} {x : SimilarPair × Draft}
    (hx : x ∈ t.drafts r ds blockSize) : x.2.Fits r.check.kind := by
  have hkind : r.check.kind = .similarity := by rw [ht]; rfl
  rw [hkind]
  exact t.fits_of_mem_drafts hx

section Evaluations

variable [Host] {m n : Memory} {s : RuleSet}

lemma map_certain_of_reports {xs : List (Rule × Draft)} (hxs : s.AreFitting xs)
    {vs ws : List Violation} (hvs : xs.mapM (report (m := m)) = .ok vs)
    (hws : xs.mapM (report (m := n)) = .ok ws) : vs.map s.certain = ws.map s.certain := by
  refine map_eq_map_of_mapM (fun x hx v w hv hw => ?_) hvs hws
  exact certain_eq_of_report (m := m) (n := n) (hxs x hx).1 (hxs x hx).2 hv hw

lemma reports_eq_of_unaffected (h : s.Unaffected m n) {xs : List (Rule × Draft)}
    (hxs : s.AreFitting xs) : xs.mapM (report (m := m)) = xs.mapM (report (m := n)) :=
  mapM_congr fun x hx => report_eq_of_unaffected h (hxs x hx).1 (hxs x hx).2

lemma evaluateFile_certain {f : FileDeclarations} {vs ws : List Violation}
    (hvs : s.evaluateFile (m := m) f = .ok vs) (hws : s.evaluateFile (m := n) f = .ok ws) :
    vs.map s.certain = ws.map s.certain := by
  rw [evaluateFile_eq (m := m)] at hvs
  rw [evaluateFile_eq (m := n)] at hws
  exact map_certain_of_reports (s.areFitting_fileDrafts f) hvs hws

lemma evaluateGlobal_certain {ds : List Declaration} {vs ws : List Violation}
    (hvs : s.evaluateGlobal (m := m) ds = .ok vs) (hws : s.evaluateGlobal (m := n) ds = .ok ws) :
    vs.map s.certain = ws.map s.certain := by
  rw [evaluateGlobal_eq (m := m)] at hvs
  rw [evaluateGlobal_eq (m := n)] at hws
  exact map_certain_of_reports (s.areFitting_jointDrafts ds) hvs hws

/-- **Two evaluations tell the same that is told in every memory.** -/
theorem evaluate_certain {files : List FileDeclarations} {vs ws : List Violation}
    (hvs : s.evaluate (m := m) files = .ok vs) (hws : s.evaluate (m := n) files = .ok ws) :
    vs.map s.certain = ws.map s.certain := by
  rw [evaluate_eq (m := m)] at hvs
  rw [evaluate_eq (m := n)] at hws
  obtain ⟨reported, hreported, rfl⟩ := map_eq_ok.1 hvs
  obtain ⟨reported', hreported', rfl⟩ := map_eq_ok.1 hws
  rw [map_certain_sort, map_certain_sort,
    map_certain_of_reports (s.areFitting_drafts files) hreported hreported']

lemma evaluateFile_eq_of_unaffected (h : s.Unaffected m n) (f : FileDeclarations) :
    s.evaluateFile (m := m) f = s.evaluateFile (m := n) f := by
  rw [evaluateFile_eq (m := m), evaluateFile_eq (m := n),
    reports_eq_of_unaffected h (s.areFitting_fileDrafts f)]

lemma evaluateGlobal_eq_of_unaffected (h : s.Unaffected m n) (ds : List Declaration) :
    s.evaluateGlobal (m := m) ds = s.evaluateGlobal (m := n) ds := by
  rw [evaluateGlobal_eq (m := m), evaluateGlobal_eq (m := n),
    reports_eq_of_unaffected h (s.areFitting_jointDrafts ds)]

theorem evaluate_eq_of_unaffected (h : s.Unaffected m n) (files : List FileDeclarations) :
    s.evaluate (m := m) files = s.evaluate (m := n) files := by
  rw [evaluate_eq (m := m), evaluate_eq (m := n),
    reports_eq_of_unaffected h (s.areFitting_drafts files)]

/-! ## Similarity rules -/

variable {r : Rule} {t : Similarity} {ds : List Declaration} {blockSize : Option Int}

lemma similarityCheck_certain (hr : r ∈ s.rules) (ht : r.check = .similarity t)
    {ps qs : List SimilarPair} (hps : t.check (m := m) r ds blockSize = .ok ps)
    (hqs : t.check (m := n) r ds blockSize = .ok qs) :
    ps.map s.certainPair = qs.map s.certainPair := by
  rw [Similarity.check_eq (m := m)] at hps
  rw [Similarity.check_eq (m := n)] at hqs
  refine map_eq_map_of_mapM (fun x hx p q hp hq => ?_) hps hqs
  obtain ⟨message, hmessage, rfl⟩ := map_eq_ok.1 hp
  obtain ⟨message', hmessage', rfl⟩ := map_eq_ok.1 hq
  refine certainPair_eq_of_message rfl fun hcertain => ?_
  have hid : x.1.ruleId = r.id := Similarity.ruleId_of_mem_drafts hx
  exact message_eq_of_isFixed (isFixed_of_isCertain hr (hid ▸ hcertain))
    (fits_of_mem_similarityDrafts ht hx) hmessage hmessage'

lemma similarityCheck_eq_of_unaffected (h : s.Unaffected m n) (hr : r ∈ s.rules)
    (ht : r.check = .similarity t) :
    t.check (m := m) r ds blockSize = t.check (m := n) r ds blockSize := by
  rw [Similarity.check_eq (m := m), Similarity.check_eq (m := n)]
  refine mapM_congr fun x hx => ?_
  simp only [Similarity.reportPair,
    message_eq_of_unaffected h hr (fits_of_mem_similarityDrafts ht hx)]

end Evaluations

end RuleSet
end Conformance
