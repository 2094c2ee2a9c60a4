/-
# Messages of accepted rules

A rule is accepted once its template has been rendered with a sample of every field.  The values of
a finding have the types of the samples, and some of its texts are never shorter
(`Draft.Fits.values_alike`); so its message is rendered too, unless the template asks for more than
a type can promise (`RuleSet.messages_render_or_canFail`).  A template that takes the first
character of the container asks for more: it is accepted, and fails for a declaration that has no
container (`RuleSet.message_fails_without_container`).
-/
import Conformance.Proofs.Check.Draft
import Conformance.Proofs.Rule.Accepted
import Conformance.Proofs.Template.Alike

namespace Conformance
open Source

/-- The fields whose texts are at least as long as their samples. -/
def steadyFields : List String := ["rule", "kind", "reason"]

/-- The faults that the messages of a rule can have, though the rule is accepted. -/
def Rule.CanFail [Host] [m : Memory] (r : Rule) (e : TemplateFault) : Prop :=
  ∃ f ∈ r.template.fields, f.CanFail steadyFields (r.check.kind.samples r.id) e

/-! ## The values of a draft -/

namespace Draft

/-- A draft has values for the fields of a kind of rule. -/
structure Fits (kind : RuleKind) (d : Draft) : Prop where
  /-- The word for a kind of declaration is no shorter than its sample. -/
  kind_length : "type".length ≤ d.context.kind.length
  /-- A reason is no shorter than its sample. -/
  reason_length : "reason".length ≤ d.context.reason.length
  /-- The fields of the kind of rule have the types of their samples. -/
  own : ValuesAlike steadyFields kind.ownSamples d.own

/-- Of a text that is not steady, nothing is known but that it is a text. -/
lemma alike_text {name : String} (hname : name ∉ steadyFields) (s t : String) :
    FieldValue.Alike (name ∈ steadyFields ∨ (FieldValue.text s).isText = false)
      (.text s) (.text t) := by
  refine .text s t ?_
  rintro (hsteady | htext)
  · exact absurd hsteady hname
  · exact absurd htext (by simp [FieldValue.isText])

lemma Fits.values_alike {kind : RuleKind} {d : Draft} (h : d.Fits kind) (id : String) :
    ValuesAlike steadyFields (kind.samples id) (d.context.values id d.own) := by
  refine List.rel_append ?_ h.own
  exact .cons ⟨rfl, .same _⟩ <| .cons ⟨rfl, alike_text (by decide) _ _⟩ <|
    .cons ⟨rfl, .text _ _ fun _ => h.kind_length⟩ <| .cons ⟨rfl, alike_text (by decide) _ _⟩ <|
    .cons ⟨rfl, .int _ _⟩ <| .cons ⟨rfl, alike_text (by decide) _ _⟩ <|
    .cons ⟨rfl, alike_text (by decide) _ _⟩ <| .cons ⟨rfl, alike_text (by decide) _ _⟩ <|
    .cons ⟨rfl, .text _ _ fun _ => h.reason_length⟩ .nil

end Draft

lemma DeclarationKind.length_word (k : DeclarationKind) : "type".length ≤ k.word.length := by
  cases k <;> decide

lemma Draft.Fits.ofDeclaration {kind : RuleKind} (d : Declaration) {reason : String}
    (frame : Option Frame) {own : FieldValues} (hreason : "reason".length ≤ reason.length)
    (hown : ValuesAlike steadyFields kind.ownSamples own) :
    Draft.Fits kind ⟨.ofDeclaration d reason frame, own⟩ :=
  ⟨d.kind.length_word, hreason, hown⟩

lemma le_length_append {n : Nat} {s : String} (t : String) (h : n ≤ s.length) :
    n ≤ (s ++ t).length := by
  rw [String.length_append]
  exact h.trans (Nat.le_add_right _ _)

namespace Placement

lemma length_reason_of_problem? {p : Placement} {d : Declaration} {x : String × Option Frame}
    (h : p.problem? d = some x) : "reason".length ≤ x.1.length := by
  unfold problem? at h
  split at h
  · obtain rfl := Option.some.inj h
    exact le_length_append _ (by decide)
  split at h
  · obtain rfl := Option.some.inj h
    exact le_length_append _ (by decide)
  split at h
  · obtain rfl := Option.some.inj h
    exact le_length_append _ (by decide)
  split at h
  · obtain rfl := Option.some.inj h
    exact le_length_append _ (by decide)
  split at h
  · obtain rfl := Option.some.inj h
    exact (by decide : "reason".length ≤ "has no namespace declaration".length)
  split at h
  · obtain rfl := Option.some.inj h
    exact le_length_append _ (by decide)
  · exact absurd h (by simp)

lemma fits_of_mem_drafts {p : Placement} {heading : RuleHeading} {ds : List Declaration} {x : Draft}
    (h : x ∈ p.drafts heading ds) : x.Fits .placement := by
  obtain ⟨d, -, hd⟩ := List.mem_filterMap.1 h
  obtain ⟨problem, hproblem, rfl⟩ := Option.map_eq_some_iff.1 hd
  exact .ofDeclaration d _ (length_reason_of_problem? hproblem) .nil

lemma fits_of_mem_countDrafts {p : Placement} {heading : RuleHeading} {most : Nat}
    {ds : List Declaration} {x : Draft} (h : x ∈ p.countDrafts heading most ds) :
    x.Fits .placement := by
  simp only [countDrafts] at h
  split_ifs at h with hcount
  · exact absurd h (by simp)
  · obtain ⟨d, -, rfl⟩ := List.mem_map.1 h
    refine .ofDeclaration d _ ?_ .nil
    simp only [String.append_assoc]
    exact le_length_append _ (by decide)

end Placement

lemma NamespaceSpec.fits_of_mem_drafts {n : NamespaceSpec} {heading : RuleHeading}
    {f : FileDeclarations} {x : Draft} (h : x ∈ n.drafts heading f) : x.Fits .nameSpace := by
  simp only [drafts] at h
  split_ifs at h
  · exact absurd h (by simp)
  split at h
  · exact absurd h (by simp)
  · split_ifs at h
    · exact absurd h (by simp)
    · obtain rfl := List.mem_singleton.1 h
      exact ⟨DeclarationKind.nameSpace.length_word, le_length_append _ (by decide),
        .cons ⟨rfl, Draft.alike_text (by decide) _ _⟩ .nil⟩

lemma Usage.fits_of_mem_drafts {u : Usage} {heading : RuleHeading} {f : FileDeclarations}
    {x : Draft} (h : x ∈ u.drafts heading f) : x.Fits .usage := by
  simp only [drafts] at h
  split_ifs at h
  · exact absurd h (by simp)
  · obtain ⟨line, -, hline⟩ := List.mem_filterMap.1 h
    obtain ⟨subject, -, rfl⟩ := Option.map_eq_some_iff.1 hline
    exact ⟨(by decide : "type".length ≤ "usage".length),
      (by decide : "reason".length ≤ "forbidden usage".length),
      .cons ⟨rfl, Draft.alike_text (by decide) _ _⟩ .nil⟩

lemma Duplication.fits_of_mem_drafts {d : Duplication} {heading : RuleHeading}
    {ds : List Declaration} {x : Draft} (h : x ∈ d.drafts heading ds) : x.Fits .duplicate := by
  obtain ⟨g, -, hx⟩ := List.mem_flatMap.1 h
  obtain ⟨member, -, rfl⟩ := List.mem_map.1 hx
  refine .ofDeclaration member _ (le_length_append _ (by decide)) ?_
  exact .cons ⟨rfl, Draft.alike_text (by decide) _ _⟩ <|
    .cons ⟨rfl, .int _ _⟩ <|
    .cons ⟨rfl, Draft.alike_text (by decide) _ _⟩ .nil

lemma Similarity.fits_of_mem_drafts {t : Similarity} {r : Rule} {ds : List Declaration}
    {blockSize : Option Int} {x : SimilarPair × Draft} (h : x ∈ t.drafts r ds blockSize) :
    x.2.Fits .similarity := by
  obtain ⟨p, -, hp⟩ := List.mem_filterMap.1 h
  unfold draft? at hp
  split at hp
  · split_ifs at hp
    obtain rfl := Option.some.inj hp
    refine ⟨DeclarationKind.length_word _,
      (by decide : "reason".length ≤ "overlapping members".length), ?_⟩
    exact .cons ⟨rfl, Draft.alike_text (by decide) _ _⟩ <|
      .cons ⟨rfl, .real _ _⟩ <|
      .cons ⟨rfl, Draft.alike_text (by decide) _ _⟩ .nil
  · exact absurd hp (by simp)

lemma Check.fits_of_mem_fileDrafts {c : Check} {heading : RuleHeading} {f : FileDeclarations}
    {x : Draft} (h : x ∈ c.fileDrafts heading f) : x.Fits c.kind := by
  cases c with
  | placement p =>
    simp only [fileDrafts] at h
    split_ifs at h
    · exact p.fits_of_mem_drafts h
    · exact absurd h (by simp)
  | nameSpace n => exact n.fits_of_mem_drafts h
  | usage u => exact u.fits_of_mem_drafts h
  | duplicate d => exact absurd h (by simp [fileDrafts])
  | similarity t => exact absurd h (by simp [fileDrafts])

lemma Check.fits_of_mem_jointDrafts {c : Check} {heading : RuleHeading} {ds : List Declaration}
    {x : Draft} (h : x ∈ c.jointDrafts heading ds) : x.Fits c.kind := by
  cases c with
  | placement p =>
    simp only [jointDrafts] at h
    split at h
    · exact p.fits_of_mem_countDrafts h
    · exact absurd h (by simp)
  | duplicate d => exact d.fits_of_mem_drafts h
  | nameSpace n => exact absurd h (by simp [jointDrafts])
  | usage u => exact absurd h (by simp [jointDrafts])
  | similarity t => exact absurd h (by simp [jointDrafts])

/-! ## Rendering -/

/-- A step for each item succeeds, or fails with a fault that a rule can have, if it does so for
every item. -/
lemma mapM_ok_or {α β : Type} {f : α → Except Fault β} {l : List α}
    {canFail : TemplateFault → Prop}
    (h : ∀ a ∈ l, (∃ b, f a = .ok b) ∨ ∃ e, canFail e ∧ f a = .error (.template e)) :
    (∃ bs, l.mapM f = .ok bs) ∨ ∃ e, canFail e ∧ l.mapM f = .error (.template e) := by
  cases hl : l.mapM f with
  | ok bs => exact .inl ⟨bs, rfl⟩
  | error fault =>
    obtain ⟨a, ha, hfa⟩ := exists_of_mapM_error hl
    rcases h a ha with ⟨b, hb⟩ | ⟨e, he, hfa'⟩
    · exact absurd (hb.symm.trans hfa) (by simp)
    · obtain rfl := Except.error.inj (hfa.symm.trans hfa')
      exact .inr ⟨e, he, rfl⟩

/-- A rule cannot fail if its template indexes steady fields only, has no layouts that hold fields,
writes whole numbers as such, and there is room for what its layouts can ask for. -/
lemma Rule.not_canFail [Host] [m : Memory] {r : Rule} {least : Nat}
    (hroom : ∀ o, least ≤ m.room o) (h : ∀ g ∈ r.template.fields,
      ('[' ∈ g.name → String.ofList (Template.rootOf g.name) ∈ steadyFields) ∧
        g.nested = false ∧ (g.layout.getLast?.map Layout.rangeFaults).getD [] = [] ∧
          10 ^ g.layout.length ≤ least)
    (e : TemplateFault) : ¬ r.CanFail e := by
  rintro ⟨g, hg, hcan⟩
  obtain ⟨hindex, hnested, hrange, hshort⟩ := h g hg
  cases hcan with
  | index hname hroot _ => exact hroot (hindex hname)
  | range _ _ _ _ hlast he =>
    rw [hlast] at hrange
    exact absurd he (by rw [show Layout.rangeFaults _ = [] from hrange]; simp)
  | @room _ _ _ l _ hread o hless =>
    have hdemand := Layout.demand_lt_of_read hread
    have hleast := hroom o
    omega
  | layout hnested' _ => exact absurd (hnested'.symm.trans hnested) (by simp)

namespace RuleSet

variable {specs : List RuleSpec} {s : RuleSet}

lemma mem_similarities {r : Rule} {t : Similarity} :
    (r, t) ∈ s.similarities ↔ r ∈ s.rules ∧ r.check = .similarity t := by
  rw [similarities, List.mem_filterMap]
  constructor
  · rintro ⟨r', hr', heq⟩
    cases hcheck : r'.check with
    | similarity t' =>
      simp only [hcheck, Option.some.injEq, Prod.mk.injEq] at heq
      obtain ⟨rfl, rfl⟩ := heq
      exact ⟨hr', hcheck⟩
    | _ => simp [hcheck] at heq
  · rintro ⟨hr, hcheck⟩
    exact ⟨r, hr, by simp [hcheck]⟩

section Wording

-- the rules are accepted in one memory, and their messages are rendered in another
variable [Host] {m n : Memory}

/-- The message of an accepted rule for a draft that fits it. -/
lemma message_ok_or (h : ofSpecs (m := m) specs = .ok s) {r : Rule} (hr : r ∈ s.rules) {d : Draft}
    (hd : d.Fits r.check.kind) :
    (∃ message, r.message d.context d.own = .ok message) ∨
      ∃ e, r.CanFail e ∧ r.message d.context d.own = .error (.template e) := by
  obtain ⟨shown, hshown⟩ := renders_of_mem (m := m) h hr
  rcases Template.render_follows (n := n) (hd.values_alike r.id) hshown with
    ⟨message, hmessage⟩ | ⟨f, hf, e, he, herror⟩
  · exact .inl ⟨message, by rw [Rule.message, hmessage]; rfl⟩
  · exact .inr ⟨e, ⟨f, hf, he⟩, by rw [Rule.message, herror]; rfl⟩

lemma report_ok_or (h : ofSpecs (m := m) specs = .ok s) {r : Rule} (hr : r ∈ s.rules) {d : Draft}
    (hd : d.Fits r.check.kind) :
    (∃ v, report (r, d) = .ok v) ∨ ∃ e, r.CanFail e ∧ report (r, d) = .error (.template e) := by
  rcases message_ok_or h hr hd with ⟨message, hmessage⟩ | ⟨e, he, herror⟩
  · exact .inl ⟨_, by rw [report, Rule.violation, hmessage]; rfl⟩
  · exact .inr ⟨e, he, by rw [report, Rule.violation, herror]; rfl⟩

/-- A draft of an accepted rule fails to be worded only where its message fails. -/
lemma message_error_of_report (h : ofSpecs (m := m) specs = .ok s) {r : Rule} (hr : r ∈ s.rules)
    {d : Draft} (hd : d.Fits r.check.kind) {fault : Fault}
    (hreport : report (r, d) = .error fault) :
    ∃ e, fault = .template e ∧ r.CanFail e ∧
      r.message d.context d.own = .error (.template e) := by
  rcases message_ok_or h hr hd with ⟨message, hmessage⟩ | ⟨e, he, hmessage⟩
  · rw [report, Rule.violation, hmessage] at hreport
    exact absurd hreport (by simp [pure, Except.pure, bind, Except.bind])
  · rw [report, Rule.violation, hmessage] at hreport
    exact ⟨e, (Except.error.inj hreport).symm, he, hmessage⟩

/-- The messages of some drafts of accepted rules. -/
lemma reports_ok_or (h : ofSpecs (m := m) specs = .ok s) {xs : List (Rule × Draft)}
    (hxs : ∀ x ∈ xs, x.1 ∈ s.rules ∧ x.2.Fits x.1.check.kind) :
    (∃ vs, xs.mapM report = .ok vs) ∨
      ∃ e, (∃ r ∈ s.rules, r.CanFail e) ∧ xs.mapM report = .error (.template e) := by
  refine mapM_ok_or fun x hx => ?_
  obtain ⟨hr, hd⟩ := hxs x hx
  rcases report_ok_or h hr hd with hok | ⟨e, he, herror⟩
  · exact .inl hok
  · exact .inr ⟨e, ⟨x.1, hr, he⟩, herror⟩

/-- A similarity rule reports pairs, or fails with a fault that its message can have. -/
lemma similarityCheck_ok_or (h : ofSpecs (m := m) specs = .ok s) {r : Rule} (hr : r ∈ s.rules)
    {t : Similarity} (ht : r.check = .similarity t) (ds : List Declaration)
    (blockSize : Option Int) :
    (∃ ps, t.check r ds blockSize = .ok ps) ∨
      ∃ e, r.CanFail e ∧ t.check r ds blockSize = .error (.template e) := by
  rw [Similarity.check_eq]
  refine mapM_ok_or fun x hx => ?_
  have hkind : r.check.kind = .similarity := by rw [ht]; rfl
  have hd : x.2.Fits r.check.kind := by rw [hkind]; exact t.fits_of_mem_drafts hx
  rcases message_ok_or h hr hd with ⟨message, hmessage⟩ | ⟨e, he, herror⟩
  · exact .inl ⟨_, by rw [Similarity.reportPair, hmessage]; rfl⟩
  · exact .inr ⟨e, he, by rw [Similarity.reportPair, herror]; rfl⟩

/-- The messages of accepted rules are rendered for all files, declarations and pairs, unless a
field of a template takes an item of a text that may be too short for it, writes a whole number as
a character or a real number, has a layout that asks for more than there is room for, or has one
that holds fields; then the fault is one of these. -/
theorem messages_render_or_canFail (h : ofSpecs (m := m) specs = .ok s) :
    (∀ r ∈ s.rules, ∃ shown,
      r.template.render (m := m) (r.check.kind.samples r.id) = .ok shown) ∧
    (∀ f : FileDeclarations, (∃ vs, s.evaluateFile f = .ok vs) ∨
      ∃ e, (∃ r ∈ s.rules, r.CanFail e) ∧ s.evaluateFile f = .error (.template e)) ∧
    (∀ ds : List Declaration, (∃ vs, s.evaluateGlobal ds = .ok vs) ∨
      ∃ e, (∃ r ∈ s.rules, r.CanFail e) ∧ s.evaluateGlobal ds = .error (.template e)) ∧
    ∀ x ∈ s.similarities, ∀ (ds : List Declaration) (blockSize : Option Int),
      (∃ ps, x.2.check x.1 ds blockSize = .ok ps) ∨
        ∃ e, x.1.CanFail e ∧ x.2.check x.1 ds blockSize = .error (.template e) := by
  refine ⟨fun r hr => renders_of_mem (m := m) h hr, fun f => ?_, fun ds => ?_, ?_⟩
  · rw [evaluateFile_eq]
    refine reports_ok_or h fun x hx => ?_
    obtain ⟨hr, hd⟩ := mem_fileDrafts.1 hx
    exact ⟨hr, Check.fits_of_mem_fileDrafts hd⟩
  · rw [evaluateGlobal_eq]
    refine reports_ok_or h fun x hx => ?_
    obtain ⟨hr, hd⟩ := mem_jointDrafts.1 hx
    exact ⟨hr, Check.fits_of_mem_jointDrafts hd⟩
  · rintro ⟨r, t⟩ hrt ds blockSize
    obtain ⟨hr, hcheck⟩ := mem_similarities.1 hrt
    exact similarityCheck_ok_or h hr hcheck ds blockSize

end Wording

section Plain

attribute [local instance] Host.plain Memory.plain

/-- A rule whose template indexes steady fields only and writes a whole number as such. -/
def steadySpec : RuleSpec :=
  ⟨{ id := "folders"
     message := "\x7bkind[3]\x7d \x7bname!r:>20\x7d \x7breason[5]\x7d \x7bline:04d\x7d" },
    .nameSpace {}⟩

/-- No field of such a template can fail, so that it is rendered for every file. -/
theorem messages_render_or_canFail_steady :
    ∃ s, ofSpecs [steadySpec] = .ok s ∧ ∀ f, ∃ vs, s.evaluateFile f = .ok vs := by
  let r : Rule := ⟨steadySpec.heading, Template.read steadySpec.templateText.toList, .nameSpace {}⟩
  have haccepted : ofSpecs [steadySpec] = .ok ⟨[r]⟩ := by decide +kernel
  refine ⟨⟨[r]⟩, haccepted, fun f => ?_⟩
  refine ((messages_render_or_canFail haccepted).2.1 f).resolve_right ?_
  rintro ⟨e, ⟨r', hr', hcan⟩, -⟩
  obtain rfl := List.mem_singleton.1 hr'
  exact Rule.not_canFail (fun _ => le_rfl) (by decide +kernel) e hcan

/-- A rule whose template takes the first character of the container. -/
def containerInitialSpec : RuleSpec :=
  ⟨{ id := "initial", message := "\x7bcontainer[0]\x7d" }, .placement { kinds := ["type"] }⟩

/-- Such a rule is accepted, and its message fails for a class that stands in no other. -/
theorem message_fails_without_container :
    ∃ s, ofSpecs [containerInitialSpec] = .ok s ∧
      s.evaluateFile (extract Tracker.full ⟨"Order.cs", ["public class Order \x7b \x7d"]⟩)
        = .error (.template .indexOutOfRange) := by
  have hfails : (ofSpecs [containerInitialSpec] >>= fun s =>
      s.evaluateFile (extract Tracker.full ⟨"Order.cs", ["public class Order \x7b \x7d"]⟩))
        = .error (.template .indexOutOfRange) := by
    decide +kernel
  have haccepted : (ofSpecs [containerInitialSpec]).toOption.isSome = true := by decide +kernel
  cases hs : ofSpecs [containerInitialSpec] with
  | error e => exact absurd haccepted (by rw [hs]; simp [Except.toOption])
  | ok s =>
    rw [hs, ok_bind] at hfails
    exact ⟨s, rfl, hfails⟩

end Plain

end RuleSet
end Conformance
