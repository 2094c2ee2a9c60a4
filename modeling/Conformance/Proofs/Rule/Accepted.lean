/-
# Accepted rules

What is known about a set of rules once it is accepted: no two rules have the same identity
(`RuleSet.ids_nodup`), and the template of each rule has been rendered with the samples of its kind
(`RuleSet.renders_of_mem`).
-/
import Conformance.Proofs.Steps
import Conformance.Rule.Compile

namespace Conformance

lemma demand_eq_ok {condition : Bool} {id field reason : String} {u : Unit} :
    demand condition id field reason = .ok u ↔ condition = true := by
  unfold demand
  split <;> simp_all

/-- A rule keeps its kind. -/
lemma kind_of_compile {id : String} {body : RuleBody} {c : Check} (h : body.compile id = .ok c) :
    c.kind = body.kind := by
  cases body <;>
  · obtain ⟨checked, -, rfl⟩ := map_eq_ok.1 h
    rfl

variable [Host] [m : Memory]

/-- The outcomes of checking a template: a fault of the template, a fault of the rule, or the
template, which renders with the samples. -/
lemma checkTemplate_cases (kind : RuleKind) (id text : String) :
    (∃ e, ((Template.read text.toList).fault = some e ∨
        (Template.read text.toList).render (kind.samples id) = .error e) ∧
      checkTemplate kind id text = .error (badTemplate id e)) ∨
    (∃ reason, checkTemplate kind id text = .error (messageFault id reason)) ∨
    ((∃ shown, (Template.read text.toList).render (kind.samples id) = .ok shown) ∧
      checkTemplate kind id text = .ok (Template.read text.toList)) := by
  simp only [checkTemplate]
  cases hfault : (Template.read text.toList).fault with
  | some e => exact .inl ⟨e, .inl rfl, rfl⟩
  | none =>
    cases (Template.read text.toList).fields.find? fun f =>
        ((kind.samples id).lookup (String.ofList (Template.rootOf f.name))).isNone with
    | some f => exact .inr (.inl ⟨_, rfl⟩)
    | none =>
      cases hrender : (Template.read text.toList).render (kind.samples id) with
      | error e => exact .inl ⟨e, .inr rfl, rfl⟩
      | ok shown => exact .inr (.inr ⟨⟨shown, rfl⟩, rfl⟩)

/-- A template that is accepted renders with the samples. -/
lemma renders_of_checkTemplate {kind : RuleKind} {id text : String} {t : Template}
    (h : checkTemplate kind id text = .ok t) :
    ∃ shown, t.render (kind.samples id) = .ok shown := by
  rcases checkTemplate_cases kind id text with ⟨e, -, he⟩ | ⟨reason, he⟩ | ⟨hrender, hok⟩
  · exact absurd (he.symm.trans h) (by simp)
  · exact absurd (he.symm.trans h) (by simp)
  · obtain rfl := Except.ok.inj (hok.symm.trans h)
    exact hrender

/-- What checking a rule keeps and finds. -/
lemma compile_eq_ok {spec : RuleSpec} {r : Rule} (h : spec.compile = .ok r) :
    r.heading = spec.heading ∧
      checkTemplate r.check.kind r.id spec.templateText = .ok r.template := by
  obtain ⟨-, -, h⟩ := bind_eq_ok.1 h
  obtain ⟨-, -, h⟩ := bind_eq_ok.1 h
  obtain ⟨template, htemplate, h⟩ := bind_eq_ok.1 h
  obtain ⟨check, hcheck, h⟩ := bind_eq_ok.1 h
  obtain rfl := Except.ok.inj h
  refine ⟨rfl, ?_⟩
  rw [kind_of_compile hcheck]
  exact htemplate

namespace RuleSet

lemma compileFrom_eq_ok {seen : List String} {specs : List RuleSpec} {rules : List Rule}
    (h : compileFrom seen specs = .ok rules) :
    (rules.map Rule.id).Nodup ∧ (∀ r ∈ rules, r.id ∉ seen) ∧
      ∀ r ∈ rules, ∃ spec ∈ specs, spec.compile = .ok r := by
  induction specs generalizing seen rules with
  | nil =>
    obtain rfl := Except.ok.inj h
    simp
  | cons spec specs ih =>
    obtain ⟨_, hnew, h⟩ := bind_eq_ok.1 h
    obtain ⟨r, hr, h⟩ := bind_eq_ok.1 h
    obtain ⟨rest, hrest, h⟩ := bind_eq_ok.1 h
    obtain rfl := Except.ok.inj h
    obtain ⟨hnodup, hfresh, hspecs⟩ := ih hrest
    have hid : r.id = spec.heading.id := congrArg RuleHeading.id (compile_eq_ok hr).1
    have hseen : r.id ∉ seen := by
      rw [hid]
      simpa using demand_eq_ok.1 hnew
    refine ⟨?_, ?_, ?_⟩
    · refine List.nodup_cons.2 ⟨?_, hnodup⟩
      rintro hmem
      obtain ⟨r', hr', heq⟩ := List.mem_map.1 hmem
      exact hfresh r' hr' (by rw [heq, hid]; exact List.mem_cons_self)
    · intro r' hr'
      rcases List.mem_cons.1 hr' with rfl | hr'
      · exact hseen
      · exact fun hmem => hfresh r' hr' (List.mem_cons_of_mem _ hmem)
    · intro r' hr'
      rcases List.mem_cons.1 hr' with rfl | hr'
      · exact ⟨spec, List.mem_cons_self, hr⟩
      · obtain ⟨spec', hspec', hcompile⟩ := hspecs r' hr'
        exact ⟨spec', List.mem_cons_of_mem _ hspec', hcompile⟩

/-- No two accepted rules have the same identity. -/
theorem ids_nodup {specs : List RuleSpec} {s : RuleSet} (h : ofSpecs specs = .ok s) :
    (s.rules.map Rule.id).Nodup := by
  obtain ⟨rules, hrules, rfl⟩ := map_eq_ok.1 h
  exact (compileFrom_eq_ok hrules).1

/-- The template of an accepted rule renders with the samples of its kind. -/
theorem renders_of_mem {specs : List RuleSpec} {s : RuleSet} (h : ofSpecs specs = .ok s) {r : Rule}
    (hr : r ∈ s.rules) : ∃ shown, r.template.render (r.check.kind.samples r.id) = .ok shown := by
  obtain ⟨rules, hrules, rfl⟩ := map_eq_ok.1 h
  obtain ⟨spec, -, hcompile⟩ := (compileFrom_eq_ok hrules).2.2 r hr
  exact renders_of_checkTemplate (compile_eq_ok hcompile).2

end RuleSet
end Conformance
