/-
# Faults of loading rules

Rules are loaded by reading their tables and then checking them together.  Nearly everything that
can be wrong with a table is a fault of its rule.  What is not is told by `Table.Escapes`: the type
of the rule is a list or a table, an id or a type holds a number that is too long to write, an id, a
severity or a mode is nested too deeply to be written, a similarity is too large for a real number,
a template passes a limit with the samples, or a pattern passes a limit.  Loading gives a set of
rules, a fault of a rule, or one of these (`RuleSet.load_ok_or_fault`).
-/
import Conformance.Proofs.Rule.Accepted
import Conformance.Rule.Table

namespace Conformance

/-! ## Faults of computations -/

section FailsOnly

variable {α β : Type} {P Q : Fault → Prop}

/-- A computation fails with certain faults only. -/
def FailsOnly (P : Fault → Prop) (x : Except Fault α) : Prop :=
  ∀ e, x = .error e → P e

lemma FailsOnly.ok (a : α) : FailsOnly P (.ok a) := by
  intro e he
  exact absurd he (by simp)

lemma FailsOnly.error {e : Fault} (h : P e) : FailsOnly P (.error e : Except Fault α) := by
  intro e' he'
  obtain rfl := Except.error.inj he'
  exact h

lemma FailsOnly.mono {x : Except Fault α} (h : FailsOnly P x) (hPQ : ∀ e, P e → Q e) :
    FailsOnly Q x :=
  fun e he => hPQ e (h e he)

lemma FailsOnly.bind {x : Except Fault α} {f : α → Except Fault β} (h : FailsOnly P x)
    (hnext : ∀ a, x = .ok a → FailsOnly P (f a)) : FailsOnly P (x >>= f) := by
  intro e he
  cases hx : x with
  | error e' =>
    rw [hx, error_bind] at he
    obtain rfl := Except.error.inj he
    exact h _ hx
  | ok a =>
    rw [hx, ok_bind] at he
    exact hnext a hx e he

lemma FailsOnly.map {x : Except Fault α} (h : FailsOnly P x) (f : α → β) :
    FailsOnly P (x.map f) := by
  intro e he
  cases x with
  | error e' =>
    obtain rfl := Except.error.inj he
    exact h _ rfl
  | ok a => exact absurd he (by simp [Except.map])

lemma FailsOnly.mapError {x : Except Fault α} {f : Fault → Fault} (h : FailsOnly P x)
    (hf : ∀ e, P e → Q (f e)) : FailsOnly Q (x.mapError f) := by
  intro e he
  cases x with
  | error e' =>
    obtain rfl := Except.error.inj he
    exact hf _ (h _ rfl)
  | ok a => exact absurd he (by simp [Except.mapError])

lemma FailsOnly.mapM {f : α → Except Fault β} {l : List α} (h : ∀ a ∈ l, FailsOnly P (f a)) :
    FailsOnly P (l.mapM f) := by
  intro e he
  obtain ⟨a, ha, hfa⟩ := exists_of_mapM_error he
  exact h a ha e hfa

lemma FailsOnly.filterMapM {f : α → Except Fault (Option β)} {l : List α}
    (h : ∀ a ∈ l, FailsOnly P (f a)) : FailsOnly P (l.filterMapM f) := by
  induction l with
  | nil => exact .ok _
  | cons a l ih =>
    have hrest := ih fun b hb => h b (List.mem_cons_of_mem _ hb)
    rw [List.filterMapM_cons]
    refine .bind (h a List.mem_cons_self) fun b _ => ?_
    cases b with
    | none => exact hrest
    | some b => exact .bind hrest fun _ _ => .ok _

lemma FailsOnly.forM {f : α → Except Fault PUnit} {l : List α} (h : ∀ a ∈ l, FailsOnly P (f a)) :
    FailsOnly P (l.forM f) := by
  induction l with
  | nil => exact .ok _
  | cons a l ih =>
    exact .bind (h a List.mem_cons_self) fun _ _ => ih fun b hb => h b (List.mem_cons_of_mem _ hb)

end FailsOnly

/-- Whether a fault is one of a rule. -/
def Fault.isRule : Fault → Bool
  | .rule .. => true
  | _ => false

/-! ## Checking -/

/-- A pattern passes a limit. -/
def PassesLimit (text : String) (e : Fault) : Prop :=
  ∃ fault, Pattern.read text.toList = .error fault ∧ fault.cause.isLimit = true ∧
    e = .pattern text fault

/-- The written patterns that a rule reads. -/
def RuleBody.patterns : RuleBody → List String
  | .placement p => p.pattern :: p.containerPattern.toList
  | .nameSpace _ => []
  | .usage u => [u.pattern]
  | .duplicate d => if d.requireDistinctSuffixes then [] else [d.suffixPattern]
  | .similarity s => s.subjectPattern.toList

/-- The faults of checking a rule that are not faults of the rule. -/
inductive RuleSpec.Escapes [Host] [Memory] (spec : RuleSpec) : Fault → Prop
  /-- What its template writes passes a limit with the samples. -/
  | template {e : TemplateFault} (hlimit : e.isLimit = true)
    (hrender : (Template.read spec.templateText.toList).render
      (spec.body.kind.samples spec.heading.id) = .error e) : Escapes spec (.template e)
  /-- A pattern passes a limit. -/
  | pattern {text : String} {e : Fault} (hpattern : text ∈ spec.body.patterns)
    (hlimit : PassesLimit text e) : Escapes spec e

lemma demand_failsOnly {P : Fault → Prop} (hP : ∀ e : Fault, e.isRule = true → P e)
    (condition : Bool) (id field reason : String) :
    FailsOnly P (demand condition id field reason) := by
  unfold demand
  split
  · exact .ok _
  · exact .error (hP _ rfl)

lemma checkPattern_failsOnly (id field text : String) :
    FailsOnly (fun e => e.isRule = true ∨ PassesLimit text e) (checkPattern id field text) := by
  unfold checkPattern
  split
  · exact .ok _
  · rename_i fault hfault
    split
    · rename_i hlimit
      exact .error (.inr ⟨fault, hfault, hlimit, rfl⟩)
    · exact .error (.inl rfl)

lemma checkPattern?_failsOnly (id field : String) (text? : Option String) :
    FailsOnly (fun e => e.isRule = true ∨ ∃ text ∈ text?.toList, PassesLimit text e)
      (checkPattern? id field text?) := by
  cases text? with
  | none => exact .ok _
  | some text =>
    refine ((checkPattern_failsOnly id field text).mono ?_).map some
    rintro e (hrule | hlimit)
    · exact .inl hrule
    · exact .inr ⟨text, by simp, hlimit⟩

lemma checkWords_failsOnly {α : Type} {P : Fault → Prop} (hP : ∀ e : Fault, e.isRule = true → P e)
    (ofWord? : String → Option α) (typeName id field : String) (words : List String) :
    FailsOnly P (checkWords ofWord? typeName id field words) := by
  induction words with
  | nil => exact .ok _
  | cons w words ih =>
    unfold checkWords
    split
    · exact .error (hP _ rfl)
    · exact ih.map _

/-- The faults of checking what a rule checks. -/
def RuleBody.CompileFault (body : RuleBody) (e : Fault) : Prop :=
  e.isRule = true ∨ ∃ text ∈ body.patterns, PassesLimit text e

lemma RuleBody.pattern_failsOnly {body : RuleBody} {text : String}
    (htext : text ∈ body.patterns) (id field : String) :
    FailsOnly body.CompileFault (checkPattern id field text) := by
  refine (checkPattern_failsOnly id field text).mono ?_
  rintro e (he | he)
  · exact .inl he
  · exact .inr ⟨text, htext, he⟩

lemma PlacementSpec.compile_failsOnly (id : String) (s : PlacementSpec) :
    FailsOnly (RuleBody.placement s).CompileFault (s.compile id) := by
  have hrule : ∀ e : Fault, e.isRule = true → (RuleBody.placement s).CompileFault e :=
    fun e he => .inl he
  refine .bind (RuleBody.pattern_failsOnly List.mem_cons_self id _) fun _ _ => ?_
  refine .bind ((checkPattern?_failsOnly id _ _).mono ?_) fun _ _ => ?_
  · rintro e (he | ⟨text, htext, he⟩)
    · exact .inl he
    · exact .inr ⟨text, List.mem_cons_of_mem _ htext, he⟩
  refine .bind (checkWords_failsOnly hrule _ _ _ _ _) fun _ _ => ?_
  refine .bind (demand_failsOnly hrule _ _ _ _) fun _ _ => ?_
  refine .bind (checkWords_failsOnly hrule _ _ _ _ _) fun _ _ => ?_
  refine .bind (checkWords_failsOnly hrule _ _ _ _ _) fun _ _ => ?_
  refine .bind (demand_failsOnly hrule _ _ _ _) fun _ _ => ?_
  exact .bind (demand_failsOnly hrule _ _ _ _) fun _ _ => .ok _

lemma DuplicateSpec.compile_failsOnly (id : String) (s : DuplicateSpec) :
    FailsOnly (RuleBody.duplicate s).CompileFault (s.compile id) := by
  have hrule : ∀ e : Fault, e.isRule = true → (RuleBody.duplicate s).CompileFault e :=
    fun e he => .inl he
  refine .bind (checkWords_failsOnly hrule _ _ _ _ _) fun _ _ => ?_
  refine .bind ?_ fun _ _ => ?_
  · unfold checkSuffix
    split
    · exact .bind (demand_failsOnly hrule _ _ _ _) fun _ _ => .ok _
    · rename_i hdistinct
      exact RuleBody.pattern_failsOnly (by simp [RuleBody.patterns, hdistinct]) id _
  · exact .bind (demand_failsOnly hrule _ _ _ _) fun _ _ => .ok _

lemma SimilaritySpec.compile_failsOnly (id : String) (s : SimilaritySpec) :
    FailsOnly (RuleBody.similarity s).CompileFault (s.compile id) := by
  have hrule : ∀ e : Fault, e.isRule = true → (RuleBody.similarity s).CompileFault e :=
    fun e he => .inl he
  refine .bind (checkWords_failsOnly hrule _ _ _ _ _) fun _ _ => ?_
  refine .bind (checkPattern?_failsOnly id _ _) fun _ _ => ?_
  refine .bind (demand_failsOnly hrule _ _ _ _) fun _ _ => ?_
  refine .bind (demand_failsOnly hrule _ _ _ _) fun _ _ => ?_
  exact .bind (demand_failsOnly hrule _ _ _ _) fun _ _ => .ok _

lemma RuleBody.compile_failsOnly (id : String) (body : RuleBody) :
    FailsOnly body.CompileFault (body.compile id) := by
  cases body with
  | placement s => exact (s.compile_failsOnly id).map _
  | nameSpace s =>
    exact FailsOnly.map (.bind (demand_failsOnly (fun e he => .inl he) _ _ _ _) fun _ _ => .ok _) _
  | usage s =>
    refine FailsOnly.map (.bind (demand_failsOnly (fun e he => .inl he) _ _ _ _) fun _ _ => ?_) _
    exact .bind (RuleBody.pattern_failsOnly (List.mem_singleton.2 rfl) id _) fun _ _ => .ok _
  | duplicate s => exact (s.compile_failsOnly id).map _
  | similarity s => exact (s.compile_failsOnly id).map _

lemma Template.takeField_error {cs : List Char} {e : TemplateFault}
    (h : takeField cs = .error e) : e.isLimit = false := by
  have hlayout : ∀ {name : List Char} {conversion : Option Char} {cs : List Char},
      fieldWithLayout name conversion cs = .error e → e.isLimit = false := by
    intro name conversion cs h
    unfold fieldWithLayout at h
    split at h
    · obtain rfl := Except.error.inj h
      rfl
    · exact absurd h (by simp)
  simp only [takeField] at h
  split at h
  · obtain rfl := Except.error.inj h
    rfl
  · exact absurd h (by simp)
  · exact hlayout h
  · split at h
    · obtain rfl := Except.error.inj h
      rfl
    · obtain rfl := Except.error.inj h
      rfl
    · exact absurd h (by simp)
    · exact hlayout h
    · obtain rfl := Except.error.inj h
      rfl
  · obtain rfl := Except.error.inj h
    rfl

/-- A template that cannot be read passes no limit. -/
lemma Template.isLimit_of_fault {fuel : Nat} {cs : List Char} {e : TemplateFault}
    (h : (readFrom fuel cs).fault = some e) : e.isLimit = false := by
  fun_induction readFrom fuel cs with
  | case1 => exact absurd h (by simp)
  | case2 => exact absurd h (by simp)
  | case3 fuel cs text rest hrest ih => exact ih h
  | case4 =>
    obtain rfl := Option.some.inj h
    rfl
  | case5 =>
    obtain rfl := Option.some.inj h
    rfl
  | case6 fuel cs text rest hrest ih => exact ih h
  | case7 fuel cs text head rest _ _ _ _ e' he' _ =>
    obtain rfl := Option.some.inj h
    exact takeField_error he'
  | case8 =>
    rename_i ih
    exact ih h

section Checking

variable [Host] [Memory]

/-- The faults of checking a rule. -/
lemma RuleSpec.compile_failsOnly (spec : RuleSpec) :
    FailsOnly (fun e => e.isRule = true ∨ spec.Escapes e) spec.compile := by
  have hrule : ∀ e : Fault, e.isRule = true → e.isRule = true ∨ spec.Escapes e := fun e => .inl
  refine .bind (demand_failsOnly hrule _ _ _ _) fun _ _ => ?_
  refine .bind (demand_failsOnly hrule _ _ _ _) fun _ _ => ?_
  refine .bind ?_ fun _ _ => ?_
  · rcases checkTemplate_cases spec.body.kind spec.heading.id spec.templateText with
      ⟨e, hcause, he⟩ | ⟨reason, he⟩ | ⟨-, hok⟩
    · rw [he, badTemplate]
      split
      · rename_i hlimit
        rcases hcause with hfault | hrender
        · exact absurd (hlimit.symm.trans (Template.isLimit_of_fault hfault)) (by simp)
        · exact .error (.inr (.template hlimit hrender))
      · exact .error (.inl rfl)
    · rw [he]
      exact .error (.inl rfl)
    · rw [hok]
      exact .ok _
  · refine .bind ((RuleBody.compile_failsOnly _ _).mono ?_) fun _ _ => .ok _
    rintro e (he | ⟨text, htext, hlimit⟩)
    · exact .inl he
    · exact .inr (.pattern htext hlimit)

lemma RuleSet.compileFrom_failsOnly (seen : List String) (specs : List RuleSpec) :
    FailsOnly (fun e => e.isRule = true ∨ ∃ spec ∈ specs, spec.Escapes e)
      (compileFrom seen specs) := by
  induction specs generalizing seen with
  | nil => exact .ok _
  | cons spec specs ih =>
    refine .bind (demand_failsOnly (fun e => .inl) _ _ _ _) fun _ _ => ?_
    refine .bind (spec.compile_failsOnly.mono ?_) fun _ _ => ?_
    · rintro e (he | he)
      · exact .inl he
      · exact .inr ⟨spec, List.mem_cons_self, he⟩
    · refine .bind ((ih _).mono ?_) fun _ _ => .ok _
      rintro e (he | ⟨spec', hspec', he⟩)
      · exact .inl he
      · exact .inr ⟨spec', List.mem_cons_of_mem _ hspec', he⟩

end Checking

/-! ## Reading -/

/-- The faults of loading the rule in a table that are not faults of the rule. -/
inductive Table.Escapes [Host] [Memory] (t : Table) : Fault → Prop
  /-- The id cannot be written: it holds a number that is too long, or is nested too deeply. -/
  | id {v : Value} {e : Fault} (hid : t.get? "id" = some v)
    (hwrite : v.writeFault? (Host.levels "id") = some e) : Escapes t e
  /-- The type is a list. -/
  | typeList {items : List Value} (htype : t.get? "type" = some (.list items)) :
    Escapes t (.unhashable "list")
  /-- The type is a table. -/
  | typeTable {entries : Table} (htype : t.get? "type" = some (.table entries)) :
    Escapes t (.unhashable "dict")
  /-- The type is a number that is too long to write. -/
  | typeNumber {i : Int} (htype : t.get? "type" = some (.int i))
    (hlong : Nat.pow 10 Literal.digitLimit ≤ i.natAbs) : Escapes t .tooLongToWrite
  /-- A severity or a mode is nested too deeply to be written. -/
  | word {name : String} {v : Value} {doing : String} (hname : name = "severity" ∨ name = "mode")
    (hfield : (name, v) ∈ t) (hdeep : v.writeFault? (Host.levels name) = some (.recursion doing)) :
    Escapes t (.recursion doing)
  /-- The similarity is too large for a real number. -/
  | similarity {i : Int} {negative : Bool} (hsimilarity : ("similarity", .int i) ∈ t)
    (hlarge : Binary64.ofInt i = .infinite negative) : Escapes t .tooLargeForReal
  /-- The rule is read, and checking it fails. -/
  | spec {spec : RuleSpec} {e : Fault} (hread : RuleSpec.read (.table t) = .ok spec)
    (he : spec.Escapes e) : Escapes t e

/-- A whole number cannot be written just if it is too long. -/
lemma Value.writeFault?_int_eq_some {levels : Nat} {i : Int} {e : Fault} :
    (Value.int i).writeFault? levels = some e ↔
      Nat.pow 10 Literal.digitLimit ≤ i.natAbs ∧ e = .tooLongToWrite := by
  have heq : (Value.int i).writeFault? levels
      = if i.natAbs < Nat.pow 10 Literal.digitLimit then none else some .tooLongToWrite := by
    cases levels <;> rfl
  rw [heq]
  split_ifs with hshort
  · exact ⟨fun h => absurd h (by simp), fun h => absurd hshort (not_lt.2 h.1)⟩
  · rw [Option.some_inj]
    exact ⟨fun h => ⟨not_lt.1 hshort, h.symm⟩, fun h => h.2.symm⟩

/-- A field whose shape is not that of unknown fields is one of the kind. -/
lemma RuleKind.mem_fields_of_lookup {kind : RuleKind} {name : String} {shape : FieldShape}
    (h : (kind.fields.lookup name).getD .text = shape) (hshape : shape ≠ .text) :
    (name, shape) ∈ kind.fields := by
  cases hlookup : kind.fields.lookup name with
  | none => exact absurd (by rw [← h, hlookup]; rfl) hshape
  | some shape' =>
    obtain ⟨before, after, hfields, -⟩ := List.lookup_eq_some_iff.1 hlookup
    rw [hlookup] at h
    obtain rfl : shape' = shape := h
    simp [hfields]

/-- Severity and mode are the only fields of their shapes, and similarity is the only field that
holds a real number. -/
lemma RuleKind.name_of_mem_fields {kind : RuleKind} {x : String × FieldShape}
    (h : x ∈ kind.fields) :
    (x.2 = .severity → x.1 = "severity") ∧ (x.2 = .mode → x.1 = "mode") ∧
      (x.2 = .real → x.1 = "similarity") := by
  revert h x
  cases kind <;> decide

section Reading

variable [Host]

lemma written_failsOnly (key : String) (v : Value) :
    FailsOnly (fun e => v.writeFault? (Host.levels key) = some e) (v.written key) := by
  unfold Value.written
  split
  · exact .error ‹_›
  · exact .ok _

/-- What is told of a word that is refused is a fault of the rule, unless it is nested too
deeply. -/
lemma refusedWord_cases (id name typeName : String) (v : Value) :
    (refusedWord id name typeName v).isRule = true ∨
      ∃ doing, v.writeFault? (Host.levels name) = some (.recursion doing) ∧
        refusedWord id name typeName v = .recursion doing := by
  unfold refusedWord
  split
  · exact .inr ⟨_, ‹_›, rfl⟩
  · exact .inl rfl
  · exact .inl rfl

/-- The faults of converting a field that are not faults of the rule: a severity or a mode is nested
too deeply to be written, or a whole number is too large for a real number. -/
inductive FieldShape.Escapes (name : String) (shape : FieldShape) (v : Value) : Fault → Prop
  | word {doing : String} (hshape : shape = .severity ∨ shape = .mode)
    (hdeep : v.writeFault? (Host.levels name) = some (.recursion doing)) :
    Escapes name shape v (.recursion doing)
  | real {i : Int} {negative : Bool} (hshape : shape = .real) (hv : v = .int i)
    (hlarge : Binary64.ofInt i = .infinite negative) : Escapes name shape v .tooLargeForReal

lemma refusedWord_failsOnly {α : Type} {shape : FieldShape}
    (hshape : shape = .severity ∨ shape = .mode) (id name typeName : String) (v : Value) :
    FailsOnly (fun e => e.isRule = true ∨ shape.Escapes name v e)
      (.error (refusedWord id name typeName v) : Except Fault α) := by
  rcases refusedWord_cases id name typeName v with hrule | ⟨doing, hdeep, heq⟩
  · exact .error (.inl hrule)
  · rw [heq]
    exact .error (.inr (.word hshape hdeep))

lemma convertField_failsOnly (id name : String) (shape : FieldShape) (v : Value) :
    FailsOnly (fun e => e.isRule = true ∨ shape.Escapes name v e)
      (convertField id name shape v) := by
  unfold convertField
  split
  · split
    · exact .ok _
    · exact refusedWord_failsOnly (.inl rfl) id name _ v
  · split
    · exact .ok _
    · exact refusedWord_failsOnly (.inr rfl) id name _ v
  · split
    · exact .ok _
    · exact .error (.inl rfl)
  · split
    · exact .ok _
    · exact .error (.inl rfl)
  · split
    · split
      · rename_i hlarge
        exact .error (.inr (.real rfl rfl hlarge))
      · exact .ok _
    · split
      · exact .ok _
      · exact .error (.inl rfl)
  · split
    · exact .ok _
    · exact .error (.inl rfl)

/-- The identity under which faults of the rule in a table are told. -/
def Table.ruleId (t : Table) : Except Fault String :=
  match t.get? "id" with
  | some v => v.written "id"
  | none => .ok unnamedRule

/-- Reads the rule in a table whose identity is known. -/
def RuleSpec.readAs (id : String) (t : Table) : Except Fault RuleSpec := do
  let kind ← ruleKindOf id ((t.get? "type").getD .null)
  let fields := t.erase "type"
  let unknown := Text.sortedSet (fields.keys.filter fun k => (kind.fields.lookup k).isNone)
  if !unknown.isEmpty then
    throw (.rule id ("unknown field(s): " ++ ", ".intercalate unknown) none)
  if !fields.has "id" then throw (.rule id "missing 'id'" (some "id"))
  return RuleSpec.ofFields kind (← convertFields id kind.fields fields)

lemma RuleSpec.read_table (t : Table) :
    RuleSpec.read (.table t) = t.ruleId >>= fun id => readAs id t := by
  simp only [RuleSpec.read, LooseTable.ofValue, ok_bind, Table.ruleId]
  cases t.get? "id" <;> rfl

variable [Memory]

lemma ruleKindOf_failsOnly (id : String) (t : Table) :
    FailsOnly (fun e => e.isRule = true ∨ t.Escapes e)
      (ruleKindOf id ((t.get? "type").getD .null)) := by
  cases htype : t.get? "type" with
  | none => exact .error (.inl rfl)
  | some v =>
    cases v with
    | null => exact .error (.inl rfl)
    | list items => exact .error (.inr (.typeList htype))
    | table entries => exact .error (.inr (.typeTable htype))
    | int i =>
      refine .bind ((written_failsOnly _ _).mono fun e he => ?_) fun _ _ => .error (.inl rfl)
      obtain ⟨hlong, rfl⟩ := Value.writeFault?_int_eq_some.1 he
      exact .inr (.typeNumber htype hlong)
    | text s =>
      simp only [Option.getD_some, ruleKindOf]
      split
      · exact .ok _
      · exact .error (.inl rfl)
    | _ => exact .error (.inl rfl)

lemma Table.Escapes.of_field {t : Table} {kind : RuleKind} {name : String} {v : Value} {e : Fault}
    (hmem : (name, v) ∈ t)
    (h : ((kind.fields.lookup name).getD .text).Escapes name v e) : t.Escapes e := by
  have hfield : ∀ {shape : FieldShape}, (kind.fields.lookup name).getD .text = shape →
      shape ≠ .text → (name, shape) ∈ kind.fields := RuleKind.mem_fields_of_lookup
  cases h with
  | word hshape hdeep =>
    refine .word ?_ hmem hdeep
    rcases hshape with hshape | hshape
    · exact .inl ((RuleKind.name_of_mem_fields (hfield hshape (by simp))).1 rfl)
    · exact .inr ((RuleKind.name_of_mem_fields (hfield hshape (by simp))).2.1 rfl)
  | real hshape hv hlarge =>
    obtain rfl := (RuleKind.name_of_mem_fields (hfield hshape (by simp))).2.2 rfl
    exact .similarity (hv ▸ hmem) hlarge

lemma convertFields_failsOnly (id : String) (kind : RuleKind) {t fields : Table}
    (hfields : ∀ x ∈ fields, x ∈ t) :
    FailsOnly (fun e => e.isRule = true ∨ t.Escapes e) (convertFields id kind.fields fields) := by
  induction fields with
  | nil => exact .ok _
  | cons x fields ih =>
    obtain ⟨name, v⟩ := x
    refine .bind ((convertField_failsOnly id name _ v).mono ?_) fun _ _ => ?_
    · rintro e (he | he)
      · exact .inl he
      · exact .inr (.of_field (hfields _ List.mem_cons_self) he)
    · exact .bind (ih fun x hx => hfields x (List.mem_cons_of_mem _ hx)) fun _ _ => .ok _

lemma Table.ruleId_failsOnly (t : Table) :
    FailsOnly (fun e => e.isRule = true ∨ t.Escapes e) t.ruleId := by
  unfold ruleId
  split
  · rename_i v hid
    exact (written_failsOnly "id" v).mono fun e he => .inr (.id hid he)
  · exact .ok _

lemma RuleSpec.read_failsOnly (t : Table) :
    FailsOnly (fun e => e.isRule = true ∨ t.Escapes e) (RuleSpec.read (.table t)) := by
  rw [read_table]
  refine .bind t.ruleId_failsOnly fun id _ => ?_
  refine .bind (ruleKindOf_failsOnly id t) fun kind _ => ?_
  dsimp only
  split
  · exact .error (.inl rfl)
  split
  · exact .error (.inl rfl)
  · exact .bind (convertFields_failsOnly id kind fun x hx => List.mem_of_mem_filter hx)
      fun _ _ => .ok _

end Reading

namespace RuleSet

section Loading

variable [Host] [Memory]

/-- Reads the rules in some tables and checks them together. -/
def load (tables : List Table) : Except Fault RuleSet := do
  ofSpecs (← tables.mapM fun t => RuleSpec.read (.table t))

/-- Loading rules gives a set of rules or a fault of a rule, unless something in a table escapes
both. -/
theorem load_ok_or_fault (tables : List Table) :
    (∃ s, load tables = .ok s) ∨
    (∃ id reason field, load tables = .error (.rule id reason field)) ∨
    ∃ t ∈ tables, ∃ e, t.Escapes e ∧ load tables = .error e := by
  have hfaults : FailsOnly (fun e => e.isRule = true ∨ ∃ t ∈ tables, t.Escapes e)
      (load tables) := by
    refine .bind (.mapM fun t ht => (RuleSpec.read_failsOnly t).mono ?_) fun specs hspecs => ?_
    · rintro e (he | he)
      · exact .inl he
      · exact .inr ⟨t, ht, he⟩
    · refine ((compileFrom_failsOnly [] specs).mono ?_).map _
      rintro e (he | ⟨spec, hspec, he⟩)
      · exact .inl he
      · obtain ⟨t, ht, hread⟩ := exists_of_mem_mapM hspecs hspec
        exact .inr ⟨t, ht, .spec hread he⟩
  cases hload : load tables with
  | ok s => exact .inl ⟨s, rfl⟩
  | error e =>
    rcases hfaults e hload with hrule | ⟨t, ht, he⟩
    · cases e with
      | rule id reason field => exact .inr (.inl ⟨id, reason, field, rfl⟩)
      | _ => exact absurd hrule (by simp [Fault.isRule])
    · exact .inr (.inr ⟨t, ht, e, he, rfl⟩)

end Loading

section Plain

attribute [local instance] Host.plain Memory.plain

/-- A rule whose type is a list: the fault is not one of the rule. -/
theorem load_list_type :
    load [[("type", .list [.text "placement"]), ("id", .text "r")]] = .error (.unhashable "list") :=
  rfl

end Plain

end RuleSet
end Conformance
