/-
# Faults of loading settings

Settings come from files, variables and options as values of any type.  Loading them gives settings
that pass every check (`Settings.Checked`), each of them given or the usual one, or a fault of the
configuration, or one of the few faults that are neither (`Settings.Escapes`): an extension that is
no text, a refused value that cannot be written since a number in it is too long or it is nested too
deeply, a file of settings that the file system refuses to tell about.  The checks do not look at
every type, so settings have the types that they are meant to have (`Settings.Typed`) if and only if
all values that are given have; then nothing but a fault of the configuration can come of them.  The
main statement is `Settings.load_checked_or_fault`.
-/
import Conformance.Proofs.Rule.Loading
import Conformance.Settings.Load

namespace Conformance

/-! ## Types of settings -/

/-- Whether a value is of a type. -/
def SettingType.admits : SettingType → Value → Bool
  | .texts, .list items => items.all (·.text?.isSome)
  | .flag, .flag _ => true
  | .whole, .int _ => true
  | .real, .int _ => true
  | .real, .real _ => true
  | .text, .text _ => true
  | _, _ => false

namespace Settings

/-- Whether a setting is meant to have a value: one of its type, or nothing if it is the number of
files read at the same time; rules are a list of tables. -/
def admits (name : String) (v : Value) : Bool :=
  match variableTypes.lookup name, v with
  | some t, v => t.admits v || (name == "workers" && v matches .null)
  | none, .list items => items.all isTable
  | none, _ => false

/-- Every setting has a value that it is meant to have. -/
def Typed (s : Settings) : Prop :=
  ∀ e ∈ s.toTable, admits e.1 e.2 = true

/-- Whether a value is no whole number that is too long to write. -/
def isShort : Value → Bool
  | .int i => i.natAbs < Nat.pow 10 Literal.digitLimit
  | _ => true

lemma isShort_int_iff {i : Int} :
    isShort (.int i) = true ↔ i.natAbs < Nat.pow 10 Literal.digitLimit := by
  rw [isShort, decide_eq_true_iff]

lemma toTable_ofFields (t : Table) :
    (ofFields t).toTable = names.map fun name => (name, valueIn t name) := rfl

/-- What holds of the usual values holds of all settings if it holds of the given values. -/
lemma forall_ofFields_iff {P : String → Value → Prop}
    (husual : ∀ name ∈ names, P name (valueIn [] name)) (t : Table) :
    (∀ e ∈ (ofFields t).toTable, P e.1 e.2) ↔
      ∀ name ∈ names, ∀ v, t.get? name = some v → P name v := by
  rw [toTable_ofFields, List.forall_mem_map]
  constructor
  · intro h name hname v hv
    have hvalue : valueIn t name = v := by simp [valueIn, hv]
    exact hvalue ▸ h name hname
  · intro h name hname
    cases hv : t.get? name with
    | some v =>
      have hvalue : valueIn t name = v := by simp [valueIn, hv]
      exact hvalue ▸ h name hname v hv
    | none =>
      have hvalue : valueIn t name = valueIn [] name := by
        rw [valueIn, valueIn, hv]
        rfl
      exact hvalue ▸ husual name hname

lemma typed_ofFields_iff (t : Table) : (ofFields t).Typed ↔
    ∀ name ∈ names, ∀ v, t.get? name = some v → admits name v = true :=
  @forall_ofFields_iff (fun name v => admits name v = true) (by decide +kernel) t

lemma short_ofFields_iff (t : Table) : (∀ e ∈ (ofFields t).toTable, isShort e.2 = true) ↔
    ∀ name ∈ names, ∀ v, t.get? name = some v → isShort v = true :=
  @forall_ofFields_iff (fun _ v => isShort v = true) (by decide +kernel) t

/-- A setting that is no list can be written if it is as it is meant to be and short. -/
lemma writeFault?_of_admits {name : String} {t : SettingType} {v : Value}
    (htype : variableTypes.lookup name = some t) (hsingle : t ≠ .texts)
    (h : admits name v = true) (hshort : isShort v = true) (levels : Nat) :
    v.writeFault? levels = none := by
  unfold admits at h
  rw [htype] at h
  cases v with
  | int i =>
    refine Option.eq_none_iff_forall_ne_some.2 fun e he => ?_
    obtain ⟨hlong, -⟩ := Value.writeFault?_int_eq_some.1 he
    exact absurd (isShort_int_iff.1 hshort) (not_lt.2 hlong)
  | list items => cases t <;> simp_all [SettingType.admits]
  | table entries => cases t <;> simp_all [SettingType.admits]
  | _ => cases levels <;> rfl

/-! ## Checks -/

/-- Settings that pass every check. -/
structure Checked (s : Settings) : Prop where
  extensions_present : s.extensions.isAbsent = false
  /-- The extensions are texts that start with a point. -/
  extensions_pointed : ∃ es, s.extensions.elements = .ok es ∧
    ∀ e ∈ es, ∃ text, e = .text text ∧ Text.startsWith text "." = true
  scopeMode_known : ∃ m : Source.ScopeMode, s.scopeMode = .text m.word
  verbosity_known : ∃ w ∈ verbosities, s.verbosity = .text w
  workers_positive : s.workers = .null ∨ ∃ n, s.workers.number? = some n ∧ isBelowOne n = false
  parallelThreshold_positive : ∃ n, s.parallelThreshold.number? = some n ∧ isBelowOne n = false
  maxFileSize_positive : ∃ n, s.maxFileSize.number? = some n ∧ isAtMostZero n = false
  layers_present : s.layers.isAbsent = false

lemma checkPresent_eq_ok {key reason : String} {v : Value} :
    checkPresent key reason v = .ok () ↔ v.isAbsent = false := by
  unfold checkPresent
  cases v.isAbsent <;> simp

lemma checkExtension_eq_ok {v : Value} :
    checkExtension v = .ok () ↔ ∃ text, v = .text text ∧ Text.startsWith text "." = true := by
  cases v with
  | text s =>
    simp only [checkExtension, Value.text.injEq, exists_eq_left']
    split <;> simp [*]
  | _ => simp [checkExtension]

section Checks

variable [Host]

lemma checkWord_eq_ok {key : String} {words : List String} {v : Value} :
    checkWord key words v = .ok () ↔ ∃ w ∈ words, v = .text w := by
  have hrefuse : checkWord.refuse key words v ≠ .ok () := by
    intro h
    obtain ⟨_, -, h⟩ := bind_eq_ok.1 h
    cases h
  -- only a text can be one of the words
  cases v with
  | text w =>
    simp only [checkWord, Value.text?, List.contains_iff_mem, Value.text.injEq, exists_eq_right']
    split
    · simp [*]
    · simp [*]
  | _ => simpa [checkWord, Value.text?] using hrefuse

lemma checkNumber_eq_ok {key relation reason : String} {refused : Number → Bool} {v : Value} :
    checkNumber key relation reason refused v = .ok () ↔
      ∃ n, v.number? = some n ∧ refused n = false := by
  unfold checkNumber
  cases v.number? with
  | none => simp
  | some n =>
    cases hrefused : refused n with
    | false => simp [hrefused]
    | true => simp [hrefused, bind_eq_ok]

lemma checkWorkers_eq_ok {v : Value} : checkWorkers v = .ok () ↔
    v = .null ∨ ∃ n, v.number? = some n ∧ isBelowOne n = false := by
  cases v with
  | null => exact ⟨fun _ => .inl rfl, fun _ => rfl⟩
  | _ => simp only [checkWorkers, checkNumber_eq_ok, reduceCtorEq, false_or]

/-- The check accepts what passes every check, and nothing else. -/
lemma check_eq_ok {s : Settings} : s.check = .ok () ↔ s.Checked := by
  constructor
  · intro h
    obtain ⟨_, hpresent, h⟩ := bind_eq_ok.1 h
    obtain ⟨es, helements, h⟩ := bind_eq_ok.1 h
    obtain ⟨_, hpointed, h⟩ := bind_eq_ok.1 h
    obtain ⟨_, hscope, h⟩ := bind_eq_ok.1 h
    obtain ⟨_, hverbosity, h⟩ := bind_eq_ok.1 h
    obtain ⟨_, hworkers, h⟩ := bind_eq_ok.1 h
    obtain ⟨_, hthreshold, h⟩ := bind_eq_ok.1 h
    obtain ⟨_, hsize, hlayers⟩ := bind_eq_ok.1 h
    obtain ⟨w, hw, hscope⟩ := checkWord_eq_ok.1 hscope
    obtain ⟨m, -, rfl⟩ := List.mem_map.1 hw
    exact
      { extensions_present := checkPresent_eq_ok.1 hpresent
        extensions_pointed :=
          ⟨es, helements, fun e he => checkExtension_eq_ok.1 (forM_eq_ok.1 hpointed e he)⟩
        scopeMode_known := ⟨m, hscope⟩
        verbosity_known := checkWord_eq_ok.1 hverbosity
        workers_positive := checkWorkers_eq_ok.1 hworkers
        parallelThreshold_positive := checkNumber_eq_ok.1 hthreshold
        maxFileSize_positive := checkNumber_eq_ok.1 hsize
        layers_present := checkPresent_eq_ok.1 hlayers }
  · intro h
    obtain ⟨es, helements, hpointed⟩ := h.extensions_pointed
    obtain ⟨m, hscope⟩ := h.scopeMode_known
    have hword : m.word ∈ Source.ScopeMode.all.map (·.word) := by cases m <;> decide
    refine bind_eq_ok.2 ⟨(), checkPresent_eq_ok.2 h.extensions_present, ?_⟩
    refine bind_eq_ok.2 ⟨es, helements, ?_⟩
    refine bind_eq_ok.2 ⟨(), forM_eq_ok.2 fun e he => checkExtension_eq_ok.2 (hpointed e he), ?_⟩
    refine bind_eq_ok.2 ⟨(), checkWord_eq_ok.2 ⟨m.word, hword, hscope⟩, ?_⟩
    refine bind_eq_ok.2 ⟨(), checkWord_eq_ok.2 h.verbosity_known, ?_⟩
    refine bind_eq_ok.2 ⟨(), checkWorkers_eq_ok.2 h.workers_positive, ?_⟩
    refine bind_eq_ok.2 ⟨(), checkNumber_eq_ok.2 h.parallelThreshold_positive, ?_⟩
    refine bind_eq_ok.2 ⟨(), checkNumber_eq_ok.2 h.maxFileSize_positive, ?_⟩
    exact checkPresent_eq_ok.2 h.layers_present

end Checks

/-! ## Faults of checks -/

section CheckFaults

variable {P : Fault → Prop} (hsetting : ∀ key value reason, P (.setting key value reason))

include hsetting

lemma checkWord_failsOnly [Host] {key : String} {words : List String} {v : Value}
    (hrefused : ∀ e, v.writeFault? (Host.levels key) = some e → P e) :
    FailsOnly P (checkWord key words v) := by
  have hrefuse : FailsOnly P (checkWord.refuse key words v) :=
    .bind ((written_failsOnly key v).mono hrefused) fun _ _ => .error (hsetting _ _ _)
  unfold checkWord
  split
  · split
    · exact .ok _
    · exact hrefuse
  · exact hrefuse

lemma checkNumber_failsOnly [Host] {key relation reason : String} {refused : Number → Bool}
    {v : Value} (htype : ∀ left right, P (.incomparable relation left right))
    (hrefused : ∀ e, v.writeFault? (Host.levels key) = some e → P e) :
    FailsOnly P (checkNumber key relation reason refused v) := by
  unfold checkNumber
  split
  · exact .error (htype _ _)
  · split
    · exact .bind ((written_failsOnly key v).mono hrefused) fun _ _ => .error (hsetting _ _ _)
    · exact .ok _

lemma checkPresent_failsOnly {key reason : String} {v : Value} :
    FailsOnly P (checkPresent key reason v) := by
  unfold checkPresent
  split
  · exact .error (hsetting _ _ _)
  · exact .ok _

lemma checkExtension_failsOnly {v : Value}
    (htext : v.text? = none → P (.noAttribute v.typeName "startswith")) :
    FailsOnly P (checkExtension v) := by
  unfold checkExtension
  split
  · split
    · exact .ok _
    · exact .error (hsetting _ _ _)
  · rename_i hv
    refine .error (htext ?_)
    cases v with
    | text s => exact absurd rfl (hv s)
    | _ => rfl

end CheckFaults

lemma elements_failsOnly (v : Value) : FailsOnly (·.isTypeFault = true) v.elements := by
  cases v with
  | list items => exact .ok _
  | text s => exact .ok _
  | table entries => exact .ok _
  | _ => exact .error rfl

/-- The settings of which a value that is refused is told, with their values. -/
def refusable (s : Settings) : Table :=
  [("scope_mode", s.scopeMode), ("verbosity", s.verbosity), ("workers", s.workers),
    ("parallel_threshold", s.parallelThreshold), ("max_file_size_mb", s.maxFileSize)]

lemma mem_toTable_of_mem_refusable {s : Settings} {e : String × Value} (he : e ∈ s.refusable) :
    e ∈ s.toTable ∧ ∃ t, variableTypes.lookup e.1 = some t ∧ t ≠ .texts := by
  simp only [refusable, List.mem_cons, List.not_mem_nil, or_false] at he
  rcases he with rfl | rfl | rfl | rfl | rfl
  all_goals exact ⟨by simp [toTable], _, rfl, by simp⟩

section Faults

variable [Host]

/-- The faults of checking settings that are neither faults of a setting nor of a type that is told
as one. -/
inductive CheckEscapes (s : Settings) : Fault → Prop
  /-- An extension is no text. -/
  | extension {es : List Value} {v : Value} (helements : s.extensions.elements = .ok es)
    (hv : v ∈ es) (htext : v.text? = none) : CheckEscapes s (.noAttribute v.typeName "startswith")
  /-- A value that is refused cannot be written: a number in it is too long, or it is nested too
  deeply. -/
  | refused {key : String} {v : Value} {e : Fault} (hv : (key, v) ∈ s.refusable)
    (he : v.writeFault? (Host.levels key) = some e) : CheckEscapes s e

/-- The faults of checking settings. -/
def CheckFault (s : Settings) (e : Fault) : Prop :=
  e.isConfiguration = true ∨ e.isTypeFault = true ∨ s.CheckEscapes e

lemma check_failsOnly (s : Settings) : FailsOnly s.CheckFault s.check := by
  have hsetting : ∀ key value reason, s.CheckFault (.setting key value reason) :=
    fun _ _ _ => .inl rfl
  have htype : ∀ relation left right, s.CheckFault (.incomparable relation left right) :=
    fun _ _ _ => .inr (.inl rfl)
  have hrefused : ∀ key v, (key, v) ∈ s.refusable →
      ∀ e, v.writeFault? (Host.levels key) = some e → s.CheckFault e :=
    fun _ _ hv _ he => .inr (.inr (.refused hv he))
  refine .bind (checkPresent_failsOnly hsetting) fun _ _ => ?_
  refine .bind ((elements_failsOnly _).mono fun e he => .inr (.inl he)) fun es hes => ?_
  refine .bind (.forM fun v hv => ?_) fun _ _ => ?_
  · exact checkExtension_failsOnly hsetting fun htext => .inr (.inr (.extension hes hv htext))
  refine .bind (checkWord_failsOnly hsetting (hrefused _ _ (by simp [refusable]))) fun _ _ => ?_
  refine .bind (checkWord_failsOnly hsetting (hrefused _ _ (by simp [refusable]))) fun _ _ => ?_
  refine .bind ?_ fun _ _ => ?_
  · unfold checkWorkers
    split
    · exact .ok _
    · exact checkNumber_failsOnly hsetting (htype _) (hrefused _ _ (by simp [refusable]))
  refine .bind (checkNumber_failsOnly hsetting (htype _) (hrefused _ _ ?_)) fun _ _ => ?_
  · simp [refusable]
  refine .bind (checkNumber_failsOnly hsetting (htype _) (hrefused _ _ ?_)) fun _ _ => ?_
  · simp [refusable]
  exact checkPresent_failsOnly hsetting

/-- Settings of the types that they are meant to have escape no check, unless a number is too long
to write. -/
lemma not_checkEscapes {s : Settings} (htyped : s.Typed)
    (hshort : ∀ e ∈ s.toTable, isShort e.2 = true) (e : Fault) : ¬ s.CheckEscapes e := by
  rintro (⟨helements, hv, htext⟩ | ⟨hv, he⟩)
  · -- the extensions are a list of texts, and this one is no text
    have hadmits : admits "extensions" s.extensions = true :=
      htyped ("extensions", s.extensions) (by simp [toTable])
    cases hextensions : s.extensions with
    | list items =>
      rw [hextensions] at hadmits helements
      obtain rfl := Except.ok.inj helements
      have htexts : items.all (·.text?.isSome) = true := by
        simpa [admits, variableTypes, SettingType.admits] using hadmits
      have hsome := List.all_eq_true.1 htexts _ hv
      simp [htext] at hsome
    | _ =>
      rw [hextensions] at hadmits
      simp [admits, variableTypes, SettingType.admits] at hadmits
  · obtain ⟨hmem, t, htype, hsingle⟩ := mem_toTable_of_mem_refusable hv
    have hwritten := writeFault?_of_admits htype hsingle (htyped _ hmem) (hshort _ hmem)
    exact absurd ((hwritten _).symm.trans he) (by simp)

end Faults

/-! ## Loading -/

lemma ofVariables_failsOnly (environment : List (String × String)) :
    FailsOnly (·.isConfiguration = true) (ofVariables environment) := by
  refine .filterMapM fun ⟨name, t⟩ _ => .bind ?_ fun _ _ => .ok _
  unfold ofVariable?
  dsimp only
  split
  · exact .ok _
  · split
    · exact .ok _
    · exact .error rfl

lemma withRules_failsOnly (t : Table) : FailsOnly (·.isConfiguration = true) (withRules t) := by
  unfold withRules
  dsimp only
  split
  · exact .ok _
  · split
    · split
      · exact .ok _
      · exact .error rfl
    · exact .error rfl

section Loading

variable [Host]

/-- The values that all places give, with the rules in their place. -/
def given (s : Surroundings) (requested : Option Path) (options : Table) : Except Fault Table :=
  gather s requested options >>= withRules

lemma load_eq (s : Surroundings) (requested : Option Path) (options : Table) :
    load s requested options
      = given s requested options >>= fun t => (ofTable t).mapError asConfiguration := by
  unfold load given
  cases gather s requested options <;> rfl

/-- The faults of loading settings that are not faults of the configuration. -/
inductive Escapes (s : Surroundings) (requested : Option Path) (options : Table) : Fault → Prop
  /-- The file system refuses to tell whether a file of settings is there. -/
  | path {path : Path} {problem : FileProblem}
    (hpath : path = userFile s ∨ path = projectFile s ∨ requested = some path)
    (hfind : s.files.find path = .error problem) (hrefused : problem.isAbsence = false) :
    Escapes s requested options (.system problem path.text)
  /-- A value that is given escapes its check. -/
  | check {t : Table} {e : Fault} (hgiven : given s requested options = .ok t)
    (he : (ofFields t).CheckEscapes e) : Escapes s requested options e

lemma loadTables_failsOnly (files : FileSystem) (label : String) (path : Path) :
    FailsOnly (·.isConfiguration = true) (loadTables files label path) := by
  intro e he
  unfold loadTables at he
  cases hread : readTables files path with
  | ok t => rw [hread] at he; cases he
  | error reason =>
    rw [hread] at he
    obtain rfl := Except.error.inj he
    rfl

/-- What is asked about the places of settings. -/
lemma find?_failsOnly {s : Surroundings} {requested : Option Path} {options : Table} {path : Path}
    (hpath : path = userFile s ∨ path = projectFile s ∨ requested = some path) :
    FailsOnly (fun e => e.isConfiguration = true ∨ Escapes s requested options e)
      (s.files.find? path) := by
  unfold FileSystem.find?
  split
  · exact .ok _
  · rename_i problem hfind
    split_ifs with habsence
    · exact .ok _
    · exact .error (.inr (.path hpath hfind (Bool.eq_false_iff.2 habsence)))

lemma ofOptionalFile_failsOnly {s : Surroundings} {requested : Option Path} {options : Table}
    (label : String) {path : Path} (hpath : path = userFile s ∨ path = projectFile s) :
    FailsOnly (fun e => e.isConfiguration = true ∨ Escapes s requested options e)
      (ofOptionalFile s label path) := by
  refine .bind (find?_failsOnly (hpath.imp_right .inl)) fun node _ => ?_
  cases node with
  | none => exact .ok _
  | some _ => exact (loadTables_failsOnly _ _ _).mono fun _ => .inl

lemma ofRequestedFile_failsOnly (s : Surroundings) (requested : Option Path) (options : Table) :
    FailsOnly (fun e => e.isConfiguration = true ∨ Escapes s requested options e)
      (ofRequestedFile s requested) := by
  cases requested with
  | none => exact .ok _
  | some path =>
    refine .bind (find?_failsOnly (.inr (.inr rfl))) fun node _ => ?_
    cases node with
    | none => exact .error (.inl rfl)
    | some _ => exact (loadTables_failsOnly _ _ _).mono fun _ => .inl

lemma given_failsOnly (s : Surroundings) (requested : Option Path) (options : Table) :
    FailsOnly (fun e => e.isConfiguration = true ∨ Escapes s requested options e)
      (given s requested options) := by
  refine .bind ?_ fun t _ => (withRules_failsOnly t).mono fun _ => .inl
  refine .bind (ofOptionalFile_failsOnly _ (.inl rfl)) fun _ _ => ?_
  refine .bind (ofOptionalFile_failsOnly _ (.inr rfl)) fun _ _ => ?_
  refine .bind (ofRequestedFile_failsOnly s requested options) fun _ _ => ?_
  exact .bind ((ofVariables_failsOnly _).mono fun _ => .inl) fun _ _ => .ok _

/-- A table gives settings if its keys are names of settings and the settings pass every check. -/
lemma ofTable_eq_ok {t : Table} {settings : Settings} : ofTable t = .ok settings ↔
    (∀ key ∈ t.keys, key ∈ names) ∧ settings = ofFields t ∧ settings.Checked := by
  unfold ofTable
  cases hunknown : t.keys.find? fun k => !names.contains k with
  | some k =>
    have hk := List.find?_some hunknown
    have hmem := List.mem_of_find?_eq_some hunknown
    constructor
    · intro h
      cases h
    · rintro ⟨hknown, -, -⟩
      simp [hknown k hmem] at hk
  | none =>
    have hknown : ∀ key ∈ t.keys, key ∈ names := fun key hkey => by
      simpa using List.find?_eq_none.1 hunknown key hkey
    constructor
    · intro h
      obtain ⟨_, hchecked, h⟩ := bind_eq_ok.1 h
      obtain rfl := Except.ok.inj h
      exact ⟨hknown, rfl, check_eq_ok.1 hchecked⟩
    · rintro ⟨-, rfl, hchecked⟩
      exact bind_eq_ok.2 ⟨(), check_eq_ok.2 hchecked, rfl⟩

lemma asConfiguration_eq_ok {t : Table} {settings : Settings} :
    (ofTable t).mapError asConfiguration = .ok settings ↔ ofTable t = .ok settings :=
  mapError_eq_ok

/-- A type fault is told as one of the configuration; what is neither escapes a check. -/
lemma ofTable_failsOnly (t : Table) :
    FailsOnly (fun e => e.isConfiguration = true ∨ (ofFields t).CheckEscapes e)
      ((ofTable t).mapError asConfiguration) := by
  have hfaults : FailsOnly (ofFields t).CheckFault (ofTable t) := by
    unfold ofTable
    split
    · -- a key of no setting counts as a value of the wrong type
      exact .error (.inr (.inl rfl))
    · exact .bind (check_failsOnly _) fun _ _ => .ok _
  refine hfaults.mapError fun e he => ?_
  unfold asConfiguration
  split
  · exact .inl rfl
  · rename_i htype
    rcases he with he | he | he
    · exact .inl he
    · exact absurd he htype
    · exact .inr he

/-- Loading gives settings if and only if what is given has known names and passes every check; the
settings are of their types if and only if the given values are.  Whatever else comes of loading is
a fault of the configuration or one that escapes; it is one of the configuration if the given values
are of their types, with whole numbers that are not too long to write. -/
theorem load_checked_or_fault (s : Surroundings) (requested : Option Path) (options : Table) :
    (∀ settings, load s requested options = .ok settings ↔
      ∃ t, given s requested options = .ok t ∧ (∀ key ∈ t.keys, key ∈ names) ∧
        settings = ofFields t ∧ settings.Checked) ∧
    (∀ t, (ofFields t).Typed ↔
      ∀ name ∈ names, ∀ v, t.get? name = some v → admits name v = true) ∧
    (∀ e, load s requested options = .error e →
      e.isConfiguration = true ∨ Escapes s requested options e) ∧
    ∀ t e, given s requested options = .ok t →
      (∀ name ∈ names, ∀ v, t.get? name = some v → admits name v = true ∧ isShort v = true) →
      load s requested options = .error e → e.isConfiguration = true := by
  refine ⟨fun settings => ?_, typed_ofFields_iff, ?_, ?_⟩
  · rw [load_eq, bind_eq_ok]
    simp only [asConfiguration_eq_ok, ofTable_eq_ok]
  · rw [load_eq]
    refine (given_failsOnly s requested options).bind fun t ht => ?_
    exact (ofTable_failsOnly t).mono fun e he => he.imp_right (.check ht)
  · intro t e ht hvalues he
    -- what escapes a check is a wrong type, or a value that cannot be written in the message
    have htyped : (ofFields t).Typed :=
      (typed_ofFields_iff t).2 fun name hname v hv => (hvalues name hname v hv).1
    have hshort : ∀ e ∈ (ofFields t).toTable, isShort e.2 = true :=
      (short_ofFields_iff t).2 fun name hname v hv => (hvalues name hname v hv).2
    rw [load_eq, ht, ok_bind] at he
    exact (ofTable_failsOnly t e he).resolve_right (not_checkEscapes htyped hshort e)

end Loading

/-- A folder whose file of settings has a text. -/
def inFolderWith (text : String) : Surroundings where
  files :=
    { root := .folder [("w", .folder [("archscan.toml", .file text.toUTF8.toList)])]
      current := ⟨true, ["w"]⟩ }
  home := ⟨true, ["home"]⟩
  environment := []

section Plain

attribute [local instance] Host.plain

/-- A number where one is meant is loaded, and all settings are of their types. -/
theorem load_checked_or_fault_workers :
    ∃ settings, load (inFolderWith "workers = 2\n") = .ok settings ∧ settings.Checked ∧
      settings.Typed := by
  obtain ⟨hloads, htypes, -, -⟩ := load_checked_or_fault (inFolderWith "workers = 2\n") none []
  have hloaded : (load (inFolderWith "workers = 2\n")).toOption.isSome = true := by decide +kernel
  have hvalues : (given (inFolderWith "workers = 2\n") none []).toOption.all
      (fun t => t.all fun e => admits e.1 e.2) = true := by decide +kernel
  obtain ⟨settings, hload⟩ := exists_ok_of_isSome hloaded
  obtain ⟨t, ht, -, rfl, hchecked⟩ := (hloads settings).1 hload
  refine ⟨_, hload, hchecked, (htypes t).2 fun name _ v hv => ?_⟩
  obtain ⟨before, after, rfl, -⟩ := List.lookup_eq_some_iff.1 hv
  rw [ht] at hvalues
  exact List.all_eq_true.1 hvalues (name, v) (by simp)

/-- An extension that is a number escapes, and an encoding that is a number is accepted. -/
theorem load_numeric_extension :
    load (inFolderWith "extensions = [1]\n") = .error (.noAttribute "int" "startswith") ∧
    ∃ settings, load (inFolderWith "encoding = 5\n") = .ok settings ∧ ¬ settings.Typed := by
  constructor
  · have hfault : (match load (inFolderWith "extensions = [1]\n") with
        | .error e => some e
        | .ok _ => none) = some (.noAttribute "int" "startswith") := by decide +kernel
    cases hload : load (inFolderWith "extensions = [1]\n") with
    | error e =>
      rw [hload] at hfault
      exact congrArg Except.error (Option.some.inj hfault)
    | ok settings => simp [hload] at hfault
  · have hloaded : (load (inFolderWith "encoding = 5\n")).toOption.any
        (fun settings => !admits "encoding" settings.encoding) = true := by decide +kernel
    cases hload : load (inFolderWith "encoding = 5\n") with
    | error e => simp [hload, Except.toOption] at hloaded
    | ok settings =>
      -- the encoding is compared with nothing, so no check has looked at it
      refine ⟨settings, rfl, fun htyped => ?_⟩
      have hadmits := htyped ("encoding", settings.encoding) (by simp [toTable])
      simp [hload, Except.toOption, hadmits] at hloaded

end Plain

end Settings
end Conformance
