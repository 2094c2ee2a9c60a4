/-
# Keys of subjects

The key of a declaration tells its name and its file, but not its place in the file: of chosen
declarations of one kind, two have one key just if they have one name and stand in one file
(`subjectKey_eq_iff`), and the first of these is the subject (`selectSubjects_chooses_first`).  So
of two types with one name inside different types of a file, one is no subject
(`nested_subject_lost`).
-/
import Conformance.Proofs.Order
import Conformance.Proofs.Source.Declared
import Conformance.Similarity.Subjects

namespace Conformance
open Source

/-! ## The first of each key -/

lemma firstOfEachKey_concat (subjects : List Subject) (s : Subject) :
    firstOfEachKey (subjects ++ [s]) =
      if (firstOfEachKey subjects).any (·.key == s.key) then firstOfEachKey subjects
      else firstOfEachKey subjects ++ [s] := by
  rw [firstOfEachKey, firstOfEachKey, List.foldl_append, List.foldl_cons, List.foldl_nil,
    List.any_reverse]
  split
  · rfl
  · rw [List.reverse_cons]

lemma nodup_keys_firstOfEachKey (subjects : List Subject) :
    ((firstOfEachKey subjects).map (·.key)).Nodup := by
  induction subjects using List.reverseRecOn with
  | nil => exact List.nodup_nil
  | append_singleton subjects s ih =>
    rw [firstOfEachKey_concat]
    split
    · exact ih
    · rename_i hnew
      rw [List.map_append, List.map_singleton, List.nodup_append]
      refine ⟨ih, List.nodup_singleton _, fun key hkey key' hkey' heq => hnew ?_⟩
      obtain ⟨s', hs', rfl⟩ := List.mem_map.1 hkey
      rw [List.mem_singleton.1 hkey'] at heq
      exact List.any_eq_true.2 ⟨s', hs', beq_iff_eq.2 heq⟩

/-- The subject of a key is the first one that has it. -/
lemma find?_firstOfEachKey (subjects : List Subject) (key : String) :
    (firstOfEachKey subjects).find? (·.key == key) = subjects.find? (·.key == key) := by
  induction subjects using List.reverseRecOn with
  | nil => rfl
  | append_singleton subjects s ih =>
    rw [firstOfEachKey_concat, List.find?_append, ← ih]
    split
    · rename_i hseen
      by_cases hkey : s.key = key
      · -- the key has been seen, so it is found before
        obtain ⟨s', hs', hkey'⟩ := List.any_eq_true.1 hseen
        rw [hkey] at hkey'
        have hfound : ((firstOfEachKey subjects).find? (·.key == key)).isSome = true :=
          List.find?_isSome.2 ⟨s', hs', hkey'⟩
        obtain ⟨s'', hs''⟩ := Option.isSome_iff_exists.1 hfound
        rw [hs'', Option.some_or]
      · rw [List.find?_singleton, if_neg (by simpa using hkey), Option.or_none]
    · rw [List.find?_append]

lemma mem_firstOfEachKey {subjects : List Subject} {s : Subject} :
    s ∈ firstOfEachKey subjects ↔ subjects.find? (·.key == s.key) = some s := by
  rw [← find?_firstOfEachKey]
  constructor
  · intro hs
    have hfound : ((firstOfEachKey subjects).find? (·.key == s.key)).isSome = true :=
      List.find?_isSome.2 ⟨s, hs, beq_self_eq_true _⟩
    obtain ⟨s', hs'⟩ := Option.isSome_iff_exists.1 hfound
    have hkey := List.find?_some hs'
    have hsame := List.inj_on_of_nodup_map (nodup_keys_firstOfEachKey subjects)
      (List.mem_of_find?_eq_some hs') hs (beq_iff_eq.1 hkey)
    rw [hs', hsame]
  · exact List.mem_of_find?_eq_some

lemma firstOfEachKey_eq_self {subjects : List Subject} (h : (subjects.map (·.key)).Nodup) :
    firstOfEachKey subjects = subjects := by
  induction subjects using List.reverseRecOn with
  | nil => rfl
  | append_singleton subjects s ih =>
    rw [List.map_append, List.map_singleton, List.nodup_append] at h
    obtain ⟨hsubjects, -, hnew⟩ := h
    rw [firstOfEachKey_concat, ih hsubjects, if_neg]
    intro hseen
    obtain ⟨s', hs', hkey⟩ := List.any_eq_true.1 hseen
    exact hnew _ (List.mem_map_of_mem hs') _ (List.mem_singleton_self _) (beq_iff_eq.1 hkey)

/-! ## Names in keys -/

namespace Source.Declaration

variable {file : SourceFile} {d e : Declaration}

lemma DeclaredIn.at_notMem_namespaceName (h : d.DeclaredIn file) :
    '@' ∉ d.namespaceName.toList := by
  intro hat
  rw [h.namespaceName_eq] at hat
  rcases isWord_or_eq_dot_of_mem_namespaceOf hat with hword | hdot
  · exact absurd hword (by decide)
  · exact absurd hdot (by decide)

lemma DeclaredIn.at_notMem_name (h : d.DeclaredIn file) : '@' ∉ d.name.toList := by
  by_cases hkind : d.kind = .nameSpace
  · rw [h.name_eq hkind]
    exact h.at_notMem_namespaceName
  · exact fun hat => absurd (h.isWord_of_mem_name hkind _ hat) (by decide)

lemma qualifiedName_cases (d : Declaration) :
    d.qualifiedName = d.name ∨
      d.qualifiedName.toList = d.namespaceName.toList ++ '.' :: d.name.toList := by
  unfold qualifiedName
  split
  · exact .inl rfl
  · exact .inr (by simp)

lemma DeclaredIn.at_notMem_qualifiedName (h : d.DeclaredIn file) :
    '@' ∉ d.qualifiedName.toList := by
  rcases d.qualifiedName_cases with heq | heq
  · rw [heq]
    exact h.at_notMem_name
  · rw [heq]
    simp [h.at_notMem_namespaceName, h.at_notMem_name]

/-- In one namespace, a qualified name tells the name. -/
lemma name_eq_of_qualifiedName_eq (hns : d.namespaceName = e.namespaceName)
    (h : d.qualifiedName = e.qualifiedName) : d.name = e.name := by
  unfold qualifiedName at h
  rw [hns] at h
  split at h
  · exact h
  · have hlist := congrArg String.toList h
    exact String.toList_inj.1 (by simpa using hlist)

end Source.Declaration

/-! ## Keys of chosen declarations -/

section Chosen

/-- The number of chosen declarations with a name. -/
def countNamed (chosen : List Declaration) (name : String) : Nat :=
  chosen.countP (·.name == name)

/-- The number of chosen declarations with a qualified name whose name is not unique. -/
def countQualified (chosen : List Declaration) (qualified : String) : Nat :=
  chosen.countP fun d => d.qualifiedName == qualified && countNamed chosen d.name != 1

/-- The three schemes for a key. -/
inductive KeyScheme (chosen : List Declaration) (d : Declaration) : String → Prop
  | name : countNamed chosen d.name = 1 → KeyScheme chosen d d.name
  | qualified : countNamed chosen d.name ≠ 1 → countQualified chosen d.qualifiedName = 1 →
      KeyScheme chosen d d.qualifiedName
  | path : countNamed chosen d.name ≠ 1 →
      KeyScheme chosen d (d.qualifiedName ++ "@" ++ d.path)

lemma keyScheme_subjectKey (chosen : List Declaration) (d : Declaration) :
    KeyScheme chosen d (subjectKey chosen d) := by
  have hkey : subjectKey chosen d = if countNamed chosen d.name == 1 then d.name
      else if countQualified chosen d.qualifiedName == 1 then d.qualifiedName
      else d.qualifiedName ++ "@" ++ d.path := rfl
  rw [hkey]
  split
  · exact .name (beq_iff_eq.1 ‹_›)
  · split
    · exact .qualified (by simpa using ‹¬ (countNamed chosen d.name == 1) = true›)
        (beq_iff_eq.1 ‹_›)
    · exact .path (by simpa using ‹¬ (countNamed chosen d.name == 1) = true›)

lemma eq_of_countP_eq_one {α : Type} {p : α → Bool} {l : List α} (h : l.countP p = 1) {a b : α}
    (ha : a ∈ l) (hpa : p a = true) (hb : b ∈ l) (hpb : p b = true) : a = b := by
  rw [List.countP_eq_length_filter] at h
  obtain ⟨c, hc⟩ := List.length_eq_one_iff.1 h
  have honly : ∀ {x : α}, x ∈ l → p x = true → x = c := fun hx hpx =>
    List.mem_singleton.1 (hc ▸ List.mem_filter.2 ⟨hx, hpx⟩)
  rw [honly ha hpa, honly hb hpb]

/-- Texts with a sign between their parts have the same parts, if the first parts do not hold the
sign. -/
lemma append_sign_inj {c : Char} {u v x y : List Char} (hu : c ∉ u) (hv : c ∉ v)
    (h : u ++ c :: x = v ++ c :: y) : u = v ∧ x = y := by
  rcases List.append_eq_append_iff.1 h with ⟨z, rfl, hz⟩ | ⟨z, rfl, hz⟩
  · cases z with
    | nil => simpa using hz
    | cons a z => exact absurd (List.cons.inj hz).1 fun heq => hv (by simp [heq])
  · cases z with
    | nil => simpa [eq_comm] using hz
    | cons a z => exact absurd (List.cons.inj hz).1 fun heq => hu (by simp [heq])

/-- Declarations of one kind, each from one of some files with different paths. -/
structure OfOneKind (files : List SourceFile) (kind : DeclarationKind) (ds : List Declaration) :
    Prop where
  paths_nodup : (files.map (·.path)).Nodup
  kind_eq : ∀ d ∈ ds, d.kind = kind
  declaredIn : ∀ d ∈ ds, ∃ file ∈ files, d.DeclaredIn file

variable {files : List SourceFile} {kind : DeclarationKind} {chosen : List Declaration}
  {d e : Declaration}

namespace OfOneKind

/-- Declarations of one file are in one namespace. -/
lemma namespaceName_eq (h : OfOneKind files kind chosen) (hd : d ∈ chosen) (he : e ∈ chosen)
    (hpath : d.path = e.path) : d.namespaceName = e.namespaceName := by
  obtain ⟨file, hfile, hdecl⟩ := h.declaredIn d hd
  obtain ⟨file', hfile', hdecl'⟩ := h.declaredIn e he
  have hpaths : file.path = file'.path := by
    rw [← hdecl.path_eq, ← hdecl'.path_eq, hpath]
  obtain rfl := List.inj_on_of_nodup_map h.paths_nodup hfile hfile' hpaths
  rw [hdecl.namespaceName_eq, hdecl'.namespaceName_eq]

lemma at_notMem_name (h : OfOneKind files kind chosen) (hd : d ∈ chosen) : '@' ∉ d.name.toList := by
  obtain ⟨_, _, hdecl⟩ := h.declaredIn d hd
  exact hdecl.at_notMem_name

lemma at_notMem_qualifiedName (h : OfOneKind files kind chosen) (hd : d ∈ chosen) :
    '@' ∉ d.qualifiedName.toList := by
  obtain ⟨_, _, hdecl⟩ := h.declaredIn d hd
  exact hdecl.at_notMem_qualifiedName

/-- The qualified name of a namespace is as often as the name. -/
lemma kind_ne_nameSpace (h : OfOneKind files kind chosen) (hd : d ∈ chosen)
    (hnamed : countNamed chosen d.name ≠ 1)
    (hqualified : countQualified chosen d.qualifiedName = 1) :
    kind ≠ .nameSpace := by
  rintro rfl
  have hname : ∀ e ∈ chosen, e.namespaceName = e.name := by
    intro e he
    obtain ⟨_, _, hdecl⟩ := h.declaredIn e he
    exact (hdecl.name_eq (h.kind_eq e he)).symm
  have hle : countNamed chosen d.name ≤ countQualified chosen d.qualifiedName := by
    refine List.countP_mono_left fun e he heq => ?_
    have heq := beq_iff_eq.1 heq
    have hsame : e.qualifiedName = d.qualifiedName := by
      simp only [Declaration.qualifiedName, hname e he, hname d hd, heq]
    simp [hsame, heq, hnamed]
  have hpos : 0 < countNamed chosen d.name :=
    List.countP_pos_iff.2 ⟨d, hd, beq_self_eq_true _⟩
  omega

/-- No name is the qualified name of another declaration that shares its own name. -/
lemma name_ne_qualifiedName (h : OfOneKind files kind chosen) (hd : d ∈ chosen) (he : e ∈ chosen)
    (hnamed : countNamed chosen d.name = 1) (hnamed' : countNamed chosen e.name ≠ 1)
    (hqualified : countQualified chosen e.qualifiedName = 1) : d.name ≠ e.qualifiedName := by
  intro heq
  rcases e.qualifiedName_cases with hcase | hcase
  · rw [heq, hcase] at hnamed
    exact hnamed' hnamed
  · -- a dot is in the qualified name but in no name
    obtain ⟨_, _, hdecl⟩ := h.declaredIn d hd
    have hkind : d.kind ≠ .nameSpace := by
      rw [h.kind_eq d hd]
      exact h.kind_ne_nameSpace he hnamed' hqualified
    have hdot : '.' ∈ d.name.toList := by
      rw [heq, hcase]
      simp
    exact absurd (hdecl.isWord_of_mem_name hkind _ hdot) (by decide)

end OfOneKind

lemma ne_append_path {name qualified path : String} (h : '@' ∉ name.toList) :
    name ≠ qualified ++ "@" ++ path := by
  rintro rfl
  exact h (by simp)

/-- Equal keys come from one scheme, and tell the name and the file. -/
lemma KeyScheme.same {key key' : String} (h : OfOneKind files kind chosen) (hd : d ∈ chosen)
    (he : e ∈ chosen) (hscheme : KeyScheme chosen d key) (hscheme' : KeyScheme chosen e key')
    (hkey : key = key') : d.name = e.name ∧ d.path = e.path := by
  cases hscheme with
  | name hnamed =>
    cases hscheme' with
    | name hnamed' =>
      obtain rfl := eq_of_countP_eq_one hnamed hd (beq_self_eq_true _) he (beq_iff_eq.2 hkey.symm)
      exact ⟨rfl, rfl⟩
    | qualified hnamed' hqualified' =>
      exact absurd hkey (h.name_ne_qualifiedName hd he hnamed hnamed' hqualified')
    | path hnamed' => exact absurd hkey (ne_append_path (h.at_notMem_name hd))
  | qualified hnamed hqualified =>
    cases hscheme' with
    | name hnamed' =>
      exact absurd hkey.symm (h.name_ne_qualifiedName he hd hnamed' hnamed hqualified)
    | qualified hnamed' hqualified' =>
      obtain rfl := eq_of_countP_eq_one hqualified hd (by simpa using hnamed) he
        (by simpa [hkey] using hnamed')
      exact ⟨rfl, rfl⟩
    | path hnamed' => exact absurd hkey (ne_append_path (h.at_notMem_qualifiedName hd))
  | path hnamed =>
    cases hscheme' with
    | name hnamed' => exact absurd hkey.symm (ne_append_path (h.at_notMem_name he))
    | qualified hnamed' hqualified' =>
      exact absurd hkey.symm (ne_append_path (h.at_notMem_qualifiedName he))
    | path hnamed' =>
      obtain ⟨hqualified, hpath⟩ := append_sign_inj (h.at_notMem_qualifiedName hd)
        (h.at_notMem_qualifiedName he) (by simpa using congrArg String.toList hkey)
      have hpath := String.toList_inj.1 hpath
      exact ⟨Declaration.name_eq_of_qualifiedName_eq (h.namespaceName_eq hd he hpath)
        (String.toList_inj.1 hqualified), hpath⟩

/-- **Two chosen declarations of one kind share a key just if they share name and file.** -/
theorem subjectKey_eq_iff (h : OfOneKind files kind chosen) (hd : d ∈ chosen) (he : e ∈ chosen) :
    subjectKey chosen d = subjectKey chosen e ↔ d.name = e.name ∧ d.path = e.path := by
  constructor
  · exact (keyScheme_subjectKey chosen d).same h hd he (keyScheme_subjectKey chosen e)
  · rintro ⟨hname, hpath⟩
    have hqualified : d.qualifiedName = e.qualifiedName := by
      simp only [Declaration.qualifiedName, h.namespaceName_eq hd he hpath, hname]
    simp only [subjectKey, hname, hqualified, hpath]

end Chosen

/-! ## Subjects -/

/-- The name and the file of a declaration. -/
def Source.Declaration.site (d : Declaration) : String × String :=
  (d.name, d.path)

/-- Of the chosen declarations that have one name and stand in one file, the first is a subject. -/
structure ChoosesFirst (chosen : List Declaration) (subjects : List Subject) : Prop where
  keys_nodup : (subjects.map (·.key)).Nodup
  key_eq_iff : ∀ d ∈ chosen, ∀ e ∈ chosen,
    subjectKey chosen d = subjectKey chosen e ↔ d.site = e.site
  /-- A subject has its own key, and no declaration of its name and file comes before it. -/
  first : ∀ s ∈ subjects, s.key = subjectKey chosen s.declaration ∧
    chosen.find? (·.site == s.declaration.site) = some s.declaration
  /-- Every declaration has one subject of its name and file. -/
  subject : ∀ d ∈ chosen, ∃! s, s ∈ subjects ∧ s.declaration.site = d.site
  length_eq : subjects.length = (chosen.map (·.site)).toFinset.card
  /-- No declaration is left out just if the declarations of a file have different names. -/
  kept_iff : subjects.map (·.declaration) = chosen ↔ (chosen.map (·.site)).Nodup

/-- The subjects of chosen declarations. -/
def subjectsOf (chosen : List Declaration) : List Subject :=
  firstOfEachKey (chosen.map fun d => ⟨subjectKey chosen d, d⟩)

section Subjects

variable {files : List SourceFile} {kind : DeclarationKind} {chosen : List Declaration}

namespace OfOneKind

lemma subjectKey_eq_iff_site (h : OfOneKind files kind chosen) {d e : Declaration}
    (hd : d ∈ chosen) (he : e ∈ chosen) :
    subjectKey chosen d = subjectKey chosen e ↔ d.site = e.site := by
  rw [subjectKey_eq_iff h hd he, Declaration.site, Declaration.site, Prod.mk.injEq]

lemma mem_subjectsOf (h : OfOneKind files kind chosen) {s : Subject} :
    s ∈ subjectsOf chosen ↔ s.key = subjectKey chosen s.declaration ∧
      chosen.find? (·.site == s.declaration.site) = some s.declaration := by
  -- the declarations that share the key of a chosen one are those of its name and file
  have hfind : ∀ d ∈ chosen, chosen.find? (subjectKey chosen · == subjectKey chosen d)
      = chosen.find? (·.site == d.site) := by
    refine fun d hd => List.find?_congr fun e he => ?_
    rw [Bool.eq_iff_iff, beq_iff_eq, beq_iff_eq]
    exact h.subjectKey_eq_iff_site he hd
  rw [subjectsOf, mem_firstOfEachKey, List.find?_map, Option.map_eq_some_iff]
  constructor
  · rintro ⟨d, hd, rfl⟩
    exact ⟨rfl, (hfind d (List.mem_of_find?_eq_some hd)).symm.trans hd⟩
  · rintro ⟨hkey, hd⟩
    have hmem := List.mem_of_find?_eq_some hd
    refine ⟨s.declaration, ?_, by rw [← hkey]⟩
    rw [← hd, ← hfind _ hmem, ← hkey]
    rfl

/-- A subject is told by its name and its file. -/
lemma subject_unique (h : OfOneKind files kind chosen) {s s' : Subject} (hs : s ∈ subjectsOf chosen)
    (hs' : s' ∈ subjectsOf chosen) (hsite : s.declaration.site = s'.declaration.site) : s = s' := by
  obtain ⟨hkey, hfind⟩ := h.mem_subjectsOf.1 hs
  obtain ⟨hkey', hfind'⟩ := h.mem_subjectsOf.1 hs'
  rw [← hsite] at hfind'
  have hsame := Option.some.inj (hfind.symm.trans hfind')
  rw [← hsame] at hkey'
  rw [Subject.mk.injEq]
  exact ⟨hkey.trans hkey'.symm, hsame⟩

lemma exists_subject (h : OfOneKind files kind chosen) {d : Declaration} (hd : d ∈ chosen) :
    ∃ s ∈ subjectsOf chosen, s.declaration.site = d.site := by
  have hsome : (chosen.find? (·.site == d.site)).isSome = true :=
    List.find?_isSome.2 ⟨d, hd, beq_self_eq_true _⟩
  obtain ⟨e, he⟩ := Option.isSome_iff_exists.1 hsome
  have hsite := List.find?_some he
  rw [beq_iff_eq] at hsite
  exact ⟨⟨subjectKey chosen e, e⟩, h.mem_subjectsOf.2 ⟨rfl, by rw [hsite, he]⟩, hsite⟩

lemma nodup_sites_subjectsOf (h : OfOneKind files kind chosen) :
    ((subjectsOf chosen).map (·.declaration.site)).Nodup :=
  (List.Nodup.of_map _ (nodup_keys_firstOfEachKey _)).map_on fun _ hs _ hs' =>
    h.subject_unique hs hs'

/-- The subjects stand for all names in files. -/
lemma length_subjectsOf (h : OfOneKind files kind chosen) :
    (subjectsOf chosen).length = (chosen.map (·.site)).toFinset.card := by
  have hsites : (chosen.map (·.site)).toFinset
      = ((subjectsOf chosen).map (·.declaration.site)).toFinset := by
    ext site
    simp only [List.mem_toFinset, List.mem_map]
    constructor
    · rintro ⟨d, hd, rfl⟩
      exact h.exists_subject hd
    · rintro ⟨s, hs, rfl⟩
      exact ⟨_, List.mem_of_find?_eq_some (h.mem_subjectsOf.1 hs).2, rfl⟩
  rw [hsites, List.toFinset_card_of_nodup h.nodup_sites_subjectsOf, List.length_map]

lemma map_subjectsOf_eq_iff (h : OfOneKind files kind chosen) :
    (subjectsOf chosen).map (·.declaration) = chosen ↔ (chosen.map (·.site)).Nodup := by
  constructor
  · intro heq
    have hsites : (subjectsOf chosen).map (·.declaration.site)
        = ((subjectsOf chosen).map (·.declaration)).map (·.site) := by
      rw [List.map_map]
      rfl
    have hnodup := h.nodup_sites_subjectsOf
    rwa [hsites, heq] at hnodup
  · intro hsites
    have hkeys : (chosen.map (subjectKey chosen)).Nodup := by
      refine (List.Nodup.of_map _ hsites).map_on fun d hd e he hkey => ?_
      exact List.inj_on_of_nodup_map hsites hd he ((h.subjectKey_eq_iff_site hd he).1 hkey)
    rw [subjectsOf, firstOfEachKey_eq_self (by rwa [List.map_map]), List.map_map]
    exact List.map_id _

theorem choosesFirst (h : OfOneKind files kind chosen) :
    ChoosesFirst chosen (subjectsOf chosen) where
  keys_nodup := nodup_keys_firstOfEachKey _
  key_eq_iff _ hd _ he := h.subjectKey_eq_iff_site hd he
  first _ hs := h.mem_subjectsOf.1 hs
  subject _ hd := by
    obtain ⟨s, hs, hsite⟩ := h.exists_subject hd
    exact ⟨s, ⟨hs, hsite⟩, fun s' hs' => h.subject_unique hs'.1 hs (hs'.2.trans hsite.symm)⟩
  length_eq := h.length_subjectsOf
  kept_iff := h.map_subjectsOf_eq_iff

end OfOneKind

lemma ofOneKind_chosenDeclarations {ds : List Declaration}
    (hpaths : (files.map (·.path)).Nodup)
    (hds : ∀ d ∈ ds, ∃ t, ∃ file ∈ files, d ∈ (extract t file).declarations)
    (kind : DeclarationKind) (pattern : Option (Pattern Nat)) :
    OfOneKind files kind (chosenDeclarations [kind] pattern ds) := by
  refine ⟨hpaths, fun d hd => ?_, fun d hd => ?_⟩
  · have hkind := (Bool.and_eq_true_iff.1 (List.mem_filter.1 hd).2).1
    simpa using hkind
  · have hmem := (List.mergeSort_perm _ _).mem_iff.1 (List.mem_filter.1 hd).1
    obtain ⟨t, file, hfile, hextract⟩ := hds d hmem
    exact ⟨file, hfile, declaredIn_of_mem_extract hextract⟩

/-- **The subjects are the first declarations of each name in each file.**  For every list of
declarations of files with different paths, every kind and every pattern, two selected declarations
share a key just if they have one name and stand in one file, and of these the first is the value of
the key; so there are as many keys as there are names in files. -/
theorem selectSubjects_chooses_first {ds : List Declaration}
    (hpaths : (files.map (·.path)).Nodup)
    (hds : ∀ d ∈ ds, ∃ t, ∃ file ∈ files, d ∈ (extract t file).declarations)
    (kind : DeclarationKind) (pattern : Option (Pattern Nat)) :
    ChoosesFirst (chosenDeclarations [kind] pattern ds) (selectSubjects [kind] pattern ds) :=
  (ofOneKind_chosenDeclarations hpaths hds kind pattern).choosesFirst

/-- A file with an enumeration of one name in each of two classes. -/
def nestedFile : SourceFile :=
  ⟨"A.cs", ["public class A \x7b enum Mode \x7b On \x7d \x7d",
    "public class B \x7b enum Mode \x7b Up \x7d \x7d"]⟩

/-- The enumeration of such a class. -/
def nestedMode (outer : String) (line : Nat) (member : String) : Declaration :=
  let frame : Frame := ⟨.classType, outer, 0, line, 13⟩
  { kind := .enum, name := "Mode", path := "A.cs", line := line, column := 22
    members := [member], container := frame, ancestors := [frame] }

lemma chosenDeclarations_nestedFile :
    chosenDeclarations [.enum] none (extract Tracker.full nestedFile).declarations
      = [nestedMode "A" 1 "On", nestedMode "B" 2 "Up"] := by
  let found := attachMembers nestedFile.lines (Tracker.full.track nestedFile.lines).scopes
    (foundDeclarations (Tracker.full.track nestedFile.lines).scopes nestedFile)
  let chosen (d : Declaration) : Bool := [DeclarationKind.enum].contains d.kind && true
  have hfound : found.filter chosen = [nestedMode "A" 1 "On", nestedMode "B" 2 "Up"] := by
    decide +kernel
  have hordered : [nestedMode "A" 1 "On", nestedMode "B" 2 "Up"].Pairwise
      fun d e => d.precedes e = true := by decide +kernel
  -- the two enumerations are found in order, and sorting the declarations keeps it
  have honce : (found.mergeSort Declaration.precedes).filter chosen = found.filter chosen :=
    filter_mergeSort isOrderTest_declarations (hfound ▸ hordered)
  have htwice := filter_mergeSort isOrderTest_declarations (honce ▸ hfound ▸ hordered)
  exact htwice.trans (honce.trans hfound)

theorem selectSubjects_chooses_first_nested :
    let ds := (extract Tracker.full nestedFile).declarations
    ([nestedFile].map (·.path)).Nodup ∧
    (∀ d ∈ ds, ∃ t, ∃ file ∈ [nestedFile], d ∈ (extract t file).declarations) ∧
    ChoosesFirst (chosenDeclarations [.enum] none ds) (selectSubjects [.enum] none ds) := by
  intro ds
  have hpaths : ([nestedFile].map (·.path)).Nodup := List.nodup_singleton _
  have hds : ∀ d ∈ ds, ∃ t, ∃ file ∈ [nestedFile], d ∈ (extract t file).declarations :=
    fun _ hd => ⟨_, _, List.mem_singleton_self _, hd⟩
  exact ⟨hpaths, hds, selectSubjects_chooses_first hpaths hds _ _⟩

/-- Of two enumerations with one name in one file, the second is the value of no key. -/
theorem nested_subject_lost :
    let ds := (extract Tracker.full nestedFile).declarations
    ∃ d e, chosenDeclarations [.enum] none ds = [d, e] ∧ d ≠ e ∧
      subjectKey [d, e] d = subjectKey [d, e] e ∧
      selectSubjects [.enum] none ds = [⟨"Mode@A.cs", d⟩] := by
  refine ⟨_, _, chosenDeclarations_nestedFile, by decide +kernel, by decide +kernel, ?_⟩
  rw [selectSubjects, chosenDeclarations_nestedFile]
  decide +kernel

end Subjects

end Conformance
