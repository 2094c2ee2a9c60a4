/-
# Rules written as tables

A rule is written as a table with a type, an id and the fields of its kind.  Each field has a
shape.  Two readings exist: a table from a file is converted, so that one name may stand for a
list of names, a whole number for a real one, and words for severities and modes; values that are
handed over directly must already have the right shape.
-/
import Conformance.Fault
import Conformance.Rule.Basic
import Conformance.Text.Order
import Conformance.Value.Collection

namespace Conformance

/-- What a field holds. -/
inductive FieldShape where
  /-- A text. -/
  | text
  /-- A text, or nothing. -/
  | textOrNothing
  /-- A whole number. -/
  | integer
  /-- A whole number, or nothing. -/
  | integerOrNothing
  /-- A real number. -/
  | real
  /-- A truth value. -/
  | flag
  /-- A list of names. -/
  | names
  /-- A set of names. -/
  | nameSet
  /-- A severity. -/
  | severity
  /-- A mode. -/
  | mode
  deriving DecidableEq, Repr, Inhabited

namespace FieldShape

/-- The words for a shape. -/
def description : FieldShape → String
  | .text | .textOrNothing => "str"
  | .integer | .integerOrNothing => "int"
  | .real => "float"
  | .flag => "bool"
  | .names | .nameSet => "list of strings"
  | .severity => "Severity"
  | .mode => "RuleMode"

/-- Whether a value that is handed over directly has the shape.  No table value is a severity or a
mode. -/
def fits : FieldShape → Value → Bool
  | .text, .text _ => true
  | .textOrNothing, .text _ => true
  | .textOrNothing, .null => true
  | .integer, .int _ => true
  | .integerOrNothing, .int _ => true
  | .integerOrNothing, .null => true
  | .real, .int _ => true
  | .real, .real _ => true
  | .flag, .flag _ => true
  | .names, .list l => l.all (·.text?.isSome)
  | .nameSet, .list l => l.all (·.text?.isSome)
  | _, _ => false

/-- What is wrong with a value that does not have the shape. -/
def mismatch (s : FieldShape) (v : Value) : String :=
  "expected " ++ s.description ++ ", got " ++ v.shortTypeName

end FieldShape

namespace RuleKind

/-- The fields that every rule has. -/
def headingFields : List (String × FieldShape) :=
  [("id", .text), ("description", .text), ("severity", .severity), ("mode", .mode),
    ("threshold", .integer), ("allow_list", .nameSet), ("message", .text)]

/-- The fields of a kind of rule alone. -/
def ownFields : RuleKind → List (String × FieldShape)
  | .placement =>
    [("pattern", .text), ("kinds", .names), ("required_container", .names),
      ("forbidden_container", .names), ("container_pattern", .textOrNothing),
      ("container_scope", .text), ("required_path", .textOrNothing),
      ("forbidden_path", .textOrNothing), ("require_namespace", .flag),
      ("max_count", .integerOrNothing)]
  | .nameSpace =>
    [("source_prefix", .text), ("skip_segments", .integer), ("project_prefix", .textOrNothing),
      ("exempt_paths", .names)]
  | .usage => [("pattern", .text), ("exempt_paths", .names), ("exempt_if_contains", .names)]
  | .duplicate =>
    [("kinds", .names), ("suffix_pattern", .text), ("suffixes", .names),
      ("require_distinct_suffixes", .flag), ("min_group", .integer), ("ignore_file_scoped", .flag)]
  | .similarity =>
    [("kinds", .names), ("subject_pattern", .textOrNothing), ("similarity", .real),
      ("min_members", .integer), ("compare", .text)]

/-- All fields of a kind of rule, in their order. -/
def fields (k : RuleKind) : List (String × FieldShape) :=
  headingFields ++ k.ownFields

end RuleKind

/-! ## From tables of values with the right shapes -/

namespace Table

/-- A text field, or its default. -/
def textOr (t : Table) (key default : String) : String :=
  match t.get? key with
  | some (.text s) => s
  | _ => default

/-- A text field that may hold nothing. -/
def text? (t : Table) (key : String) : Option String :=
  (t.get? key).bind Value.text?

/-- A field of a whole number, or its default. -/
def intOr (t : Table) (key : String) (default : Int) : Int :=
  match t.get? key with
  | some (.int i) => i
  | _ => default

/-- A field of a whole number that may hold nothing. -/
def int? (t : Table) (key : String) : Option Int :=
  match t.get? key with
  | some (.int i) => some i
  | _ => none

/-- A field of a real number, or its default. -/
def realOr (t : Table) (key : String) (default : Binary64) : Binary64 :=
  match t.get? key with
  | some (.int i) => Binary64.ofInt i
  | some (.real x) => x
  | _ => default

/-- A truth field, or its default. -/
def flagOr (t : Table) (key : String) (default : Bool) : Bool :=
  match t.get? key with
  | some (.flag b) => b
  | _ => default

/-- A field of names, or its default. -/
def namesOr (t : Table) (key : String) (default : List String) : List String :=
  ((t.get? key).bind Value.texts?).getD default

end Table

/-- The heading of a rule from its fields. -/
def RuleHeading.ofFields (t : Table) : RuleHeading where
  id := t.textOr "id" ""
  description := t.textOr "description" ""
  severity := ((t.text? "severity").bind Severity.ofWord?).getD .error
  mode := ((t.text? "mode").bind RuleMode.ofWord?).getD .enforcing
  threshold := t.intOr "threshold" 0
  allowList := t.namesOr "allow_list" []
  message := t.textOr "message" ""

/-- What a rule of a kind checks, from its fields. -/
def RuleBody.ofFields (k : RuleKind) (t : Table) : RuleBody :=
  match k with
  | .placement => .placement
      { pattern := t.textOr "pattern" ".*"
        kinds := t.namesOr "kinds" ["type", "interface", "enum"]
        requiredContainer := t.namesOr "required_container" []
        forbiddenContainer := t.namesOr "forbidden_container" []
        containerPattern := t.text? "container_pattern"
        containerScope := t.textOr "container_scope" "innermost"
        requiredPath := t.text? "required_path"
        forbiddenPath := t.text? "forbidden_path"
        requireNamespace := t.flagOr "require_namespace" false
        maxCount := t.int? "max_count" }
  | .nameSpace => .nameSpace
      { sourcePrefix := t.textOr "source_prefix" ""
        skipSegments := t.intOr "skip_segments" 0
        projectPrefix := t.text? "project_prefix"
        exemptPaths := t.namesOr "exempt_paths" [] }
  | .usage => .usage
      { pattern := t.textOr "pattern" ""
        exemptPaths := t.namesOr "exempt_paths" []
        exemptIfContains := t.namesOr "exempt_if_contains" [] }
  | .duplicate => .duplicate
      { kinds := t.namesOr "kinds" ["type", "interface", "enum"]
        suffixPattern := t.textOr "suffix_pattern" defaultDuplicateSuffix
        suffixes := t.namesOr "suffixes" []
        requireDistinctSuffixes := t.flagOr "require_distinct_suffixes" false
        minGroup := t.intOr "min_group" 2
        ignoreFileScoped := t.flagOr "ignore_file_scoped" true }
  | .similarity => .similarity
      { kinds := t.namesOr "kinds" ["enum"]
        subjectPattern := t.text? "subject_pattern"
        similarity := t.realOr "similarity" defaultSimilarity
        minMembers := t.intOr "min_members" 3
        compare := t.textOr "compare" "members" }

/-- A rule from its fields. -/
def RuleSpec.ofFields (k : RuleKind) (t : Table) : RuleSpec :=
  ⟨RuleHeading.ofFields t, RuleBody.ofFields k t⟩

/-! ## To tables -/

/-- A whole number, or nothing. -/
def Value.ofInt? : Option Int → Value
  | some i => .int i
  | none => .null

/-- The fields of a rule's body. -/
def RuleBody.toFields : RuleBody → Table
  | .placement p =>
    [("pattern", .text p.pattern), ("kinds", .ofTexts p.kinds),
      ("required_container", .ofTexts p.requiredContainer),
      ("forbidden_container", .ofTexts p.forbiddenContainer),
      ("container_pattern", .ofText? p.containerPattern),
      ("container_scope", .text p.containerScope), ("required_path", .ofText? p.requiredPath),
      ("forbidden_path", .ofText? p.forbiddenPath), ("require_namespace", .flag p.requireNamespace),
      ("max_count", .ofInt? p.maxCount)]
  | .nameSpace n =>
    [("source_prefix", .text n.sourcePrefix), ("skip_segments", .int n.skipSegments),
      ("project_prefix", .ofText? n.projectPrefix), ("exempt_paths", .ofTexts n.exemptPaths)]
  | .usage u =>
    [("pattern", .text u.pattern), ("exempt_paths", .ofTexts u.exemptPaths),
      ("exempt_if_contains", .ofTexts u.exemptIfContains)]
  | .duplicate d =>
    [("kinds", .ofTexts d.kinds), ("suffix_pattern", .text d.suffixPattern),
      ("suffixes", .ofTexts d.suffixes),
      ("require_distinct_suffixes", .flag d.requireDistinctSuffixes),
      ("min_group", .int d.minGroup), ("ignore_file_scoped", .flag d.ignoreFileScoped)]
  | .similarity s =>
    [("kinds", .ofTexts s.kinds), ("subject_pattern", .ofText? s.subjectPattern),
      ("similarity", .real s.similarity), ("min_members", .int s.minMembers),
      ("compare", .text s.compare)]

/-- The type of a rule and all its fields. -/
def RuleSpec.toTable (r : RuleSpec) : Table :=
  [("type", .text r.body.kind.word), ("id", .text r.heading.id),
    ("description", .text r.heading.description), ("severity", .text r.heading.severity.word),
    ("mode", .text r.heading.mode.word), ("threshold", .int r.heading.threshold),
    ("allow_list", .ofTexts r.heading.allowList), ("message", .text r.heading.message)] ++
    r.body.toFields

/-- The fields of a rule as they are given, the others with their defaults. -/
def RuleKind.withDefaults (k : RuleKind) (given : Table) : Table :=
  (RuleSpec.ofFields k []).toTable.update given

/-! ## Reading tables -/

/-- The name of a rule without an id. -/
def unnamedRule : String := "<unnamed>"

/-- A list of names, or one name. -/
def namesOf? : Value → Option (List String)
  | .text s => some [s]
  | v => v.texts?

/-- The fault of a value that is not one of the words for a field.  The value is written to tell
this. -/
def refusedWord [Host] (id name typeName : String) (v : Value) : Fault :=
  match v.writeFault? (Host.levels name) with
  | some (.recursion doing) => .recursion doing
  | some f => .rule id f.message (some name)
  | none => .rule id (Fault.unknownChoice v.inner typeName).message (some name)

/-- Converts the value of a field to its shape. -/
def convertField [Host] (id name : String) (shape : FieldShape) (v : Value) : Except Fault Value :=
  match shape with
  | .severity =>
    if (v.text?.bind Severity.ofWord?).isSome then .ok v
    else .error (refusedWord id name "Severity" v)
  | .mode =>
    if (v.text?.bind RuleMode.ofWord?).isSome then .ok v
    else .error (refusedWord id name "RuleMode" v)
  | .names =>
    match namesOf? v with
    | some l => .ok (.ofTexts l)
    | none => .error (.rule id "expected a string or a list of strings" (some name))
  | .nameSet =>
    match namesOf? v with
    | some l => .ok (.ofTexts (Text.sortedSet l))
    | none => .error (.rule id "expected a string or a list of strings" (some name))
  | .real =>
    match v with
    | .int i =>
      match Binary64.ofInt i with
      | .infinite _ => .error .tooLargeForReal
      | x => .ok (.real x)
    | v => if shape.fits v then .ok v else .error (.rule id (shape.mismatch v) (some name))
  | _ => if shape.fits v then .ok v else .error (.rule id (shape.mismatch v) (some name))

/-- Converts the fields of a table in their order. -/
def convertFields [Host] (id : String) (shapes : List (String × FieldShape)) :
    Table → Except Fault Table
  | [] => .ok []
  | (name, v) :: rest => do
    let v ← convertField id name ((shapes.lookup name).getD .text) v
    return (name, v) :: (← convertFields id shapes rest)

/-- The kind of rule that a value names. -/
def ruleKindOf [Host] (id : String) : Value → Except Fault RuleKind
  | .null => .error (.rule id "missing 'type'" (some "type"))
  | .list _ => .error (.unhashable "list")
  | .table _ => .error (.unhashable "dict")
  | v =>
    match v.text?.bind RuleKind.ofWord? with
    | some k => .ok k
    | none => do
      let words := (RuleKind.all.map RuleKind.word).mergeSort Text.precedes
      throw (.rule id ("unknown type '" ++ (← v.written "type") ++ "', expected one of " ++
        ", ".intercalate words) (some "type"))

/-- Reads a rule from a value that stands for a table.  A missing or unknown type is reported first,
then unknown fields, a missing id, and the first field whose value cannot be converted. -/
def RuleSpec.read [Host] (v : Value) : Except Fault RuleSpec := do
  let loose ← LooseTable.ofValue v
  let table := loose.named
  let id ← match table.get? "id" with
    | some v => v.written "id"
    | none => pure unnamedRule
  let kind ← ruleKindOf id ((table.get? "type").getD .null)
  let fields := table.erase "type"
  let unknown := Text.sortedSet (fields.keys.filter fun k => (kind.fields.lookup k).isNone)
  loose.listing unknown
  if !unknown.isEmpty then
    throw (.rule id ("unknown field(s): " ++ ", ".intercalate unknown) none)
  if !fields.has "id" then throw (.rule id "missing 'id'" (some "id"))
  return RuleSpec.ofFields kind (← convertFields id kind.fields fields)

/-! ## Direct values -/

/-- The first field whose value does not have its shape. -/
def firstMismatch? (t : Table) : List (String × FieldShape) → Option (String × String)
  | [] => none
  | (name, shape) :: rest =>
    match t.get? name with
    | some v => if shape.fits v then firstMismatch? t rest else some (name, shape.mismatch v)
    | none => firstMismatch? t rest

/-- Takes over the fields of a rule directly: the id must be a text that is not empty, and every
value must have its shape. -/
def RuleSpec.ofValues (kind : RuleKind) (t : Table) : Except Fault RuleSpec := do
  match t.keys.find? fun k => (kind.fields.lookup k).isNone with
  | some k => throw (.unexpectedField kind.ownerName k)
  | none => pure ()
  match t.get? "id" with
  | none => throw (.missingField kind.ownerName "id")
  | some (.list _) => throw (.unhashable "list")
  | some (.table _) => throw (.unhashable "dict")
  | some (.text "") => throw noId
  | some (.text id) =>
    match firstMismatch? t kind.fields with
    | some (name, reason) => throw (.rule id reason (some name))
    | none => return RuleSpec.ofFields kind t
  | some v =>
    if v.isAbsent then throw noId
    throw (.rule v.shown idReason (some "id"))
where
  /-- What is wrong with the id. -/
  idReason : String := "rule id must be a non-empty string"
  /-- A rule has no id. -/
  noId : Fault := .rule unnamedRule idReason (some "id")

end Conformance
