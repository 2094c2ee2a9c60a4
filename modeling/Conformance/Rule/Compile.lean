/-
# Rules that have been checked

Checking a rule reads its template and its patterns and turns words into kinds.  The first fault,
in a fixed order of the fields, is reported.  A `RuleSet` holds checked rules with different
identities.
-/
import Conformance.Pattern.Reader
import Conformance.Rule.Message
import Conformance.Source.Kind

namespace Conformance

variable [Host] [m : Memory]

/-- A checked placement rule. -/
structure Placement where
  /-- The pattern of names. -/
  names : Pattern Nat
  /-- The same pattern as it is written. -/
  patternText : String
  /-- The kinds of declarations. -/
  kinds : List DeclarationKind
  /-- Kinds of containers one of which must enclose the declaration. -/
  required : List ContainerKind
  /-- Kinds of containers none of which may enclose it. -/
  forbidden : List ContainerKind
  /-- The pattern of the names of containers that count. -/
  containers : Option (Pattern Nat)
  /-- Whether every enclosing container counts, and not only the innermost. -/
  anyScope : Bool
  /-- A part that the path must have. -/
  requiredPath : Option String
  /-- A part that the path must not have. -/
  forbiddenPath : Option String
  /-- Whether the file must have a namespace. -/
  requireNamespace : Bool
  /-- How many such declarations the whole tree may have. -/
  maxCount : Option Nat
  deriving DecidableEq, Repr, Inhabited

namespace Placement

/-- Whether the rule names containers. -/
def namesContainers (p : Placement) : Bool :=
  !p.required.isEmpty || !p.forbidden.isEmpty

/-- Whether the rule says anything about single declarations. -/
def hasConstraints (p : Placement) : Bool :=
  p.namesContainers || p.requiredPath.isSome || p.forbiddenPath.isSome || p.requireNamespace

/-- Whether the rule says nothing but the pattern, so that every match is reported. -/
def reportsEveryMatch (p : Placement) : Bool :=
  !p.hasConstraints && p.maxCount.isNone

/-- Whether a container is one that the rule is about. -/
def concerns (p : Placement) (kind : ContainerKind) (name : String) : Bool :=
  (p.required.contains kind || p.forbidden.contains kind) &&
    (match p.containers with
     | some pattern => pattern.occursIn name
     | none => true)

end Placement

/-- A checked usage rule. -/
structure Usage where
  /-- The pattern. -/
  pattern : Pattern Nat
  /-- Parts of paths that are not checked. -/
  exemptPaths : List String
  /-- Texts that exempt a file that holds them. -/
  exemptIfContains : List String
  deriving DecidableEq, Repr, Inhabited

/-- A checked duplicate rule. -/
structure Duplication where
  /-- The kinds of declarations. -/
  kinds : List DeclarationKind
  /-- The pattern of what is removed from a name. -/
  suffix : Pattern Nat
  /-- Whether the members of a group must have different suffixes. -/
  distinctSuffixes : Bool
  /-- The least size of a group. -/
  minGroup : Nat
  /-- Whether groups of nothing but declarations visible in their file are passed over. -/
  ignoreFileScoped : Bool
  deriving DecidableEq, Repr, Inhabited

namespace Duplication

/-- What is left of a name without its suffix; a name that is nothing but a suffix stays. -/
def baseKey (d : Duplication) (name : String) : String :=
  match d.suffix.removeFrom name.toList with
  | [] => name
  | rest => String.ofList rest

/-- What the base of a name leaves of it. -/
def suffixOf (d : Duplication) (name : String) : String :=
  String.ofList (name.toList.drop (d.baseKey name).length)

end Duplication

/-- What a similarity rule compares. -/
inductive Comparison where
  /-- Sets of members with at least a given number of them. -/
  | members (least : Nat)
  /-- Names. -/
  | names
  deriving DecidableEq, Repr, Inhabited

/-- A checked similarity rule. -/
structure Similarity where
  /-- The kinds of declarations. -/
  kinds : List DeclarationKind
  /-- The pattern of names that are compared. -/
  subjects : Option (Pattern Nat)
  /-- The least similarity that is reported. -/
  threshold : Binary64
  /-- What is compared. -/
  comparison : Comparison
  deriving DecidableEq, Repr, Inhabited

/-- What a checked rule checks. -/
inductive Check where
  /-- Where declarations may live. -/
  | placement (p : Placement)
  /-- Namespaces mirror folders. -/
  | nameSpace (n : NamespaceSpec)
  /-- Text that must not occur. -/
  | usage (u : Usage)
  /-- Type names that differ by a suffix. -/
  | duplicate (d : Duplication)
  /-- Overlapping member sets or names. -/
  | similarity (s : Similarity)
  deriving DecidableEq, Repr, Inhabited

/-- The kind of a check. -/
def Check.kind : Check → RuleKind
  | .placement _ => .placement
  | .nameSpace _ => .nameSpace
  | .usage _ => .usage
  | .duplicate _ => .duplicate
  | .similarity _ => .similarity

/-- A rule that has been checked. -/
structure Rule where
  /-- What every rule has. -/
  heading : RuleHeading
  /-- The template of its messages. -/
  template : Template
  /-- What it checks. -/
  check : Check
  deriving DecidableEq, Repr, Inhabited

/-- The identity of a rule. -/
def Rule.id (r : Rule) : String :=
  r.heading.id

/-! ## Checking the fields of a rule -/

/-- Reads a pattern in a field of a rule.  A limit that the pattern passes is no fault of the rule
but of the pattern alone. -/
def checkPattern (id field text : String) : Except Fault (Pattern Nat) :=
  match Pattern.read text.toList with
  | .ok p => .ok p
  | .error e =>
    if e.cause.isLimit then .error (.pattern text e)
    else .error (.rule id ("bad regex " ++ Text.quoted text ++ ": " ++ e.message text.toList)
      (some field))

/-- Reads a pattern that may be missing. -/
def checkPattern? (id field : String) : Option String → Except Fault (Option (Pattern Nat))
  | none => .ok none
  | some text => (checkPattern id field text).map some

/-- Turns words into kinds of a type. -/
def checkWords {α : Type} (ofWord? : String → Option α) (typeName id field : String) :
    List String → Except Fault (List α)
  | [] => .ok []
  | w :: ws =>
    match ofWord? w with
    | none => .error (.rule id (Fault.unknownChoice (Text.quoted w) typeName).message (some field))
    | some a => (checkWords ofWord? typeName id field ws).map (a :: ·)

/-- Turns words into kinds of declarations. -/
def checkKinds (id : String) (words : List String) : Except Fault (List DeclarationKind) :=
  checkWords DeclarationKind.ofWord? "DeclarationKind" id "kinds" words

/-- Turns words into kinds of containers. -/
def checkContainers (id field : String) (words : List String) :
    Except Fault (List ContainerKind) :=
  checkWords ContainerKind.ofWord? "ContainerKind" id field words

/-- Fails with a reason unless a condition on a field holds. -/
def demand (condition : Bool) (id field reason : String) : Except Fault Unit :=
  if condition then .ok () else .error (.rule id reason (some field))

/-- A text that is there and not empty. -/
def nonEmpty (s : Option String) : Option String :=
  s.filter (!·.isEmpty)

/-- Checks a placement rule. -/
def PlacementSpec.compile (id : String) (s : PlacementSpec) : Except Fault Placement := do
  let names ← checkPattern id "pattern" s.pattern
  let containers ← checkPattern? id "container_pattern" s.containerPattern
  let kinds ← checkKinds id s.kinds
  demand (!kinds.isEmpty) id "kinds" "at least one kind required"
  let required ← checkContainers id "required_container" s.requiredContainer
  let forbidden ← checkContainers id "forbidden_container" s.forbiddenContainer
  demand (s.containerScope == "innermost" || s.containerScope == "any") id "container_scope"
    "container_scope must be 'innermost' or 'any'"
  demand (decide (0 ≤ s.maxCount.getD 0)) id "max_count" "max_count must not be negative"
  return {
    names := names
    patternText := s.pattern
    kinds := kinds
    required := required
    forbidden := forbidden
    containers := containers
    anyScope := s.containerScope == "any"
    requiredPath := nonEmpty s.requiredPath
    forbiddenPath := nonEmpty s.forbiddenPath
    requireNamespace := s.requireNamespace
    maxCount := s.maxCount.map Int.toNat }

/-- Checks a namespace rule. -/
def NamespaceSpec.compile (id : String) (s : NamespaceSpec) : Except Fault NamespaceSpec := do
  demand (decide (0 ≤ s.skipSegments)) id "skip_segments" "skip_segments must not be negative"
  return s

/-- Checks a usage rule. -/
def UsageSpec.compile (id : String) (s : UsageSpec) : Except Fault Usage := do
  demand (!s.pattern.isEmpty) id "pattern" "pattern must not be empty"
  let pattern ← checkPattern id "pattern" s.pattern
  return ⟨pattern, s.exemptPaths, s.exemptIfContains⟩

/-- The pattern of a family of suffixes at the end of a name: longer ones are tried first. -/
def suffixFamily (suffixes : List String) : Pattern Nat :=
  .seq (Pattern.words (suffixes.mergeSort fun a b => decide (b.length ≤ a.length)))
    (.anchor .lastLineEnd)

/-- The pattern of what a duplicate rule removes from names. -/
def DuplicateSpec.checkSuffix (id : String) (s : DuplicateSpec) :
    Except Fault (Pattern Nat) := do
  if s.requireDistinctSuffixes then
    demand (!s.suffixes.isEmpty) id "suffixes" "suffixes required with require_distinct_suffixes"
    return suffixFamily s.suffixes
  else checkPattern id "suffix_pattern" s.suffixPattern

/-- Checks a duplicate rule. -/
def DuplicateSpec.compile (id : String) (s : DuplicateSpec) : Except Fault Duplication := do
  let kinds ← checkKinds id s.kinds
  let suffix ← s.checkSuffix id
  demand (decide (2 ≤ s.minGroup)) id "min_group" "min_group must be at least 2"
  return ⟨kinds, suffix, s.requireDistinctSuffixes, s.minGroup.toNat, s.ignoreFileScoped⟩

/-- Checks a similarity rule. -/
def SimilaritySpec.compile (id : String) (s : SimilaritySpec) : Except Fault Similarity := do
  let kinds ← checkKinds id s.kinds
  let subjects ← checkPattern? id "subject_pattern" s.subjectPattern
  demand (Binary64.zero.lt s.similarity && s.similarity.le (Binary64.ofInt 1)) id "similarity"
    "similarity must be in (0, 1]"
  demand (decide (1 ≤ s.minMembers)) id "min_members" "min_members must be at least 1"
  demand (s.compare == "members" || s.compare == "names") id "compare"
    "compare must be 'members' or 'names'"
  return ⟨kinds, subjects, s.similarity,
    if s.compare == "names" then .names else .members s.minMembers.toNat⟩

/-- Checks what a rule checks. -/
def RuleBody.compile (id : String) : RuleBody → Except Fault Check
  | .placement s => (s.compile id).map .placement
  | .nameSpace s => (s.compile id).map .nameSpace
  | .usage s => (s.compile id).map .usage
  | .duplicate s => (s.compile id).map .duplicate
  | .similarity s => (s.compile id).map .similarity

/-- Checks a rule: its id, its threshold, its template, and then what it checks. -/
def RuleSpec.compile (r : RuleSpec) : Except Fault Rule := do
  let id := r.heading.id
  demand (!id.isEmpty) "<unnamed>" "id" "rule id must be a non-empty string"
  demand (decide (0 ≤ r.heading.threshold)) id "threshold" "threshold must not be negative"
  let template ← checkTemplate r.body.kind id r.templateText
  let check ← r.body.compile id
  return ⟨r.heading, template, check⟩

/-! ## Sets of rules -/

/-- Checked rules, in the order in which they were given. -/
structure RuleSet where
  /-- The rules. -/
  rules : List Rule
  deriving DecidableEq, Repr, Inhabited

namespace RuleSet

/-- Checks rules one after another; none may have the id of an earlier one. -/
def compileFrom : (seen : List String) → List RuleSpec → Except Fault (List Rule)
  | _, [] => .ok []
  | seen, r :: rs => do
    demand (!seen.contains r.heading.id) r.heading.id "id" "duplicate rule id"
    let rule ← r.compile
    return rule :: (← compileFrom (r.heading.id :: seen) rs)

/-- Checks rules. -/
def ofSpecs (specs : List RuleSpec) : Except Fault RuleSet :=
  (compileFrom [] specs).map RuleSet.mk

/-- The headings of the rules. -/
def headings (s : RuleSet) : List RuleHeading :=
  s.rules.map (·.heading)

/-- The placement rules. -/
def placements (s : RuleSet) : List (Rule × Placement) :=
  s.rules.filterMap fun r => match r.check with
    | .placement p => some (r, p)
    | _ => none

/-- The namespace rules. -/
def namespaces (s : RuleSet) : List (Rule × NamespaceSpec) :=
  s.rules.filterMap fun r => match r.check with
    | .nameSpace n => some (r, n)
    | _ => none

/-- The usage rules. -/
def usages (s : RuleSet) : List (Rule × Usage) :=
  s.rules.filterMap fun r => match r.check with
    | .usage u => some (r, u)
    | _ => none

/-- The duplicate rules. -/
def duplications (s : RuleSet) : List (Rule × Duplication) :=
  s.rules.filterMap fun r => match r.check with
    | .duplicate d => some (r, d)
    | _ => none

/-- The similarity rules. -/
def similarities (s : RuleSet) : List (Rule × Similarity) :=
  s.rules.filterMap fun r => match r.check with
    | .similarity t => some (r, t)
    | _ => none

end RuleSet
end Conformance
