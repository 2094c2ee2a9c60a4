/-
# Rules

A rule has an identity, a severity, a mode that turns its number of findings into a verdict, a list
of names that it never reports, and a message template.  What it checks depends on its kind:

* *placement*: where declarations with a matching name may live;
* *namespace*: that the namespace of a file mirrors its folder;
* *usage*: that a text pattern does not occur on a line;
* *duplicate*: that type names do not differ by a suffix only;
* *similarity*: that member sets or names do not overlap too much.

A `RuleSpec` is a rule as it is written, with fields of the right types; `Rule` (see
`Conformance.Rule.Compile`) is one that has been checked.
-/
import Conformance.Value.Basic

namespace Conformance

/-- How bad a finding is. -/
inductive Severity where
  /-- An error. -/
  | error
  /-- A warning. -/
  | warning
  /-- A remark. -/
  | info
  deriving DecidableEq, Repr, Inhabited

namespace Severity

/-- Every severity. -/
def all : List Severity :=
  [.error, .warning, .info]

/-- The word for a severity. -/
def word : Severity → String
  | .error => "error"
  | .warning => "warning"
  | .info => "info"

/-- The severity with a given word. -/
def ofWord? (w : String) : Option Severity :=
  all.find? (·.word == w)

end Severity

/-- How a number of findings becomes a verdict. -/
inductive RuleMode where
  /-- Any finding fails. -/
  | enforcing
  /-- Nothing fails. -/
  | advisory
  /-- More findings than the threshold fail. -/
  | threshold
  deriving DecidableEq, Repr, Inhabited

namespace RuleMode

/-- Every mode. -/
def all : List RuleMode :=
  [.enforcing, .advisory, .threshold]

/-- The word for a mode. -/
def word : RuleMode → String
  | .enforcing => "enforcing"
  | .advisory => "advisory"
  | .threshold => "threshold"

/-- The mode with a given word. -/
def ofWord? (w : String) : Option RuleMode :=
  all.find? (·.word == w)

end RuleMode

/-- What every rule has. -/
structure RuleHeading where
  /-- The identity. -/
  id : String
  /-- What the rule is about. -/
  description : String := ""
  /-- How bad its findings are. -/
  severity : Severity := .error
  /-- How its findings become a verdict. -/
  mode : RuleMode := .enforcing
  /-- The number of findings that is tolerated in threshold mode. -/
  threshold : Int := 0
  /-- What is never reported. -/
  allowList : List String := []
  /-- The message template; if empty, the one of the kind of rule. -/
  message : String := ""
  deriving DecidableEq, Repr, Inhabited

namespace RuleHeading

/-- Whether a name is never reported. -/
def allows (h : RuleHeading) (name : String) : Bool :=
  h.allowList.contains name

/-- Whether a number of findings passes. -/
def passes (h : RuleHeading) (count : Int) : Bool :=
  match h.mode with
  | .advisory => true
  | .threshold => decide (count ≤ h.threshold)
  | .enforcing => count == 0

end RuleHeading

/-- The kinds of rules. -/
inductive RuleKind where
  /-- Where declarations may live. -/
  | placement
  /-- Namespaces mirror folders. -/
  | nameSpace
  /-- Text that must not occur. -/
  | usage
  /-- Type names that differ by a suffix. -/
  | duplicate
  /-- Overlapping member sets or names. -/
  | similarity
  deriving DecidableEq, Repr, Inhabited

namespace RuleKind

/-- Every kind of rule. -/
def all : List RuleKind :=
  [.placement, .nameSpace, .usage, .duplicate, .similarity]

/-- The word for a kind of rule. -/
def word : RuleKind → String
  | .placement => "placement"
  | .nameSpace => "namespace"
  | .usage => "usage"
  | .duplicate => "duplicate"
  | .similarity => "similarity"

/-- The kind of rule with a given word. -/
def ofWord? (w : String) : Option RuleKind :=
  all.find? (·.word == w)

/-- The name under which diagnostics show a kind of rule. -/
def ownerName : RuleKind → String
  | .placement => "PlacementRule"
  | .nameSpace => "NamespaceRule"
  | .usage => "UsageRule"
  | .duplicate => "DuplicateRule"
  | .similarity => "SimilarityRule"

end RuleKind

/-- Where declarations whose name matches a pattern may live. -/
structure PlacementSpec where
  /-- The pattern of names. -/
  pattern : String := ".*"
  /-- The kinds of declarations. -/
  kinds : List String := ["type", "interface", "enum"]
  /-- Containers one of which must enclose the declaration. -/
  requiredContainer : List String := []
  /-- Containers none of which may enclose it. -/
  forbiddenContainer : List String := []
  /-- The pattern of the names of containers that count. -/
  containerPattern : Option String := none
  /-- Whether the innermost container counts or any. -/
  containerScope : String := "innermost"
  /-- A part that the path must have. -/
  requiredPath : Option String := none
  /-- A part that the path must not have. -/
  forbiddenPath : Option String := none
  /-- Whether the file must have a namespace. -/
  requireNamespace : Bool := false
  /-- How many such declarations the whole tree may have. -/
  maxCount : Option Int := none
  deriving DecidableEq, Repr, Inhabited

/-- The namespace of a file mirrors its folder. -/
structure NamespaceSpec where
  /-- The folder below which files are checked. -/
  sourcePrefix : String := ""
  /-- How many leading folders do not count. -/
  skipSegments : Int := 0
  /-- The start of the first folder that counts. -/
  projectPrefix : Option String := none
  /-- Parts of paths that are not checked. -/
  exemptPaths : List String := []
  deriving DecidableEq, Repr, Inhabited

/-- Text that must not occur on a line. -/
structure UsageSpec where
  /-- The pattern. -/
  pattern : String := ""
  /-- Parts of paths that are not checked. -/
  exemptPaths : List String := []
  /-- Texts that exempt a file that holds them. -/
  exemptIfContains : List String := []
  deriving DecidableEq, Repr, Inhabited

/-- The suffixes that make a name a duplicate of another. -/
def defaultDuplicateSuffix : String := "(?:Impl|V\\d+|Old|New|Legacy)$"

/-- Type names that have the same base. -/
structure DuplicateSpec where
  /-- The kinds of declarations. -/
  kinds : List String := ["type", "interface", "enum"]
  /-- The pattern of the suffix that is removed. -/
  suffixPattern : String := defaultDuplicateSuffix
  /-- The family of suffixes that is removed instead. -/
  suffixes : List String := []
  /-- Whether the family is used, and members of a group must have different suffixes. -/
  requireDistinctSuffixes : Bool := false
  /-- The least size of a group. -/
  minGroup : Int := 2
  /-- Whether groups of nothing but declarations visible in their file are passed over. -/
  ignoreFileScoped : Bool := true
  deriving DecidableEq, Repr, Inhabited

/-- The default similarity that is reported: four fifths. -/
def defaultSimilarity : Binary64 :=
  Binary64.ofRatio 4 5

/-- Pairs of declarations whose member sets or names overlap. -/
structure SimilaritySpec where
  /-- The kinds of declarations. -/
  kinds : List String := ["enum"]
  /-- The pattern of names that are compared. -/
  subjectPattern : Option String := none
  /-- The least similarity that is reported. -/
  similarity : Binary64 := defaultSimilarity
  /-- The least number of members. -/
  minMembers : Int := 3
  /-- What is compared: members or names. -/
  compare : String := "members"
  deriving DecidableEq, Repr, Inhabited

/-- What a rule checks, as written. -/
inductive RuleBody where
  /-- A placement rule. -/
  | placement (spec : PlacementSpec)
  /-- A namespace rule. -/
  | nameSpace (spec : NamespaceSpec)
  /-- A usage rule. -/
  | usage (spec : UsageSpec)
  /-- A duplicate rule. -/
  | duplicate (spec : DuplicateSpec)
  /-- A similarity rule. -/
  | similarity (spec : SimilaritySpec)
  deriving DecidableEq, Repr, Inhabited

/-- The kind of a rule. -/
def RuleBody.kind : RuleBody → RuleKind
  | .placement _ => .placement
  | .nameSpace _ => .nameSpace
  | .usage _ => .usage
  | .duplicate _ => .duplicate
  | .similarity _ => .similarity

/-- A rule as written. -/
structure RuleSpec where
  /-- What every rule has. -/
  heading : RuleHeading
  /-- What it checks. -/
  body : RuleBody
  deriving DecidableEq, Repr, Inhabited

end Conformance
