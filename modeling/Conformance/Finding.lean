/-
# Findings

A violation is a place where a declaration or a line breaks a rule.  Violations are ordered by path,
line, rule and subject; nothing else about them counts for the order.
-/
import Conformance.Rule.Compile
import Conformance.Source.Declaration

namespace Conformance

variable [Host] [m : Memory]

/-- One finding of a rule at a place. -/
structure Violation where
  /-- The path of the file. -/
  path : String
  /-- The number of the line. -/
  line : Int
  /-- The identity of the rule. -/
  ruleId : String
  /-- What breaks the rule. -/
  subject : String
  /-- How bad it is. -/
  severity : Severity := .error
  /-- The message. -/
  message : String := ""
  /-- The name of the container that matters. -/
  containerName : Option String := none
  /-- The word for its kind. -/
  containerKind : Option String := none
  /-- The namespace of the file. -/
  namespaceName : Option String := none
  deriving DecidableEq, Repr, Inhabited

namespace Violation

/-- Order by path, line, rule and subject, as a test. -/
def precedes (a b : Violation) : Bool :=
  if a.path != b.path then decide (a.path < b.path)
  else if a.line != b.line then decide (a.line < b.line)
  else if a.ruleId != b.ruleId then decide (a.ruleId < b.ruleId)
  else !decide (b.subject < a.subject)

/-- Violations in order; those that the order does not tell apart stay as they were. -/
def sort (vs : List Violation) : List Violation :=
  vs.mergeSort precedes

end Violation

/-! ## Messages -/

/-- What a message can tell about a finding of any rule. -/
structure MessageContext where
  /-- The name of what was found. -/
  name : String
  /-- The word for its kind. -/
  kind : String
  /-- The path of the file. -/
  path : String
  /-- The number of the line. -/
  line : Int
  /-- The container that matters. -/
  container : Option Source.Frame := none
  /-- The namespace of the file. -/
  namespaceName : String
  /-- Why the rule is broken. -/
  reason : String
  deriving DecidableEq, Repr, Inhabited

namespace MessageContext

/-- The context of a declaration. -/
def ofDeclaration (d : Source.Declaration) (reason : String) (container : Option Source.Frame) :
    MessageContext where
  name := d.name
  kind := d.kind.word
  path := d.path
  line := d.line
  container := container
  namespaceName := d.namespaceName
  reason := reason

/-- The values of the fields of a message. -/
def values (c : MessageContext) (ruleId : String) (own : FieldValues) : FieldValues :=
  [("rule", .text ruleId), ("name", .text c.name), ("kind", .text c.kind), ("path", .text c.path),
    ("line", .int c.line), ("container", .text ((c.container.map (·.name)).getD "")),
    ("container_kind", .text ((c.container.map (·.kind.word)).getD "")),
    ("namespace", .text c.namespaceName), ("reason", .text c.reason)] ++ own

end MessageContext

/-- The message of a rule for a finding; `own` holds the fields that only its kind has. -/
def Rule.message (r : Rule) (c : MessageContext) (own : FieldValues) : Except Fault String :=
  (r.template.render (c.values r.id own)).mapError .template

/-- The violation of a rule in a context. -/
def Rule.violation (r : Rule) (c : MessageContext) (own : FieldValues) :
    Except Fault Violation := do
  let message ← r.message c own
  return {
    path := c.path
    line := c.line
    ruleId := r.id
    subject := c.name
    severity := r.heading.severity
    message := message
    containerName := c.container.map (·.name)
    containerKind := c.container.map (·.kind.word)
    namespaceName := some c.namespaceName }

end Conformance
