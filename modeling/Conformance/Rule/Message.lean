/-
# Message templates of rules

A rule words its findings with a template: its own, or the one of its kind.  Which fields a
template may use depends on the kind of rule.  A template is tried on a sample of every field before
the rule is accepted.
-/
import Conformance.Fault
import Conformance.Rule.Basic
import Conformance.Template.Render

namespace Conformance

/-- The template of a rule without one. -/
def RuleKind.defaultMessage : RuleKind → String
  | .placement => "\x7bkind\x7d \x7bname\x7d \x7breason\x7d"
  | .nameSpace => "namespace \x7bnamespace\x7d does not match folder, expected \x7bexpected\x7d"
  | .usage => "forbidden usage of \x7bname\x7d"
  | .duplicate =>
    "\x7bname\x7d duplicates \x7bbase\x7d (\x7bcount\x7d declarations: \x7bgroup\x7d)"
  | .similarity => "\x7bname\x7d overlaps \x7bother\x7d (\x7bratio:.0%\x7d)"

/-- Samples of the fields that only one kind of rule has. -/
def RuleKind.ownSamples : RuleKind → FieldValues
  | .placement => []
  | .nameSpace => [("expected", .text "Acme.Core")]
  | .usage => [("text", .text "var now = DateTime.UtcNow;")]
  | .duplicate => [("base", .text "Name"), ("count", .int 2), ("group", .text "Name, NameImpl")]
  | .similarity =>
    [("other", .text "Other"), ("ratio", .real defaultSimilarity), ("shared", .text "a, b")]

/-- Samples of all fields that the template of a rule may use. -/
def RuleKind.samples (kind : RuleKind) (id : String) : FieldValues :=
  [("rule", .text id), ("name", .text "Name"), ("kind", .text "type"),
    ("path", .text "src/Name.cs"), ("line", .int 1), ("container", .text "Container"),
    ("container_kind", .text "class"), ("namespace", .text "Acme"), ("reason", .text "reason")] ++
    kind.ownSamples

/-- The text of a rule's template. -/
def RuleSpec.templateText (r : RuleSpec) : String :=
  if r.heading.message.isEmpty then r.body.kind.defaultMessage else r.heading.message

/-- A fault in the message of a rule. -/
def messageFault (id reason : String) : Fault :=
  .rule id reason (some "message")

/-- A fault of a template as the fault of a rule.  A limit that is passed is no fault of the rule
but of the template alone. -/
def badTemplate (id : String) (e : TemplateFault) : Fault :=
  if e.isLimit then .template e
  else messageFault id ("bad message template: " ++ e.message)

/-- Reads the template of a rule and tries it: it must be well formed, use no unknown field, and
render with a sample of every field. -/
def checkTemplate [Host] [m : Memory] (kind : RuleKind) (id text : String) :
    Except Fault Template := do
  let template := Template.read text.toList
  let samples := kind.samples id
  match template.fault with
  | some e => throw (badTemplate id e)
  | none => pure ()
  match template.fields.find? fun f =>
      (samples.lookup (String.ofList (Template.rootOf f.name))).isNone with
  | some f => throw (messageFault id
      ("unknown message field '\x7b" ++ String.ofList f.name ++ "\x7d'"))
  | none => pure ()
  match template.render samples with
  | .error e => throw (badTemplate id e)
  | .ok _ => return template

end Conformance
