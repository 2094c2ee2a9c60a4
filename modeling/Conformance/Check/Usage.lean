/-
# Usages

A usage rule looks for a pattern on every line that is no comment.  A line has at most one finding,
its first match.
-/
import Conformance.Finding

namespace Conformance
open Source

variable [Host] [m : Memory]

namespace Usage

/-- Whether a file is not checked. -/
def exempts (u : Usage) (file : SourceFile) : Bool :=
  u.exemptPaths.any (Text.contains ("/" ++ file.path)) ||
    u.exemptIfContains.any (Text.contains file.text)

/-- The text that breaks the rule on a line. -/
def subject? (u : Usage) (heading : RuleHeading) (line : String) : Option String :=
  if isCommentLine line.toList then none
  else ((u.pattern.search? line.toList).map fun m => String.ofList m.text).filter
    fun s => !heading.allows s

/-- The violation on a line, if there is one. -/
def checkLine (u : Usage) (r : Rule) (f : FileDeclarations) (line : String) (number : Nat) :
    Except Fault (Option Violation) :=
  match u.subject? r.heading line with
  | none => .ok none
  | some subject =>
    let context : MessageContext :=
      { name := subject
        kind := "usage"
        path := f.path
        line := number
        namespaceName := f.namespaceName
        reason := "forbidden usage" }
    (r.violation context [("text", .text (Text.trimmed line))]).map some

/-- The violations of a usage rule by a file. -/
def check (u : Usage) (r : Rule) (f : FileDeclarations) : Except Fault (List Violation) :=
  if u.exempts f.file then .ok []
  else (f.file.lines.zipIdx 1).filterMapM fun (line, number) => u.checkLine r f line number

end Usage
end Conformance
