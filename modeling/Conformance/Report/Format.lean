/-
# Forms of a report

The forms in which a report can be written, by name.  An unknown name is answered with the names
there are, and perhaps with those most like it.
-/
import Conformance.Report.Boxed
import Conformance.Report.Data
import Conformance.Report.Markdown
import Conformance.Report.Notice
import Conformance.Similarity.Names

namespace Conformance

/-- A form of a report. -/
inductive ReportFormat where
  /-- Markdown. -/
  | markdown
  /-- Data. -/
  | json
  /-- Boxed tables. -/
  | boxed
  /-- Notices beside the source. -/
  | notices
  deriving DecidableEq, Repr, Inhabited

namespace ReportFormat

/-- Every form. -/
def all : List ReportFormat :=
  [.markdown, .json, .boxed, .notices]

/-- The name of a form. -/
def word : ReportFormat → String
  | .markdown => "markdown"
  | .json => "json"
  | .boxed => "rich"
  | .notices => "github"

/-- The names of all forms, in order. -/
def names : List String :=
  Text.sorted (all.map word)

/-- The form with a name. -/
def ofWord? (w : String) : Option ReportFormat :=
  all.find? (·.word == w)

/-- The form that a value names, if it names one. -/
def ofValue? : Value → Except Fault (Option ReportFormat)
  | .text name => .ok (ofWord? name)
  | .list _ => .error (.unhashable "list")
  | .table _ => .error (.unhashable "dict")
  | _ => .ok none

/-- The form that a value names, or a fault that tells the names there are. -/
def find (v : Value) : Except Fault ReportFormat := do
  match ← ofValue? v with
  | some f => return f
  | none => throw (.unknownFormatter v.inner names [])

/-- The form that a value names, or a fault that also suggests similar names. -/
def resolve (v : Value) : Except Fault ReportFormat := do
  match ← ofValue? v, v with
  | some f, _ => return f
  | none, .text name =>
    throw (.unknownFormatter v.inner names (suggestionsAbove name names (Binary64.ofRatio 6 10)))
  | none, v => throw (.notIterable v.typeName)

/-- The text of a report in a form, with a layout for boxed tables. -/
def render (layout : Boxed.Layout) : ReportFormat → Report → String
  | .markdown => Markdown.render
  | .json => Report.json
  | .boxed => Boxed.render layout
  | .notices => Notice.render

/-- Whether a line feed follows the text when it is printed. -/
def printsLineFeed : ReportFormat → Bool
  | .boxed => false
  | _ => true

end ReportFormat
end Conformance
