import Conformance.Calendar.Iso
import Conformance.Calendar.Moment
import Conformance.Check.Duplicate
import Conformance.Check.Evaluate
import Conformance.Check.Namespace
import Conformance.Check.Placement
import Conformance.Check.Similarity
import Conformance.Check.Usage
import Conformance.Command.Basic
import Conformance.Command.Log
import Conformance.Command.Markup
import Conformance.Command.Options
import Conformance.Command.Run
import Conformance.Command.Style
import Conformance.Fault
import Conformance.Files.Marker
import Conformance.Files.Path
import Conformance.Files.Problem
import Conformance.Files.Selection
import Conformance.Files.SourceText
import Conformance.Files.Tree
import Conformance.Finding
import Conformance.Main
import Conformance.Number.Basic
import Conformance.Number.Binary64
import Conformance.Number.Decimal
import Conformance.Number.Literal
import Conformance.Pattern.Basic
import Conformance.Pattern.CaseRule
import Conformance.Pattern.CharTest
import Conformance.Pattern.Fault
import Conformance.Pattern.Match
import Conformance.Pattern.Reader
import Conformance.Proofs.Order
import Conformance.Proofs.Pattern.Equations
import Conformance.Proofs.Pattern.Forward
import Conformance.Proofs.Scan.Cancel
import Conformance.Proofs.Scan.Pool
import Conformance.Proofs.Scan.Schedule
import Conformance.Proofs.Source.EnumBody
import Conformance.Proofs.Source.Found
import Conformance.Proofs.Source.History
import Conformance.Proofs.Source.Layout
import Conformance.Proofs.Source.LayoutDeclarations
import Conformance.Proofs.Source.LayoutScopes
import Conformance.Proofs.Source.MemberLine
import Conformance.Proofs.Source.Outline
import Conformance.Proofs.Source.StackOrder
import Conformance.Proofs.Source.StackPoints
import Conformance.Proofs.Source.TypeLine
import Conformance.Proofs.Steps
import Conformance.Proofs.Text.Letters
import Conformance.Report.Basic
import Conformance.Report.Boxed
import Conformance.Report.Data
import Conformance.Report.Format
import Conformance.Report.Markdown
import Conformance.Report.Notice
import Conformance.Rule.Basic
import Conformance.Rule.Compile
import Conformance.Rule.Message
import Conformance.Rule.Pack
import Conformance.Rule.Table
import Conformance.Scan.Discovery
import Conformance.Scan.File
import Conformance.Scan.Run
import Conformance.Settings.Basic
import Conformance.Settings.Load
import Conformance.Settings.Variables
import Conformance.Similarity.Members
import Conformance.Similarity.Names
import Conformance.Similarity.Pair
import Conformance.Similarity.Sequence
import Conformance.Similarity.Subjects
import Conformance.Source.Declaration
import Conformance.Source.Header
import Conformance.Source.Kind
import Conformance.Source.Scope
import Conformance.Source.Tail
import Conformance.Template.Basic
import Conformance.Template.Fault
import Conformance.Template.Layout
import Conformance.Template.Render
import Conformance.Template.ValueClass
import Conformance.Text.Blank
import Conformance.Text.Encoding
import Conformance.Text.Identifier
import Conformance.Text.Letters
import Conformance.Text.Lines
import Conformance.Text.LowerCase
import Conformance.Text.Name.Aliases
import Conformance.Text.Name.Alphabets
import Conformance.Text.Name.EastAsian
import Conformance.Text.Name.Historic
import Conformance.Text.Name.Lookup
import Conformance.Text.Name.Mathematical
import Conformance.Text.Name.Pictographs
import Conformance.Text.Name.Symbols
import Conformance.Text.Name.Table
import Conformance.Text.Order
import Conformance.Text.Pictograph.Codes
import Conformance.Text.Pictograph.FirstNames
import Conformance.Text.Pictograph.LastNames
import Conformance.Text.Pictograph.MiddleNames
import Conformance.Text.Printable
import Conformance.Text.Printed
import Conformance.Text.Quoted
import Conformance.Text.Ranges
import Conformance.Toml.Document
import Conformance.Toml.Fault
import Conformance.Toml.Moment
import Conformance.Toml.Scalar
import Conformance.Value.Basic
import Conformance.Value.Collection
import Conformance.Value.Json
import Conformance.Proofs.Check.Draft
import Conformance.Proofs.Similarity.Incidence
import Conformance.Proofs.Rule.Accepted
import Conformance.Proofs.Template.Alike
import Conformance.Proofs.Check.Wording
import Conformance.Proofs.Check.Narrower
import Conformance.Proofs.Rule.Loading
import Conformance.Proofs.Check.AllowList
import Conformance.Proofs.Source.Replay
import Conformance.Proofs.Source.Restriction
import Conformance.Proofs.Source.Located
import Conformance.Proofs.Check.AnyScope
import Conformance.Proofs.Check.FileOrder
import Conformance.Proofs.Report.Conservation
import Conformance.Proofs.Settings.Loading
import Conformance.Proofs.Source.Membership
import Conformance.Proofs.Source.Spans
import Conformance.Proofs.Source.Declared
import Conformance.Proofs.Similarity.Keys
import Conformance.Proofs.Pattern.Occurrences
import Conformance.Proofs.Source.TopLevel
import Conformance.Proofs.Source.ParameterName
import Conformance.Proofs.Source.Parameters
import Conformance.Proofs.Files.Removal
import Conformance.Proofs.Scan.Isolation
import Conformance.Proofs.Check.DuplicateClasses
import Conformance.Proofs.Source.Ownership
import Conformance.Proofs.Source.EnumScope
import Conformance.Proofs.Source.Comments
import Conformance.Proofs.Source.MemberEntries
import Conformance.Proofs.Check.MoreDeclarations
import Conformance.Proofs.Check.FirstUse
import Conformance.Proofs.Check.ContainerScope
import Conformance.Proofs.Source.HeaderLine
import Conformance.Proofs.Source.MemberType
import Conformance.Proofs.Pattern.Readable
import Conformance.Proofs.Source.ConstructorLine
import Conformance.Proofs.Source.BaseList
import Conformance.Proofs.Similarity.CommonRuns
import Conformance.Proofs.Similarity.Matching
import Conformance.Proofs.Text.LowerCase
import Conformance.Proofs.Similarity.NamePairs
import Conformance.Proofs.Number.Quotient
import Conformance.Proofs.Check.EqualNames
import Conformance.Proofs.Files.Listing
import Conformance.Proofs.Scan.Selected
import Conformance.Proofs.Report.Sections
import Conformance.Proofs.Report.OrderFree
import Conformance.Proofs.Check.SuffixFamily
import Conformance.Proofs.Report.Annotations
import Conformance.Proofs.Toml.DistinctKeys
import Conformance.Proofs.Settings.Precedence
import Conformance.Proofs.Source.ListParts
