/-
# Namespaces and folders

The namespace that a file should have is read off its folders: those below a given one, from the
first whose name begins as the names of projects do, or after leaving out some.
-/
import Conformance.Finding

namespace Conformance
open Source

variable [Host] [m : Memory]

/-- The items of a list from an index on; a negative index counts from the end. -/
def dropFrom {α : Type} (start : Int) (l : List α) : List α :=
  if 0 ≤ start then l.drop start.toNat else l.drop (l.length - (-start).toNat)

namespace NamespaceSpec

/-- The folder below which files are checked, with a slash at its end. -/
def folder (n : NamespaceSpec) : String :=
  if n.sourcePrefix.isEmpty || Text.endsWith n.sourcePrefix "/" then n.sourcePrefix
  else n.sourcePrefix ++ "/"

/-- The index of the first folder that counts. -/
def firstSegment (n : NamespaceSpec) (folders : List String) : Int :=
  match nonEmpty n.projectPrefix with
  | none => n.skipSegments
  | some start =>
    match folders.findIdx? fun f => Text.startsWith f start with
    | some i => i
    | none => n.skipSegments

/-- The namespace that the file at a path should have, if the rule is about it. -/
def expected? (n : NamespaceSpec) (path : String) : Option String :=
  if Text.startsWith path n.folder then
    let below := String.ofList (path.toList.drop n.folder.length)
    let folders := (Text.pieces '/' below).dropLast
    match dropFrom (n.firstSegment folders) folders with
    | [] => none
    | segments => some (".".intercalate segments)
  else none

/-- Whether files at a path are not checked. -/
def exempts (n : NamespaceSpec) (path : String) : Bool :=
  n.exemptPaths.any (Text.contains ("/" ++ path))

/-- The line of the namespace of a file. -/
def lineOf (f : FileDeclarations) : Int :=
  ((f.declarations.find? (·.kind == .nameSpace)).map (·.line)).getD 1

/-- The violation of a namespace rule by a file. -/
def check (n : NamespaceSpec) (r : Rule) (f : FileDeclarations) :
    Except Fault (List Violation) :=
  let found := f.namespaceName
  if found == unknownNamespace || n.exempts f.path then .ok []
  else match n.expected? f.path with
    | none => .ok []
    | some expected =>
      if found == expected || r.heading.allows found || r.heading.allows f.path then .ok []
      else
        let context : MessageContext :=
          { name := found
            kind := DeclarationKind.nameSpace.word
            path := f.path
            line := lineOf f
            namespaceName := found
            reason := "expected " ++ expected }
        (r.violation context [("expected", .text expected)]).map ([·])

end NamespaceSpec
end Conformance
