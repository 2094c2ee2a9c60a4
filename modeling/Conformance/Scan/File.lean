/-
# Scanning one file

One file is read, its declarations are found, and the rules that look at one file alone are applied.
A file that cannot be read is skipped, with the reason; this is no fault of the scan.
-/
import Conformance.Files.SourceText
import Conformance.Scan.Discovery

namespace Conformance

variable [Host] [m : Memory]

/-- What came of a file. -/
inductive FileOutcome where
  /-- The file could not be read, for a reason. -/
  | skipped (reason : String)
  /-- The file was read. -/
  | scanned (declarations : Source.FileDeclarations) (violations : List Violation)
  deriving Repr, Inhabited

/-- A file and what came of it. -/
structure FileResult where
  /-- The path below the root. -/
  path : String
  /-- What came of it. -/
  outcome : FileOutcome
  deriving Repr, Inhabited

namespace FileResult

/-- The reason for which a file was skipped. -/
def reason? (r : FileResult) : Option String :=
  match r.outcome with
  | .skipped reason => some reason
  | .scanned .. => none

/-- Whether a file was skipped. -/
def isSkipped (r : FileResult) : Bool :=
  r.reason?.isSome

/-- The declarations of a file that was read. -/
def declarations? (r : FileResult) : Option Source.FileDeclarations :=
  match r.outcome with
  | .skipped _ => none
  | .scanned ds _ => some ds

/-- The violations of a file. -/
def violations (r : FileResult) : List Violation :=
  match r.outcome with
  | .skipped _ => []
  | .scanned _ vs => vs

/-- Results in the order of their paths. -/
def sort (results : List FileResult) : List FileResult :=
  results.mergeSort fun a b => Text.precedes a.path b.path

end FileResult

namespace Scanner

/-- The lines of a file, or the reason for which it is skipped. -/
def readFile (s : Scanner) (files : FileSystem) (path : Path) :
    Except Fault (Except String (List String)) := do
  let limit ← s.settings.maxBytes
  match files.readSource path s.settings.encoding (some (.whole limit)) with
  | .ok lines => return .ok lines
  | .error (.fileAccess _ reason) => return .error reason
  | .error f => throw f

/-- What the rules say of a file with the given lines. -/
def scanLines (s : Scanner) (relative : String) (lines : List String) :
    Except Fault FileResult := do
  let declarations := Source.extract s.tracker ⟨relative, lines⟩
  let violations ← s.rules.evaluateFile declarations
  return ⟨relative, .scanned declarations violations⟩

/-- Scans one file. -/
def scanFile (s : Scanner) (files : FileSystem) (path : Path) : Except Fault FileResult := do
  let relative ← s.relative path
  match ← s.readFile files path with
  | .ok lines => s.scanLines relative lines
  | .error reason => return ⟨relative, .skipped reason⟩

end Scanner
end Conformance
