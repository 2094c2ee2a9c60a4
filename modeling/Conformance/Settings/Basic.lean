/-
# Settings

Settings say which files are scanned and how.  They come from files, variables and options, so every
one is a value of any type until it is used; the check looks at what it compares and no further.
-/
import Conformance.Report.Basic
import Conformance.Source.Scope
import Conformance.Text.LowerCase
import Conformance.Value.Collection

namespace Conformance

/-- The settings of a scan. -/
structure Settings where
  /-- The suffixes of source files. -/
  extensions : Value := .ofTexts [".cs"]
  /-- The names of folders that are left out. -/
  excludedFolders : Value := .ofTexts ["obj", "bin"]
  /-- The folders that are scanned; none stands for the whole tree. -/
  sourceFolders : Value := .list []
  /-- The greatest size of a source file, in units of 1,048,576 bytes. -/
  maxFileSize : Value := .real (Binary64.ofInt 10)
  /-- The encoding of source files. -/
  encoding : Value := .text "utf-8"
  /-- How open types are followed. -/
  scopeMode : Value := .text "stack"
  /-- The number of files read at the same time. -/
  workers : Value := .null
  /-- The number of files from which on several are read at the same time. -/
  parallelThreshold : Value := .int 10
  /-- Whether the default rules apply when no others are given. -/
  useDefaultRules : Value := .flag true
  /-- The markers of layers. -/
  layers : Value := .ofTexts defaultLayers
  /-- The form of the report. -/
  outputFormat : Value := .text "markdown"
  /-- How much is logged. -/
  verbosity : Value := .text "normal"
  /-- The tables of rules. -/
  ruleTables : Value := .list []
  deriving Inhabited

namespace Settings

/-! ## Settings and tables -/

/-- The settings as a table. -/
def toTable (s : Settings) : Table := [
  ("extensions", s.extensions),
  ("excluded_dirs", s.excludedFolders),
  ("source_dirs", s.sourceFolders),
  ("max_file_size_mb", s.maxFileSize),
  ("encoding", s.encoding),
  ("scope_mode", s.scopeMode),
  ("workers", s.workers),
  ("parallel_threshold", s.parallelThreshold),
  ("use_default_rules", s.useDefaultRules),
  ("layers", s.layers),
  ("output_format", s.outputFormat),
  ("verbosity", s.verbosity),
  ("rule_tables", s.ruleTables)]

/-- The settings that differ in nothing from the usual ones. -/
def usual : Settings := {}

/-- The names of the settings. -/
def names : List String :=
  usual.toTable.keys

/-- The value that a table gives to a setting, or the usual one. -/
def valueIn (t : Table) (name : String) : Value :=
  ((t.get? name).orElse fun _ => usual.toTable.get? name).getD .null

/-- The settings that a table gives, without any check. -/
def ofFields (t : Table) : Settings where
  extensions := valueIn t "extensions"
  excludedFolders := valueIn t "excluded_dirs"
  sourceFolders := valueIn t "source_dirs"
  maxFileSize := valueIn t "max_file_size_mb"
  encoding := valueIn t "encoding"
  scopeMode := valueIn t "scope_mode"
  workers := valueIn t "workers"
  parallelThreshold := valueIn t "parallel_threshold"
  useDefaultRules := valueIn t "use_default_rules"
  layers := valueIn t "layers"
  outputFormat := valueIn t "output_format"
  verbosity := valueIn t "verbosity"
  ruleTables := valueIn t "rule_tables"

/-! ## The check -/

/-- The words for how much is logged. -/
def verbosities : List String :=
  ["quiet", "normal", "verbose"]

/-- Demands that a value is one of some words. -/
def checkWord [Host] (key : String) (words : List String) (v : Value) : Except Fault Unit :=
  match v.text? with
  | some w => if words.contains w then .ok () else refuse
  | none => refuse
where
  /-- Refuses any other value. -/
  refuse : Except Fault Unit := do
    throw (.setting key (← v.written key) ("expected one of " ++ ", ".intercalate words))

/-- Demands that a value is a number that passes a test. -/
def checkNumber [Host] (key relation reason : String) (refused : Number → Bool) (v : Value) :
    Except Fault Unit :=
  match v.number? with
  | none => .error (.incomparable relation v.typeName "int")
  | some n =>
    if refused n then v.written key >>= fun shown => .error (.setting key shown reason)
    else .ok ()

/-- Whether a number is less than one. -/
def isBelowOne : Number → Bool
  | .whole i => i < 1
  | .fractional x => x.lt (Binary64.ofInt 1)

/-- Whether a number is zero or less. -/
def isAtMostZero : Number → Bool
  | .whole i => i ≤ 0
  | .fractional x => x.le Binary64.zero

/-- Demands that as many files as are read at the same time are at least one, if a number is
given. -/
def checkWorkers [Host] : Value → Except Fault Unit
  | .null => .ok ()
  | v => checkNumber "workers" "<" "must be at least 1" isBelowOne v

/-- Demands that a value stands for something. -/
def checkPresent (key reason : String) (v : Value) : Except Fault Unit :=
  if v.isAbsent then .error (.setting key v.shown reason) else .ok ()

/-- Demands that an extension is a text that starts with a point. -/
def checkExtension : Value → Except Fault Unit
  | .text s =>
    if Text.startsWith s "." then .ok ()
    else .error (.setting "extensions" s "extensions must start with '.'")
  | v => .error (.noAttribute v.typeName "startswith")

/-- Checks settings one after another. -/
def check [Host] (s : Settings) : Except Fault Unit := do
  checkPresent "extensions" "at least one extension required" s.extensions
  (← s.extensions.elements).forM checkExtension
  checkWord "scope_mode" (Source.ScopeMode.all.map (·.word)) s.scopeMode
  checkWord "verbosity" verbosities s.verbosity
  checkWorkers s.workers
  checkNumber "parallel_threshold" "<" "must be at least 1" isBelowOne s.parallelThreshold
  checkNumber "max_file_size_mb" "<=" "must be positive" isAtMostZero s.maxFileSize
  checkPresent "layers" "at least one layer marker required" s.layers

/-- The settings that a table gives.  Every key must be the name of a setting. -/
def ofTable [Host] (t : Table) : Except Fault Settings := do
  match t.keys.find? fun k => !names.contains k with
  | some k => throw (.unexpectedField "ScanConfig" k)
  | none =>
    let s := ofFields t
    s.check
    return s

/-! ## What settings mean -/

/-- The number of bytes in a unit of size. -/
def bytesPerUnit : Nat := 1048576

/-- The greatest size of a source file in bytes. -/
def maxBytes (s : Settings) : Except Fault Int :=
  match s.maxFileSize.number? with
  | some (.whole i) => .ok (i * bytesPerUnit)
  | some (.fractional x) =>
    match x.timesNat bytesPerUnit with
    | .finite negative m e => .ok (Binary64.truncate negative m e)
    | .infinite _ => .error .infinityToInteger
    | .nan => .error .nanToInteger
  | none => .ok 0

/-- The names of the folders that are left out, in lower case, in order. -/
def excluded (s : Settings) : Except Fault (List String) :=
  (s.excludedFolders.textElements "lower").map fun names => Text.sortedSet (names.map Text.lower)

/-- How open types are followed. -/
def mode (s : Settings) : Source.ScopeMode :=
  (s.scopeMode.text?.bind Source.ScopeMode.ofWord?).getD .stack

end Settings
end Conformance
