/-
# Commands

The tool has two commands: to scan a tree and to list the rules.  Arguments that are not understood
make no command.
-/
import Conformance.Command.Options
import Conformance.Files.Path
import Conformance.Number.Literal

namespace Conformance

/-- The options of a scan. -/
structure ScanOptions where
  /-- The root of the tree. -/
  folder : Path := ⟨false, []⟩
  /-- The file of settings. -/
  config : Option Path := none
  /-- The form of the report. -/
  format : Option String := none
  /-- The file that the report is written to. -/
  output : Option Path := none
  /-- The number of files read at the same time. -/
  workers : Option Int := none
  /-- How open types are followed. -/
  scopeMode : Option String := none
  /-- Whether the report tells when it was made. -/
  timestamp : Bool := false
  /-- Whether more is logged. -/
  verbose : Bool := false
  /-- Whether less is logged. -/
  quiet : Bool := false
  deriving DecidableEq, Repr, Inhabited

/-- What the arguments ask for. -/
inductive Command where
  /-- To explain the tool. -/
  | help
  /-- To tell the version. -/
  | version
  /-- To scan a tree. -/
  | scan (options : ScanOptions)
  /-- To list the rules of a file of settings. -/
  | rules (config : Option Path)
  /-- Nothing, for want of arguments. -/
  | nothing
  /-- Nothing that is understood. -/
  | unusable
  deriving DecidableEq, Repr, Inhabited

namespace Command

/-- The option that asks for an explanation. -/
def helpOption : OptionSpec :=
  ⟨"--help", none, false⟩

/-- The option that names a file of settings. -/
def configOption : OptionSpec :=
  ⟨"--config", some 'c', true⟩

/-- The options before a command. -/
def toolOptions : List OptionSpec :=
  [⟨"--version", none, false⟩, helpOption]

/-- The options of a scan. -/
def scanOptions : List OptionSpec := [
  configOption,
  ⟨"--format", some 'f', true⟩,
  ⟨"--output", some 'o', true⟩,
  ⟨"--workers", some 'w', true⟩,
  ⟨"--scope-mode", none, true⟩,
  ⟨"--timestamp", none, false⟩,
  ⟨"--verbose", some 'v', false⟩,
  ⟨"--quiet", some 'q', false⟩,
  helpOption]

/-- The options of the list of rules. -/
def rulesOptions : List OptionSpec :=
  [configOption, helpOption]

/-- The greatest number of workers. -/
def mostWorkers : Int := 64

/-- Reads the number of workers; `none` tells that it is not understood.  No characters beyond code
point 127 are understood. -/
def readWorkers : Option String → Option (Option Int)
  | none => some none
  | some s => do
    if s.toList.any (128 ≤ ·.toNat) then none
    let n ← Literal.readInt? s
    if 1 ≤ n && n ≤ mostWorkers then some (some n) else none

/-- Reads the arguments of a scan. -/
def readScan (args : List String) : Command :=
  match Arguments.read scanOptions true args with
  | none => .unusable
  | some a =>
    if a.has "--help" then .help
    else
      match a.plain, readWorkers (a.value? "--workers") with
      | _ :: _ :: _, _ => .unusable
      | _, none => .unusable
      | plain, some workers => .scan {
          folder := Path.ofText (plain.headD ".")
          config := (a.value? "--config").map Path.ofText
          format := a.value? "--format"
          output := (a.value? "--output").map Path.ofText
          workers := workers
          scopeMode := a.value? "--scope-mode"
          timestamp := a.has "--timestamp"
          verbose := a.has "--verbose"
          quiet := a.has "--quiet" }

/-- Reads the arguments of the list of rules. -/
def readRules (args : List String) : Command :=
  match Arguments.read rulesOptions true args with
  | none => .unusable
  | some a =>
    if a.has "--help" then .help
    else if !a.plain.isEmpty then .unusable
    else .rules ((a.value? "--config").map Path.ofText)

/-- Reads a command and its arguments. -/
def readNamed : List String → Command
  | "scan" :: args => readScan args
  | "rules" :: args => readRules args
  | _ => .unusable

/-- Reads the arguments of the tool. -/
def read (args : List String) : Command :=
  if args.isEmpty then .nothing
  else match Arguments.read toolOptions false args with
    | none => .unusable
    | some a =>
      match a.options.getLast? with
      | some ("--version", _) => .version
      | some _ => .help
      | none => readNamed a.plain

end Command
end Conformance
