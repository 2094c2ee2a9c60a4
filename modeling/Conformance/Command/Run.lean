/-
# Running a command

A command gives an exit code, a text to print and notices beside it; a scan may also write its
report to a file.  The exit code is zero when every rule passes, one when some rule fails, and two
when the configuration or the arguments cannot be used.
-/
import Conformance.Command.Basic
import Conformance.Command.Markup
import Conformance.Report.Format
import Conformance.Scan.Run

namespace Conformance

variable [Host] [m : Memory]

/-! ## Outcomes -/

/-- What a command gives. -/
structure CommandOutcome where
  /-- The exit code. -/
  exitCode : Nat
  /-- The text to print. -/
  printed : String := ""
  /-- The notices. -/
  notices : List String := []
  /-- A file to be written, with its text. -/
  written : Option (Path × String) := none
  deriving DecidableEq, Repr, Inhabited

namespace CommandOutcome

/-- The exit code of a configuration or of arguments that cannot be used. -/
def unusableCode : Nat := 2

/-- Arguments that cannot be used. -/
def unusable : CommandOutcome :=
  { exitCode := unusableCode }

/-- A failure with a notice. -/
def failed (title message : String) : Except Fault CommandOutcome := do
  let notice ← Markup.print ("[red]" ++ title ++ ":[/red] " ++ message)
  return { exitCode := unusableCode, notices := [notice] }

/-- The outcome of a fault that is reported, unless it is not foreseen. -/
def ofFault (f : Fault) : Except Fault CommandOutcome :=
  if f.isConfiguration then failed "Configuration error" f.message
  else if f.isScanFault then failed "Error" f.message
  else .error f

end CommandOutcome

namespace Command

/-- The version of the tool. -/
def versionText : String := "archscan 0.1.0"

/-- An explanation of the tool. -/
def helpText : String := Text.unlines [
  "Usage: archscan [--version] [--help] COMMAND",
  "",
  "Check a source tree against placement, naming and uniqueness rules.",
  "",
  "Commands:",
  "  scan [PATH] [-c FILE] [-f FORMAT] [-o FILE] [-w N] [--scope-mode MODE]",
  "       [--timestamp] [-v] [-q]",
  "  rules [-c FILE]"]

/-- The settings that the options of a scan give. -/
def settingsOf (o : ScanOptions) : Table := [
  ("output_format", .ofText? o.format),
  ("workers", match o.workers with
    | some n => .int n
    | none => .null),
  ("scope_mode", .ofText? o.scopeMode),
  ("verbose", .flag o.verbose),
  ("quiet", .flag o.quiet)]

/-- The settings of a scan and the form of its report. -/
def prepare (around : Surroundings) (o : ScanOptions) :
    Except Fault (Settings × ReportFormat) := do
  let settings ← Settings.load around o.config (settingsOf o)
  return (settings, ← ReportFormat.resolve settings.outputFormat)

/-- Whether a file of settings can be used, if one is named. -/
def usableConfig (around : Surroundings) : Option Path → Bool
  | none => true
  | some p => around.files.hasFile p

/-- The outcome of a report. -/
def deliver (layout : Boxed.Layout) (files : FileSystem) (o : ScanOptions) (form : ReportFormat)
    (r : Report) : Except Fault CommandOutcome :=
  let code := if r.passed then 0 else 1
  let text := form.render layout r
  match o.output with
  | none => .ok {
      exitCode := code
      printed := text ++ if form.printsLineFeed then "\n" else "" }
  | some path =>
    match files.write path text.toUTF8.toList with
    | .error problem => .error (.system problem path.text)
    | .ok _ => do
      let notice ← Markup.print ("Report written to " ++ path.text)
      return { exitCode := code, notices := [notice], written := some (path, text) }

/-- Refuses paths with the character that ends paths. -/
def checkPaths (paths : List Path) : Except Fault Unit :=
  match paths.find? fun p => FileSystem.checkPath p matches .error .nullName with
  | some p => .error (.system .nullName p.text)
  | none => .ok ()

/-- Runs a scan. -/
def runScan (layout : Boxed.Layout) (around : Surroundings) (now : Moment) (o : ScanOptions) :
    Except Fault CommandOutcome := do
  checkPaths (o.folder :: o.config.toList ++ o.output.toList)
  let root := Path.resolve around.files.current o.folder
  if !around.files.hasFolder root || !usableConfig around o.config then .ok .unusable
  else
    match prepare around o with
    | .error f =>
      if (f matches .unknownFormatter ..) || f == .tooLongToWrite then
        CommandOutcome.failed "Configuration error" f.message
      else CommandOutcome.ofFault f
    | .ok (settings, form) =>
      let generatedAt := if o.timestamp then some now else none
      match scanTree around root none (some settings) .never generatedAt with
      | .error f => CommandOutcome.ofFault f
      | .ok result => deliver layout around.files o form result.report

/-- The rules of a file of settings, compiled. -/
def effectiveRules (around : Surroundings) (config : Option Path) : Except Fault RuleSet := do
  RuleSet.ofSpecs (← (← Settings.load around config).rules)

/-- Lists rules. -/
def runRules (layout : Boxed.Layout) (around : Surroundings) (config : Option Path) :
    Except Fault CommandOutcome := do
  checkPaths config.toList
  if !usableConfig around config then .ok .unusable
  else
    match effectiveRules around config with
    | .error f => if f.isConfiguration then CommandOutcome.ofFault f else .error f
    | .ok set => .ok {
        exitCode := 0
        printed := Boxed.rulesTable layout (set.rules.map fun r => (r.check.kind, r.heading)) }

/-- The paths that a command looks at, whole trees first, and the folders that it writes to. -/
def places (home current : Path) : Command → List Path × List Path
  | .scan o =>
    ([Path.resolve current o.folder, home.child ".archscan.toml", current.child "archscan.toml"] ++
      o.config.toList,
      o.output.toList.map fun p => { p with names := p.names.dropLast })
  | .rules config =>
    ([home.child ".archscan.toml", current.child "archscan.toml"] ++ config.toList, [])
  | _ => ([], [])

/-- Runs a command at a moment. -/
def run (layout : Boxed.Layout) (around : Surroundings) (now : Moment) :
    Command → Except Fault CommandOutcome
  | .help => .ok { exitCode := 0, printed := helpText ++ "\n" }
  | .version => .ok { exitCode := 0, printed := versionText ++ "\n" }
  | .scan o => runScan layout around now o
  | .rules config => runRules layout around config
  | .nothing => .ok { exitCode := CommandOutcome.unusableCode, printed := helpText ++ "\n" }
  | .unusable => .ok .unusable

end Command
end Conformance
