/-
# The command line

Reads what a command looks at from the disk, runs the command, and writes what it gives: the report
to the standard output or to a file, notices to the standard error.
-/
import Conformance.Command.Run
import Std.Time.Format

namespace Conformance.CommandLine

/-- What the disk refuses, and where. -/
abbrev Refusals := List ((FileAction × List String) × FileProblem)

/-- A refusal of the disk. -/
def problemOf : IO.Error → FileProblem
  | .permissionDenied _ code details => .other code.toNat details
  | .hardwareFault code details => .other code.toNat details
  | e => .other 5 e.toString

/-- What an action on a path from the root gives, or something else if it is refused. -/
def unlessRefused {α : Type} (action : FileAction) (names : List String) (otherwise : IO α)
    (act : IO α) : StateT Refusals IO α := do
  match ← act.toBaseIO with
  | .ok a => return a
  | .error e =>
    modify (((action, names), problemOf e) :: ·)
    otherwise

/-- Reads a file, or a folder with all that is below it.  A file that cannot be read keeps its
size. -/
partial def readNode (names : List String) (entry : IO.FS.DirEntry) :
    StateT Refusals IO Node := do
  if ← entry.path.isDir then
    let entries ← unlessRefused .list names (pure #[]) entry.path.readDir
    return .folder (← entries.toList.mapM fun e => do
      return (e.fileName, ← readNode (names ++ [e.fileName]) e))
  else
    let unread : IO (List UInt8) := do
      return List.replicate (← entry.path.metadata).byteSize.toNat 0
    return .file (← unlessRefused .open names unread
      ((·.toList) <$> IO.FS.readBinFile entry.path))

/-- The entry of the disk at a path. -/
def entryAt (current p : Path) : IO.FS.DirEntry :=
  { root := "/", fileName := "/".intercalate (current.join p).names }

/-- A file system that refuses more. -/
def refusing (fs : FileSystem) (refusals : Refusals) : FileSystem :=
  { fs with refuses := fun action names =>
      (refusals.lookup (action, names)).orElse fun _ => fs.refuses action names }

/-- Reads what is at a path, if something is. -/
def mount (fs : FileSystem) (p : Path) : IO FileSystem := do
  let entry := entryAt fs.current p
  if ← entry.path.pathExists then
    let (node, refusals) ← (readNode (fs.namesOf p) entry).run []
    return refusing (fs.attach p node) refusals
  else return fs

/-- Notes that a folder is there, if it is. -/
def mountFolder (fs : FileSystem) (p : Path) : IO FileSystem := do
  if ← (entryAt fs.current p).path.isDir then return fs.attach p (.folder []) else return fs

/-- The environment variables that give settings. -/
def environment : IO (List (String × String)) :=
  Settings.variableTypes.filterMapM fun (name, _) => do
    let key := Settings.variableName name
    return (← IO.getEnv key).map (key, ·)

/-- The current moment. -/
def now : IO Moment := do
  let t ← Std.Time.PlainDateTime.now
  return {
    date := ⟨t.year.toInt.toNat, t.month.toInt.toNat, t.day.toInt.toNat⟩
    time := ⟨t.hour.toInt.toNat, t.minute.toInt.toNat, t.second.toInt.toNat,
      t.nanosecond.toInt.toNat / 1000⟩ }

/-- What the program finds around it, as far as a command looks at it. -/
def surroundings (command : Command) : IO Surroundings := do
  let current := Path.ofText (← IO.currentDir).toString
  let home := Path.ofText ((← IO.getEnv "HOME").getD "/")
  let (read, written) := command.places home current
  let files ← read.foldlM mount { root := .folder [], current := current }
  let files ← written.foldlM mountFolder (files.attach current (.folder []))
  return ⟨files, home, ← environment⟩

/-- Prints and writes what a command gives. -/
def deliver (o : CommandOutcome) : IO UInt32 := do
  if let some (path, text) := o.written then IO.FS.writeFile path.text text
  IO.print o.printed
  o.notices.forM (IO.eprintln ·)
  return o.exitCode.toUInt32

end Conformance.CommandLine

/-- Runs the command that the arguments ask for. -/
def main (args : List String) : IO UInt32 := do
  let command := Conformance.Command.read args
  let _ := Conformance.Host.plain
  let _ := Conformance.Memory.plain
  match command.run Conformance.Boxed.fitting (← Conformance.CommandLine.surroundings command)
      (← Conformance.CommandLine.now) with
  | .ok o => Conformance.CommandLine.deliver o
  | .error f =>
    IO.eprintln f.message
    return 1
