/-
# Discovery

The files of a scan are the sources below its folders, each once, in the order of their paths below
the root.  Folders that do not exist are passed over; without any folders the root is scanned.  A
walk passes over what is in folders that cannot be listed, and fails where folders are nested more
deeply than the host can follow.
-/
import Conformance.Check.Evaluate
import Conformance.Files.Selection
import Conformance.Settings.Basic

namespace Conformance

/-- What scans a tree: its root, the rules and the settings. -/
structure Scanner where
  /-- The root of the tree. -/
  root : Path
  /-- The rules. -/
  rules : RuleSet
  /-- The settings. -/
  settings : Settings
  deriving Inhabited

/-- The fault of a root that is no folder. -/
def notFolder (root : Path) : Fault :=
  .path root.text "not a directory"

/-- The tree below a folder as a walk finds it. -/
def FileSystem.seenFrom (files : FileSystem) (root : Path) (n : Node) : Node :=
  n.listed (fun way => files.lists (root.join ⟨false, way⟩)) []

/-- The sources below a folder as paths, in order. -/
def sourceFiles [Host] (files : FileSystem) (root : Path) (s : Selection) :
    Except Fault (List Path) := do
  match ← files.find? root with
  | some (.folder es) =>
    let seen := files.seenFrom root (.folder es)
    if Host.folderDepth < s.depth seen then throw (.recursion "")
    return (s.sorted seen).map fun names => root.join ⟨false, names⟩
  | _ => throw (notFolder root)

namespace Scanner

/-- The scanner of a tree whose root is a folder. -/
def ofRoot (files : FileSystem) (root : Path) (rules : RuleSet) (settings : Settings) :
    Except Fault Scanner := do
  match ← files.find? root with
  | some (.folder _) => return ⟨root, rules, settings⟩
  | _ => throw (notFolder root)

/-- How the scanner follows open types: the older way heeds only the types that the rules name. -/
def tracker (s : Scanner) : Source.Tracker :=
  match s.settings.mode with
  | .stack => ⟨.stack, none⟩
  | .single => ⟨.single, s.rules.containerFilter⟩

/-- A path below the root, as reports show it. -/
def relative (s : Scanner) (p : Path) : Except Fault String :=
  match p.below? s.root with
  | some names => .ok (Path.shown names)
  | none => .error (.notBelow p.text s.root.text)

/-- The folders that are scanned. -/
def bases (s : Scanner) : Except Fault (List Path) := do
  let folders ← (← s.settings.sourceFolders.elements).mapM fun
    | .text d => .ok (s.root.child d)
    | v => .error (.notPathPart v.typeName)
  return if folders.isEmpty then [s.root] else folders

/-- Which files count as sources. -/
def selection (s : Scanner) : Except Fault Selection := do
  let excluded ← s.settings.excluded
  let extensions ← s.settings.extensions.textElements "lower"
  return Selection.ofNames extensions excluded

/-- The sources below one folder, with their paths below the root. -/
def sourcesIn [Host] (s : Scanner) (files : FileSystem) (base : Path) :
    Except Fault (List (String × Path)) := do
  match ← files.find? base with
  | some (.folder _) =>
    let found ← sourceFiles files base (← s.selection)
    found.mapM fun p => do return (← s.relative p, p)
  | _ => return []

/-- Each path below the root once, in order; of two the later one stays. -/
def distinctPaths (found : List (String × Path)) : List (String × Path) :=
  (Text.groupsBy (·.1) found).filterMap fun (_, group) => group.getLast?

/-- The files of a scan, in the order of their paths below the root. -/
def discover [Host] (s : Scanner) (files : FileSystem) : Except Fault (List (String × Path)) := do
  let found ← (← s.bases).mapM (s.sourcesIn files)
  return distinctPaths found.flatten

end Scanner
end Conformance
