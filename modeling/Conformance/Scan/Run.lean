/-
# Scans

A scan discovers the files, scans each of them, applies the rules that look at all files together,
compares what similarity rules name, and makes the report.  It looks at a flag on its way and stops
when the flag is set: before each file, after the files, before each comparison, and before the
report.

Files may also be scanned at the same time.  Then each worker looks at the flag once, and results
come in the order of completion.  Results are sorted by path before anything is made of them, so
that this order does not show.
-/
import Conformance.Check.Similarity
import Conformance.Report.Markdown
import Conformance.Scan.File
import Conformance.Settings.Load

namespace Conformance

variable [Host] [m : Memory]

/-- Whether the flag is set, by the number of times it has been looked at before. -/
abbrev CancelFlag := Nat → Bool

/-- The flag that is never set. -/
def CancelFlag.never : CancelFlag :=
  fun _ => false

/-- The flag that is set after it has been looked at a number of times. -/
def CancelFlag.after (n : Nat) : CancelFlag :=
  fun looks => n ≤ looks

/-- The flag as it is found after it has been looked at a number of times. -/
def CancelFlag.since (flag : CancelFlag) (n : Nat) : CancelFlag :=
  fun looks => flag (n + looks)

/-- What a scan gives. -/
structure ScanResult where
  /-- The files that were read. -/
  files : List Source.FileDeclarations
  /-- The files that were skipped. -/
  skipped : List String
  /-- The report. -/
  report : Report
  deriving Repr, Inhabited

/-- The markers of layers that the paths of findings need.  Markers are tried in order, so one that
is no text matters only to a path that no earlier marker fits. -/
def Settings.layersFor (s : Settings) (paths : List String) : Except Fault (List String) :=
  if paths.isEmpty then .ok []
  else do
    let items ← s.layers.elements
    let markers := (items.takeWhile (·.text?.isSome)).filterMap (·.text?)
    let fits (path : String) := markers.any fun m => (Text.pieces '/' path).any (inLayer m)
    match items.drop markers.length with
    | [] => return markers
    | v :: _ => if paths.all fits then return markers else throw (.notAppendable v.typeName)

namespace Scanner

/-- Stops if the flag is set at the given look. -/
def checkFlag (flag : CancelFlag) (look : Nat) (done total : Nat) : Except Fault Unit :=
  if flag look then .error (.cancelled done total) else .ok ()

/-! ## The files -/

/-- Scans files one after the other while the flag is not set.  Gives the results and the number of
looks at the flag. -/
def scanInTurn (s : Scanner) (files : FileSystem) (flag : CancelFlag) :
    (look : Nat) → List Path → Except Fault (List FileResult × Nat)
  | look, [] => .ok ([], look)
  | look, p :: ps =>
    if flag look then .ok ([], look + 1)
    else do
      let r ← s.scanFile files p
      let (rs, looks) ← scanInTurn s files flag (look + 1) ps
      return (r :: rs, looks)

/-- Scans files at the same time.  `completion` are the files in the order in which they are done,
each with what its worker saw of the flag. -/
def scanTogether (s : Scanner) (files : FileSystem) (completion : List (Path × Bool)) :
    Except Fault (List FileResult) :=
  (completion.filter (!·.2)).mapM fun (p, _) => s.scanFile files p

/-! ## The report -/

/-- The pairs of the similarity rules.  The flag is looked at before each of them. -/
def compare (flag : CancelFlag) (done total : Nat) (ds : List Source.Declaration) :
    (look : Nat) → List (Rule × Similarity) → Except Fault (List SimilarPair)
  | _, [] => .ok []
  | look, (r, sim) :: rest => do
    checkFlag flag look done total
    let pairs ← sim.check r ds
    return pairs ++ (← compare flag done total ds (look + 1) rest)

/-- Makes the report of the results of `total` files. -/
def finish (s : Scanner) (flag : CancelFlag) (total : Nat) (generatedAt : Option Moment)
    (results : List FileResult) : Except Fault ScanResult := do
  let done := results.length
  checkFlag flag 0 done total
  let results := FileResult.sort results
  let scanned := results.filterMap (·.declarations?)
  let skipped := (results.filter (·.isSkipped)).map (·.path)
  let ds := scanned.flatMap (·.declarations)
  let joint ← s.rules.evaluateGlobal ds
  let violations := results.flatMap (·.violations) ++ joint
  let similarities := s.rules.similarities
  let pairs ← compare flag done total ds 1 similarities
  checkFlag flag (similarities.length + 1) done total
  let layers ← s.settings.layersFor (violations.map (·.path) ++ pairs.map (·.path))
  return {
    files := scanned
    skipped := skipped
    report := Report.aggregate violations pairs s.rules.headings
      { layers := layers
        filesScanned := scanned.length
        filesSkipped := skipped
        root := some s.root.text
        generatedAt := generatedAt } }

/-- Scans a tree, one file after the other. -/
def scan (s : Scanner) (files : FileSystem) (flag : CancelFlag := .never)
    (generatedAt : Option Moment := none) : Except Fault ScanResult := do
  let found ← s.discover files
  let (results, looks) ← s.scanInTurn files flag 0 (found.map (·.2))
  s.finish (flag.since looks) found.length generatedAt results

/-- Scans a tree, files at the same time.  `completion` are the discovered files in the order in
which they are done, each with what its worker saw of the flag; `flag` is what is seen
afterwards. -/
def scanAtOnce (s : Scanner) (files : FileSystem) (completion : List (Path × Bool))
    (flag : CancelFlag := .never) (generatedAt : Option Moment := none) :
    Except Fault ScanResult := do
  let found ← s.discover files
  let results ← s.scanTogether files completion
  s.finish flag found.length generatedAt results

end Scanner

/-! ## Scans by settings and rules -/

/-- Scans the tree below a root.  Without settings they are loaded; without rules they are those of
the settings. -/
def scanTree (around : Surroundings) (root : Path) (rules : Option (List RuleSpec))
    (settings : Option Settings) (flag : CancelFlag := .never)
    (generatedAt : Option Moment := none) : Except Fault ScanResult := do
  match ← around.files.find? root with
  | some (.folder _) => pure ()
  | _ => throw (notFolder root)
  let settings ← match settings with
    | some s => pure s
    | none => Settings.load around
  let specs ← match rules with
    | some r => pure r
    | none => settings.rules
  let scanner ← Scanner.ofRoot around.files root (← RuleSet.ofSpecs specs) settings
  scanner.scan around.files flag generatedAt

/-- Scans the tree below a root, and fails if some rule fails. -/
def checkTree (around : Surroundings) (root : Path) (rules : Option (List RuleSpec))
    (settings : Option Settings) : Except Fault Report := do
  let report := (← scanTree around root rules settings).report
  if report.passed then return report
  else throw (.nonconforming report.failedRules (Markdown.render report))

end Conformance
