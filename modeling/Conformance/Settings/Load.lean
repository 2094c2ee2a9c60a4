/-
# Loading settings

Settings are gathered from several places; a later place wins over an earlier one, setting by
setting: the file of the user, the file of the current folder, a file that is asked for, environment
variables, options.  An option without a value says nothing.  The rules of the last place that has
rules are the rules.
-/
import Conformance.Files.Tree
import Conformance.Rule.Pack
import Conformance.Rule.Table
import Conformance.Settings.Variables
import Conformance.Text.Encoding
import Conformance.Toml.Document

namespace Conformance

/-- What a program finds around it. -/
structure Surroundings where
  /-- The files. -/
  files : FileSystem
  /-- The folder of the user. -/
  home : Path
  /-- The environment variables. -/
  environment : List (String × String)
  deriving Inhabited

section Loading

variable [Host]

/-! ## Files of tables -/

/-- Reads a file as a document of tables, or says why it cannot be read. -/
def readTables (files : FileSystem) (path : Path) : Except String Table := do
  let bytes ← (files.read path).mapError (·.message path.text)
  let text ← (Text.decodeUtf8 bytes).mapError (·.message)
  (Toml.read text).mapError (·.message)

/-- Reads a file as a document of tables.  The label tells which file it is. -/
def loadTables (files : FileSystem) (label : String) (path : Path) : Except Fault Table :=
  (readTables files path).mapError fun reason =>
    .configuration (.badFile label path.text reason)

namespace Settings

/-! ## The places of settings -/

/-- The file of the user. -/
def userFile (s : Surroundings) : Path :=
  s.home.child ".archscan.toml"

/-- The file of the current folder. -/
def projectFile (s : Surroundings) : Path :=
  s.files.current.child "archscan.toml"

/-- The tables of a file that need not be there. -/
def ofOptionalFile (s : Surroundings) (label : String) (path : Path) :
    Except Fault Table := do
  match ← s.files.find? path with
  | some _ => loadTables s.files label path
  | none => return []

/-- The tables of a file that is asked for. -/
def ofRequestedFile (s : Surroundings) : Option Path → Except Fault Table
  | none => .ok []
  | some path => do
    match ← s.files.find? path with
    | some _ => loadTables s.files "config file" path
    | none => throw (.configuration (.missingFile path.text))

/-- The settings that options give: a flag for more or less logging sets the verbosity, and what has
no value is left out. -/
def ofOptions (options : Table) : Table :=
  let isSet (name : String) := !((options.get? name).getD .null).isAbsent
  let rest := (options.erase "verbose").erase "quiet"
  let rest := if isSet "verbose" then rest.insert "verbosity" (.text "verbose") else rest
  let rest := if isSet "quiet" then rest.insert "verbosity" (.text "quiet") else rest
  rest.filter fun (_, v) => !(v matches .null)

/-- Whether a value is a table. -/
def isTable : Value → Bool
  | .table _ => true
  | _ => false

/-- Gives rules their place among the settings. -/
def withRules (t : Table) : Except Fault Table :=
  let rest := t.erase "rules"
  match t.get? "rules" with
  | none => .ok rest
  | some v =>
    let refusal : Fault := .setting "rules" v.shortTypeName "expected an array of tables"
    match v with
    | .list items => if items.all isTable then .ok (rest.insert "rule_tables" v) else .error refusal
    | _ => .error refusal

/-- A fault of settings, as the configuration has it: values of the wrong type make the
configuration invalid. -/
def asConfiguration (f : Fault) : Fault :=
  if f.isTypeFault then .configuration (.badValues f.message) else f

/-- Gathers the settings of all places, later places winning. -/
def gather (s : Surroundings) (requested : Option Path) (options : Table) :
    Except Fault Table := do
  let user ← ofOptionalFile s "global config" (userFile s)
  let project ← ofOptionalFile s "project config" (projectFile s)
  let file ← ofRequestedFile s requested
  let given ← ofVariables s.environment
  return [user, project, file, given, ofOptions options].foldl Table.update []

/-- Loads the settings. -/
def load (s : Surroundings) (requested : Option Path := none) (options : Table := []) :
    Except Fault Settings := do
  let fields ← withRules (← gather s requested options)
  (ofTable fields).mapError asConfiguration

/-! ## Rules of settings -/

/-- The rules that a value gives, a table each. -/
def rulesOf (v : Value) : Except Fault (List RuleSpec) := do
  (← v.elements).mapM RuleSpec.read

/-- The rules that settings give, or else the default ones, if they are wanted. -/
def rules (s : Settings) : Except Fault (List RuleSpec) :=
  if !s.ruleTables.isAbsent then rulesOf s.ruleTables
  else if !s.useDefaultRules.isAbsent then .ok defaultRules
  else .ok []

end Settings

/-- Loads the rules of a file. -/
def loadRules (files : FileSystem) (path : Path) : Except Fault (List RuleSpec) := do
  let t ← loadTables files "rules file" path
  match (t.get? "rules").getD (.list []) with
  | .list items => Settings.rulesOf (.list items)
  | _ =>
    throw (.rule "<file>" ("'rules' in " ++ path.text ++ " must be an array of tables") none)

end Loading

end Conformance
