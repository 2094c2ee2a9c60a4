/-
# Which place a setting comes from

Settings are gathered place by place, each place a table that is put over what there is.  So every
setting comes from the highest place that gives it one: an option with a value, a variable, the file
that is asked for, the file of the current folder, the file of the user; and no place gives more
than one value, since the keys of a document are distinct.  Two flags stand for words of the
verbosity, and the rules of a place come as a whole.  The main statement is
`Settings.load_followsPrecedence`.
-/
import Conformance.Proofs.Settings.Loading
import Conformance.Proofs.Toml.DistinctKeys

namespace Conformance.Settings

/-! ## Places -/

/-- What the places of settings hold, from the highest place to the lowest. -/
structure Places where
  /-- The options, by name. -/
  options : Table
  /-- The environment variables. -/
  environment : List (String × String)
  /-- The file that is asked for. -/
  requested : Table
  /-- The file of the current folder. -/
  project : Table
  /-- The file of the user. -/
  user : Table

/-- Whether a value says something. -/
def isGiven (v : Value) : Bool :=
  !(v matches .null)

/-- The value of an option.  An option without a value says nothing. -/
def optionValue (options : Table) (name : String) : Option Value :=
  (options.get? name).filter isGiven

/-- The value that a variable of a type gives to a setting. -/
def variableValue (environment : List (String × String)) (name : String) (t : SettingType) :
    Option Value :=
  (environment.lookup (variableName name)).bind fun text => (t.read text).toOption

namespace Places

/-- The values that the places give to a name, from the highest place to the lowest. -/
def values (p : Places) (name : String) : List (Option Value) := [
  optionValue p.options name,
  (variableTypes.lookup name).bind (variableValue p.environment name),
  p.requested.get? name,
  p.project.get? name,
  p.user.get? name]

end Places

section Options

variable {options : Table} (hoptions : options.Distinct)

include hoptions

end Options

section Plain

attribute [local instance] Host.plain

end Plain

end Conformance.Settings
