/-
# Settings from environment variables

Every setting but the tables of rules may be given by an environment variable, named after it in
capitals.  The text of the variable is read by the type of the setting: a list has commas between
its items, a truth value has a few spellings, numbers are read leniently.
-/
import Conformance.Number.Literal
import Conformance.Settings.Basic

namespace Conformance

/-- The type of a setting, as far as variables are concerned. -/
inductive SettingType where
  /-- A list of texts. -/
  | texts
  /-- A truth value. -/
  | flag
  /-- A whole number. -/
  | whole
  /-- A real number. -/
  | real
  /-- A text. -/
  | text
  deriving DecidableEq, Repr, Inhabited

namespace SettingType

/-- The items of a list with commas between them, without blanks around them; empty ones are left
out. -/
def readTexts (s : String) : List String :=
  ((Text.pieces ',' s).map Text.trimmed).filter (!·.isEmpty)

/-- The truth value that a word stands for. -/
def readFlag? (s : String) : Option Bool :=
  let word := Text.lower s
  if ["true", "1", "yes", "on"].contains word then some true
  else if ["false", "0", "no", "off"].contains word then some false
  else none

/-- The start of a text in quotes, as much as a message has room for. -/
def shortened (s : String) : String :=
  String.ofList ((Text.quoted s).toList.take 200)

/-- Reads a text by type, or says why it cannot be read. -/
def read (t : SettingType) (s : String) : Except String Value :=
  match t with
  | .texts => .ok (.ofTexts (readTexts s))
  | .flag => match readFlag? s with
    | some b => .ok (.flag b)
    | none => .error ("expected true/false, got '" ++ s ++ "'")
  | .whole => match Literal.readWhole s with
    | .ok i => .ok (.int i)
    | .error .malformed => .error ("invalid literal for int() with base 10: " ++ shortened s)
    | .error (.tooManyDigits count) => .error (Literal.tooManyDigits count)
  | .real => match Literal.readReal? s with
    | some x => .ok (.real x)
    | none => .error ("could not convert string to float: " ++ Text.quoted s)
  | .text => .ok (.text s)

end SettingType

namespace Settings

/-- The settings that variables can give, with their types. -/
def variableTypes : List (String × SettingType) := [
  ("extensions", .texts), ("excluded_dirs", .texts), ("source_dirs", .texts),
  ("max_file_size_mb", .real), ("encoding", .text), ("scope_mode", .text), ("workers", .whole),
  ("parallel_threshold", .whole), ("use_default_rules", .flag), ("layers", .texts),
  ("output_format", .text), ("verbosity", .text)]

/-- The name of the variable of a setting. -/
def variableName (name : String) : String :=
  "ARCHSCAN_" ++ String.ofList (name.toList.map Char.toUpper)

/-- The value that variables give to a setting. -/
def ofVariable? (environment : List (String × String)) (name : String) (t : SettingType) :
    Except Fault (Option Value) :=
  let key := variableName name
  match environment.lookup key with
  | none => .ok none
  | some s =>
    match t.read s with
    | .ok v => .ok (some v)
    | .error reason => .error (.configuration (.badVariable key reason))

/-- The settings that variables give. -/
def ofVariables (environment : List (String × String)) : Except Fault Table :=
  variableTypes.filterMapM fun (name, t) => do
    return (← ofVariable? environment name t).map (name, ·)

end Settings
end Conformance
