/-
# Arguments of the command line

An argument that starts with a hyphen is an option.  A long option has two hyphens and may have its
value behind an equals sign; short options have one hyphen and one letter, several may stand
together, and the value of the last may follow at once.  Otherwise the value of an option is the
next argument, whatever it is.  After a double hyphen nothing is an option.  A repeated option
counts as it is given last.
-/
import Conformance.Text.Blank

namespace Conformance

/-- An option that a command knows. -/
structure OptionSpec where
  /-- The long name, with its hyphens. -/
  long : String
  /-- The letter of the short name. -/
  short : Option Char
  /-- Whether it has a value. -/
  hasValue : Bool
  deriving DecidableEq, Repr, Inhabited

/-- What a list of arguments says. -/
structure Arguments where
  /-- The options by their long names, the last first; a flag has an empty value. -/
  options : List (String × String)
  /-- The other arguments. -/
  plain : List String
  deriving DecidableEq, Repr, Inhabited

namespace Arguments

/-- The value of an option. -/
def value? (a : Arguments) (long : String) : Option String :=
  a.options.lookup long

/-- Whether a flag is given. -/
def has (a : Arguments) (long : String) : Bool :=
  (a.value? long).isSome

/-- Adds an option. -/
def withOption (a : Arguments) (long value : String) : Arguments :=
  { a with options := (long, value) :: a.options }

end Arguments

/-- Reads a long option: what it says, and the arguments that remain. -/
def readLong (specs : List OptionSpec) (arg : String) (rest : List String) :
    Option ((String × String) × List String) :=
  let name := String.ofList (Text.before '=' arg.toList)
  let given :=
    if name == arg then none else some (String.ofList (arg.toList.drop (name.length + 1)))
  match specs.find? (·.long == name) with
  | none => none
  | some spec =>
    match spec.hasValue, given, rest with
    | false, none, rest => some ((name, ""), rest)
    | false, some _, _ => none
    | true, some v, rest => some ((name, v), rest)
    | true, none, v :: rest => some ((name, v), rest)
    | true, none, [] => none

/-- Reads short options that stand together: what they say, the last first, and the arguments that
remain. -/
def readShort (specs : List OptionSpec) :
    (read : List (String × String)) → List Char → List String →
    Option (List (String × String) × List String)
  | read, [], rest => some (read, rest)
  | read, c :: cs, rest =>
    match specs.find? (·.short == some c) with
    | none => none
    | some spec =>
      if !spec.hasValue then readShort specs ((spec.long, "") :: read) cs rest
      else if !cs.isEmpty then some ((spec.long, String.ofList cs) :: read, rest)
      else match rest with
        | v :: rest => some ((spec.long, v) :: read, rest)
        | [] => none

/-- Whether an argument is an option. -/
def isOption (arg : String) : Bool :=
  Text.startsWith arg "-" && arg.length > 1

/-- Reads arguments; `none` tells that they are not understood.  Where `mixed` is false, the first
argument that is no option ends the options. -/
def readArguments (specs : List OptionSpec) (mixed : Bool) :
    (fuel : Nat) → Arguments → List String → Option Arguments
  | 0, a, _ => some a
  | _ + 1, a, [] => some a
  | fuel + 1, a, arg :: rest =>
    if arg == "--" then some { a with plain := a.plain ++ rest }
    else if !isOption arg then
      if mixed then readArguments specs mixed fuel { a with plain := a.plain ++ [arg] } rest
      else some { a with plain := a.plain ++ arg :: rest }
    else if Text.startsWith arg "--" then do
      let ((name, v), rest) ← readLong specs arg rest
      readArguments specs mixed fuel (a.withOption name v) rest
    else do
      let (read, rest) ← readShort specs [] (arg.toList.drop 1) rest
      readArguments specs mixed fuel { a with options := read ++ a.options } rest

/-- Reads all arguments; `none` tells that they are not understood. -/
def Arguments.read (specs : List OptionSpec) (mixed : Bool) (args : List String) :
    Option Arguments :=
  readArguments specs mixed (args.length + 1) ⟨[], []⟩ args

end Conformance
