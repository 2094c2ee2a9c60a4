/-
# Faults

Everything that can go wrong, by cause, with the message that tells it.  Faults of patterns and of
templates have types of their own and are carried here.
-/
import Conformance.Calendar.Moment
import Conformance.Files.Problem
import Conformance.Pattern.Fault
import Conformance.Template.Fault
import Conformance.Text.Blank

namespace Conformance

/-- Why a configuration cannot be used. -/
inductive ConfigurationFault where
  /-- The file that was asked for does not exist. -/
  | missingFile (path : String)
  /-- A file cannot be read as a document of tables; the label tells which file it is. -/
  | badFile (label path reason : String)
  /-- An environment variable has a value that cannot be read. -/
  | badVariable (name reason : String)
  /-- Values have the wrong type. -/
  | badValues (reason : String)
  deriving DecidableEq, Repr, Inhabited

/-- The wording of a fault of a configuration. -/
def ConfigurationFault.message : ConfigurationFault → String
  | .missingFile path => "Config file not found: " ++ path
  | .badFile label path reason => "Invalid " ++ label ++ " '" ++ path ++ "': " ++ reason
  | .badVariable name reason => "Invalid " ++ name ++ ": " ++ reason
  | .badValues reason => "Invalid configuration: " ++ reason

/-- Why an operation has no result. -/
inductive Fault where
  /-- A rule is malformed, in a field if one is named. -/
  | rule (id reason : String) (field : Option String)
  /-- A setting has a value it cannot have. -/
  | setting (key value reason : String)
  /-- A path cannot be used. -/
  | path (path reason : String)
  /-- The configuration cannot be used. -/
  | configuration (fault : ConfigurationFault)
  /-- A source file cannot be read. -/
  | fileAccess (path reason : String)
  /-- The scan was cancelled after some of the files. -/
  | cancelled (done total : Nat)
  /-- The scanned tree fails some rules; the rendered report says how. -/
  | nonconforming (failed : List String) (rendered : String)
  /-- A word is not one of those that a type allows. -/
  | unknownChoice (value typeName : String)
  /-- A value cannot be used as a key. -/
  | unhashable (typeName : String)
  /-- Two values have no order. -/
  | incomparable (relation left right : String)
  /-- A value is no collection. -/
  | notIterable (typeName : String)
  /-- A value cannot be searched. -/
  | notContainer (typeName : String)
  /-- A field is not one that the owner has. -/
  | unexpectedField (owner field : String)
  /-- A field that the owner needs is not given. -/
  | missingField (owner field : String)
  /-- Values of a type have no such property. -/
  | noAttribute (typeName name : String)
  /-- A written pattern is faulty. -/
  | pattern (text : String) (fault : PatternFault)
  /-- A template is faulty. -/
  | template (fault : TemplateFault)
  /-- No formatter has the name, which is told as it is shown; some have similar names. -/
  | unknownFormatter (name : String) (choices suggestions : List String)
  /-- A cutoff does not lie between zero and one. -/
  | badCutoff (value : String)
  /-- A marker is empty. -/
  | emptyMarker
  /-- A marker starts at the root of the file system. -/
  | absoluteMarker
  /-- A marker has no names. -/
  | noSegments
  /-- A double star is a part of a name. -/
  | partialDepth
  /-- No encoding has the name. -/
  | unknownEncoding (name : String)
  /-- A value of the type is no name of an encoding. -/
  | notEncodingName (typeName : String)
  /-- The mark that tells the order of bytes is missing. -/
  | missingMark
  /-- The file system refuses a path. -/
  | system (problem : FileProblem) (path : String)
  /-- A path does not lie below a root. -/
  | notBelow (path root : String)
  /-- A value of the type is no part of a path. -/
  | notPathPart (typeName : String)
  /-- A value of the type cannot be put behind a text. -/
  | notAppendable (typeName : String)
  /-- An item of a list stands for no entry of a table. -/
  | notEntry (index : Nat)
  /-- An item of a list has another length than an entry of a table. -/
  | entryLength (index length : Nat)
  /-- An item of a list of names is of another type. -/
  | notName (index : Nat) (typeName : String)
  /-- Numbers or a text stand for no moment. -/
  | calendar (fault : CalendarFault)
  /-- A value that is no text stands for no moment. -/
  | notMomentText
  /-- A line that a tracked text does not have is asked for. -/
  | noLine
  /-- A tag closes what is not open. -/
  | unopenedTag (tag : String) (position : Nat)
  /-- A tag closes what is open last, and nothing is open. -/
  | nothingToClose (position : Nat)
  /-- The name of an encoding holds the character that ends names. -/
  | nullInName
  /-- A whole number has more digits than may be written. -/
  | tooLongToWrite
  /-- Calls are nested too deeply, in the course of something. -/
  | recursion (doing : String)
  /-- No number is not a whole number. -/
  | nanToInteger
  /-- An infinity is not a whole number. -/
  | infinityToInteger
  /-- A whole number is too large for a real number. -/
  | tooLargeForReal
  deriving DecidableEq, Repr, Inhabited

namespace Fault

/-- A message with its details in parentheses. -/
def withDetails (message : String) (details : List (String × String)) : String :=
  message ++ " (" ++ ", ".intercalate (details.map fun (k, v) => k ++ "=" ++ v) ++ ")"

/-- The wording of a fault. -/
def message : Fault → String
  | .rule id reason field =>
    withDetails ("Invalid rule '" ++ id ++ "'")
      ([("rule", id), ("reason", reason)] ++ (field.map (("field", ·))).toList)
  | .setting key value reason =>
    withDetails ("Invalid configuration for " ++ key ++ ": " ++ value)
      [("key", key), ("value", value), ("reason", reason)]
  | .path p reason =>
    withDetails ("Invalid path: " ++ p) [("path", p), ("reason", reason)]
  | .configuration fault => fault.message
  | .fileAccess p reason =>
    withDetails ("Cannot access file: " ++ p) [("filepath", p), ("reason", reason)]
  | .cancelled done total =>
    withDetails "Scan cancelled" [("files_done", intText done), ("files_total", intText total)]
  | .nonconforming failed rendered =>
    withDetails ("Architecture conformance failed: " ++ intText failed.length ++
      " rule(s) violated") [("rules", ", ".intercalate failed)] ++ "\n\n" ++ rendered
  | .unknownChoice value typeName => value ++ " is not a valid " ++ typeName
  | .unhashable t => "unhashable type: '" ++ t ++ "'"
  | .incomparable relation left right =>
    "'" ++ relation ++ "' not supported between instances of '" ++ left ++ "' and '" ++ right ++ "'"
  | .notIterable t => "'" ++ t ++ "' object is not iterable"
  | .notContainer t => "argument of type '" ++ t ++ "' is not iterable"
  | .unexpectedField owner field =>
    owner ++ (if field == "self" then ".__init__() got multiple values for argument '"
      else ".__init__() got an unexpected keyword argument '") ++ field ++ "'"
  | .missingField owner field =>
    owner ++ ".__init__() missing 1 required positional argument: '" ++ field ++ "'"
  | .noAttribute t name => "'" ++ t ++ "' object has no attribute '" ++ name ++ "'"
  | .pattern text fault => fault.message text.toList
  | .template fault => fault.message
  | .unknownFormatter name choices suggestions =>
    "Unknown formatter: " ++ name ++ ". Choose from: " ++ ", ".intercalate choices ++
      (if suggestions.isEmpty then ""
       else " Did you mean: " ++ ", ".intercalate suggestions ++ "?")
  | .badCutoff value => "cutoff must be in [0.0, 1.0]: " ++ value
  | .emptyMarker => "Unacceptable pattern: ''"
  | .absoluteMarker => "Non-relative patterns are unsupported"
  | .noSegments => "tuple index out of range"
  | .partialDepth => "Invalid pattern: '**' can only be an entire path component"
  | .unknownEncoding name => "unknown encoding: " ++ name
  | .notEncodingName t => "open() argument 'encoding' must be str or None, not " ++ t
  | .missingMark => "UTF-16 stream does not start with BOM"
  | .system problem p => problem.message p
  | .notBelow p root =>
    Text.quoted p ++ " is not in the subpath of " ++ Text.quoted root ++
      " OR one path is relative and the other is absolute."
  | .notPathPart t => "unsupported operand type(s) for /: 'PosixPath' and '" ++ t ++ "'"
  | .notAppendable t => "can only concatenate str (not \"" ++ t ++ "\") to str"
  | .notEntry index =>
    "cannot convert dictionary update sequence element #" ++ intText index ++ " to a sequence"
  | .entryLength index length =>
    "dictionary update sequence element #" ++ intText index ++ " has length " ++
      intText length ++ "; 2 is required"
  | .notName index t =>
    "sequence item " ++ intText index ++ ": expected str instance, " ++ t ++ " found"
  | .calendar fault => fault.message
  | .notMomentText => "fromisoformat: argument must be str"
  | .noLine => "list index out of range"
  | .unopenedTag tag position =>
    "closing tag '" ++ tag ++ "' at position " ++ intText position ++
      " doesn't match any open tag"
  | .nothingToClose position =>
    "closing tag '[/]' at position " ++ intText position ++ " has nothing to close"
  | .nullInName => "embedded null character"
  | .tooLongToWrite => Literal.tooLong
  | .recursion doing => "maximum recursion depth exceeded" ++ doing
  | .nanToInteger => "cannot convert float NaN to integer"
  | .infinityToInteger => "cannot convert float infinity to integer"
  | .tooLargeForReal => "int too large to convert to float"

/-- Whether a fault is that a value has another type than is wanted. -/
def isTypeFault : Fault → Bool
  | .unhashable _ => true
  | .incomparable .. => true
  | .notIterable _ => true
  | .notContainer _ => true
  | .unexpectedField .. => true
  | .missingField .. => true
  | .notName .. => true
  | _ => false

/-- Whether a fault is one of the configuration: of rules, settings, paths or files of settings. -/
def isConfiguration : Fault → Bool
  | .rule .. => true
  | .setting .. => true
  | .path .. => true
  | .configuration _ => true
  | _ => false

/-- Whether a fault is one of scanning: of a file, of a scan that was cancelled, or of a tree that
fails its rules. -/
def isScanFault : Fault → Bool
  | .fileAccess .. => true
  | .cancelled .. => true
  | .nonconforming .. => true
  | _ => false

end Fault
end Conformance
