/-
# Logging

What is logged depends on the level that flags ask for: warnings, unless less or more is wanted.
Loggers have dotted names below that of the tool.
-/
import Conformance.Text.Blank

namespace Conformance

/-- A level of importance, the least first. -/
inductive LogLevel where
  /-- Details. -/
  | debug
  /-- What is going on. -/
  | info
  /-- What may be wrong. -/
  | warning
  /-- What is wrong. -/
  | error
  /-- What cannot go on. -/
  | critical
  deriving DecidableEq, Repr, Inhabited

namespace LogLevel

/-- All levels, the least first. -/
def all : List LogLevel :=
  [.debug, .info, .warning, .error, .critical]

/-- The name of a level. -/
def word : LogLevel → String
  | .debug => "DEBUG"
  | .info => "INFO"
  | .warning => "WARNING"
  | .error => "ERROR"
  | .critical => "CRITICAL"

/-- Other names of levels. -/
def otherWords : List (String × LogLevel) :=
  [("WARN", .warning), ("FATAL", .critical)]

/-- The level with a name. -/
def ofWord? (w : String) : Option LogLevel :=
  (all.find? (·.word == w)).orElse fun _ => otherWords.lookup w

/-- The rank of a level. -/
def rank (l : LogLevel) : Nat :=
  all.idxOf l

/-- The level that flags ask for; quiet wins over verbose. -/
def ofFlags (verbose quiet : Bool) : LogLevel :=
  if quiet then .error else if verbose then .debug else .warning

end LogLevel

/-- The name of the logger above all others. -/
def rootLogger : String := "archscan"

/-- The full name of a logger. -/
def loggerName : Option String → String
  | none => rootLogger
  | some name => if Text.startsWith name rootLogger then name else rootLogger ++ "." ++ name

/-- A message to be logged. -/
structure LogRecord where
  /-- The logger, if one is named. -/
  logger : Option String
  /-- The level. -/
  level : LogLevel
  /-- The message. -/
  text : String
  deriving DecidableEq, Repr, Inhabited

/-- A record as it is written to a file, after its time. -/
def LogRecord.line (r : LogRecord) : String :=
  loggerName r.logger ++ " - " ++ r.level.word ++ " - " ++ r.text

/-- The lines that are written of records at the given level. -/
def logLines (level : LogLevel) (records : List LogRecord) : List String :=
  (records.filter fun r => level.rank ≤ r.level.rank).map (·.line)

end Conformance
