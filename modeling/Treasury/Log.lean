/-!
# The log

Levels and lines of the log.
-/

namespace Treasury

/-- How much a line of the log matters, the least first. -/
inductive LogLevel where
  | trace
  | debug
  | info
  | warn
  | error
  deriving DecidableEq, Repr

namespace LogLevel

/-- Every level. -/
def all : List LogLevel := [trace, debug, info, warn, error]

/-- The word for a level in settings. -/
def tag : LogLevel → String
  | trace => "trace"
  | debug => "debug"
  | info => "info"
  | warn => "warn"
  | error => "error"

/-- The word for a level in the log. -/
def label : LogLevel → String
  | trace => "TRACE"
  | debug => "DEBUG"
  | info => "INFO"
  | warn => "WARN"
  | error => "ERROR"

/-- The place of a level among all of them. -/
def rank : LogLevel → Nat
  | trace => 0
  | debug => 1
  | info => 2
  | warn => 3
  | error => 4

end LogLevel

/-- One line of the log. -/
structure LogLine where
  level : LogLevel
  text : String
  deriving DecidableEq, Repr

namespace LogLine

/-- A line as it is shown. -/
def toText (line : LogLine) : String := s!"{line.level.label}: {line.text}"

/-- True of a line that matters at least as much as `level`. -/
def isShown (level : LogLevel) (line : LogLine) : Bool := level.rank ≤ line.level.rank

end LogLine

end Treasury
