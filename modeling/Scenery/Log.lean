import Scenery.Text.Blank

/-!
# Log records

What an operation reports beside its result.  Records are values, so that a result can be compared
with what was reported about it.
-/

namespace Scenery

/-- How much a record matters. -/
inductive LogLevel where
  | error
  | warn
  | info
  | debug
  | trace
  deriving DecidableEq, Repr

/-- The level's name in front of a record. -/
def LogLevel.label : LogLevel → String
  | error => "ERROR"
  | warn => "WARN"
  | info => "INFO"
  | debug => "DEBUG"
  | trace => "TRACE"

/-- One line of a log. -/
structure LogRecord where
  level : LogLevel
  message : String
  deriving DecidableEq, Repr

/-- The line as it is written. -/
def LogRecord.line (r : LogRecord) : String :=
  r.level.label ++ " " ++ r.message

/-- Which records are kept. -/
inductive LogFilter where
  | off
  | upTo (level : LogLevel)
  deriving DecidableEq, Repr

namespace LogFilter

/-- The word for a filter. -/
def label : LogFilter → String
  | off => "OFF"
  | upTo level => level.label

/-- All filters. -/
def all : List LogFilter :=
  [off, upTo .error, upTo .warn, upTo .info, upTo .debug, upTo .trace]

/-- The filter with a name, in letters of any case and with blanks around it; other texts mean the
level of information. -/
def ofText (s : String) : LogFilter :=
  let name := (Text.trim s.toList).map Char.toUpper
  (all.find? (·.label.toList == name)).getD (upTo .info)

end LogFilter

end Scenery
