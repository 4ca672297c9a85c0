/-!
# The log

While the program runs, it logs what it does. An event has a level, says what happened, and names
the values that belong to it. Values are kept as they are written. The times and the styling of
events are left to those who write the log.
-/

namespace Lexicon

/-- How much an event of the log matters. -/
inductive LogLevel where
  | debug
  | info
  | warning
deriving Repr, DecidableEq

/-- How a level is written, so that all levels take up the same room. -/
def LogLevel.name : LogLevel → String
  | debug => "DEBUG"
  | info => " INFO"
  | warning => " WARN"

/-- An event of the log. -/
structure LogEvent where
  level : LogLevel
  message : String
  fields : List (String × String)
deriving Repr, DecidableEq

namespace LogEvent

/-- Holds of the events that are shown unless something else is asked for. -/
def isWarning (e : LogEvent) : Bool := e.level = .warning

/-- The line of an event, without its time and its styling. -/
def line (e : LogEvent) : String :=
  s!"{e.level.name} {e.message}" ++
    String.join (e.fields.map fun (name, value) => s!" {name}={value}") ++ "\n"

end LogEvent

end Lexicon
