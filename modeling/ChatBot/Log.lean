/-!
# Log events

What the bot reports about its own work: a severity, a fixed message and named
fields, each written as text.
-/

namespace ChatBot

/-- How severe a log event is. -/
inductive LogLevel where
  | trace
  | debug
  | info
  | warn
  | error
  deriving DecidableEq, Inhabited, Repr

namespace LogLevel

def all : List LogLevel :=
  [trace, debug, info, warn, error]

def name : LogLevel → String
  | trace => "trace"
  | debug => "debug"
  | info => "info"
  | warn => "warn"
  | error => "error"

def upperName : LogLevel → String
  | trace => "TRACE"
  | debug => "DEBUG"
  | info => "INFO"
  | warn => "WARN"
  | error => "ERROR"

def ofName? (name : String) : Option LogLevel :=
  all.find? (·.name = name)

/-- The rank of a level among all, the least severe first. -/
def severity : LogLevel → Nat
  | trace => 0
  | debug => 1
  | info => 2
  | warn => 3
  | error => 4

end LogLevel

/-- One report of the bot about its own work. -/
structure LogEvent where
  level : LogLevel
  message : String
  fields : List (String × String)
  deriving DecidableEq, Inhabited, Repr

namespace LogEvent

/-- Whether an event is at least as severe as a threshold. -/
def reaches (event : LogEvent) (threshold : LogLevel) : Bool :=
  threshold.severity ≤ event.level.severity

end LogEvent

end ChatBot
