/-!
# Severities and log lines

Messages to the user have a severity. What is written to the log of the host has a level; each
severity has a level of its own, and the level `debug` belongs to none.
-/

namespace AccessorSynthesis

/-- How serious a message is. -/
inductive Severity where
  | logging
  | info
  | warning
  | error
deriving DecidableEq

/-- The level of a line in the log. -/
inductive LogLevel where
  | trace
  | debug
  | info
  | warn
  | error
deriving DecidableEq

/-- A line in the log. -/
structure LogLine where
  level : LogLevel
  text : String
deriving DecidableEq

namespace Severity

/-- The level at which messages of a severity are logged. -/
def level : Severity → LogLevel
  | .logging => .trace
  | .info => .info
  | .warning => .warn
  | .error => .error

/-- How a severity is written. -/
def name : Severity → String
  | .logging => "logging"
  | .info => "info"
  | .warning => "warning"
  | .error => "error"

end Severity

/-- How a level is written. -/
def LogLevel.name : LogLevel → String
  | .trace => "trace"
  | .debug => "debug"
  | .info => "info"
  | .warn => "warn"
  | .error => "error"

end AccessorSynthesis
