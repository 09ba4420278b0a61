import Telemetry.Json.Basic

/-!
Contract: log entries as data.

Owns: levels, fields, entries, and the order in which an entry's fields are
reported.

Does not own: which entries are written where; see `Telemetry.Logging`.
-/

namespace Telemetry

inductive LogLevel where
  | error
  | warn
  | info
  | debug
  | trace
deriving DecidableEq, Repr

namespace LogLevel

def name : LogLevel → String
  | .error => "ERROR"
  | .warn => "WARN"
  | .info => "INFO"
  | .debug => "DEBUG"
  | .trace => "TRACE"

/-- How much a level lets through: errors least. -/
def verbosity : LogLevel → Nat
  | .error => 1
  | .warn => 2
  | .info => 3
  | .debug => 4
  | .trace => 5

end LogLevel

inductive LogValue where
  | number (value : Nat)
  | flag (value : Bool)
  | text (value : String)
deriving DecidableEq, Repr

def LogValue.toJson : LogValue → Json
  | .number value => .nat value
  | .flag value => .bool value
  | .text value => .text value

/-- An entry with its fields in the order they were given. -/
structure LogEntry where
  level : LogLevel
  target : String
  message : String
  fields : List (String × LogValue) := []
deriving DecidableEq, Repr

namespace LogEntry

/-- The message as a field, and all fields in the order of their names. The message
stands before another field of its name. -/
def sortedFields (entry : LogEntry) : List (String × LogValue) :=
  (("message", .text entry.message) :: entry.fields).mergeSort fun left right => left.1 ≤ right.1

end LogEntry

end Telemetry
