import IntentBus.Json.Printer
import IntentBus.Text.Quoted

/-! Log entries, and the spans of work that they are written in. -/

namespace IntentBus

/-- The levels of log entries, the least urgent first. -/
inductive LogLevel
  | trace
  | debug
  | info
  | warn
  | error
deriving DecidableEq

/-- The part of the program that an entry comes from. -/
inductive LogSource
  | constraints
  | validation
  | authorization
  | attempts
  | retries
  | registry
  | dispatch
  | bank
deriving DecidableEq

/-- A stretch of work that entries are written in. A field has no value until it is known, which may be only
at the end. -/
structure LogSpan where
  level : LogLevel
  source : LogSource
  name : String
  fields : List (String × Option Json)

/-- An entry of the log; its fields are in the order in which they were given, and its spans go from the outer
to the inner. -/
structure LogEntry where
  level : LogLevel
  source : LogSource
  message : String
  fields : List (String × Json)
  spans : List LogSpan

namespace LogLevel

def name : LogLevel → String
  | trace => "TRACE"
  | debug => "DEBUG"
  | info => "INFO"
  | warn => "WARN"
  | error => "ERROR"

/-- Urgent entries have a small number; the number zero shuts everything out. -/
def verbosity : LogLevel → Nat
  | error => 1
  | warn => 2
  | info => 3
  | debug => 4
  | trace => 5

end LogLevel

namespace LogSource

/-- The name under which a source appears in the log. -/
def target : LogSource → String
  | constraints => "relay_core::constraints"
  | validation => "relay_bus::bus::validation"
  | authorization => "relay_bus::bus::authorization"
  | attempts => "relay_bus::bus::middleware::trace"
  | retries => "relay_bus::bus::middleware::retry"
  | registry => "relay_bus::bus::registry"
  | dispatch => "relay_bus::bus::orchestrator"
  | bank => "relay_demo"

end LogSource

namespace LogEntry

/-- The text of a field: texts as they are, anything else as data. -/
def fieldText : Json → String
  | .string text => text
  | value => value.render

/-- Names as a bracketed list of quoted texts. -/
def namesText (names : List String) : String := "[" ++ ", ".intercalate (names.map Text.quoted) ++ "]"

/-- The entry inside one more span, which is around those that it has. -/
def inside (span : LogSpan) (entry : LogEntry) : LogEntry := { entry with spans := span :: entry.spans }

end LogEntry

end IntentBus
