import IntentBus.Registry

/-! Errors, bindings and log entries as data, for those who look at a bus from outside. -/

namespace IntentBus

namespace Json

def strings (texts : List String) : Json := ofList string texts

end Json

namespace Violation

/-- The three parts of a violation, and its text. -/
def report (violation : Violation) : Json :=
  Json.strings [violation.subject, violation.message, violation.code, violation.text]

end Violation

namespace ConfigurationError

def name : ConfigurationError → String
  | blankIntentName _ => "BlankIntentName"
  | invalidIntentName .. => "InvalidIntentName"
  | ambiguousIntentName .. => "AmbiguousIntentName"
  | duplicateBinding .. => "DuplicateBinding"
  | bindingMismatch _ => "BindingMismatch"

def report (error : ConfigurationError) : List (String × Json) :=
  [("error", .string error.name), ("message", .string error.message)]

end ConfigurationError

namespace IntentTrace

def report (trace : IntentTrace) : Json :=
  .object [("intent_type", .string trace.intentName), ("intent_id", .ofUuid trace.intentId),
    ("correlation_id", .ofOption .string trace.correlationId), ("display", .string trace.text)]

end IntentTrace

namespace FailureKind

def name : FailureKind → String
  | notFound => "HandlerNotFound"
  | validation => "Validation"
  | authorization => "Authorization"
  | execution => "Execution"
  | timeout => "Timeout"
  | configuration => "Configuration"

end FailureKind

namespace PipelineStage

def name : PipelineStage → String
  | lookup => "Lookup"
  | validate => "Validate"
  | authorize => "Authorize"
  | execute => "Execute"

end PipelineStage

namespace DispatchError

/-- What an error knows beyond its message. -/
def detail : DispatchError → List (String × Json)
  | handlerNotFound _ registered _ => [("registered", .strings registered)]
  | validation phase violations _ =>
    [("phase", .string phase.label), ("fields", .strings (violations.map (·.subject))),
      ("violations", .ofList Violation.report violations)]
  | authorization violations _ =>
    [("codes", .strings (violations.map (·.code))), ("violations", .ofList Violation.report violations)]
  | execution handler attempts _ _ => [("handler", .string handler), ("attempts", .ofInt attempts)]
  | timeout handler bound attempts _ =>
    [("handler", .string handler), ("attempts", .ofInt attempts), ("timeout", .ofDuration bound)]
  | configuration error => error.report

def report (error : DispatchError) : List (String × Json) :=
  [("error", .string error.kind.name), ("message", .string error.message), ("kind", .string error.kind.label),
    ("stage", .string error.stage.name), ("retryable", .bool error.isRetryable),
    ("trace", .ofOption IntentTrace.report error.trace?), ("chain", .strings error.causes),
    ("detail", .object error.detail)]

end DispatchError

namespace HandlerBinding

def report (binding : HandlerBinding) : Json :=
  .object [("name", .string binding.intent.name), ("kind", .string binding.intent.kind.label),
    ("intent_type_name", .string binding.intent.typeName),
    ("result_type_name", .string binding.intent.resultType), ("handler", .string binding.handler)]

end HandlerBinding

namespace Registration

def report (registration : Registration) : List (String × Json) :=
  [("registered", registration.binding.report), ("replaced", .ofOption .string registration.replaced)]

end Registration

namespace LogEntry

/-- Level, message and the texts of the fields that are asked for. -/
def report (asked : String → Bool) (entry : LogEntry) : Json :=
  .array [.string entry.level.name, .string entry.message,
    .object ((entry.fields.filter (asked ·.1)).map fun field => (field.1, .string (fieldText field.2)))]

end LogEntry

end IntentBus
