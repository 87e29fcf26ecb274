import IntentBus.Bus.Basic
import IntentBus.Report.Failure

/-! Metrics and the events of a bus as data. -/

namespace IntentBus

namespace MetricsSnapshot

/-- The counts alone. -/
def counts (snapshot : MetricsSnapshot) : List (String × Json) :=
  [("processed", .ofUInt64 snapshot.processed), ("succeeded", .ofUInt64 snapshot.succeeded),
    ("failed", .ofUInt64 snapshot.failed), ("validation_failed", .ofUInt64 snapshot.validationFailed),
    ("duration_samples", .ofUInt64 snapshot.durationSamples)]

def report (snapshot : MetricsSnapshot) : List (String × Json) :=
  snapshot.counts ++ [("total_duration", .ofDuration snapshot.totalDuration),
    ("max_duration", .ofDuration snapshot.maxDuration), ("mean_duration", .ofDuration snapshot.mean),
    ("json", .string snapshot.toJson.render)]

end MetricsSnapshot

namespace TelemetrySignal

/-- The parts of a signal but for the length of a duration. -/
def parts : TelemetrySignal → List Json
  | increment intent outcome => [.string "increment", .string intent, .string outcome]
  | duration intent outcome _ => [.string "duration", .string intent, .string outcome]
  | validationFailed intent phase => [.string "validation_failed", .string intent, .string phase]

def report : TelemetrySignal → Json
  | duration intent outcome length => .array ((duration intent outcome length).parts ++ [.ofDuration length])
  | signal => .array signal.parts

end TelemetrySignal

namespace MetricUpdate

def series (name : String) (labels : List (String × String)) : Json :=
  .string (name ++ "\x7b" ++ ",".intercalate (labels.map fun label => label.1 ++ "=" ++ label.2) ++ "\x7d")

def report : MetricUpdate → Json
  | count name labels => .array [.string "counter", series name labels, .ofInt 1]
  | observe name labels seconds => .array [.string "histogram", series name labels, .string seconds.text]

end MetricUpdate

namespace BusEvent

/-- The name of an event and what belongs to it; `tracker` is the tracker at that time. Entries of the log are
no such events. -/
def parts (tracker : CorrelationTracker) : BusEvent Json → Option (List Json)
  | cacheGet intent key hit => some [.string "cache_get", .string intent, .string key, .bool hit]
  | cachePut intent key => some [.string "cache_put", .string intent, .string key]
  | constraints => some [.string "constraints"]
  | engine intent count => some [.string "engine", .string intent, .ofInt count]
  | validate correlation => some [.string "validate", .string correlation.id]
  | gate intent correlation => some [.string "gate", .string intent, .string correlation.id]
  | authorizeInContext correlation => some [.string "authorize_with_context", .string correlation.id]
  | authorize correlation => some [.string "authorize", .string correlation.id]
  | preProcess correlation => some [.string "pre_process", .string correlation.id]
  | executeInContext correlation => some [.string "execute_with_context", .string correlation.id]
  | execute correlation => some [.string "execute", .string correlation.id]
  | handler correlation .inspect =>
    some [.string "observe", .bool (tracker.isActive correlation.id), .ofInt tracker.count]
  | handler _ (.log _) | log _ => none
  | postProcess _ output => some [.string "post_process", output]
  | onSuccess correlation => some [.string "on_success", .string correlation.id]
  | onError _ failure => some [.string "on_error", .string failure.message]
  | sideEffect _ => some [.string "side_effect"]
  | publish origin effect =>
    some [.string "publish", .string origin.intentType, .ofUuid origin.intentId, .string origin.correlationId,
      .ofOption .string origin.initiatorId, .string effect.topic, effect.payload]
  | telemetry signal => some signal.parts

end BusEvent

end IntentBus
