import IntentBus.Failure

/-! Counters of dispatches and their durations, and the signals sent to telemetry. -/

namespace IntentBus

/-- What a dispatch reports about itself. -/
inductive Observation
  | success (intent : String) (duration : Duration)
  | failure (intent : String) (kind : FailureKind) (duration : Duration)
  | validationFailure (intent : String) (phase : ValidationPhase)

/-- What telemetry is told. -/
inductive TelemetrySignal
  | increment (intent outcome : String)
  | duration (intent outcome : String) (length : Duration)
  | validationFailed (intent phase : String)
deriving DecidableEq

/-- Counters in words of 64 bits; the sum of durations wraps around, the longest duration is capped. -/
structure Counters where
  processed : UInt64
  succeeded : UInt64
  failed : UInt64
  validationFailed : UInt64
  samples : UInt64
  totalNanos : UInt64
  maxNanos : UInt64
deriving DecidableEq

/-- What can be read from counters. -/
structure MetricsSnapshot where
  processed : UInt64
  succeeded : UInt64
  failed : UInt64
  validationFailed : UInt64
  durationSamples : UInt64
  totalDuration : Duration
  maxDuration : Duration
deriving DecidableEq

/-- The counters of each intent name, and those of all dispatches. -/
structure MetricsCollector where
  perIntent : Dictionary Counters
  all : Counters

namespace Observation

/-- The label of a success. -/
def successLabel : String := "success"

def intent : Observation → String
  | success intent _ | failure intent _ _ | validationFailure intent _ => intent

/-- The signals that telemetry gets for an observation. -/
def signals : Observation → List TelemetrySignal
  | success intent length =>
    [.increment intent successLabel, .duration intent successLabel length]
  | failure intent kind length => [.increment intent kind.label, .duration intent kind.label length]
  | validationFailure intent phase => [.validationFailed intent phase.label]

end Observation

namespace Counters

def zero : Counters := ⟨0, 0, 0, 0, 0, 0, 0⟩

instance : Inhabited Counters := ⟨zero⟩

/-- Takes a duration into account, capped at 64 bits of nanoseconds. -/
def observe (counters : Counters) (length : Duration) : Counters :=
  let nanos := UInt64.ofNat (min length.nanos (UInt64.size - 1))
  { counters with
    samples := counters.samples + 1
    totalNanos := counters.totalNanos + nanos
    maxNanos := if counters.maxNanos < nanos then nanos else counters.maxNanos }

def record (counters : Counters) : Observation → Counters
  | .success _ length =>
    { counters with processed := counters.processed + 1, succeeded := counters.succeeded + 1 }.observe length
  | .failure _ _ length =>
    { counters with processed := counters.processed + 1, failed := counters.failed + 1 }.observe length
  | .validationFailure .. => { counters with validationFailed := counters.validationFailed + 1 }

def snapshot (counters : Counters) : MetricsSnapshot :=
  ⟨counters.processed, counters.succeeded, counters.failed, counters.validationFailed, counters.samples,
    .ofNanos counters.totalNanos.toNat, .ofNanos counters.maxNanos.toNat⟩

end Counters

namespace MetricsSnapshot

/-- The mean duration in whole nanoseconds, at most 64 bits of them; zero without samples. -/
def mean (snapshot : MetricsSnapshot) : Duration :=
  if snapshot.durationSamples = 0 then .zero
  else .ofNanos (min (snapshot.totalDuration.nanos / snapshot.durationSamples.toNat) (UInt64.size - 1))

def toJson (snapshot : MetricsSnapshot) : Json :=
  .object [("processed", .ofUInt64 snapshot.processed), ("succeeded", .ofUInt64 snapshot.succeeded),
    ("failed", .ofUInt64 snapshot.failed), ("validation_failed", .ofUInt64 snapshot.validationFailed),
    ("duration_samples", .ofUInt64 snapshot.durationSamples),
    ("total_duration", .ofDuration snapshot.totalDuration),
    ("max_duration", .ofDuration snapshot.maxDuration)]

end MetricsSnapshot

namespace MetricsCollector

def empty : MetricsCollector := ⟨.empty, .zero⟩

def counters (collector : MetricsCollector) (intent : String) : Counters :=
  (collector.perIntent.find? intent).getD .zero

def record (collector : MetricsCollector) (observation : Observation) : MetricsCollector :=
  ⟨collector.perIntent.insert observation.intent
      ((collector.counters observation.intent).record observation),
    collector.all.record observation⟩

/-- The counters of one intent name; they are zero for a name that was never observed. -/
def snapshot (collector : MetricsCollector) (intent : String) : MetricsSnapshot :=
  (collector.counters intent).snapshot

def totals (collector : MetricsCollector) : MetricsSnapshot := collector.all.snapshot

end MetricsCollector

/-- An update of an exported metric: a counter goes up by one, or a histogram gets a number of seconds. -/
inductive MetricUpdate
  | count (name : String) (labels : List (String × String))
  | observe (name : String) (labels : List (String × String)) (seconds : Binary64)

namespace MetricUpdate

/-- The length of a span in seconds, the fraction being added to the whole seconds. -/
def seconds (length : Duration) : Binary64 :=
  Binary64.ofNat length.secs + Binary64.ofNat length.subsecNanos / Binary64.ofNat Duration.nanosPerSecond

/-- The exported metrics: a counter and a histogram of dispatches, and a counter of failed validations. -/
def ofSignal : TelemetrySignal → MetricUpdate
  | .increment intent outcome => count "relay_dispatch_total" [("intent", intent), ("outcome", outcome)]
  | .duration intent outcome length =>
    observe "relay_dispatch_duration_seconds" [("intent", intent), ("outcome", outcome)] (seconds length)
  | .validationFailed intent phase =>
    count "relay_validation_failures_total" [("intent", intent), ("phase", phase)]

end MetricUpdate

end IntentBus
