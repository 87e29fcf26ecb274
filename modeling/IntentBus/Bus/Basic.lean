import IntentBus.CorrelationTracker
import IntentBus.Metrics
import IntentBus.Registry
import IntentBus.ResultCache

/-! Buses: what they are composed of, what they keep, and what can be seen of them while they work. -/

namespace IntentBus

/-- A judge of the declared constraints of an intent; it may look at the intent as well. -/
abbrev ConstraintEngine (σ ι α : Type) := Intent σ ι α → ApplicationTask σ ValidationOutcome

/-- What a judge of access does that can be seen from outside: it writes to the log, or it asks the intent. -/
inductive AccessEvent
  | log (entry : LogEntry)
  | authorizeInContext (correlation : Correlation)
  | authorize (correlation : Correlation)

/-- The work of a judge of access. -/
abbrev AccessTask (σ β : Type) := Task σ AccessEvent β

/-- A judge of access; of the intent it knows the name, and how to ask it. It also tells whether it is at work at all, which
makes no difference to its judgements. -/
structure AuthorizationGate (σ : Type) where
  enabled : Bool
  judge : String → (Correlation → ExecutionContext → AccessTask σ AuthorizationOutcome) → Correlation →
    ExecutionContext → AccessTask σ AuthorizationOutcome

/-- A receiver of side effects; the answer is why one could not be published, if it could not. -/
abbrev Publisher (σ : Type) := IntentDescriptor → SideEffect → ApplicationTask σ (Option Failure)

/-- The composition of a bus. It asks a supply for the ids that it makes up itself and another for random
numbers; the supplies answer by position. -/
structure Bus (σ ι α : Type) where
  config : BusConfig
  engine : ConstraintEngine σ ι α
  gate : AuthorizationGate σ
  collecting : Bool
  publisher : Option (Publisher σ)
  caching : Bool
  freshId : Nat → String
  draw : Nat → Nat

/-- What a bus keeps between dispatches, with the state of the application around it. -/
structure BusState (σ ι α : Type) where
  registry : Registry σ ι α
  tracker : CorrelationTracker
  metrics : MetricsCollector
  cache : ResultCache α
  application : σ
  issued : Nat
  drawn : Nat

/-- What a bus asks of others while it works: of the cache, the intent, the engine, the gate, the handler, the
publisher and telemetry; and what is written to the log. -/
inductive BusEvent (α : Type)
  | cacheGet (intent key : String) (hit : Bool)
  | cachePut (intent key : String)
  | constraints
  | engine (intent : String) (count : Nat)
  | validate (correlation : Correlation)
  | gate (intent : String) (correlation : Correlation)
  | authorizeInContext (correlation : Correlation)
  | authorize (correlation : Correlation)
  | preProcess (correlation : Correlation)
  | executeInContext (correlation : Correlation)
  | execute (correlation : Correlation)
  | handler (correlation : Correlation) (event : HandlerEvent)
  | postProcess (correlation : Correlation) (output : α)
  | onSuccess (correlation : Correlation)
  | onError (correlation : Correlation) (failure : Failure)
  | sideEffect (output : α)
  | publish (origin : IntentDescriptor) (effect : SideEffect)
  | telemetry (signal : TelemetrySignal)
  | log (entry : LogEntry)

namespace BusEvent

variable {α : Type}

/-- What a judge of access does, as an event of the bus. -/
def ofAccess : AccessEvent → BusEvent α
  | .log entry => log entry
  | .authorizeInContext correlation => authorizeInContext correlation
  | .authorize correlation => authorize correlation

/-- The entry that an event writes to the log; handlers write there too. -/
def log? : BusEvent α → Option LogEntry
  | log entry | handler _ (.log entry) => some entry
  | _ => none

def telemetry? : BusEvent α → Option TelemetrySignal
  | telemetry signal => some signal
  | _ => none

/-- The event inside one more span, which entries of the log know. -/
def inside (span : LogSpan) : BusEvent α → BusEvent α
  | log entry => log (entry.inside span)
  | handler correlation (.log entry) => handler correlation (.log (entry.inside span))
  | event => event

end BusEvent

/-- A task of a bus. -/
abbrev BusTask (σ ι α β : Type) := Task (BusState σ ι α) (BusEvent α) β

namespace ConstraintEngine

variable {σ ι α : Type}

/-- The engine that evaluates the constraints and logs each violation. -/
def rules : ConstraintEngine σ ι α := fun intent => do
  let outcome := intent.constraints.evaluate
  Task.signals (outcome.violations.map fun violation =>
    ⟨.trace, .constraints, "constraint violated",
      [("field", .string violation.subject), ("code", .string violation.code)], []⟩)
  return outcome

end ConstraintEngine

namespace AuthorizationGate

/-- The gate that leaves every question to the intent. -/
def intentsOwn {σ : Type} : AuthorizationGate σ := ⟨true, fun _ ask correlation context => ask correlation context⟩

end AuthorizationGate

namespace Bus

/-- A bus with nothing but its settings: it evaluates constraints, asks the intents for access, and counts,
publishes and caches nothing. -/
def ofConfig {σ ι α : Type} (config : BusConfig) (freshId : Nat → String) (draw : Nat → Nat) : Bus σ ι α :=
  ⟨config, .rules, .intentsOwn, false, none, false, freshId, draw⟩

end Bus

namespace BusState

variable {σ ι α : Type}

/-- The state of a bus without handlers, before its first dispatch. -/
def initial (config : BusConfig) (application : σ) : BusState σ ι α :=
  ⟨.empty config.registrationMode, .empty, .empty, .empty, application, 0, 0⟩

/-- The state with another state of the application. -/
def withApplication (application : σ) (state : BusState σ ι α) : BusState σ ι α :=
  { state with application := application }

/-- How many dispatches are between lookup and their end. -/
def inFlight (state : BusState σ ι α) : Nat := state.tracker.count

end BusState

namespace BusTask

variable {σ ι α : Type}

def log (level : LogLevel) (source : LogSource) (message : String) (fields : List (String × Json)) :
    BusTask σ ι α Unit :=
  .signal (.log ⟨level, source, message, fields, []⟩)

/-- A task whose entries of the log are written in a span. -/
def inSpan {β : Type} (span : LogSpan) (task : BusTask σ ι α β) : BusTask σ ι α β :=
  task.mapEvents (.inside span)

/-- The time since an earlier time. -/
def elapsedSince (started : Nat) : BusTask σ ι α Duration :=
  .get fun now _ => .done (.ofMillis (now - started))

/-- A task on the state of the application. -/
def ofApplication {ε β : Type} (event : ε → BusEvent α) (task : Task σ ε β) : BusTask σ ι α β :=
  task.focus BusState.application BusState.withApplication event

/-- A step of a handler. -/
def ofHandler {β : Type} (correlation : Correlation) (step : HandlerTask σ β) :
    BusTask σ ι α (Except Failure β) :=
  ofApplication (.handler correlation) step

def modifyApplication (f : σ → σ) : BusTask σ ι α Unit :=
  .modify fun state => state.withApplication (f state.application)

end BusTask

namespace IntentTrace

/-- The trace of a dispatch without a correlation yet. -/
def ofIntent {σ ι α : Type} (intent : Intent σ ι α) (elapsed : Duration) : IntentTrace :=
  ⟨intent.name, intent.provenance.id, intent.provenance.correlationId, elapsed⟩

def ofCorrelation (correlation : Correlation) (elapsed : Duration) : IntentTrace :=
  ⟨correlation.intentName, correlation.intentId, some correlation.id, elapsed⟩

end IntentTrace

end IntentBus
