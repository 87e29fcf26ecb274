import IntentBus.Bus.Execution
import IntentBus.Bus.Stages

/-! Dispatch: lookup, validation, authorization, execution and publication, with the correlation of the
dispatch active from lookup to its end. -/

namespace IntentBus.Bus

variable {σ ι α : Type}

/-- Counts an observation and passes it on to telemetry, where the bus is to do so. -/
def observe (bus : Bus σ ι α) (observation : Observation) : BusTask σ ι α Unit := do
  if bus.collecting then
    Task.modify fun state => { state with metrics := state.metrics.record observation }
    Task.signals (observation.signals.map .telemetry)

/-- The entry about a dispatch that ends with an error. -/
def failureLog (error : DispatchError) (elapsed : Duration) : LogEntry :=
  let outcome := [("elapsed_ms", Json.ofInt elapsed.toMillis), ("outcome", .string error.kind.label)]
  match error.kind with
  | .validation | .authorization => ⟨.debug, .dispatch, "dispatch rejected", outcome, []⟩
  | _ => ⟨.warn, .dispatch, "dispatch failed", outcome ++ [("error", .string error.message)], []⟩

/-- Counts and logs the error with which a dispatch ends. -/
def fail (bus : Bus σ ι α) (intent : Intent σ ι α) (error : DispatchError) (started : Nat) :
    BusTask σ ι α (Except DispatchError α) := do
  let elapsed ← BusTask.elapsedSince started
  bus.observe (.failure intent.name error.kind elapsed)
  Task.signal (.log (failureLog error elapsed))
  return .error error

/-- Hands a side effect to a publisher. That it could not be published is logged and goes no further. -/
def deliver (publisher : Publisher σ) (origin : IntentDescriptor) (effect : SideEffect) :
    BusTask σ ι α Unit := do
  Task.signal (.publish origin effect)
  match ← BusTask.ofApplication .log (publisher origin effect) with
  | none => return
  | some failure =>
    BusTask.log .warn .dispatch "side effect publication failed"
      [("topic", .string effect.topic), ("error", .string failure.message)]

/-- Publishes the side effect of an output, if there are a publisher and an effect. -/
def publish (bus : Bus σ ι α) (intent : Intent σ ι α) (output : α) (correlation : Correlation) :
    BusTask σ ι α Unit := do
  match bus.publisher with
  | none => return
  | some publisher =>
    Task.signal (.sideEffect output)
    match intent.sideEffect output with
    | none => return
    | some effect => deliver publisher (intent.descriptor correlation) effect

/-- The error of an execution that ended without an output. -/
def executionError (handler : String) (trace : IntentTrace) : ExecutionFault → DispatchError
  | .failed failure attempts => .execution handler attempts failure trace
  | .timedOut timeout attempts => .timeout handler timeout attempts trace

/-- Counts and logs a rejection by validation. -/
def reject (bus : Bus σ ι α) (intent : Intent σ ι α) (error : DispatchError) (started : Nat) :
    BusTask σ ι α (Except DispatchError α) := do
  if let .validation phase _ _ := error then bus.observe (.validationFailure intent.name phase)
  bus.fail intent error started

/-- Counts and logs the output with which a dispatch ends. -/
def succeed (bus : Bus σ ι α) (intent : Intent σ ι α) (output : α) (started : Nat) :
    BusTask σ ι α (Except DispatchError α) := do
  let elapsed ← BusTask.elapsedSince started
  bus.observe (.success intent.name elapsed)
  if bus.config.logCompletions then
    BusTask.log .info .dispatch "dispatch complete" [("elapsed_ms", .ofInt elapsed.toMillis)]
  return .ok output

/-- The request for the execution of an intent. -/
def request (bus : Bus σ ι α) (intent : Intent σ ι α) (bound : BoundHandler σ ι α) (correlation : Correlation)
    (context : ExecutionContext) : ExecutionRequest σ ι α :=
  .first intent correlation context bound.binding.handler (bound.timeout.or bus.config.defaultTimeout)

/-- Execution; an output is published before it is counted. -/
def execute (bus : Bus σ ι α) (intent : Intent σ ι α) (bound : BoundHandler σ ι α) (correlation : Correlation)
    (context : ExecutionContext) (started : Nat) : BusTask σ ι α (Except DispatchError α) := do
  match ← ExecutionService.stack bus.config.retry bus.draw bound.handler
      (bus.request intent bound correlation context) with
  | .error fault =>
    let elapsed ← BusTask.elapsedSince started
    let trace := IntentTrace.ofCorrelation correlation elapsed
    bus.fail intent (executionError bound.binding.handler trace fault) started
  | .ok output =>
    bus.publish intent output correlation
    bus.succeed intent output started

/-- The stages after lookup. The first that fails ends the dispatch. -/
def stages (bus : Bus σ ι α) (intent : Intent σ ι α) (bound : BoundHandler σ ι α) (correlation : Correlation)
    (context : ExecutionContext) (started : Nat) : BusTask σ ι α (Except DispatchError α) := do
  match ← bus.validate intent correlation started with
  | .error error => bus.reject intent error started
  | .ok () =>
    match ← bus.authorize intent correlation context started with
    | .error error => bus.fail intent error started
    | .ok () => bus.execute intent bound correlation context started

/-- The span of a dispatch. -/
def dispatchSpan (intent : Intent σ ι α) (handler : String) (correlation : Correlation) : LogSpan :=
  ⟨.info, .dispatch, "dispatch",
    [("intent", some (.string intent.name)), ("kind", some (.string intent.type.kind.label)),
      ("intent_id", some (.string correlation.intentId.text)),
      ("correlation_id", some (.string correlation.id)), ("handler", some (.string handler)),
      ("outcome", none), ("elapsed_ms", none)]⟩

/-- The correlation of a dispatch; an id is taken from the supply only if the intent has none. -/
def correlate (bus : Bus σ ι α) (intent : Intent σ ι α) : BusTask σ ι α Correlation :=
  .update fun state =>
    (intent.correlation (bus.freshId state.issued),
      if intent.provenance.correlationId.isSome then state else { state with issued := state.issued + 1 })

/-- Opens the scope of a correlation; the answer is its slot. -/
def enterScope (correlation : Correlation) : BusTask σ ι α Nat :=
  .update fun state =>
    let (slot, tracker) := state.tracker.enter correlation.id
    (slot, { state with tracker := tracker })

def leaveScope (slot : Nat) (state : BusState σ ι α) : BusState σ ι α :=
  { state with tracker := state.tracker.release slot }

/-- The answer to an intent of a type that is not bound. -/
def notFound (registry : Registry σ ι α) (intent : Intent σ ι α) (started : Nat) :
    BusTask σ ι α (Except DispatchError α) := do
  BusTask.log .debug .dispatch "no handler registered" [("intent", .string intent.name)]
  let elapsed ← BusTask.elapsedSince started
  return .error (.handlerNotFound intent.name registry.names (.ofIntent intent elapsed))

/-- The stages in a span of their own. The scope of the dispatch is open from lookup to the end, however it
ends. -/
def dispatchTo (bus : Bus σ ι α) (intent : Intent σ ι α) (bound : BoundHandler σ ι α)
    (context : ExecutionContext) (started : Nat) : BusTask σ ι α (Except DispatchError α) := do
  let correlation ← bus.correlate intent
  let slot ← enterScope correlation
  let span := dispatchSpan intent bound.binding.handler correlation
  (BusTask.inSpan span (bus.stages intent bound correlation context started)).releasing (leaveScope slot)

/-- Dispatches an intent in a context to the handler of its type. -/
def dispatch (bus : Bus σ ι α) (intent : Intent σ ι α) (context : ExecutionContext) :
    BusTask σ ι α (Except DispatchError α) := do
  let started ← Task.clock
  let registry := (← Task.read).registry
  match registry.tryFind intent.type with
  | .error error => return .error (.configuration error)
  | .ok none => notFound registry intent started
  | .ok (some bound) => bus.dispatchTo intent bound context started

/-- The key under which the result of an intent is cached: queries alone have one, and only on a bus with a
cache. -/
def cacheKey? (bus : Bus σ ι α) (intent : Intent σ ι α) : Option String :=
  if bus.caching && intent.type.kind = .query then intent.cacheKey else none

/-- Dispatches an intent past the cache and keeps its result there. -/
def dispatchAndKeep (bus : Bus σ ι α) (intent : Intent σ ι α) (key : String) (context : ExecutionContext) :
    BusTask σ ι α (Except DispatchError α) := do
  match ← bus.dispatch intent context with
  | .error error => return .error error
  | .ok output =>
    Task.signal (.cachePut intent.name key)
    Task.modify fun state =>
      { state with cache := state.cache.put intent.name key ⟨intent.type.resultType, output⟩ }
    return .ok output

/-- Dispatches a query through the cache: a kept result of the right type is the answer, and no stage is asked.
Any other intent is dispatched as usual. -/
def dispatchCached (bus : Bus σ ι α) (intent : Intent σ ι α) (context : ExecutionContext) :
    BusTask σ ι α (Except DispatchError α) := do
  match bus.cacheKey? intent with
  | none => bus.dispatch intent context
  | some key =>
    let kept := (← Task.read).cache.get? intent.name key
    let fields := [("intent", Json.string intent.name), ("key", .string key)]
    Task.signal (.cacheGet intent.name key kept.isSome)
    match kept with
    | none => bus.dispatchAndKeep intent key context
    | some result =>
      if result.type = intent.type.resultType then
        BusTask.log .debug .dispatch "query served from cache" fields
        return .ok result.value
      else
        BusTask.log .warn .dispatch "cached value has an unexpected type" fields
        bus.dispatchAndKeep intent key context

end IntentBus.Bus
