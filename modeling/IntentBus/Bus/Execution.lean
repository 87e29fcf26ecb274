import IntentBus.Bus.Basic

/-! Execution: a handler's attempt in its layers. Each attempt is traced and bounded in time, and attempts are
repeated as the policy allows. -/

namespace IntentBus

/-- What one attempt at an execution needs; attempts are numbered from one. -/
structure ExecutionRequest (σ ι α : Type) where
  intent : Intent σ ι α
  correlation : Correlation
  context : ExecutionContext
  handler : String
  timeout : Option Duration
  attempt : UInt32

/-- Something that serves requests. -/
abbrev ExecutionService (σ ι α : Type) :=
  ExecutionRequest σ ι α → BusTask σ ι α (Except ExecutionFault α)

namespace ExecutionRequest

variable {σ ι α : Type}

/-- The request for a first attempt. -/
def first (intent : Intent σ ι α) (correlation : Correlation) (context : ExecutionContext) (handler : String)
    (timeout : Option Duration) : ExecutionRequest σ ι α :=
  ⟨intent, correlation, context, handler, timeout, 1⟩

/-- The same request for another attempt. -/
def withAttempt (request : ExecutionRequest σ ι α) (attempt : UInt32) : ExecutionRequest σ ι α :=
  { request with attempt := attempt }

/-- The span of an attempt. -/
def span (request : ExecutionRequest σ ι α) : LogSpan :=
  ⟨.debug, .attempts, "execute",
    [("intent", some (.string request.intent.name)), ("handler", some (.string request.handler)),
      ("correlation_id", some (.string request.correlation.id)),
      ("attempt", some (.ofInt request.attempt.toNat)), ("duration_ms", none), ("outcome", none)]⟩

end ExecutionRequest

namespace Handler

variable {σ ι α : Type}

/-- The execution proper. -/
def executeFor (handler : Handler σ ι α) (request : ExecutionRequest σ ι α) :
    BusTask σ ι α (Except Failure α) := do
  Task.signal (.executeInContext request.correlation)
  match handler.executeInContext with
  | some step =>
    BusTask.ofHandler request.correlation (step request.intent request.correlation request.context)
  | none =>
    Task.signal (.execute request.correlation)
    BusTask.ofHandler request.correlation (handler.execute request.intent request.correlation)

/-- The three steps of an attempt; the first that fails is the last. -/
def steps (handler : Handler σ ι α) (request : ExecutionRequest σ ι α) :
    BusTask σ ι α (Except Failure α) := do
  Task.signal (.preProcess request.correlation)
  match ← BusTask.ofHandler request.correlation (handler.preProcess request.intent request.correlation) with
  | .error failure => return .error failure
  | .ok () =>
    match ← handler.executeFor request with
    | .error failure => return .error failure
    | .ok output =>
      Task.signal (.postProcess request.correlation output)
      let closed ← BusTask.ofHandler request.correlation
        (handler.postProcess request.intent output request.correlation)
      return closed.map fun () => output

/-- The call that tells the handler how its attempt went. -/
def closing (request : ExecutionRequest σ ι α) : Except Failure α → BusEvent α
  | .ok _ => .onSuccess request.correlation
  | .error failure => .onError request.correlation failure

/-- What the handler does when it is told how its attempt went. -/
def onClosing (handler : Handler σ ι α) (request : ExecutionRequest σ ι α) : Except Failure α → σ → σ
  | .ok _ => handler.onSuccess request.intent request.correlation
  | .error failure => handler.onError request.intent failure request.correlation

/-- Tells the handler how its attempt went. -/
def close (handler : Handler σ ι α) (request : ExecutionRequest σ ι α) (result : Except Failure α) :
    BusTask σ ι α Unit := do
  Task.signal (closing request result)
  BusTask.modifyApplication (handler.onClosing request result)

/-- One attempt with its closing step. -/
def attempt (handler : Handler σ ι α) (request : ExecutionRequest σ ι α) :
    BusTask σ ι α (Except Failure α) := do
  let result ← handler.steps request
  handler.close request result
  return result

/-- The service of a handler: a failure is reported with the number of its attempt. -/
def service (handler : Handler σ ι α) : ExecutionService σ ι α := fun request => do
  let result ← handler.attempt request
  return result.mapError (.failed · request.attempt.toNat)

end Handler

namespace ExecutionFault

variable {α : Type}

/-- The name of a result in the log. -/
def resultLabel : Except ExecutionFault α → String
  | .ok _ => "ok"
  | .error (.failed ..) => "failed"
  | .error (.timedOut ..) => "timed_out"

end ExecutionFault

namespace ExecutionService

variable {σ ι α : Type}

/-- The entry about the end of an attempt. -/
def completionLog (request : ExecutionRequest σ ι α) (result : Except ExecutionFault α) (elapsed : Duration) :
    LogEntry :=
  ⟨.debug, .attempts, "execution attempt complete",
    [("handler", .string request.handler), ("attempt", .ofInt request.attempt.toNat),
      ("duration_ms", .ofInt elapsed.toMillis), ("outcome", .string (ExecutionFault.resultLabel result))], []⟩

/-- Each attempt has a span of its own, and its end is logged there. -/
def traced (inner : ExecutionService σ ι α) : ExecutionService σ ι α := fun request =>
  BusTask.inSpan request.span do
    let started ← Task.clock
    let result ← inner request
    let elapsed ← BusTask.elapsedSince started
    Task.signal (.log (completionLog request result elapsed))
    return result

/-- Each attempt is dropped when the time allowed for it has passed. -/
def bounded (inner : ExecutionService σ ι α) : ExecutionService σ ι α := fun request =>
  match request.timeout with
  | none => inner request
  | some timeout => do
    match ← (inner request).within timeout.toMillisUp with
    | some result => return result
    | none => return .error (.timedOut timeout request.attempt.toNat)

/-- The wait before an attempt; where the policy asks for jitter, a drawn number shortens it. -/
def delayBefore (policy : RetryPolicy) (draw : Nat → Nat) (attempt : UInt32) : BusTask σ ι α Duration :=
  let delay := policy.backoff attempt.toNat
  if policy.jitter && delay ≠ .zero then
    .update fun state => (delay.jittered (draw state.drawn), { state with drawn := state.drawn + 1 })
  else .done delay

/-- The entry about an attempt that will be repeated. -/
def retryLog (policy : RetryPolicy) (request : ExecutionRequest σ ι α) (attempt : UInt32) (delay : Duration)
    (fault : ExecutionFault) : LogEntry :=
  ⟨.warn, .retries, "execution attempt failed, retrying",
    [("intent", .string request.intent.name), ("handler", .string request.handler),
      ("correlation_id", .string request.correlation.id), ("attempt", .ofInt attempt.toNat),
      ("max_attempts", .ofInt policy.attemptLimit.toNat), ("delay_ms", .ofInt delay.toMillis),
      ("error", .string fault.message)], []⟩

/-- Attempts from a given one on, until one has a result or no more are allowed. -/
def attemptsFrom (policy : RetryPolicy) (draw : Nat → Nat) (inner : ExecutionService σ ι α)
    (request : ExecutionRequest σ ι α) (attempt : UInt32) : BusTask σ ι α (Except ExecutionFault α) := do
  match ← inner (request.withAttempt attempt) with
  | .ok output => return .ok output
  | .error fault =>
    if policy.attemptLimit ≤ attempt then return .error fault
    else
      let delay ← delayBefore policy draw (attempt + 1)
      Task.signal (.log (retryLog policy request attempt delay fault))
      Task.sleep delay.toMillisUp
      attemptsFrom policy draw inner request (attempt + 1)
termination_by policy.attemptLimit.toNat - attempt.toNat
decreasing_by
  next more =>
  have := UInt32.lt_iff_toNat_lt.1 (UInt32.not_le.1 more)
  have := policy.attemptLimit.toNat_lt
  rw [UInt32.toNat_add, UInt32.toNat_one]
  omega

/-- Attempts are repeated as the policy allows, from the one that is asked for on. -/
def retried (policy : RetryPolicy) (draw : Nat → Nat) (inner : ExecutionService σ ι α) :
    ExecutionService σ ι α := fun request =>
  attemptsFrom policy draw inner request (if request.attempt = 0 then 1 else request.attempt)

/-- The service of a handler for single attempts: traced, and bounded in time. -/
def single (handler : Handler σ ι α) : ExecutionService σ ι α := bounded (traced handler.service)

/-- The service of a handler in all its layers. -/
def stack (policy : RetryPolicy) (draw : Nat → Nat) (handler : Handler σ ι α) : ExecutionService σ ι α :=
  retried policy draw (single handler)

end ExecutionService

end IntentBus
