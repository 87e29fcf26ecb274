import IntentBus.Bus.Basic

/-! The two stages before execution: validation in two phases, and authorization. -/

namespace IntentBus.Bus

variable {σ ι α : Type}

/-- The error of a phase that found violations. -/
def rejected (phase : ValidationPhase) (outcome : ValidationOutcome) (correlation : Correlation)
    (started : Nat) : BusTask σ ι α (Except DispatchError Unit) := do
  BusTask.log .debug .validation "validation rejected intent"
    [("intent", .string correlation.intentName), ("correlation_id", .string correlation.id),
      ("phase", .string phase.label), ("fields", .string (LogEntry.namesText outcome.fields))]
  let elapsed ← BusTask.elapsedSince started
  return .error (.validation phase outcome.violations (.ofCorrelation correlation elapsed))

/-- A phase of validation; any violation ends it with an error. -/
def judged (phase : ValidationPhase) (judge : ApplicationTask σ ValidationOutcome) (correlation : Correlation)
    (started : Nat) : BusTask σ ι α (Except DispatchError Unit) := do
  let outcome ← BusTask.ofApplication .log judge
  if outcome.isValid then return .ok () else rejected phase outcome correlation started

/-- Validation: the engine judges the declared constraints, even if there are none; the rules of the intent
itself are asked only when the engine found nothing. -/
def validate (bus : Bus σ ι α) (intent : Intent σ ι α) (correlation : Correlation) (started : Nat) :
    BusTask σ ι α (Except DispatchError Unit) := do
  Task.signal .constraints
  Task.signal (.engine intent.name intent.constraints.size)
  match ← judged .structural (bus.engine intent) correlation started with
  | .error error => return .error error
  | .ok () =>
    Task.signal (.validate correlation)
    judged .custom (intent.validate correlation) correlation started

/-- The answer of the intent itself to the question of access. -/
def askIntent (intent : Intent σ ι α) (correlation : Correlation) (context : ExecutionContext) :
    AccessTask σ AuthorizationOutcome := do
  Task.signal (.authorizeInContext correlation)
  match intent.authorizeInContext with
  | some rule => (rule correlation context).mapEvents .log
  | none =>
    Task.signal (.authorize correlation)
    (intent.authorize correlation).mapEvents .log

/-- The answer of the gate. -/
def askGate (bus : Bus σ ι α) (intent : Intent σ ι α) (correlation : Correlation) (context : ExecutionContext) :
    BusTask σ ι α AuthorizationOutcome := do
  Task.signal (.gate intent.name correlation)
  BusTask.ofApplication .ofAccess (bus.gate.judge intent.name (askIntent intent) correlation context)

/-- The reasons of a denial; one without reasons gets a general one. -/
def denialReasons (intent : Intent σ ι α) (outcome : AuthorizationOutcome) : List Violation :=
  if outcome.violations.isEmpty then [⟨intent.name, "access denied", "ACCESS_DENIED"⟩]
  else outcome.violations

/-- The entry about a denial. -/
def denialLog (intent : Intent σ ι α) (correlation : Correlation) (violations : List Violation) : LogEntry :=
  ⟨.debug, .authorization, "authorization denied intent",
    [("intent", .string intent.name), ("correlation_id", .string correlation.id),
      ("codes", .string (LogEntry.namesText (violations.map (·.code))))], []⟩

/-- Authorization; nobody is asked when it is disabled. -/
def authorize (bus : Bus σ ι α) (intent : Intent σ ι α) (correlation : Correlation) (context : ExecutionContext)
    (started : Nat) : BusTask σ ι α (Except DispatchError Unit) := do
  if !bus.config.authorizationEnabled then return .ok ()
  let outcome ← bus.askGate intent correlation context
  if outcome.isAuthorized then return .ok ()
  let violations := denialReasons intent outcome
  Task.signal (.log (denialLog intent correlation violations))
  let elapsed ← BusTask.elapsedSince started
  return .error (.authorization violations (.ofCorrelation correlation elapsed))

end IntentBus.Bus
