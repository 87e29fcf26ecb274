import IntentBus.Bus.Dispatch
import IntentBus.Proofs.Attempts

/-! What can be seen of each stage of a dispatch, and of all of them: said once for each, so that nobody has to go through
the stages for another kind of event. -/

namespace IntentBus

variable {σ ι α : Type}

namespace BusEvent

inductive OfValidation (intent : Intent σ ι α) (correlation : Correlation) : BusEvent α → Prop
  | constraints : OfValidation intent correlation constraints
  | engine : OfValidation intent correlation (engine intent.name intent.constraints.size)
  | validate : OfValidation intent correlation (validate correlation)
  | log (entry : LogEntry) : OfValidation intent correlation (log entry)

inductive OfAuthorization (intent : Intent σ ι α) (correlation : Correlation) : BusEvent α → Prop
  | gate : OfAuthorization intent correlation (gate intent.name correlation)
  | access (event : AccessEvent) : OfAuthorization intent correlation (ofAccess event)
  | log (entry : LogEntry) : OfAuthorization intent correlation (log entry)

inductive OfPublication (intent : Intent σ ι α) (correlation : Correlation) : BusEvent α → Prop
  | sideEffect (output : α) : OfPublication intent correlation (sideEffect output)
  | publish (effect : SideEffect) : OfPublication intent correlation (publish (intent.descriptor correlation) effect)
  | log (entry : LogEntry) : OfPublication intent correlation (log entry)

inductive OfReport : BusEvent α → Prop
  | telemetry (signal : TelemetrySignal) : OfReport (telemetry signal)
  | log (entry : LogEntry) : OfReport (log entry)

/-- A report about a dispatch is no call. -/
theorem OfReport.quiet {event : BusEvent α} (own : event.OfReport) : event.Quiet := by
  cases own <;> rfl

end BusEvent

namespace Bus

variable (bus : Bus σ ι α) (intent : Intent σ ι α) (correlation : Correlation) (context : ExecutionContext)
  (started : Nat)

/-- A judge writes to the log, and nothing else is seen of its phase. -/
theorem emits_judged {allowed : BusEvent α → Prop} (logs : ∀ entry, allowed (.log entry)) (phase : ValidationPhase)
    (judge : ApplicationTask σ ValidationOutcome) :
    (judged phase judge correlation started : BusTask σ ι α _).Emits allowed := by
  apply (Task.emits_focus logs judge).bind
  intro outcome
  split
  · trivial
  · exact ⟨logs _, fun _ _ => trivial⟩

/-- Nothing else is seen of the validation of an intent. -/
theorem emits_validate :
    (bus.validate intent correlation started).Emits (BusEvent.OfValidation intent correlation) := by
  refine ⟨.constraints, .engine, (emits_judged correlation started .log .structural (bus.engine intent)).bind ?_⟩
  intro result
  cases result with
  | error error => trivial
  | ok => exact ⟨.validate, emits_judged correlation started .log .custom (intent.validate correlation)⟩

/-- Where nobody is asked, nothing is seen. -/
theorem emits_authorize : (bus.authorize intent correlation context started).Emits fun event =>
    bus.config.authorizationEnabled = true ∧ event.OfAuthorization intent correlation := by
  unfold authorize
  cases enabled : bus.config.authorizationEnabled with
  | false => trivial
  | true =>
    have asked : (bus.askGate intent correlation context).Emits fun event =>
        true = true ∧ event.OfAuthorization intent correlation :=
      ⟨⟨rfl, .gate⟩, Task.emits_focus (fun event => ⟨rfl, .access event⟩) _⟩
    apply asked.bind
    intro outcome
    split
    · trivial
    · exact ⟨⟨rfl, .log _⟩, fun _ _ => trivial⟩

/-- Nothing else is seen of the publication of an output. -/
theorem emits_publish (output : α) :
    (bus.publish intent output correlation).Emits (BusEvent.OfPublication intent correlation) := by
  unfold publish
  cases bus.publisher with
  | none => trivial
  | some publisher =>
    refine ⟨.sideEffect output, ?_⟩
    cases intent.sideEffect output with
    | none => trivial
    | some effect =>
      refine ⟨.publish effect, (Task.emits_focus BusEvent.OfPublication.log _).bind fun failure => ?_⟩
      cases failure with
      | none => trivial
      | some failure => exact ⟨.log _, trivial⟩

private theorem emits_observe (observation : Observation) : (bus.observe observation).Emits BusEvent.OfReport := by
  unfold observe
  split
  · refine fun _ _ => Task.emits_signals fun event mem => ?_
    obtain ⟨signal, _, rfl⟩ := List.mem_map.1 mem
    exact .telemetry signal
  · trivial

/-- A failure emits nothing but reports. -/
theorem emits_fail (error : DispatchError) : (bus.fail intent error started).Emits BusEvent.OfReport :=
  fun _ _ => (emits_observe bus _).bind fun _ => ⟨.log _, trivial⟩

/-- A rejection emits nothing but reports. -/
theorem emits_reject (error : DispatchError) : (bus.reject intent error started).Emits BusEvent.OfReport := by
  unfold reject
  split
  · exact (emits_observe bus _).bind fun _ => emits_fail bus intent started _
  · exact emits_fail bus intent started _

/-- A success emits nothing but reports. -/
theorem emits_succeed (output : α) : (bus.succeed intent output started).Emits BusEvent.OfReport := by
  intro _ _
  apply (emits_observe bus _).bind
  intro _
  split
  · exact ⟨.log _, trivial⟩
  · trivial

section

variable {bus} {intent} {correlation} {allowed : BusEvent α → Prop}
  (validation : ∀ event : BusEvent α, event.OfValidation intent correlation → allowed event)
  (authorization : ∀ event : BusEvent α, bus.config.authorizationEnabled = true → event.OfAuthorization intent correlation →
    allowed event)
  (execution : ∀ event : BusEvent α, event.OfExecution correlation → allowed event)
  (publication : ∀ event : BusEvent α, event.OfPublication intent correlation → allowed event)
  (report : ∀ event : BusEvent α, event.OfReport → allowed event)

include execution publication report

private theorem emits_execute_of_each (bound : BoundHandler σ ι α) :
    (bus.execute intent bound correlation context started).Emits allowed := by
  have executes : (ExecutionService.stack bus.config.retry bus.draw bound.handler
      (bus.request intent bound correlation context)).Emits allowed :=
    (ExecutionService.opens_stack bound.handler (bus.request intent bound correlation context) _ _).emits
      (execution _ (.inl rfl)) execution
  apply executes.bind
  intro result
  cases result with
  | error fault => exact fun _ _ => (bus.emits_fail intent started _).mono report
  | ok output =>
    refine ((bus.emits_publish intent correlation output).mono publication).bind fun _ => ?_
    exact (bus.emits_succeed intent started output).mono report

include validation authorization

/-- What is allowed to be seen of each stage is all that is seen of the stages together. -/
theorem emits_stages_of_each (bound : BoundHandler σ ι α) :
    (bus.stages intent bound correlation context started).Emits allowed := by
  apply ((bus.emits_validate intent correlation started).mono validation).bind
  intro result
  cases result with
  | error error => exact (bus.emits_reject intent started error).mono report
  | ok =>
    apply ((bus.emits_authorize intent correlation context started).mono fun event own =>
      authorization event own.1 own.2).bind
    intro result
    cases result with
    | error error => exact (bus.emits_fail intent started error).mono report
    | ok => exact emits_execute_of_each context started execution publication report bound

end

end Bus

end IntentBus
