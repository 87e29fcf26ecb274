import IntentBus.Proofs.Courses
import IntentBus.Proofs.Lookups

/-! What an error says agrees with what ran: with the attempts that were made, with the handler and the bound that were found
at the lookup, with the names that were bound then, and with the correlation that everybody was told. -/

namespace IntentBus

variable {σ ι α : Type}

/-- So many attempts were seen of a call, and at its lookup its type was bound to a handler under this name. -/
structure Call.Attempted (call : Call σ ι α) (state : BusState σ ι α) (events : List (BusEvent α))
    (bound : BoundHandler σ ι α) (name : String) (attempts : Nat) : Prop where
  found : state.registry.tryFind call.intent.type = .ok (some bound)
  binding : state.registry.binding? call.intent.type = some ⟨call.intent.type, name⟩
  begun : attempts = events.countP BusEvent.begins
  made : 1 ≤ attempts

/-- The trace of a call past its lookup, with the one correlation id that everybody was told. -/
structure Call.Traced (bus : Bus σ ι α) (call : Call σ ι α) (state : BusState σ ι α) (events : List (BusEvent α))
    (trace : IntentTrace) : Prop where
  own : ∃ elapsed, trace = .ofCorrelation (call.intent.correlation (bus.freshId state.issued)) elapsed
  told : ∀ event ∈ events, ∀ id, event.correlationId? = some id → trace.correlationId = some id

/-- What an error says agrees with what was seen of a call that was begun in a state. That a binding cannot be used never
happens. -/
def Call.Agrees (bus : Bus σ ι α) (call : Call σ ι α) (state : BusState σ ι α) (events : List (BusEvent α)) :
    DispatchError → Prop
  | .handlerNotFound intent registered trace =>
    intent = call.intent.name ∧ state.registry.hasHandler call.intent.type = false ∧
      registered.Pairwise (· < ·) ∧
        (∀ name, name ∈ registered ↔ ∃ type, state.registry.hasHandler type = true ∧ type.name = name) ∧
          ∃ elapsed, trace = .ofIntent call.intent elapsed
  | .validation _ violations trace | .authorization violations trace =>
    violations ≠ [] ∧ call.Traced bus state events trace
  | .execution handler attempts _ trace =>
    (∃ bound, call.Attempted state events bound handler attempts) ∧ call.Traced bus state events trace
  | .timeout handler timeout attempts trace =>
    (∃ bound, call.Attempted state events bound handler attempts ∧
      bound.handler.timeout.or bus.config.defaultTimeout = some timeout) ∧ call.Traced bus state events trace
  | .configuration _ => False

/-- The error of a call agrees with what was seen of the call; it may be tried again exactly if something was tried. -/
structure Call.Coherent (bus : Bus σ ι α) (call : Call σ ι α) (state : BusState σ ι α) (events : List (BusEvent α))
    (error : DispatchError) : Prop where
  agrees : call.Agrees bus state events error
  retryable : error.isRetryable = true ↔ ∃ event ∈ events, event.begins = true

namespace Registry

variable {registry : Registry σ ι α} {log : List (RegistryCall σ ι α)} {type : IntentType}

private theorem Refines.bound (refines : registry.Refines log) {bound : BoundHandler σ ι α}
    (found : registry.tryFind type = .ok (some bound)) :
    registry.binding? type = some ⟨type, bound.binding.handler⟩ ∧ bound.timeout = bound.handler.timeout := by
  by_cases registered : RegistryCall.Registered log type
  · obtain ⟨handler, _, own, _, binding, _⟩ := refines.present type registered
    cases found.symm.trans own
    exact ⟨binding, rfl⟩
  · nomatch found.symm.trans (refines.absent type registered).1

private theorem Refines.unbound (refines : registry.Refines log) (missing : registry.tryFind type = .ok none) :
    registry.hasHandler type = false := by
  by_cases registered : RegistryCall.Registered log type
  · obtain ⟨handler, _, own, _⟩ := refines.present type registered
    nomatch missing.symm.trans own
  · exact (refines.absent type registered).2.2.2

end Registry

namespace BusEvent

private theorem Aside.not_begins {event : BusEvent α} (aside : event.Aside) : event.begins = false := by
  cases event with
  | preProcess correlation => nomatch aside
  | _ => rfl

private theorem none_begins {events : List (BusEvent α)} (aside : ∀ event ∈ events, event.Aside) :
    ¬∃ event ∈ events, event.begins = true := by
  rintro ⟨event, mem, begins⟩
  nomatch (aside event mem).not_begins.symm.trans begins

private theorem countP_begins_aside {events : List (BusEvent α)} (aside : ∀ event ∈ events, event.Aside) :
    events.countP BusEvent.begins = 0 :=
  List.countP_eq_zero.2 fun event mem begins => none_begins aside ⟨event, mem, begins⟩

end BusEvent

namespace Call

variable {bus : Bus σ ι α} {call : Call σ ι α} {state : BusState σ ι α} {events : List (BusEvent α)}
  {error : DispatchError} {log : List (RegistryCall σ ι α)}

private theorem traced (elapsed : Duration) (told : ∀ event ∈ events, ∀ id, event.correlationId? = some id →
      id = (call.intent.correlation (bus.freshId state.issued)).id) :
    call.Traced bus state events (.ofCorrelation (call.intent.correlation (bus.freshId state.issued)) elapsed) :=
  ⟨⟨elapsed, rfl⟩, fun event mem id own => congrArg some (told event mem id own).symm⟩

private theorem coherent_of_refusal (aside : ∀ event ∈ events, event.Aside)
    (refuses : bus.Refuses (call.intent.correlation (bus.freshId state.issued)) error)
    (told : ∀ event ∈ events, ∀ id, event.correlationId? = some id →
      id = (call.intent.correlation (bus.freshId state.issued)).id) : call.Coherent bus state events error := by
  have unbegun := BusEvent.none_begins aside
  cases refuses with
  | invalid phase elapsed reason => exact ⟨⟨reason, traced elapsed told⟩, iff_of_false Bool.false_ne_true unbegun⟩
  | denied elapsed reason enabled => exact ⟨⟨reason, traced elapsed told⟩, iff_of_false Bool.false_ne_true unbegun⟩

private theorem coherent_of_fault {bound : BoundHandler σ ι α} {fault : ExecutionFault} (elapsed : Duration)
    (attempted : call.Attempted state events bound bound.binding.handler fault.attempts)
    (bounded : ∀ timeout attempts, fault = .timedOut timeout attempts →
      bound.handler.timeout.or bus.config.defaultTimeout = some timeout)
    (told : ∀ event ∈ events, ∀ id, event.correlationId? = some id →
      id = (call.intent.correlation (bus.freshId state.issued)).id) :
    call.Coherent bus state events (Bus.executionError bound.binding.handler
      (.ofCorrelation (call.intent.correlation (bus.freshId state.issued)) elapsed) fault) := by
  have begins : ∃ event ∈ events, event.begins = true := List.countP_pos_iff.1 (attempted.begun ▸ attempted.made)
  cases fault with
  | failed failure attempts => exact ⟨⟨⟨bound, attempted⟩, traced elapsed told⟩, iff_of_true rfl begins⟩
  | timedOut timeout attempts =>
    exact ⟨⟨⟨bound, attempted, bounded timeout attempts rfl⟩, traced elapsed told⟩, iff_of_true rfl begins⟩

private theorem Course.coherent (refines : state.registry.Refines log)
    (course : call.Course bus state events (some (.error error))) : call.Coherent bus state events error := by
  cases course with
  | misbound silent found => exact absurd found (refines.sound _ _)
  | unbound silent elapsed missing =>
    refine ⟨⟨rfl, refines.unbound missing, refines.ordered, refines.listed, elapsed, rfl⟩, ?_⟩
    exact iff_of_false Bool.false_ne_true (BusEvent.none_begins fun event mem => (silent event mem).1)
  | dispatched found course told =>
    generalize same : some (Except.error error : Except DispatchError α) = result at course
    cases course with
    | judging aside => nomatch same
    | refused aside refuses =>
      cases same
      exact coherent_of_refusal aside refuses told
    | executed early rows late concludes =>
      cases concludes with
      | unfinished => nomatch same
      | succeeded output => nomatch same
      | failed fault elapsed =>
        cases same
        obtain ⟨binding, timeout⟩ := refines.bound found
        obtain ⟨made, attempts, bound⟩ := rows.fault
        refine coherent_of_fault elapsed ⟨found, binding, ?_, attempts ▸ made⟩ (fun length number cut => ?_) told
        · simp only [List.countP_append, BusEvent.countP_begins_aside early, BusEvent.countP_begins_aside late,
            rows.countP_begins, attempts, Nat.zero_add, Nat.add_zero]
        · exact timeout ▸ bound length number cut

end Call

namespace Session

/-- Whatever happens to a bus after it was built, each error that a call ends with agrees with what was seen of the call
and with what was bound when it was begun. -/
theorem errors_cohere {bus : Bus σ ι α} {handlers : List (Handler σ ι α)} {application : σ} {start : BusState σ ι α}
    (built : (bus.build handlers application).2 = .ok start) (moves : List (Move σ ι α)) :
    ∀ own ∈ ((opening start).after bus moves).ended, ∀ error, own.result = some (.error error) →
      ∃ state, Begins bus start moves own.call state ∧ own.call.Coherent bus state own.events error := by
  intro own mem error fails
  obtain ⟨state, begins, course⟩ := (courses_after bus start moves).ended own mem
  obtain ⟨log, refines⟩ := refines_of_reaches built begins.reaches
  rw [fails] at course
  exact ⟨state, begins, course.coherent refines⟩

/-- A report that needs longer than the thirty milliseconds it is given is tried twice, fifty milliseconds apart, and ends
with an error that tells of two attempts. -/
theorem errors_cohere_for_slow_report :
    let config := { BusConfig.standard with
      defaultTimeout := some (.ofMillis 30), retry := { RetryPolicy.single with maxAttempts := 2 } }
    let bus := { Traffic.publishingBus with config := config }
    let entry : RegistryEntry Unit Unit String := .of ⟨Traffic.slowReport, Traffic.slowHandler.name⟩ Traffic.slowHandler
    let start : BusState Unit Unit String :=
      ⟨⟨.permissive, Table.empty.insert Traffic.slowReport entry⟩, .empty, .empty, .empty, (), 0, 0⟩
    let call : Call Unit Unit String := ⟨.plain Traffic.slowReport (.fresh .nil 0) (), .empty, false⟩
    let moves := [Move.begin call 0, .resume 0 30, .resume 0 80, .resume 0 110]
    let error := DispatchError.timeout "ReportHandler" (.ofMillis 30) 2
      (.ofCorrelation (call.intent.correlation "0") (.ofMillis 110))
    (bus.build [Traffic.slowHandler] ()).2 = .ok start ∧
      ∃ own ∈ ((opening start).after bus moves).ended, own.result = some (.error error) ∧
        ∃ state, Begins bus start moves own.call state ∧ own.call.Coherent bus state own.events error := by
  intro config bus entry start call moves error
  have built : (bus.build [Traffic.slowHandler] ()).2 = .ok start := rfl
  have ended : (((opening start).after bus moves).ended.map (·.result)) = [some (.error error)] := by decide +kernel
  obtain ⟨own, mem, result⟩ := List.mem_map.1 (ended ▸ List.mem_singleton_self (some (Except.error error)))
  exact ⟨built, own, mem, result, errors_cohere built moves own mem error result⟩

end Session

end IntentBus
