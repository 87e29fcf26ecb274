import IntentBus.Bus.Execution
import IntentBus.Proofs.Calls

/-! Single attempts: what they do on their own, and what is left of one whose bound runs out before. -/

namespace IntentBus

variable {σ ι α : Type}

/-- One attempt at a request: its number, and when and in which state it begins. -/
structure Attempt (σ ι α : Type) where
  number : UInt32
  began : Nat
  state : BusState σ ι α

namespace ExecutionRequest

def execution (request : ExecutionRequest σ ι α) (handler : Handler σ ι α) : HandlerTask σ α :=
  match handler.executeInContext with
  | some step => step request.intent request.correlation request.context
  | none => handler.execute request.intent request.correlation

end ExecutionRequest

namespace Handler

variable (handler : Handler σ ι α) (request : ExecutionRequest σ ι α)

/-- The steps of an attempt bring about an end, at a time and in a state: an output if all three succeed, each from where
the one before it has ended, and else the failure of the first that fails. -/
inductive Brings (time : Nat) (state : σ) : Except Failure α → Nat → σ → Prop
  | refusal {failure : Failure} {ended : Nat} {final : σ}
    (refused : ((handler.preProcess request.intent request.correlation).run time state).Ends (.error failure) ended final) :
    Brings time state (.error failure) ended final
  | failure {failure : Failure} {readied ended : Nat} {ready final : σ}
    (readies : ((handler.preProcess request.intent request.correlation).run time state).Ends (.ok ()) readied ready)
    (fails : ((request.execution handler).run readied ready).Ends (.error failure) ended final) :
    Brings time state (.error failure) ended final
  | complaint {output : α} {failure : Failure} {readied executed ended : Nat} {ready done final : σ}
    (readies : ((handler.preProcess request.intent request.correlation).run time state).Ends (.ok ()) readied ready)
    (executes : ((request.execution handler).run readied ready).Ends (.ok output) executed done)
    (complains : ((handler.postProcess request.intent output request.correlation).run executed done).Ends
      (.error failure) ended final) :
    Brings time state (.error failure) ended final
  | success {output : α} {readied executed ended : Nat} {ready done final : σ}
    (readies : ((handler.preProcess request.intent request.correlation).run time state).Ends (.ok ()) readied ready)
    (executes : ((request.execution handler).run readied ready).Ends (.ok output) executed done)
    (completes : ((handler.postProcess request.intent output request.correlation).run executed done).Ends (.ok ()) ended
      final) :
    Brings time state (.ok output) ended final

/-- What a handler makes of the application when it is told how its attempt went: of a success in one way, and of a failure
in another. -/
inductive Told : Except Failure α → σ → σ → Prop
  | success (output : α) (state : σ) :
    Told (.ok output) state (handler.onSuccess request.intent request.correlation state)
  | failure (failure : Failure) (state : σ) :
    Told (.error failure) state (handler.onError request.intent failure request.correlation state)

/-- What the handler is told of an attempt makes of the application what its closing call makes of it. -/
theorem told_iff {result : Except Failure α} {before after : σ} :
    handler.Told request result before after ↔ handler.onClosing request result before = after := by
  constructor
  · rintro (_ | _) <;> rfl
  · rintro rfl
    cases result with
    | ok output => exact .success output before
    | error failure => exact .failure failure before

end Handler

namespace BusTask

variable {β ε : Type}

/-- A task on the state of the application runs as it does on its own. -/
@[simp] theorem run_ofApplication (event : ε → BusEvent α) (task : Task σ ε β) (time : Nat)
    (state : BusState σ ι α) :
    (ofApplication event task).run time state =
      (task.run time state.application).focus state BusState.withApplication event := by
  refine Task.run_focus event ?_ ?_ task time state state.application
  · exact fun _ _ => rfl
  · exact fun _ _ _ => rfl

/-- A step of the handler emits nothing but its own events. -/
theorem emits_ofHandler (correlation : Correlation) (step : HandlerTask σ β) :
    (ofHandler correlation step : BusTask σ ι α (Except Failure β)).Emits (BusEvent.OfSteps correlation) :=
  Task.emits_focus .handler step

end BusTask

namespace Handler

variable (handler : Handler σ ι α) (request : ExecutionRequest σ ι α)

private theorem emits_executeFor :
    (handler.executeFor request).Emits (BusEvent.OfSteps request.correlation) := by
  refine ⟨.executeInContext, ?_⟩
  cases handler.executeInContext with
  | some step => exact BusTask.emits_ofHandler request.correlation _
  | none => exact ⟨.execute, BusTask.emits_ofHandler request.correlation _⟩

private theorem emits_close (result : Except Failure α) :
    (handler.close request result).Emits (BusEvent.OfAttempt request.correlation) := by
  cases result with
  | ok output => exact ⟨.onSuccess, fun _ _ => trivial⟩
  | error failure => exact ⟨.onError failure, fun _ _ => trivial⟩

/-- The steps of an attempt begin with the first of them, and tell nobody how they went. -/
theorem opens_steps :
    (handler.steps request).Opens (.preProcess request.correlation)
      (BusEvent.OfSteps request.correlation) := by
  refine ⟨rfl, (BusTask.emits_ofHandler request.correlation _).bind fun ready => ?_⟩
  cases ready with
  | error failure => trivial
  | ok =>
    apply (emits_executeFor handler request).bind
    intro executed
    cases executed with
    | error failure => trivial
    | ok output =>
      exact ⟨.postProcess output, (BusTask.emits_ofHandler request.correlation _).bind fun _ => trivial⟩

/-- An attempt begins with the handler's first step, and does so once. -/
theorem opens_attempt :
    (handler.attempt request).Opens (.preProcess request.correlation)
      (BusEvent.OfAttempt request.correlation) :=
  ((opens_steps handler request).mono fun _ => BusEvent.OfSteps.ofAttempt).bind fun result =>
    (emits_close handler request result).bind fun _ => trivial

private theorem ends_executeFor_iff {time : Nat} {state : BusState σ ι α} {result : Except Failure α} {ended : Nat}
    {final : BusState σ ι α} : ((handler.executeFor request).run time state).Ends result ended final ↔
      ∃ application, ((request.execution handler).run time state.application).Ends result ended application ∧
        final = state.withApplication application := by
  unfold executeFor ExecutionRequest.execution
  cases handler.executeInContext <;> simp [BusTask.ofHandler, Run.ends_focus_iff]

private theorem brings_of_steps {time : Nat} {state : BusState σ ι α} {result : Except Failure α} {ended : Nat}
    {final : BusState σ ι α} (ends : ((handler.steps request).run time state).Ends result ended final) :
    ∃ application, handler.Brings request time state.application result ended application ∧
      final = state.withApplication application := by
  simp only [steps, Task.bind_eq, Task.run_bind, Task.run_signal, Run.still_andThen, Run.ends_after_iff,
    Run.ends_andThen_iff, BusTask.ofHandler, BusTask.run_ofApplication, Run.ends_focus_iff] at ends
  obtain ⟨ready, readied, _, ⟨application, readies, rfl⟩, ends⟩ := ends
  cases ready with
  | error failure =>
    obtain ⟨⟨⟩, rfl, rfl⟩ := ends
    exact ⟨application, .refusal readies, rfl⟩
  | ok =>
    simp only [Task.run_bind, Run.ends_andThen_iff, ends_executeFor_iff] at ends
    obtain ⟨executed, now, _, ⟨application, executes, rfl⟩, ends⟩ := ends
    cases executed with
    | error failure =>
      obtain ⟨⟨⟩, rfl, rfl⟩ := ends
      exact ⟨application, .failure readies executes, rfl⟩
    | ok output =>
      simp only [Task.run_bind, Task.run_signal, Run.still_andThen, Run.ends_after_iff, Run.ends_andThen_iff,
        BusTask.run_ofApplication, Run.ends_focus_iff] at ends
      obtain ⟨closed, now, _, ⟨application, closes, rfl⟩, ends⟩ := ends
      obtain ⟨same, rfl, rfl⟩ := ends
      cases closed with
      | error failure =>
        cases same
        exact ⟨application, .complaint readies executes closes, rfl⟩
      | ok =>
        cases same
        exact ⟨application, .success readies executes closes, rfl⟩

private theorem ends_steps_of_brings {time : Nat} {state : BusState σ ι α} {result : Except Failure α} {ended : Nat}
    {application : σ} (brings : handler.Brings request time state.application result ended application) :
    ((handler.steps request).run time state).Ends result ended (state.withApplication application) := by
  simp only [steps, Task.bind_eq, Task.run_bind, Task.run_signal, Run.still_andThen, Run.ends_after_iff,
    Run.ends_andThen_iff, BusTask.ofHandler, BusTask.run_ofApplication, Run.ends_focus_iff]
  cases brings with
  | refusal refused => exact ⟨_, _, _, ⟨_, refused, rfl⟩, rfl, rfl, rfl⟩
  | failure readies fails =>
    refine ⟨_, _, _, ⟨_, readies, rfl⟩, ?_⟩
    simp only [Task.run_bind, Run.ends_andThen_iff, ends_executeFor_iff]
    exact ⟨_, _, _, ⟨_, fails, rfl⟩, rfl, rfl, rfl⟩
  | complaint readies executes closes | success readies executes closes =>
    refine ⟨_, _, _, ⟨_, readies, rfl⟩, ?_⟩
    simp only [Task.run_bind, Run.ends_andThen_iff, ends_executeFor_iff]
    refine ⟨_, _, _, ⟨_, executes, rfl⟩, ?_⟩
    simp only [Task.run_bind, Task.run_signal, Run.still_andThen, Run.ends_after_iff, Run.ends_andThen_iff,
      BusTask.run_ofApplication, Run.ends_focus_iff]
    exact ⟨_, _, _, ⟨_, closes, rfl⟩, rfl, rfl, rfl⟩

/-- An attempt is its steps, and then the handler is told how they went. -/
theorem run_attempt (time : Nat) (state : BusState σ ι α) :
    (handler.attempt request).run time state =
      ((handler.steps request).run time state).andThen fun result time state =>
        (.still result time (state.withApplication (handler.onClosing request result state.application)) [] :
          Run (BusState σ ι α) (BusEvent α) (Except Failure α)).after [⟨time, state, closing request result⟩] := by
  simp only [attempt, Task.bind_eq, Task.run_bind]
  rfl

/-- An attempt ends with what its steps bring about, when they do, and in what the handler makes of the state in which they
do. -/
theorem ends_attempt_iff {time : Nat} {state : BusState σ ι α} {result : Except Failure α} {ended : Nat}
    {final : BusState σ ι α} : ((handler.attempt request).run time state).Ends result ended final ↔
      ∃ before after, handler.Brings request time state.application result ended before ∧
        handler.Told request result before after ∧ final = state.withApplication after := by
  simp only [run_attempt, Run.ends_andThen_iff, Run.ends_after_iff, Run.ends_still_iff]
  constructor
  · rintro ⟨_, _, _, steps, rfl, rfl, rfl⟩
    obtain ⟨before, brings, rfl⟩ := brings_of_steps handler request steps
    exact ⟨before, _, brings, (told_iff handler request).2 rfl, rfl⟩
  · rintro ⟨before, _, brings, told, rfl⟩
    refine ⟨_, _, _, ends_steps_of_brings handler request brings, rfl, rfl, ?_⟩
    rw [← (told_iff handler request).1 told]
    rfl

/-- The last that can be seen of a successful attempt is that the handler is told. -/
theorem events_of_success {time : Nat} {state : BusState σ ι α} {output : α}
    (ends : ((handler.attempt request).run time state).result = some (.ok output)) :
    ∃ before, ((handler.attempt request).run time state).events =
      before ++ [.onSuccess request.correlation] := by
  rw [run_attempt] at ends ⊢
  obtain ⟨brought, went, same⟩ := Run.andThen_result_eq_some.1 ends
  cases same
  refine ⟨((handler.steps request).run time state).events, ?_⟩
  rw [Run.andThen_of_some went, Run.after_events, Run.after_events, Run.still_events]
  rfl

end Handler

namespace Attempt

variable (attempt : Attempt σ ι α) (handler : Handler σ ι α) (request : ExecutionRequest σ ι α)

def under (attempt : Attempt σ ι α) (service : ExecutionService σ ι α)
    (request : ExecutionRequest σ ι α) :
    Run (BusState σ ι α) (BusEvent α) (Except ExecutionFault α) :=
  (service (request.withAttempt attempt.number)).run attempt.began attempt.state

def alone : Run (BusState σ ι α) (BusEvent α) (Except Failure α) :=
  (handler.attempt (request.withAttempt attempt.number)).run attempt.began attempt.state

def InTime : Prop :=
  (attempt.alone handler request).result.isSome ∧
    ∀ timeout ∈ request.timeout, (attempt.alone handler request).time ≤ attempt.began + timeout.toMillisUp

instance : Decidable (attempt.InTime handler request) := inferInstanceAs (Decidable (_ ∧ _))

/-- The result of the attempt: its own if that comes by its bound, and else that the bound ran out, if there is
one. -/
def verdict : Option (Except ExecutionFault α) :=
  if attempt.InTime handler request then
    (attempt.alone handler request).result.map (·.mapError (.failed · attempt.number.toNat))
  else request.timeout.map fun timeout => .error (.timedOut timeout attempt.number.toNat)

end Attempt

namespace ExecutionService

variable (handler : Handler σ ι α) (request : ExecutionRequest σ ι α)

private theorem run_traced (time : Nat) (state : BusState σ ι α) :
    (traced handler.service request).run time state =
      (((handler.attempt request).run time state).andThen fun result ended state =>
        let result := result.mapError (.failed · request.attempt.toNat)
        .still result ended state
          [.log (completionLog request result (.ofMillis (ended - time)))]).mapEvents (.inside request.span) := by
  simp only [traced, BusTask.inSpan, Task.run_mapEvents, Task.bind_eq, Task.run_bind, Task.run_clock,
    Run.still_andThen, Run.andThen_assoc, Handler.service]
  rfl

private theorem traced_result (time : Nat) (state : BusState σ ι α) :
    ((traced handler.service request).run time state).result =
      ((handler.attempt request).run time state).result.map (·.mapError (.failed · request.attempt.toNat)) := by
  rw [run_traced]
  exact (Run.andThen_still _ _ _).1

private theorem traced_time (time : Nat) (state : BusState σ ι α) :
    ((traced handler.service request).run time state).time =
      ((handler.attempt request).run time state).time := by
  rw [run_traced]
  exact (Run.andThen_still _ _ _).2.1

private theorem traced_state (time : Nat) (state : BusState σ ι α) :
    ((traced handler.service request).run time state).state =
      ((handler.attempt request).run time state).state := by
  rw [run_traced]
  exact (Run.andThen_still _ _ _).2.2

private theorem traced_events {time : Nat} {state : BusState σ ι α} {result : Except Failure α}
    (ends : ((handler.attempt request).run time state).result = some result) :
    ∃ entry, ((traced handler.service request).run time state).events =
      ((handler.attempt request).run time state).events.map (.inside request.span) ++ [.log entry] := by
  rw [run_traced, Run.andThen_of_some ends, Run.mapEvents_events, Run.after_events, Run.still_events,
    List.map_append]
  exact ⟨_, rfl⟩

private theorem run_bounded_of_inTime {inner : ExecutionService σ ι α} {request : ExecutionRequest σ ι α}
    {time : Nat} {state : BusState σ ι α} (ends : ((inner request).run time state).result.isSome)
    (early : ∀ timeout ∈ request.timeout, ((inner request).run time state).time ≤ time + timeout.toMillisUp) :
    (bounded inner request).run time state = (inner request).run time state := by
  cases bound : request.timeout with
  | none => simp only [bounded, bound]
  | some timeout =>
    obtain ⟨result, ends⟩ := Option.isSome_iff_exists.1 ends
    have untouched := @Task.run_bounded_of_le _ _ _ _ 0 _ _ _ _ ends (early timeout bound)
    simp only [bounded, bound, Task.bind_eq, Task.run_bind, Task.within, untouched]
    rw [Run.andThen_of_some rfl]
    simp only [Task.pure_eq_done, Task.run_done, Run.after, Run.still, List.map_nil, List.append_nil, ← ends]

private theorem run_bounded_of_late {inner : ExecutionService σ ι α} {request : ExecutionRequest σ ι α}
    {timeout : Duration} (bound : request.timeout = some timeout) {time : Nat} {state : BusState σ ι α}
    (late : ((inner request).run time state).result.isSome →
      time + timeout.toMillisUp < ((inner request).run time state).time) :
    ((bounded inner request).run time state).result =
        some (.error (.timedOut timeout request.attempt.toNat)) ∧
      ((bounded inner request).run time state).time = time + timeout.toMillisUp := by
  obtain ⟨cut, stops, _⟩ := @Task.run_bounded_of_lt _ _ _ _ 0 _ _ _ late
  simp only [bounded, bound, Task.bind_eq, Task.run_bind, Task.within, Run.andThen_of_some cut]
  exact ⟨rfl, stops⟩

/-- A single attempt begins with the handler's first step, and does so once. -/
theorem opens_single :
    (single handler request).Opens (.preProcess request.correlation)
      (BusEvent.OfAttempt request.correlation) := by
  have own : (handler.service request).Opens (.preProcess request.correlation)
      (BusEvent.OfAttempt request.correlation) :=
    (handler.opens_attempt request).bind fun _ => trivial
  have traced : (traced handler.service request).Opens (.preProcess request.correlation)
      (BusEvent.OfAttempt request.correlation) := by
    have spanned (event : BusEvent α) (h : event.OfAttempt request.correlation) := h.inside request.span
    have begun : (BusEvent.preProcess request.correlation : BusEvent α).inside request.span =
      .preProcess request.correlation := rfl
    apply Task.Opens.mapEvents begun spanned
    intro started state
    exact own.bind fun result time state => ⟨.log _, trivial⟩
  unfold single bounded
  cases request.timeout with
  | none => exact traced
  | some timeout =>
    apply (traced.bounded 0 timeout.toMillisUp).bind
    intro result
    cases result with
    | none => trivial
    | some result => trivial

private theorem opens_attemptsFrom (policy : RetryPolicy) (draw : Nat → Nat) (attempt : UInt32) :
    (attemptsFrom policy draw (single handler) request attempt).Opens (.preProcess request.correlation)
      (BusEvent.OfExecution request.correlation) := by
  induction attempt using attemptsFrom.induct policy with
  | case1 attempt ih =>
    rw [attemptsFrom]
    apply ((opens_single handler (request.withAttempt attempt)).mono fun _ => .inr).bind
    intro result
    cases result with
    | ok output => trivial
    | error fault =>
      simp only
      split
      · trivial
      · next more =>
        have delayed : (delayBefore policy draw (attempt + 1) : BusTask σ ι α _).Emits
            (BusEvent.OfExecution request.correlation) := by
          simp only [delayBefore]
          split
          · exact fun _ _ => trivial
          · trivial
        refine delayed.bind fun delay => (Task.emits_signal (.inr (.log _))).bind fun _ => ?_
        exact (Task.emits_sleep _).bind fun _ => (ih more).emits (.inl rfl) fun _ own => own

/-- An execution begins with the handler's first step, and nothing but an execution can be seen of it. -/
theorem opens_stack (policy : RetryPolicy) (draw : Nat → Nat) :
    (stack policy draw handler request).Opens (.preProcess request.correlation)
      (BusEvent.OfExecution request.correlation) :=
  opens_attemptsFrom handler request policy draw _

end ExecutionService

namespace Attempt

variable {attempt : Attempt σ ι α} {handler : Handler σ ι α} {request : ExecutionRequest σ ι α}

private theorem under_eq_traced (inTime : attempt.InTime handler request) :
    attempt.under (ExecutionService.single handler) request =
      attempt.under (ExecutionService.traced handler.service) request := by
  obtain ⟨ends, early⟩ := inTime
  apply ExecutionService.run_bounded_of_inTime
  · rw [ExecutionService.traced_result, Option.isSome_map]
    exact ends
  · intro timeout bound
    rw [ExecutionService.traced_time]
    exact early timeout bound

/-- An attempt that ends by its bound goes as the handler makes it. -/
theorem under_of_inTime (inTime : attempt.InTime handler request) :
    (attempt.under (ExecutionService.single handler) request).result =
        (attempt.alone handler request).result.map (·.mapError (.failed · attempt.number.toNat)) ∧
      (attempt.under (ExecutionService.single handler) request).time = (attempt.alone handler request).time ∧
      (attempt.under (ExecutionService.single handler) request).state =
        (attempt.alone handler request).state := by
  rw [under_eq_traced inTime]
  exact ⟨ExecutionService.traced_result handler _ attempt.began attempt.state,
    ExecutionService.traced_time handler _ attempt.began attempt.state,
    ExecutionService.traced_state handler _ attempt.began attempt.state⟩

/-- An attempt that does not end by its bound ends at its bound, without a result of its own. -/
theorem under_of_late (late : ¬attempt.InTime handler request) {timeout : Duration}
    (bound : request.timeout = some timeout) :
    (attempt.under (ExecutionService.single handler) request).result =
        some (.error (.timedOut timeout attempt.number.toNat)) ∧
      (attempt.under (ExecutionService.single handler) request).time = attempt.began + timeout.toMillisUp := by
  have sameBound : (request.withAttempt attempt.number).timeout = some timeout := bound
  refine ExecutionService.run_bounded_of_late sameBound fun ends =>
    Nat.lt_of_not_le fun early => late ⟨?_, ?_⟩
  · rwa [ExecutionService.traced_result, Option.isSome_map] at ends
  · intro other same
    cases bound.symm.trans same
    rwa [ExecutionService.traced_time] at early

/-- The bus takes an attempt to go as its verdict says. -/
theorem under_result : (attempt.under (ExecutionService.single handler) request).result =
    attempt.verdict handler request := by
  unfold verdict
  split
  · next inTime => exact (under_of_inTime inTime).1
  · next late =>
    cases bound : request.timeout with
    | some timeout => exact (under_of_late late bound).1
    | none =>
      have stuck : (attempt.alone handler request).result = none := by
        refine Option.not_isSome_iff_eq_none.1 fun ends => late ⟨ends, fun timeout same => ?_⟩
        nomatch bound.symm.trans same
      have result := ExecutionService.traced_result handler (request.withAttempt attempt.number) attempt.began
        attempt.state
      have unbounded : (request.withAttempt attempt.number).timeout = none := bound
      simp only [alone] at stuck
      simp only [under, ExecutionService.single, ExecutionService.bounded, unbounded, result, stuck,
        Option.map_none]

/-- The calls of an attempt: the first begins it, and no other does. -/
theorem under_calls :
    BeginsOnce request.correlation (attempt.under (ExecutionService.single handler) request).calls := by
  obtain ⟨rest, same, allowed⟩ := (ExecutionService.opens_single handler
    (request.withAttempt attempt.number)).run attempt.began attempt.state
  refine ⟨rest.filter BusEvent.isCall, ?_, fun call mem => allowed call ((List.mem_filter.1 mem).1)⟩
  rw [Run.calls, under, same]
  rfl

/-- All calls of an attempt are calls of the handler. -/
theorem stage?_of_mem_calls {call : BusEvent α}
    (mem : call ∈ (attempt.under (ExecutionService.single handler) request).calls) :
    call.stage? = some .execution := by
  obtain ⟨rest, same, own⟩ := @under_calls _ _ _ attempt handler request
  have isCall := (List.mem_filter.1 mem).2
  rw [same] at mem
  rcases List.mem_cons.1 mem with rfl | mem
  · rfl
  · exact (own call mem).stage?_eq isCall

/-- The last call of a successful attempt tells the handler of its success. -/
theorem calls_of_success {output : α}
    (ends : (attempt.under (ExecutionService.single handler) request).result = some (.ok output)) :
    ∃ before, (attempt.under (ExecutionService.single handler) request).calls =
      before ++ [.onSuccess request.correlation] := by
  rw [under_result, verdict] at ends
  split at ends
  · next inTime =>
    obtain ⟨own, went, mapped⟩ := Option.map_eq_some_iff.1 ends
    cases own with
    | error failure => cases mapped
    | ok own =>
      obtain ⟨before, last⟩ := Handler.events_of_success handler (request.withAttempt attempt.number) went
      obtain ⟨entry, events⟩ := ExecutionService.traced_events handler (request.withAttempt attempt.number) went
      rw [last, List.map_append, List.append_assoc] at events
      refine ⟨(before.map (·.inside (request.withAttempt attempt.number).span)).filter BusEvent.isCall, ?_⟩
      rw [Run.calls, under_eq_traced inTime, under, events, List.filter_append]
      rfl
  · next late =>
    obtain ⟨timeout, _, mapped⟩ := Option.map_eq_some_iff.1 ends
    cases mapped

end Attempt

end IntentBus
