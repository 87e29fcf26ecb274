import IntentBus.Proofs.Attempts
import IntentBus.Bus.Dispatch

/-! What the stages of a dispatch leave alone: all of the state of a bus but the application, the random numbers,
and what is counted. -/

namespace IntentBus

variable {σ ι α β γ : Type}

/-- A part of the state of a bus in which neither the application nor the supply of random numbers has a say. -/
structure BusState.Aside (look : BusState σ ι α → γ) : Prop where
  application : ∀ application state, look (state.withApplication application) = look state
  drawn : ∀ drawn state, look { state with drawn := drawn } = look state

variable {look : BusState σ ι α → γ} (aside : BusState.Aside look)

include aside

private theorem BusTask.keeps_ofApplication {ε : Type} (event : ε → BusEvent α) (task : Task σ ε β)
    (state : BusState σ ι α) : (ofApplication event task).Keeps look state :=
  Task.keeps_focus event aside.application task state

namespace Handler

variable (handler : Handler σ ι α) (request : ExecutionRequest σ ι α) (state : BusState σ ι α)

private theorem keeps_executeFor : (handler.executeFor request).Keeps look state := by
  unfold executeFor
  apply (Task.keeps_signal _ state).bind
  intro _ state
  cases handler.executeInContext with
  | some step => exact BusTask.keeps_ofApplication aside _ _ state
  | none => exact (Task.keeps_signal _ state).bind fun _ state => BusTask.keeps_ofApplication aside _ _ state

private theorem keeps_steps : (handler.steps request).Keeps look state := by
  apply (Task.keeps_signal _ state).bind
  intro _ state
  apply (BusTask.keeps_ofApplication aside _ _ state).bind
  intro ready state
  cases ready with
  | error failure => trivial
  | ok =>
    apply (keeps_executeFor aside handler request state).bind
    intro executed state
    cases executed with
    | error failure => trivial
    | ok output =>
      apply (Task.keeps_signal _ state).bind
      intro _ state
      exact (BusTask.keeps_ofApplication aside _ _ state).bind fun _ _ => trivial

private theorem keeps_close (result : Except Failure α) :
    (handler.close request result).Keeps look state :=
  (Task.keeps_signal _ state).bind fun _ state _ => ⟨aside.application _ state, trivial⟩

private theorem keeps_attempt : (handler.attempt request).Keeps look state :=
  (keeps_steps aside handler request state).bind fun result state =>
    (keeps_close aside handler request state result).bind fun _ _ => trivial

end Handler

namespace ExecutionService

variable (handler : Handler σ ι α)

private theorem keeps_single (request : ExecutionRequest σ ι α) (state : BusState σ ι α) :
    (single handler request).Keeps look state := by
  have traced (state : BusState σ ι α) : (traced handler.service request).Keeps look state := by
    have served (state : BusState σ ι α) : (handler.service request).Keeps look state :=
      (Handler.keeps_attempt aside handler request state).bind fun _ _ => trivial
    exact Task.Keeps.mapEvents _ fun started => (served state).bind fun result state time => trivial
  unfold single bounded
  cases request.timeout with
  | none => exact traced state
  | some timeout =>
    apply ((traced state).bounded 0 timeout.toMillisUp).bind
    intro result state
    cases result with
    | none => trivial
    | some result => trivial

private theorem keeps_delayBefore (policy : RetryPolicy) (draw : Nat → Nat) (attempt : UInt32)
    (state : BusState σ ι α) : (delayBefore policy draw attempt).Keeps look state := by
  simp only [delayBefore]
  split
  · exact fun _ => ⟨aside.drawn _ state, trivial⟩
  · trivial

private theorem keeps_attemptsFrom (policy : RetryPolicy) (draw : Nat → Nat)
    (request : ExecutionRequest σ ι α) (attempt : UInt32) (state : BusState σ ι α) :
    (attemptsFrom policy draw (single handler) request attempt).Keeps look state := by
  induction attempt using attemptsFrom.induct policy generalizing state with
  | case1 attempt ih =>
    rw [attemptsFrom]
    apply (keeps_single aside handler (request.withAttempt attempt) state).bind
    intro result state
    cases result with
    | ok output => trivial
    | error fault =>
      simp only
      split
      · trivial
      · next more =>
        apply (keeps_delayBefore aside policy draw (attempt + 1) state).bind
        intro delay state
        apply (Task.keeps_signal _ state).bind
        intro _ state
        exact (Task.keeps_sleep _ state).bind fun _ state => ih more state

/-- The layers of a handler leave alone what is looked at. -/
theorem keeps_stack (policy : RetryPolicy) (draw : Nat → Nat) (request : ExecutionRequest σ ι α)
    (state : BusState σ ι α) : (stack policy draw handler request).Keeps look state :=
  keeps_attemptsFrom aside handler policy draw request _ state

end ExecutionService

namespace Bus

variable (bus : Bus σ ι α) (intent : Intent σ ι α) (correlation : Correlation) (context : ExecutionContext)
  (started : Nat) (state : BusState σ ι α)

omit aside in

/-- A judgement leaves alone what its judge leaves alone. -/
theorem keeps_judged_of_asked (phase : ValidationPhase) {judge : ApplicationTask σ ValidationOutcome}
    (asked : (BusTask.ofApplication BusEvent.log judge).Keeps look state) :
    (judged phase judge correlation started).Keeps look state := by
  apply asked.bind
  intro outcome state
  split
  · trivial
  · exact (Task.keeps_signal _ state).bind fun _ state _ => trivial

/-- A judgement leaves alone what is looked at. -/
theorem keeps_judged (phase : ValidationPhase) (judge : ApplicationTask σ ValidationOutcome) :
    (judged phase judge correlation started).Keeps look state :=
  keeps_judged_of_asked correlation started state phase (BusTask.keeps_ofApplication aside _ judge state)

/-- Validation leaves alone what is looked at. -/
theorem keeps_validate : (bus.validate intent correlation started).Keeps look state := by
  apply (Task.keeps_signal _ state).bind
  intro _ state
  apply (Task.keeps_signal _ state).bind
  intro _ state
  apply (keeps_judged aside correlation started state .structural (bus.engine intent)).bind
  intro result state
  cases result with
  | error error => trivial
  | ok =>
    exact (Task.keeps_signal _ state).bind fun _ state =>
      keeps_judged aside correlation started state .custom (intent.validate correlation)

/-- Authorization leaves alone what is looked at. -/
theorem keeps_authorize : (bus.authorize intent correlation context started).Keeps look state := by
  unfold authorize
  split
  · trivial
  · have asked : (bus.askGate intent correlation context).Keeps look state :=
      (Task.keeps_signal _ state).bind fun _ state => BusTask.keeps_ofApplication aside _ _ state
    apply asked.bind
    intro outcome state
    split
    · trivial
    · exact (Task.keeps_signal _ state).bind fun _ state _ => trivial

private theorem keeps_deliver (publisher : Publisher σ) (origin : IntentDescriptor)
    (effect : SideEffect) :
    (deliver publisher origin effect).Keeps look state := by
  apply (Task.keeps_signal _ state).bind
  intro _ state
  apply (BusTask.keeps_ofApplication aside _ _ state).bind
  intro failure state
  cases failure with
  | none => trivial
  | some failure => exact Task.keeps_signal _ state

/-- Publication leaves alone what is looked at. -/
theorem keeps_publish (output : α) : (bus.publish intent output correlation).Keeps look state := by
  unfold publish
  cases bus.publisher with
  | none => trivial
  | some publisher =>
    apply (Task.keeps_signal _ state).bind
    intro _ state
    cases intent.sideEffect output with
    | none => trivial
    | some effect => exact keeps_deliver aside state publisher _ effect

end Bus

omit aside

namespace Bus

variable {look : BusState σ ι α → γ} (uncounted : ∀ metrics state, look { state with metrics := metrics } = look state)

include uncounted

variable (bus : Bus σ ι α) (intent : Intent σ ι α) (started : Nat) (state : BusState σ ι α)

private theorem keeps_observe (observation : Observation) : (bus.observe observation).Keeps look state := by
  unfold observe
  split
  · refine fun _ => ⟨uncounted _ state, ?_⟩
    exact Task.keeps_signals _ _
  · trivial

/-- A failure leaves alone what is looked at where nothing is counted. -/
theorem keeps_fail_uncounted (error : DispatchError) : (bus.fail intent error started).Keeps look state :=
  fun _ => (keeps_observe uncounted bus state _).bind fun _ _ => trivial

/-- A rejection leaves alone what is looked at where nothing is counted. -/
theorem keeps_reject_uncounted (error : DispatchError) : (bus.reject intent error started).Keeps look state := by
  unfold reject
  split
  · exact (keeps_observe uncounted bus state _).bind fun _ state =>
      keeps_fail_uncounted uncounted bus intent started state _
  · exact keeps_fail_uncounted uncounted bus intent started state _

/-- A success leaves alone what is looked at where nothing is counted. -/
theorem keeps_succeed_uncounted (output : α) : (bus.succeed intent output started).Keeps look state := by
  intro _
  apply (keeps_observe uncounted bus state _).bind
  intro _ state
  split
  · trivial
  · trivial

end Bus

/-- A part of the state of a bus in which what is counted has no say either. -/
structure BusState.Apart (look : BusState σ ι α → γ) : Prop extends BusState.Aside look where
  metrics : ∀ metrics state, look { state with metrics := metrics } = look state

namespace Bus

variable {look : BusState σ ι α → γ} (apart : BusState.Apart look)

include apart

variable (bus : Bus σ ι α) (intent : Intent σ ι α) (correlation : Correlation) (context : ExecutionContext)
  (started : Nat) (state : BusState σ ι α)

/-- A failure leaves alone what counting leaves alone. -/
theorem keeps_fail (error : DispatchError) : (bus.fail intent error started).Keeps look state :=
  keeps_fail_uncounted apart.metrics bus intent started state error

/-- A rejection leaves alone what counting leaves alone. -/
theorem keeps_reject (error : DispatchError) : (bus.reject intent error started).Keeps look state :=
  keeps_reject_uncounted apart.metrics bus intent started state error

/-- A success leaves alone what counting leaves alone. -/
theorem keeps_succeed (output : α) : (bus.succeed intent output started).Keeps look state :=
  keeps_succeed_uncounted apart.metrics bus intent started state output

private theorem keeps_execute (bound : BoundHandler σ ι α) :
    (bus.execute intent bound correlation context started).Keeps look state := by
  apply (ExecutionService.keeps_stack apart.toAside bound.handler bus.config.retry bus.draw _ state).bind
  intro result state
  cases result with
  | error fault => exact fun _ => keeps_fail apart bus intent started state _
  | ok output =>
    exact (keeps_publish apart.toAside bus intent correlation state output).bind fun _ state =>
      keeps_succeed apart bus intent started state output

/-- The stages change nothing but the application, what is counted, and the supply of random numbers. -/
theorem keeps_stages (bound : BoundHandler σ ι α) :
    (bus.stages intent bound correlation context started).Keeps look state := by
  apply (keeps_validate apart.toAside bus intent correlation started state).bind
  intro result state
  cases result with
  | error error => exact keeps_reject apart bus intent started state error
  | ok =>
    apply (keeps_authorize apart.toAside bus intent correlation context started state).bind
    intro result state
    cases result with
    | error error => exact keeps_fail apart bus intent started state error
    | ok => exact keeps_execute apart bus intent correlation context started state bound

end Bus

end IntentBus
