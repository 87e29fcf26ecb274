import IntentBus.Proofs.Attempts
import IntentBus.Proofs.Emissions

/-! The stages before execution: whom they call, and when they let an intent pass. -/

namespace IntentBus.Bus

variable {σ ι α : Type}

section

variable (bus : Bus σ ι α) (intent : Intent σ ι α) (correlation : Correlation) (context : ExecutionContext)

def judgement (time : Nat) (application : σ) : Run σ LogEntry ValidationOutcome :=
  (bus.engine intent).run time application

def ownJudgement (time : Nat) (application : σ) : Run σ LogEntry ValidationOutcome :=
  let before := bus.judgement intent time application
  (intent.validate correlation).run before.time before.state

def access (time : Nat) (application : σ) : Run σ AccessEvent AuthorizationOutcome :=
  (bus.gate.judge intent.name (askIntent intent) correlation context).run time application

def engineCall : BusEvent α := .engine intent.name intent.constraints.size

def rejection (phase : ValidationPhase) (violations : List Violation) (started time : Nat) :
    DispatchError :=
  .validation phase violations (.ofCorrelation correlation (.ofMillis (time - started)))

def denial (outcome : AuthorizationOutcome) (started time : Nat) : DispatchError :=
  .authorization (denialReasons intent outcome) (.ofCorrelation correlation (.ofMillis (time - started)))

end

section

variable {bus : Bus σ ι α} {intent : Intent σ ι α} {correlation : Correlation} {context : ExecutionContext}
  {started time : Nat} {state : BusState σ ι α}

private theorem eq_valid_of_isValid {outcome : ValidationOutcome} (valid : outcome.isValid = true) :
    outcome = .valid := by
  obtain ⟨violations⟩ := outcome
  exact congrArg ValidationOutcome.mk (List.isEmpty_iff.1 valid)

/-- A judgement is no call of its own. -/
theorem quiet_judged (phase : ValidationPhase) (judge : ApplicationTask σ ValidationOutcome) :
    (judged phase judge correlation started : BusTask σ ι α _).Emits BusEvent.Quiet :=
  emits_judged correlation started BusEvent.quiet_log phase judge

private theorem run_judged (phase : ValidationPhase) (judge : ApplicationTask σ ValidationOutcome) :
    (judged phase judge correlation started).run time state =
      ((judge.run time state.application).focus state BusState.withApplication .log).andThen
        fun outcome time state =>
          if outcome.isValid then .still (.ok ()) time state []
          else (rejected phase outcome correlation started).run time state := by
  simp only [judged, Task.bind_eq, Task.run_bind, BusTask.run_ofApplication]
  congr 1
  funext outcome time state
  split
  · rfl
  · rfl

private theorem judged_of_stuck {phase : ValidationPhase}
    {judge : ApplicationTask σ ValidationOutcome}
    (stuck : (judge.run time state.application).result = none) :
    ((judged phase judge correlation started : BusTask σ ι α _).run time state).result = none := by
  rw [run_judged]
  exact Run.focus_andThen_of_none stuck _

private theorem judged_of_found {phase : ValidationPhase}
    {judge : ApplicationTask σ ValidationOutcome} {outcome : ValidationOutcome}
    (answers : (judge.run time state.application).result = some outcome)
    (found : outcome ≠ .valid) :
    ((judged phase judge correlation started : BusTask σ ι α _).run time state).result =
      some (.error (rejection correlation phase outcome.violations started
        (judge.run time state.application).time)) := by
  rw [run_judged, Run.focus_andThen_of_some answers, if_neg fun valid => found (eq_valid_of_isValid valid)]
  rfl

private theorem judged_of_valid {phase : ValidationPhase} {judge : ApplicationTask σ ValidationOutcome}
    (answers : (judge.run time state.application).result = some .valid) :
    ((judged phase judge correlation started : BusTask σ ι α _).run time state).result = some (.ok ()) ∧
      ((judged phase judge correlation started : BusTask σ ι α _).run time state).time =
        (judge.run time state.application).time ∧
      ((judged phase judge correlation started : BusTask σ ι α _).run time state).state =
        state.withApplication (judge.run time state.application).state := by
  rw [run_judged, Run.focus_andThen_of_some answers]
  exact ⟨rfl, rfl, rfl⟩

private theorem run_validate :
    (bus.validate intent correlation started).run time state =
      (((judged .structural (bus.engine intent) correlation started).run time state).andThen
        fun result time state => match result with
          | .error error => .still (.error error) time state []
          | .ok () => ((judged .custom (intent.validate correlation) correlation started).run time state).after
            [⟨time, state, .validate correlation⟩]).after
        [⟨time, state, .constraints⟩, ⟨time, state, engineCall intent⟩] := by
  simp only [validate, Task.bind_eq, Task.run_bind, Task.run_signal, Run.still_andThen, Run.after_after]
  congr 2
  funext result time state
  cases result with
  | ok => rfl
  | error error => rfl

private theorem run_validate_of_judged
    (judged : (bus.judgement intent time state.application).result = some .valid) :
    (bus.validate intent correlation started).run time state =
      let before := bus.judgement intent time state.application
      ((((Bus.judged .custom (intent.validate correlation) correlation started).run before.time
            (state.withApplication before.state)).after
          [⟨before.time, state.withApplication before.state, .validate correlation⟩]).after
        ((Bus.judged .structural (bus.engine intent) correlation started).run time state).trace).after
        [⟨time, state, .constraints⟩, ⟨time, state, engineCall intent⟩] := by
  obtain ⟨passes, sameTime, sameState⟩ :=
    @judged_of_valid _ _ _ correlation started time state .structural _ judged
  rw [run_validate, Run.andThen_of_some passes, sameTime, sameState]
  rfl

/-- The engine is always called, and the intent's own rules are asked if the engine found nothing. -/
theorem validate_calls :
    ((bus.validate intent correlation started).run time state).calls =
      if (bus.judgement intent time state.application).result = some .valid then
        [engineCall intent, .validate correlation]
      else [engineCall intent] := by
  split
  · next judged =>
    rw [run_validate_of_judged judged, Run.calls_after, Run.calls_after_trace,
      Task.calls_of_emits (quiet_judged .structural _), Run.calls_after,
      Task.calls_of_emits (quiet_judged .custom _)]
    rfl
  · next notValid =>
    rw [run_validate, Run.calls_after, Run.calls_andThen, Task.calls_of_emits (quiet_judged .structural _)]
    cases answers : (bus.judgement intent time state.application).result with
    | none =>
      rw [judged_of_stuck answers]
      rfl
    | some outcome =>
      rw [judged_of_found answers fun valid => notValid (answers.trans (congrArg some valid))]
      rfl

/-- An engine that never answers is never done with. -/
theorem validate_of_unjudged (stuck : (bus.judgement intent time state.application).result = none) :
    ((bus.validate intent correlation started).run time state).result = none := by
  rw [run_validate, Run.after_result, Run.andThen_of_none (judged_of_stuck stuck)]

/-- What the engine finds is the error of validation. -/
theorem validate_of_structural {outcome : ValidationOutcome}
    (judged : (bus.judgement intent time state.application).result = some outcome)
    (found : outcome ≠ .valid) :
    ((bus.validate intent correlation started).run time state).result =
      some (.error (rejection correlation .structural outcome.violations started
        (bus.judgement intent time state.application).time)) := by
  rw [run_validate, Run.after_result, Run.andThen_of_some (judged_of_found judged found)]
  rfl

/-- An intent whose own rules never answer is never done with. -/
theorem validate_of_unanswered
    (judged : (bus.judgement intent time state.application).result = some .valid)
    (stuck : (bus.ownJudgement intent correlation time state.application).result = none) :
    ((bus.validate intent correlation started).run time state).result = none := by
  rw [run_validate_of_judged judged]
  exact judged_of_stuck stuck

/-- What an intent's own rules find is the error of validation if the engine found nothing. -/
theorem validate_of_custom {outcome : ValidationOutcome}
    (judged : (bus.judgement intent time state.application).result = some .valid)
    (own : (bus.ownJudgement intent correlation time state.application).result = some outcome)
    (found : outcome ≠ .valid) :
    ((bus.validate intent correlation started).run time state).result =
      some (.error (rejection correlation .custom outcome.violations started
        (bus.ownJudgement intent correlation time state.application).time)) := by
  rw [run_validate_of_judged judged]
  exact judged_of_found own found

/-- An intent in which nothing is found passes when its own rules have answered. -/
theorem validate_of_valid
    (judged : (bus.judgement intent time state.application).result = some .valid)
    (own : (bus.ownJudgement intent correlation time state.application).result = some .valid) :
    let after := (bus.validate intent correlation started).run time state
    after.result = some (.ok ()) ∧
      after.time = (bus.ownJudgement intent correlation time state.application).time ∧
      after.state =
        state.withApplication (bus.ownJudgement intent correlation time state.application).state := by
  rw [run_validate_of_judged judged]
  exact judged_of_valid own

private theorem eq_granted_of_isAuthorized {outcome : AuthorizationOutcome}
    (authorized : outcome.isAuthorized = true) : outcome = .granted := by
  obtain ⟨flag, violations⟩ := outcome
  obtain ⟨raised, empty⟩ := (Bool.and_eq_true _ _).mp authorized
  cases List.isEmpty_iff.1 empty
  cases raised
  rfl

private theorem run_authorize (enabled : bus.config.authorizationEnabled = true) :
    (bus.authorize intent correlation context started).run time state =
      (((bus.access intent correlation context time state.application).focus state BusState.withApplication
        .ofAccess).andThen fun outcome time state =>
          if outcome.isAuthorized then .still (.ok ()) time state []
          else .still (.error (denial intent correlation outcome started time)) time state
            [.log (denialLog intent correlation (denialReasons intent outcome))]).after
        [⟨time, state, .gate intent.name correlation⟩] := by
  simp only [authorize, enabled, askGate, Task.bind_eq, Bool.not_true, Bool.false_eq_true, if_false,
    Task.run_bind, Task.run_signal, Run.still_andThen, BusTask.run_ofApplication, Run.after_andThen]
  congr 2
  funext outcome time state
  split
  · rfl
  · rfl

/-- Authorization opens with the question to the gate, where there is authorization. -/
theorem opens_authorize (enabled : bus.config.authorizationEnabled = true) :
    (bus.authorize intent correlation context started).Opens (.gate intent.name correlation)
      BusEvent.Quiet := by
  have asked : (bus.askGate intent correlation context).Opens (.gate intent.name correlation) BusEvent.Quiet :=
    ⟨rfl, Task.emits_focus BusEvent.quiet_ofAccess _⟩
  unfold authorize
  rw [enabled]
  apply asked.bind
  intro outcome
  split
  · trivial
  · exact ⟨rfl, fun _ _ => trivial⟩

/-- Nobody is asked when authorization is disabled. -/
theorem authorize_of_disabled (disabled : bus.config.authorizationEnabled = false) :
    (bus.authorize intent correlation context started).run time state = .still (.ok ()) time state [] := by
  simp only [authorize, disabled, Bool.not_false, if_true, Task.pure_eq_done, Task.run_done]

/-- The gate is called, and called once, unless authorization is disabled. -/
theorem authorize_calls :
    ((bus.authorize intent correlation context started).run time state).calls =
      if bus.config.authorizationEnabled then [.gate intent.name correlation] else [] := by
  split
  · next enabled => exact Task.calls_of_opens (opens_authorize enabled) rfl time state
  · next disabled =>
    rw [authorize_of_disabled (Bool.eq_false_iff.2 disabled)]
    rfl

/-- A gate that never answers is never done with. -/
theorem authorize_of_unanswered (enabled : bus.config.authorizationEnabled = true)
    (stuck : (bus.access intent correlation context time state.application).result = none) :
    ((bus.authorize intent correlation context started).run time state).result = none := by
  rw [run_authorize enabled, Run.after_result]
  exact Run.focus_andThen_of_none stuck _

/-- Anything but a grant is a denial. -/
theorem authorize_of_denied (enabled : bus.config.authorizationEnabled = true)
    {outcome : AuthorizationOutcome}
    (answers : (bus.access intent correlation context time state.application).result = some outcome)
    (denied : outcome ≠ .granted) :
    ((bus.authorize intent correlation context started).run time state).result =
      some (.error (denial intent correlation outcome started
        (bus.access intent correlation context time state.application).time)) := by
  rw [run_authorize enabled, Run.after_result, Run.focus_andThen_of_some answers,
    if_neg fun authorized => denied (eq_granted_of_isAuthorized authorized)]
  rfl

/-- An intent that is granted access passes when the gate has answered. -/
theorem authorize_of_granted (enabled : bus.config.authorizationEnabled = true)
    (answers : (bus.access intent correlation context time state.application).result = some .granted) :
    let after := (bus.authorize intent correlation context started).run time state
    after.result = some (.ok ()) ∧
      after.time = (bus.access intent correlation context time state.application).time ∧
      after.state =
        state.withApplication (bus.access intent correlation context time state.application).state := by
  rw [run_authorize enabled, Run.focus_andThen_of_some answers]
  exact ⟨rfl, rfl, rfl⟩

end

end IntentBus.Bus
