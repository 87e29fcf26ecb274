import IntentBus.Bus.Dispatch
import IntentBus.Proofs.Effects

/-! What can come of a dispatch: each of its stages ends with an error of its own or with none. -/

namespace IntentBus

variable {σ ι α β : Type}

def ErrsAt (allowed : PipelineStage → Prop) (result : Except DispatchError β) : Prop :=
  ∀ error, result = .error error → allowed error.stage

private theorem errsAt_ok {allowed : PipelineStage → Prop} (value : β) :
    ErrsAt allowed (.ok value) :=
  fun _ same => nomatch same

private theorem errsAt_error {allowed : PipelineStage → Prop} {error : DispatchError}
    (own : allowed error.stage) : ErrsAt allowed (.error error : Except DispatchError β) := by
  rintro _ ⟨⟩
  exact own

namespace Bus

variable (bus : Bus σ ι α) (intent : Intent σ ι α) (correlation : Correlation) (context : ExecutionContext)
  (started : Nat)

/-- A judgement fails at no other stage than validation. -/
theorem returns_judged (phase : ValidationPhase) (judge : ApplicationTask σ ValidationOutcome) :
    (judged phase judge correlation started : BusTask σ ι α _).Returns (ErrsAt (· = .validate)) := by
  apply Task.returns_bind
  intro outcome
  split
  · exact errsAt_ok ()
  · exact fun _ _ => errsAt_error rfl

/-- Validation fails at no other stage than its own. -/
theorem returns_validate :
    (bus.validate intent correlation started).Returns (ErrsAt (· = .validate)) := by
  apply (returns_judged correlation started .structural (bus.engine intent)).bind
  intro result expected
  cases result with
  | error error => exact expected
  | ok => exact returns_judged correlation started .custom (intent.validate correlation)

/-- Authorization fails at no other stage than its own. -/
theorem returns_authorize :
    (bus.authorize intent correlation context started).Returns (ErrsAt (· = .authorize)) := by
  unfold authorize
  split
  · exact errsAt_ok ()
  · apply Task.returns_bind
    intro outcome
    split
    · exact errsAt_ok ()
    · exact fun _ _ => errsAt_error rfl

/-- A failure returns its error. -/
theorem returns_fail (error : DispatchError) :
    (bus.fail intent error started).Returns (· = .error error) :=
  Task.returns_bind _ fun _ => Task.returns_bind _ fun _ => rfl

/-- A rejection returns its error. -/
theorem returns_reject (error : DispatchError) :
    (bus.reject intent error started).Returns (· = .error error) := by
  unfold reject
  split
  · exact Task.returns_bind _ fun _ => returns_fail bus intent started _
  · exact returns_fail bus intent started _

/-- A success returns its output. -/
theorem returns_succeed (output : α) :
    (bus.succeed intent output started).Returns (· = .ok output) := by
  apply Task.returns_bind
  intro _
  apply Task.returns_bind
  intro _
  split
  · rfl
  · rfl

/-- The error of a fault belongs to the stage of execution. -/
theorem stage_executionError (handler : String) (trace : IntentTrace) (fault : ExecutionFault) :
    (executionError handler trace fault).stage = .execute := by
  cases fault <;> rfl

variable (bound : BoundHandler σ ι α)

private theorem returns_execute :
    (bus.execute intent bound correlation context started).Returns (ErrsAt (· = .execute)) := by
  apply Task.returns_bind
  intro result
  cases result with
  | error fault =>
    apply Task.returns_bind
    intro _
    apply (returns_fail bus intent started _).mono
    intro result same
    rw [same]
    exact errsAt_error (stage_executionError _ _ fault)
  | ok output =>
    apply Task.returns_bind
    intro _
    apply (returns_succeed bus intent started output).mono
    intro result same
    rw [same]
    exact errsAt_ok output

/-- The stages after lookup do not end with an error of lookup. -/
theorem returns_stages :
    (bus.stages intent bound correlation context started).Returns (ErrsAt (· ≠ .lookup)) := by
  apply (returns_validate bus intent correlation started).bind
  intro result rejected
  cases result with
  | error error =>
    apply (returns_reject bus intent started error).mono
    intro result same
    rw [same]
    exact errsAt_error fun lookup => nomatch (rejected error rfl).symm.trans lookup
  | ok =>
    apply (returns_authorize bus intent correlation context started).bind
    intro result denied
    cases result with
    | error error =>
      apply (returns_fail bus intent started error).mono
      intro result same
      rw [same]
      exact errsAt_error fun lookup => nomatch (denied error rfl).symm.trans lookup
    | ok =>
      refine (returns_execute bus intent correlation context started bound).mono ?_
      intro result failed error same lookup
      nomatch (failed error same).symm.trans lookup

private theorem returns_dispatchTo :
    (bus.dispatchTo intent bound context started).Returns (ErrsAt (· ≠ .lookup)) :=
  Task.returns_bind _ fun correlation => Task.returns_bind _ fun _ =>
    ((returns_stages bus intent correlation context started bound).mapEvents _).releasing _

variable {bus intent context} {time : Nat} {state : BusState σ ι α}

/-- Where a lookup cannot fail, no dispatch ends with an error of the configuration. -/
theorem dispatch_ne_configuration (sound : ∀ error, state.registry.tryFind intent.type ≠ .error error)
    (error : ConfigurationError) :
    ((bus.dispatch intent context).run time state).result ≠ some (.error (.configuration error)) := by
  intro ends
  simp only [dispatch, Task.bind_eq, Task.run_bind, Task.run_clock, Task.run_read, Run.still_andThen,
    List.map_nil, Run.after_nil] at ends
  cases found : state.registry.tryFind intent.type with
  | error error => exact sound error found
  | ok found? =>
    rw [found] at ends
    cases found? with
    | none => nomatch ends
    | some bound => exact (returns_dispatchTo bus intent context time bound).run ends _ rfl rfl

private theorem dispatchAndKeep_ne_configuration
    (sound : ∀ error, state.registry.tryFind intent.type ≠ .error error) (key : String)
    (error : ConfigurationError) :
    ((bus.dispatchAndKeep intent key context).run time state).result ≠ some (.error (.configuration error)) := by
  intro ends
  simp only [dispatchAndKeep, Task.bind_eq, Task.run_bind] at ends
  obtain ⟨result, dispatched, ends⟩ := Run.andThen_result_eq_some.1 ends
  cases result with
  | error other =>
    cases ends
    exact dispatch_ne_configuration sound error dispatched
  | ok output => nomatch ends

/-- Where a lookup cannot fail, no dispatch through the cache ends with an error of the configuration either. -/
theorem dispatchCached_ne_configuration (sound : ∀ error, state.registry.tryFind intent.type ≠ .error error)
    (error : ConfigurationError) :
    ((bus.dispatchCached intent context).run time state).result ≠ some (.error (.configuration error)) := by
  unfold dispatchCached
  split
  · exact dispatch_ne_configuration sound error
  · next key _ =>
    simp only [Task.bind_eq, Task.run_bind, Task.run_read, Task.run_signal, Run.still_andThen, Run.after_result]
    split
    · exact dispatchAndKeep_ne_configuration sound key error
    · split
      · nofun
      · exact dispatchAndKeep_ne_configuration sound key error

end Bus

end IntentBus
