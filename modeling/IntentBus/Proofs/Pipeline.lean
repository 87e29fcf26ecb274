import IntentBus.Bank.Intents
import IntentBus.Bus.Dispatch
import IntentBus.Proofs.Retries
import IntentBus.Proofs.Stages

/-! The stages of a dispatch in their order: each is called only if all before it let the intent pass, and the
error of a dispatch is that of the first that does not. -/

namespace IntentBus.Bus

variable {σ ι α : Type}

section

variable (bus : Bus σ ι α) (intent : Intent σ ι α) (bound : BoundHandler σ ι α) (correlation : Correlation)
  (context : ExecutionContext)

def Valid (time : Nat) (application : σ) : Prop :=
  (bus.judgement intent time application).result = some .valid ∧
    (bus.ownJudgement intent correlation time application).result = some .valid

instance (time : Nat) (application : σ) : Decidable (bus.Valid intent correlation time application) :=
  inferInstanceAs (Decidable (_ ∧ _))

def accessOfValid (time : Nat) (application : σ) : Run σ AccessEvent AuthorizationOutcome :=
  let before := bus.ownJudgement intent correlation time application
  bus.access intent correlation context before.time before.state

/-- Whether an intent may be executed: it is valid and, where there is authorization, granted access. -/
def Admitted (time : Nat) (application : σ) : Prop :=
  bus.Valid intent correlation time application ∧ (bus.config.authorizationEnabled = true →
    (bus.accessOfValid intent correlation context time application).result = some .granted)

/-- When an intent that may be executed has passed all judges, and the state of the application then. -/
def admission (time : Nat) (application : σ) : Nat × σ :=
  if bus.config.authorizationEnabled then
    let last := bus.accessOfValid intent correlation context time application
    (last.time, last.state)
  else
    let last := bus.ownJudgement intent correlation time application
    (last.time, last.state)

def authorizationOfValid (time : Nat) (state : BusState σ ι α) :
    Run (BusState σ ι α) (BusEvent α) (Except DispatchError Unit) :=
  let before := bus.ownJudgement intent correlation time state.application
  (bus.authorize intent correlation context time).run before.time (state.withApplication before.state)

def execution (time : Nat) (state : BusState σ ι α) :
    Run (BusState σ ι α) (BusEvent α) (Except ExecutionFault α) :=
  (ExecutionService.stack bus.config.retry bus.draw bound.handler
    (bus.request intent bound correlation context)).run time state

def publishCalls (output : α) : List (BusEvent α) :=
  match bus.publisher, intent.sideEffect output with
  | some _, some effect => [.publish (intent.descriptor correlation) effect]
  | _, _ => []

/-- How a dispatch can end after an execution with a result, with the calls of the publisher. -/
inductive Ending : Option (Except ExecutionFault α) → Option (Except DispatchError α) → List (BusEvent α) → Prop
  | unexecuted : Ending none none []
  | failed (fault : ExecutionFault) (trace : IntentTrace) :
    Ending (some (.error fault)) (some (.error (executionError bound.binding.handler trace fault))) []
  | unpublished (output : α) : Ending (some (.ok output)) none (bus.publishCalls intent correlation output)
  | succeeded (output : α) :
    Ending (some (.ok output)) (some (.ok output)) (bus.publishCalls intent correlation output)

end

section

variable {bus : Bus σ ι α} {intent : Intent σ ι α} {bound : BoundHandler σ ι α} {correlation : Correlation}
  {context : ExecutionContext} {time started : Nat} {state : BusState σ ι α}

/-- A failure makes no calls. -/
theorem quiet_fail (error : DispatchError) :
    (bus.fail intent error started).Emits BusEvent.Quiet :=
  (emits_fail bus intent started error).mono fun _ => BusEvent.OfReport.quiet

private theorem observe_result (observation : Observation) :
    ((bus.observe observation).run time state).result = some () := by
  unfold observe
  split
  · simp
  · rfl

private theorem fail_result (error : DispatchError) :
    ((bus.fail intent error started).run time state).result = some (.error error) := by
  simp only [fail, BusTask.elapsedSince, Task.bind_eq, Task.bind, Task.run_get, Task.run_bind]
  rw [Run.andThen_of_some (observe_result _)]
  rfl

/-- A rejection makes no calls. -/
theorem quiet_reject (error : DispatchError) :
    (bus.reject intent error started).Emits BusEvent.Quiet :=
  (emits_reject bus intent started error).mono fun _ => BusEvent.OfReport.quiet

private theorem reject_result (error : DispatchError) :
    ((bus.reject intent error started).run time state).result = some (.error error) := by
  unfold reject
  cases error with
  | validation phase violations trace =>
    simp only [Task.bind_eq, Task.run_bind]
    rw [Run.andThen_of_some (observe_result _)]
    exact fail_result _
  | _ => exact fail_result _

/-- A success makes no calls. -/
theorem quiet_succeed (output : α) :
    (bus.succeed intent output started).Emits BusEvent.Quiet :=
  (emits_succeed bus intent started output).mono fun _ => BusEvent.OfReport.quiet

private theorem succeed_result (output : α) :
    ((bus.succeed intent output started).run time state).result = some (.ok output) := by
  simp only [succeed, BusTask.elapsedSince, Task.bind_eq, Task.bind, Task.run_get, Task.run_bind]
  rw [Run.andThen_of_some (observe_result _)]
  split
  · rfl
  · rfl

/-- Delivery opens with the call of the publisher and makes no other. -/
theorem opens_deliver (publisher : Publisher σ) (origin : IntentDescriptor) (effect : SideEffect) :
    (deliver publisher origin effect : BusTask σ ι α Unit).Opens (.publish origin effect) BusEvent.Quiet := by
  refine ⟨rfl, (Task.emits_focus BusEvent.quiet_log _).bind fun failure => ?_⟩
  cases failure with
  | none => trivial
  | some failure => exact ⟨rfl, trivial⟩

private theorem calls_publish (output : α) :
    ((bus.publish intent output correlation).run time state).calls =
      bus.publishCalls intent correlation output := by
  unfold publish publishCalls
  cases bus.publisher with
  | none => rfl
  | some publisher =>
    cases intent.sideEffect output with
    | none => rfl
    | some effect =>
      exact Task.calls_of_opens (opens_deliver publisher (intent.descriptor correlation) effect) rfl time state

private theorem ending_of_execute :
    ∃ publication, bus.Ending intent bound correlation
        (bus.execution intent bound correlation context time state).result
        ((bus.execute intent bound correlation context started).run time state).result publication ∧
      ((bus.execute intent bound correlation context started).run time state).calls =
        (bus.execution intent bound correlation context time state).calls ++ publication := by
  simp only [execute, Task.bind_eq, Task.run_bind, Run.calls_andThen]
  rw [← execution]
  generalize bus.execution intent bound correlation context time state = execution
  cases ends : execution.result with
  | none =>
    rw [Run.andThen_of_none ends]
    exact ⟨[], .unexecuted, rfl⟩
  | some answer =>
    rw [Run.andThen_of_some ends]
    cases answer with
    | error fault =>
      have quiet : (Task.bind (BusTask.elapsedSince started) fun elapsed =>
          bus.fail intent (executionError bound.binding.handler (.ofCorrelation correlation elapsed) fault)
            started).Emits BusEvent.Quiet := fun _ _ => quiet_fail _
      refine ⟨[], ?_, congrArg _ (Task.calls_of_emits quiet _ _)⟩
      change bus.Ending intent bound correlation _
        ((bus.fail intent (executionError bound.binding.handler
          (.ofCorrelation correlation (.ofMillis (execution.time - started))) fault) started).run
            execution.time execution.state).result []
      rw [fail_result]
      exact .failed fault _
    | ok output =>
      refine ⟨bus.publishCalls intent correlation output, ?_, ?_⟩
      · simp only [Task.run_bind]
        cases published :
            ((bus.publish intent output correlation).run execution.time execution.state).result with
        | none =>
          rw [Run.andThen_of_none published]
          exact .unpublished output
        | some _ =>
          rw [Run.andThen_of_some published, Run.after_result, Run.after_result, succeed_result]
          exact .succeeded output
      · simp only [Task.run_bind, Run.calls_andThen, calls_publish]
        split
        · rw [List.append_nil]
        · rw [Task.calls_of_emits (quiet_succeed output), List.append_nil]

/-- The stages go one after the other, each only if the one before let the intent pass. -/
theorem run_stages :
    (bus.stages intent bound correlation context started).run time state =
      ((bus.validate intent correlation started).run time state).andThen fun result time state =>
        match result with
        | .error error => (bus.reject intent error started).run time state
        | .ok () => ((bus.authorize intent correlation context started).run time state).andThen
          fun result time state => match result with
            | .error error => (bus.fail intent error started).run time state
            | .ok () => (bus.execute intent bound correlation context started).run time state := by
  simp only [stages, Task.bind_eq, Task.run_bind]
  refine congrArg (Run.andThen _) (funext fun result => ?_)
  cases result with
  | error error => rfl
  | ok =>
    funext time state
    simp only [Task.run_bind]
    refine congrArg (Run.andThen _) (funext fun result => ?_)
    cases result with
    | error error => rfl
    | ok => rfl

end

section

variable {bus : Bus σ ι α} {intent : Intent σ ι α} {bound : BoundHandler σ ι α} {correlation : Correlation}
  {context : ExecutionContext} {time : Nat} {state : BusState σ ι α}

/-- Validation lets no other intents pass than those in which neither judgement finds anything. -/
theorem valid_of_validate
    (passes : ((bus.validate intent correlation time).run time state).result = some (.ok ())) :
    bus.Valid intent correlation time state.application := by
  cases judged : (bus.judgement intent time state.application).result with
  | none => nomatch (validate_of_unjudged judged).symm.trans passes
  | some outcome =>
    by_cases found : outcome = .valid
    · rw [found] at judged
      cases own : (bus.ownJudgement intent correlation time state.application).result with
      | none => nomatch (validate_of_unanswered judged own).symm.trans passes
      | some outcome =>
        by_cases found : outcome = .valid
        · exact ⟨judged, found ▸ own⟩
        · nomatch (validate_of_custom judged own found).symm.trans passes
    · nomatch (validate_of_structural judged found).symm.trans passes

private theorem stages_of_unvalidated
    (stuck : ((bus.validate intent correlation time).run time state).result = none) :
    ((bus.stages intent bound correlation context time).run time state).result = none := by
  rw [run_stages, Run.andThen_of_none stuck]

private theorem stages_of_rejected {error : DispatchError}
    (rejects : ((bus.validate intent correlation time).run time state).result = some (.error error)) :
    ((bus.stages intent bound correlation context time).run time state).result = some (.error error) := by
  rw [run_stages, Run.andThen_of_some rejects]
  exact reject_result error

private theorem calls_of_not_valid
    (invalid : ¬bus.Valid intent correlation time state.application) :
    ((bus.stages intent bound correlation context time).run time state).calls =
      ((bus.validate intent correlation time).run time state).calls := by
  rw [run_stages, Run.calls_andThen]
  cases validated : ((bus.validate intent correlation time).run time state).result with
  | none => exact List.append_nil _
  | some answer =>
    cases answer with
    | ok => exact absurd (valid_of_validate validated) invalid
    | error error => exact (congrArg _ (Task.calls_of_emits (quiet_reject error) _ _)).trans (List.append_nil _)

/-- A valid intent goes on to authorization. -/
theorem run_stages_of_valid (valid : bus.Valid intent correlation time state.application) :
    (bus.stages intent bound correlation context time).run time state =
      ((bus.authorizationOfValid intent correlation context time state).andThen fun result now state =>
        match result with
        | .error error => (bus.fail intent error time).run now state
        | .ok () => (bus.execute intent bound correlation context time).run now state).after
        ((bus.validate intent correlation time).run time state).trace := by
  obtain ⟨passes, sameTime, sameState⟩ := @validate_of_valid _ _ _ _ _ _ time _ _ valid.1 valid.2
  rw [run_stages, Run.andThen_of_some passes, sameTime, sameState]
  rfl

/-- Where the gate never answers, authorization has no end. -/
theorem authorization_of_unanswered (enabled : bus.config.authorizationEnabled = true)
    (stuck : (bus.accessOfValid intent correlation context time state.application).result = none) :
    (bus.authorizationOfValid intent correlation context time state).result = none :=
  authorize_of_unanswered enabled stuck

/-- Where the gate denies access, authorization ends with the denial. -/
theorem authorization_of_denied (enabled : bus.config.authorizationEnabled = true)
    {outcome : AuthorizationOutcome}
    (answers : (bus.accessOfValid intent correlation context time state.application).result = some outcome)
    (denied : outcome ≠ .granted) :
    (bus.authorizationOfValid intent correlation context time state).result =
      some (.error (denial intent correlation outcome time
        (bus.accessOfValid intent correlation context time state.application).time)) :=
  authorize_of_denied enabled answers denied

/-- Of an intent that is admitted authorization ends without an error, when it is admitted. -/
theorem authorization_of_admitted
    (admitted : bus.Admitted intent correlation context time state.application) :
    let admission := bus.admission intent correlation context time state.application
    let after := bus.authorizationOfValid intent correlation context time state
    after.result = some (.ok ()) ∧ after.time = admission.1 ∧
      after.state = state.withApplication admission.2 := by
  unfold admission
  by_cases enabled : bus.config.authorizationEnabled = true
  · rw [if_pos enabled]
    exact authorize_of_granted enabled (admitted.2 enabled)
  · rw [if_neg enabled]
    have passes := @authorize_of_disabled _ _ _ bus intent correlation context time
      (bus.ownJudgement intent correlation time state.application).time
      (state.withApplication (bus.ownJudgement intent correlation time state.application).state)
      (Bool.eq_false_iff.2 enabled)
    exact ⟨congrArg Run.result passes, congrArg Run.time passes, congrArg Run.state passes⟩

private theorem authorization_calls :
    (bus.authorizationOfValid intent correlation context time state).calls =
      if bus.config.authorizationEnabled then [.gate intent.name correlation] else [] :=
  authorize_calls

private theorem stages_of_unanswered (valid : bus.Valid intent correlation time state.application)
    (enabled : bus.config.authorizationEnabled = true)
    (stuck : (bus.accessOfValid intent correlation context time state.application).result = none) :
    ((bus.stages intent bound correlation context time).run time state).result = none := by
  rw [run_stages_of_valid valid, Run.andThen_of_none (authorization_of_unanswered enabled stuck)]
  rfl

private theorem stages_of_denied (valid : bus.Valid intent correlation time state.application)
    (enabled : bus.config.authorizationEnabled = true) {outcome : AuthorizationOutcome}
    (answers : (bus.accessOfValid intent correlation context time state.application).result = some outcome)
    (denied : outcome ≠ .granted) :
    ((bus.stages intent bound correlation context time).run time state).result =
      some (.error (denial intent correlation outcome time
        (bus.accessOfValid intent correlation context time state.application).time)) := by
  rw [run_stages_of_valid valid, Run.andThen_of_some (authorization_of_denied enabled answers denied)]
  exact fail_result _

private theorem calls_of_not_admitted (valid : bus.Valid intent correlation time state.application)
    (refused : ¬bus.Admitted intent correlation context time state.application) :
    ((bus.stages intent bound correlation context time).run time state).calls =
      ((bus.validate intent correlation time).run time state).calls ++ [.gate intent.name correlation] := by
  have enabled : bus.config.authorizationEnabled = true :=
    Decidable.byContradiction fun disabled => refused ⟨valid, fun enabled => absurd enabled disabled⟩
  rw [run_stages_of_valid valid, Run.calls_after_trace, Run.calls_andThen, authorization_calls, if_pos enabled]
  cases answers : (bus.accessOfValid intent correlation context time state.application).result with
  | none =>
    rw [authorization_of_unanswered enabled answers]
    rfl
  | some outcome =>
    have denied : outcome ≠ .granted := fun same => refused ⟨valid, fun _ => same ▸ answers⟩
    rw [authorization_of_denied enabled answers denied]
    simp only [Task.calls_of_emits (quiet_fail _), List.append_nil]

private theorem stages_of_admitted
    (admitted : bus.Admitted intent correlation context time state.application) :
    let admission := bus.admission intent correlation context time state.application
    let execution := bus.execution intent bound correlation context admission.1
      (state.withApplication admission.2)
    ∃ publication, bus.Ending intent bound correlation execution.result
        ((bus.stages intent bound correlation context time).run time state).result publication ∧
      ((bus.stages intent bound correlation context time).run time state).calls =
        ((bus.validate intent correlation time).run time state).calls ++
          ((if bus.config.authorizationEnabled then [.gate intent.name correlation] else []) ++
            (execution.calls ++ publication)) := by
  obtain ⟨passes, sameTime, sameState⟩ := authorization_of_admitted admitted
  obtain ⟨publication, ending, calls⟩ := @ending_of_execute _ _ _ bus intent bound correlation context
    (bus.admission intent correlation context time state.application).1 time
    (state.withApplication (bus.admission intent correlation context time state.application).2)
  refine ⟨publication, ?_, ?_⟩
  · rw [run_stages_of_valid admitted.1, Run.after_result, Run.andThen_of_some passes, sameTime, sameState]
    exact ending
  · rw [run_stages_of_valid admitted.1, Run.calls_after_trace, Run.calls_andThen, authorization_calls, passes,
      sameTime, sameState, ← calls]

end

section

variable (bus : Bus σ ι α) (intent : Intent σ ι α) (bound : BoundHandler σ ι α) (correlation : Correlation)
  (context : ExecutionContext) (time : Nat)

def parts (application : σ) (execution publication : List (BusEvent α)) : Stage → List (BusEvent α)
  | .engine => [engineCall intent]
  | .validation =>
    if (bus.judgement intent time application).result = some .valid then [.validate correlation] else []
  | .gate =>
    if bus.Valid intent correlation time application ∧ bus.config.authorizationEnabled = true then
      [.gate intent.name correlation] else []
  | .execution => execution
  | .publication => publication

/-- What the calls of a dispatch and its result say about its stages, which begin in a state. Each is called
only if all before it pass, and the error is that of the first that does not. -/
structure Staged (state : BusState σ ι α) (run : Run (BusState σ ι α) (BusEvent α) (Except DispatchError α)) :
    Prop where
  ordered : run.stages.Pairwise (·.rank ≤ ·.rank)
  engine : run.callsOf .engine = [.engine intent.name intent.constraints.size]
  validation : run.callsOf .validation =
    if (bus.judgement intent time state.application).result = some .valid then [.validate correlation] else []
  gate : run.callsOf .gate =
    if bus.Valid intent correlation time state.application ∧ bus.config.authorizationEnabled = true then
      [.gate intent.name correlation] else []
  execution : run.callsOf .execution ≠ [] ↔ bus.Admitted intent correlation context time state.application
  publication : run.callsOf .publication ≠ [] → ∃ output effect before,
    intent.sideEffect output = some effect ∧
      run.calls = before ++ [.onSuccess correlation, .publish (intent.descriptor correlation) effect] ∧
        (∀ call ∈ before, call.stage? ≠ some .publication) ∧
          ∀ ending, run.result = some ending → ending = .ok output
  unanswered : ((bus.judgement intent time state.application).result = none ∨
    ((bus.judgement intent time state.application).result = some .valid ∧
      (bus.ownJudgement intent correlation time state.application).result = none) ∨
    (bus.Valid intent correlation time state.application ∧ bus.config.authorizationEnabled = true ∧
      (bus.accessOfValid intent correlation context time state.application).result = none)) → run.result = none
  structural : ∀ outcome, (bus.judgement intent time state.application).result = some outcome →
    outcome ≠ .valid → run.result = some (.error (.validation .structural outcome.violations
      (.ofCorrelation correlation (.ofMillis ((bus.judgement intent time state.application).time - time)))))
  custom : (bus.judgement intent time state.application).result = some .valid → ∀ outcome,
    (bus.ownJudgement intent correlation time state.application).result = some outcome → outcome ≠ .valid →
      run.result = some (.error (.validation .custom outcome.violations (.ofCorrelation correlation
        (.ofMillis ((bus.ownJudgement intent correlation time state.application).time - time)))))
  denied : bus.Valid intent correlation time state.application → bus.config.authorizationEnabled = true →
    ∀ outcome, (bus.accessOfValid intent correlation context time state.application).result = some outcome →
      outcome ≠ .granted → run.result = some (.error (.authorization
        (if outcome.violations = [] then [⟨intent.name, "access denied", "ACCESS_DENIED"⟩]
          else outcome.violations)
        (.ofCorrelation correlation
          (.ofMillis ((bus.accessOfValid intent correlation context time state.application).time - time)))))
  executed : bus.Admitted intent correlation context time state.application →
    let admission := bus.admission intent correlation context time state.application
    let execution := bus.execution intent bound correlation context admission.1
      (state.withApplication admission.2)
    run.callsOf .execution = execution.calls ∧
      bus.Ending intent bound correlation execution.result run.result (run.callsOf .publication)

end

section

variable {bus : Bus σ ι α} {intent : Intent σ ι α} {bound : BoundHandler σ ι α} {correlation : Correlation}
  {context : ExecutionContext} {time : Nat} {state : BusState σ ι α}

private theorem parted_of_calls {execution publication : List (BusEvent α)}
    {run : Run (BusState σ ι α) (BusEvent α) (Except DispatchError α)}
    (calls : run.calls = ((bus.validate intent correlation time).run time state).calls ++
      ((if bus.Valid intent correlation time state.application ∧ bus.config.authorizationEnabled = true then
        [.gate intent.name correlation] else []) ++ (execution ++ publication)))
    (executes : ∀ call ∈ execution, call.stage? = some .execution)
    (publishes : ∀ call ∈ publication, call.stage? = some .publication) :
    run.Parted (bus.parts intent correlation time state.application execution publication) where
  calls := by
    rw [calls, validate_calls]
    unfold parts
    split
    · rfl
    · rfl
  own stage call mem := by
    cases stage with
    | engine => cases List.mem_singleton.1 mem; rfl
    | validation =>
      obtain ⟨_, same⟩ := List.mem_ite_nil_right.1 mem
      cases List.mem_singleton.1 same
      rfl
    | gate =>
      obtain ⟨_, same⟩ := List.mem_ite_nil_right.1 mem
      cases List.mem_singleton.1 same
      rfl
    | execution => exact executes call mem
    | publication => exact publishes call mem

/-- What is said about the stages is said about the calls and the result alone. -/
theorem Staged.of_same
    {run other : Run (BusState σ ι α) (BusEvent α) (Except DispatchError α)}
    (staged : bus.Staged intent bound correlation context time state run)
    (calls : other.calls = run.calls) (result : other.result = run.result) :
    bus.Staged intent bound correlation context time state other := by
  have stages : other.stages = run.stages := congrArg (List.filterMap BusEvent.stage?) calls
  have callsOf (stage : Stage) : other.callsOf stage = run.callsOf stage := congrArg (List.filter _) calls
  constructor
  · rw [stages]; exact staged.ordered
  · rw [callsOf]; exact staged.engine
  · rw [callsOf]; exact staged.validation
  · rw [callsOf]; exact staged.gate
  · rw [callsOf]; exact staged.execution
  · rw [callsOf, calls, result]; exact staged.publication
  · rw [result]; exact staged.unanswered
  · rw [result]; exact staged.structural
  · rw [result]; exact staged.custom
  · rw [result]; exact staged.denied
  · rw [callsOf, callsOf, result]; exact staged.executed

private theorem parted_of_not_admitted
    (refused : ¬bus.Admitted intent correlation context time state.application) :
    ((bus.stages intent bound correlation context time).run time state).Parted
      (bus.parts intent correlation time state.application [] []) := by
  refine parted_of_calls ?_ (List.forall_mem_nil _) (List.forall_mem_nil _)
  by_cases valid : bus.Valid intent correlation time state.application
  · have enabled : bus.config.authorizationEnabled = true :=
      Decidable.byContradiction fun disabled => refused ⟨valid, fun enabled => absurd enabled disabled⟩
    rw [calls_of_not_admitted valid refused, if_pos ⟨valid, enabled⟩]
    rfl
  · rw [calls_of_not_valid valid, if_neg fun both => valid both.1]
    exact (List.append_nil _).symm

/-- Where the publisher is called, it is called once, with the effect of the output. -/
theorem eq_of_publishCalls {output : α}
    (published : bus.publishCalls intent correlation output ≠ []) :
    ∃ effect, intent.sideEffect output = some effect ∧
      bus.publishCalls intent correlation output = [.publish (intent.descriptor correlation) effect] := by
  unfold publishCalls at published ⊢
  split
  · next effect _ same => exact ⟨effect, same, rfl⟩
  · next unpublished =>
    split at published
    · next publisher effect receives has => exact (unpublished publisher effect receives has).elim
    · exact (published rfl).elim

/-- The call of the publisher belongs to the stage of publication. -/
theorem stage?_of_mem_publishCalls {output : α} {call : BusEvent α}
    (mem : call ∈ bus.publishCalls intent correlation output) :
    call.stage? = some .publication := by
  obtain ⟨effect, _, same⟩ := eq_of_publishCalls (List.ne_nil_of_mem mem)
  rw [same] at mem
  cases List.mem_singleton.1 mem
  rfl

private theorem Ending.stage?_of_mem {result : Option (Except ExecutionFault α)}
    {ending : Option (Except DispatchError α)} {publication : List (BusEvent α)}
    (ends : bus.Ending intent bound correlation result ending publication) :
    ∀ call ∈ publication, call.stage? = some .publication := by
  cases ends with
  | unexecuted => exact List.forall_mem_nil _
  | failed fault trace => exact List.forall_mem_nil _
  | unpublished output => exact fun call => stage?_of_mem_publishCalls
  | succeeded output => exact fun call => stage?_of_mem_publishCalls

private theorem Ending.of_publication {result : Option (Except ExecutionFault α)}
    {ending : Option (Except DispatchError α)} {publication : List (BusEvent α)}
    (ends : bus.Ending intent bound correlation result ending publication)
    (published : publication ≠ []) :
    ∃ output effect, result = some (.ok output) ∧ intent.sideEffect output = some effect ∧
      publication = [.publish (intent.descriptor correlation) effect] ∧
        ∀ value, ending = some value → value = .ok output := by
  cases ends with
  | unexecuted => exact absurd rfl published
  | failed fault trace => exact absurd rfl published
  | unpublished output =>
    obtain ⟨effect, has, same⟩ := eq_of_publishCalls published
    exact ⟨output, effect, rfl, has, same, fun _ ends => nomatch ends⟩
  | succeeded output =>
    obtain ⟨effect, has, same⟩ := eq_of_publishCalls published
    exact ⟨output, effect, rfl, has, same, fun _ ends => (Option.some.inj ends).symm⟩

private theorem parted_of_admitted
    (admitted : bus.Admitted intent correlation context time state.application) :
    let admission := bus.admission intent correlation context time state.application
    let execution := bus.execution intent bound correlation context admission.1
      (state.withApplication admission.2)
    ∃ publication, bus.Ending intent bound correlation execution.result
        ((bus.stages intent bound correlation context time).run time state).result publication ∧
      ((bus.stages intent bound correlation context time).run time state).Parted
        (bus.parts intent correlation time state.application execution.calls publication) := by
  obtain ⟨publication, ending, calls⟩ := @stages_of_admitted _ _ _ bus intent bound _ _ _ _ admitted
  refine ⟨publication, ending, parted_of_calls ?_ ?_ ending.stage?_of_mem⟩
  · rw [calls]
    simp only [admitted.1, true_and]
  · exact (ExecutionService.calls_of_stack bus.config.retry bus.draw bound.handler rfl _ _).1

private theorem exists_parts :
    let run := (bus.stages intent bound correlation context time).run time state
    let admission := bus.admission intent correlation context time state.application
    let ran := bus.execution intent bound correlation context admission.1 (state.withApplication admission.2)
    ∃ execution publication,
      run.Parted (bus.parts intent correlation time state.application execution publication) ∧
      (¬bus.Admitted intent correlation context time state.application → execution = [] ∧ publication = []) ∧
        (bus.Admitted intent correlation context time state.application →
          execution = ran.calls ∧ bus.Ending intent bound correlation ran.result run.result publication) := by
  by_cases admitted : bus.Admitted intent correlation context time state.application
  · obtain ⟨publication, ending, parted⟩ := @parted_of_admitted _ _ _ _ _ bound _ _ _ _ admitted
    exact ⟨_, publication, parted, fun refused => absurd admitted refused, fun _ => ⟨rfl, ending⟩⟩
  · exact ⟨[], [], parted_of_not_admitted admitted, fun _ => ⟨rfl, rfl⟩, fun other => absurd other admitted⟩

private theorem last_of_parted {execution before : List (BusEvent α)} {last call : BusEvent α}
    {run : Run (BusState σ ι α) (BusEvent α) (Except DispatchError α)}
    (parted : run.Parted (bus.parts intent correlation time state.application execution [call]))
    (ends : execution = before ++ [last]) :
    ∃ earlier, run.calls = earlier ++ [last, call] ∧ ∀ other ∈ earlier, other.stage? ≠ some .publication := by
  subst ends
  have called : run.calls = (engineCall intent ::
      (bus.parts intent correlation time state.application [] [] .validation ++
        (bus.parts intent correlation time state.application [] [] .gate ++ before))) ++ [last, call] := by
    rw [parted.calls]
    simp only [parts, List.append_assoc, List.cons_append, List.nil_append]
  refine ⟨_, called, fun other mem publishes => ?_⟩
  have only := parted.callsOf .publication
  have lastOwn := parted.own .execution last (List.mem_append_right before (List.mem_singleton_self last))
  have callOwn := parted.own .publication call (List.mem_singleton_self call)
  have alone : [last, call].filter (·.stage? = some .publication) = [call] := by
    simp [lastOwn, callOwn]
  rw [Run.callsOf, called, List.filter_append, alone] at only
  exact List.filter_eq_nil_iff.1 (List.append_left_eq_self.1 only) other mem (decide_eq_true publishes)

/-- The stages after lookup go in their order, up to the first that does not let the intent pass. -/
theorem staged_of_stages :
    bus.Staged intent bound correlation context time state
      ((bus.stages intent bound correlation context time).run time state) := by
  obtain ⟨execution, publication, parted, refused, executed⟩ :=
    @exists_parts _ _ _ bus intent bound correlation context time state
  have fresh : (bus.request intent bound correlation context).attempt = 1 := rfl
  obtain ⟨_, called, last⟩ := ExecutionService.calls_of_stack bus.config.retry bus.draw bound.handler fresh
    (bus.admission intent correlation context time state.application).1
    (state.withApplication (bus.admission intent correlation context time state.application).2)
  exact
    { ordered := parted.ordered
      engine := parted.callsOf .engine
      validation := parted.callsOf .validation
      gate := parted.callsOf .gate
      execution := by
        rw [parted.callsOf .execution]
        refine ⟨fun called => ?_, fun admitted => ?_⟩
        · exact Classical.byContradiction fun unadmitted => called (refused unadmitted).1
        · intro uncalled
          exact called ((executed admitted).1.symm.trans uncalled)
      publication := fun published => by
        rw [parted.callsOf .publication] at published
        have admitted : bus.Admitted intent correlation context time state.application :=
          Classical.byContradiction fun unadmitted => published (refused unadmitted).2
        obtain ⟨same, ending⟩ := executed admitted
        obtain ⟨output, effect, succeeds, has, only, ends⟩ := ending.of_publication published
        obtain ⟨before, split⟩ := last output succeeds
        rw [only] at parted
        obtain ⟨earlier, calls, others⟩ := last_of_parted parted (same.trans split)
        exact ⟨output, effect, earlier, has, calls, others, ends⟩
      unanswered := by
        rintro (stuck | ⟨judged, stuck⟩ | ⟨valid, enabled, stuck⟩)
        · exact stages_of_unvalidated (validate_of_unjudged stuck)
        · exact stages_of_unvalidated (validate_of_unanswered judged stuck)
        · exact stages_of_unanswered valid enabled stuck
      structural := fun outcome judged found => stages_of_rejected (validate_of_structural judged found)
      custom := fun judged outcome own found => stages_of_rejected (validate_of_custom judged own found)
      denied := fun valid enabled outcome answers refused => by
        rw [stages_of_denied valid enabled answers refused, denial, denialReasons]
        simp only [List.isEmpty_iff]
      executed := fun admitted => by
        rw [parted.callsOf .execution, parted.callsOf .publication]
        exact executed admitted }

end

section

variable (bus : Bus σ ι α) (intent : Intent σ ι α) (context : ExecutionContext) (time : Nat)
  (state : BusState σ ι α)

def entered : BusState σ ι α :=
  { state with
    tracker := (state.tracker.enter (intent.correlation (bus.freshId state.issued)).id).2
    issued := if intent.provenance.correlationId.isSome then state.issued else state.issued + 1 }

/-- The dispatch of a bound intent is that of its stages, in a span and a scope of their own. -/
theorem run_dispatch {bound : BoundHandler σ ι α}
    (found : state.registry.tryFind intent.type = .ok (some bound)) :
    (bus.dispatch intent context).run time state =
      let correlation := intent.correlation (bus.freshId state.issued)
      (((bus.stages intent bound correlation context time).run time (bus.entered intent state)).mapEvents
        (.inside (dispatchSpan intent bound.binding.handler correlation))).releasing
          (leaveScope state.tracker.nextSlot) := by
  simp only [dispatch, Task.bind_eq, Task.run_bind, Task.run_clock, Task.run_read, Run.still_andThen,
    List.map_nil, Run.after_nil, found, dispatchTo, correlate, enterScope, Task.run_update, Task.run_releasing,
    BusTask.inSpan, Task.run_mapEvents]
  unfold entered
  split
  · rfl
  · rfl

/-- The dispatch of a bound intent goes through the stages in their order, up to the first that does not let the
intent pass, and its error is that of this stage. -/
theorem dispatch_staged {bound : BoundHandler σ ι α}
    (found : state.registry.tryFind intent.type = .ok (some bound)) :
    bus.Staged intent bound (intent.correlation (bus.freshId state.issued)) context time
      (bus.entered intent state) ((bus.dispatch intent context).run time state) := by
  rw [run_dispatch bus intent context time state found]
  exact (staged_of_stages).of_same (Run.calls_mapEvents_inside _ _) rfl

end

/-- A balance is asked for in the same way. -/
theorem dispatch_staged_balance :
    let type := Bank.balanceType ""
    let bound : BoundHandler Bank.Ledger Bank.Request Bank.Reply :=
      ⟨⟨type, "GetBalanceHandler"⟩, Bank.handler type, none⟩
    let state : BusState Bank.Ledger Bank.Request Bank.Reply :=
      ⟨⟨.permissive, Table.empty.insert type ⟨bound.binding, bound⟩⟩, .empty, .empty, .empty, .empty, 0, 0⟩
    let bus : Bus Bank.Ledger Bank.Request Bank.Reply := .ofConfig .standard toString id
    let intent := (Bank.Request.balance "ACC-1").intent "" (.fresh .nil 0)
    state.registry.tryFind intent.type = .ok (some bound) ∧
      bus.Staged intent bound (intent.correlation (bus.freshId state.issued)) .empty 0
        (bus.entered intent state) ((bus.dispatch intent .empty).run 0 state) := by
  intro type bound state bus intent
  have found : state.registry.tryFind intent.type = .ok (some bound) := rfl
  exact ⟨found, bus.dispatch_staged intent .empty 0 state found⟩

end IntentBus.Bus
