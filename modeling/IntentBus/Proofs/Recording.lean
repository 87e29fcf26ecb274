import IntentBus.Proofs.Keeping
import IntentBus.Proofs.Pipeline
import IntentBus.Proofs.Results
import IntentBus.Proofs.Turns

/-! What a dispatch leaves in the counters of a bus that collects them: it is observed in its last turn, and as
its result says. -/

namespace IntentBus

variable {σ ι α β : Type}

def BusEvent.consults (event : BusEvent α) : Bool := event.stage? = some .engine

def MetricsCollector.recordAll (collector : MetricsCollector) (observations : List Observation) :
    MetricsCollector :=
  observations.foldl record collector

/-- What is observed of an intent, by whether it went past lookup and by its result. -/
inductive Observed (intent : String) : Bool → Except DispatchError α → List Observation → Prop
  | kept (output : α) : Observed intent false (.ok output) []
  | lookup {error : DispatchError} (stage : error.stage = .lookup) : Observed intent false (.error error) []
  | success (output : α) (length : Duration) : Observed intent true (.ok output) [.success intent length]
  | invalid (phase : ValidationPhase) (violations : List Violation) (trace : IntentTrace) (length : Duration) :
    Observed intent true (.error (.validation phase violations trace))
      [.validationFailure intent phase, .failure intent .validation length]
  | failure {error : DispatchError} (stage : error.stage = .authorize ∨ error.stage = .execute)
    (length : Duration) : Observed intent true (.error error) [.failure intent error.kind length]

def Settled (intent : String) (consulted : Bool) (result : Except DispatchError α)
    (before after : MetricsCollector) : Prop :=
  ∃ observations, Observed intent consulted result observations ∧ after = before.recordAll observations

/-- The task settles the counters in its last turn. -/
abbrev Settles (intent : String) (task : BusTask σ ι α (Except DispatchError α)) (consulted : Bool)
    (before : MetricsCollector) (state : BusState σ ι α) : Prop :=
  task.Commits BusEvent.consults BusState.metrics (Settled intent) consulted before state

private theorem aside_metrics :
    BusState.Aside (BusState.metrics : BusState σ ι α → MetricsCollector) :=
  ⟨fun _ _ => rfl, fun _ _ => rfl⟩

private theorem consults_of_quiet {event : BusEvent α} (quiet : event.Quiet) :
    event.consults = false := by
  have stageless : event.stage? = none := Option.not_isSome_iff_eq_none.1 (ne_true_of_eq_false quiet)
  rw [BusEvent.consults, stageless]
  rfl

private theorem consults_of_execution {correlation : Correlation} {event : BusEvent α}
    (own : event.OfExecution correlation) : event.consults = false := by
  rcases own with rfl | own
  · rfl
  · cases own <;> rfl

/-- An event inside a span shows the same about lookup. -/
theorem consults_inside (span : LogSpan) (event : BusEvent α) :
    (event.inside span).consults = event.consults := by
  rw [BusEvent.consults, BusEvent.stage?_inside, BusEvent.consults]

private theorem consults_of_publication {intent : Intent σ ι α} {correlation : Correlation} {event : BusEvent α}
    (own : event.OfPublication intent correlation) : event.consults = false := by
  cases own <;> rfl

private theorem commits_judged (phase : ValidationPhase) (judge : ApplicationTask σ ValidationOutcome)
    (correlation : Correlation) (started : Nat) (seen : Bool) (state : BusState σ ι α) :
    (Bus.judged phase judge correlation started).Commits BusEvent.consults BusState.metrics
      (fun late result before after => late = seen ∧ ErrsAt (· = .validate) result ∧ after = before) seen
        state.metrics state :=
  Task.commits_of_keeps (Bus.keeps_judged aside_metrics correlation started state phase judge)
    ((Bus.quiet_judged phase judge).mono fun _ quiet => consults_of_quiet quiet)
    (Bus.returns_judged correlation started phase judge) rfl

private theorem commits_validate (bus : Bus σ ι α) (intent : Intent σ ι α) (correlation : Correlation)
    (started : Nat) (seen : Bool) (state : BusState σ ι α) :
    (bus.validate intent correlation started).Commits BusEvent.consults BusState.metrics
      (fun late result before after => late = true ∧ ErrsAt (· = .validate) result ∧ after = before) seen
        state.metrics state := by
  change Task.Commits _ _ _ (Task.bind (Bus.judged _ _ _ _) _) ((seen || false) || true) _ state
  rw [Bool.or_true]
  refine (commits_judged .structural (bus.engine intent) correlation started true state).bind ?_
  rintro result _ _ state ⟨rfl, errs, rfl⟩
  cases result with
  | error error => exact ⟨rfl, errs, rfl⟩
  | ok =>
    refine Task.commits_signal_bind rfl ?_
    exact commits_judged .custom (intent.validate correlation) correlation started true state

private theorem consults_of_authorization {intent : Intent σ ι α} {correlation : Correlation} {event : BusEvent α}
    (own : event.OfAuthorization intent correlation) : event.consults = false := by
  cases own with
  | access event => cases event <;> rfl
  | _ => rfl

section

variable {bus : Bus σ ι α} (collecting : bus.collecting = true) {intent : Intent σ ι α} {seen : Bool}
  {before : MetricsCollector} {state : BusState σ ι α}

include collecting

private theorem commits_observe {owed : Bool → β → MetricsCollector → MetricsCollector → Prop}
    (observation : Observation) {f : Unit → BusTask σ ι α β}
    (rest : ∀ after, after.metrics = state.metrics.record observation →
      (f ()).Commits BusEvent.consults BusState.metrics owed seen before after) :
    ((bus.observe observation).bind f).Commits BusEvent.consults BusState.metrics owed seen before state := by
  have observed : (bus.observe observation).Commits BusEvent.consults BusState.metrics
      (fun late _ start after => late = seen ∧ start = before ∧ after = state.metrics.record observation) seen
        before state := by
    unfold Bus.observe
    rw [if_pos collecting]
    refine fun _ => Task.commits_signals (fun event mem => ?_) ⟨rfl, rfl, rfl⟩
    obtain ⟨signal, _, rfl⟩ := List.mem_map.1 mem
    rfl
  apply observed.bind
  intro _ late start after paid
  obtain ⟨rfl, rfl, same⟩ := paid
  exact rest after same

private theorem settles_fail (error : DispatchError) (started : Nat)
    (owed : ∀ length, Settled intent.name seen (.error error : Except DispatchError α) before
      (state.metrics.record (.failure intent.name error.kind length))) :
    Settles intent.name (bus.fail intent error started) seen before state := by
  intro now
  refine commits_observe collecting _ fun after same => Task.commits_signal_bind rfl ?_
  change Settled _ _ _ _ after.metrics
  rw [same]
  exact owed _

private theorem settles_succeed (output : α) (started : Nat)
    (owed : ∀ length, Settled intent.name seen (.ok output) before
      (state.metrics.record (.success intent.name length))) :
    Settles intent.name (bus.succeed intent output started) seen before state := by
  intro now
  apply commits_observe collecting _
  intro after same
  have paid := owed (.ofMillis (now - started))
  rw [← same] at paid
  split
  · exact Task.commits_signal_bind rfl paid
  · exact paid

private theorem settles_reject {phase : ValidationPhase} {violations : List Violation}
    {trace : IntentTrace} (started : Nat) :
    Settles intent.name (bus.reject intent (.validation phase violations trace) started) true
      state.metrics state := by
  apply commits_observe collecting (.validationFailure intent.name phase)
  intro after same
  apply settles_fail collecting _ started
  intro length
  rw [same]
  exact ⟨_, .invalid phase violations trace length, rfl⟩

variable (correlation : Correlation) (context : ExecutionContext) (started : Nat)

private theorem settles_execute (bound : BoundHandler σ ι α) :
    Settles intent.name (bus.execute intent bound correlation context started) true state.metrics state := by
  refine (Task.commits_of_keeps (ExecutionService.keeps_stack aside_metrics bound.handler _ _ _ state)
    ((ExecutionService.opens_stack bound.handler _ _ _).emits (by rfl) fun _ own => consults_of_execution own)
    (Task.returns_of_forall _ fun _ => trivial) rfl).bind ?_
  rintro result _ _ after ⟨rfl, _, rfl⟩
  cases result with
  | error fault =>
    intro now
    apply settles_fail collecting _ started
    intro length
    exact ⟨_, .failure (.inr (Bus.stage_executionError _ _ fault)) length, rfl⟩
  | ok output =>
    refine (Task.commits_of_keeps (Bus.keeps_publish aside_metrics bus intent correlation after output)
      ((bus.emits_publish intent correlation output).mono fun _ => consults_of_publication)
        (Task.returns_of_forall _ fun _ => trivial) rfl).bind ?_
    rintro _ _ _ after ⟨rfl, _, rfl⟩
    exact settles_succeed collecting output started fun length => ⟨_, .success output length, rfl⟩

private theorem settles_stages (bound : BoundHandler σ ι α) :
    Settles intent.name (bus.stages intent bound correlation context started) false state.metrics state := by
  refine (commits_validate bus intent correlation started false state).bind ?_
  rintro result _ _ state ⟨rfl, rejects, rfl⟩
  cases result with
  | error error =>
    cases error with
    | validation phase violations trace => exact settles_reject collecting started
    | _ => nomatch rejects _ rfl
  | ok =>
    refine (Task.commits_of_keeps (Bus.keeps_authorize aside_metrics bus intent correlation context started state)
      ((bus.emits_authorize intent correlation context started).mono fun _ own => consults_of_authorization own.2)
      (Bus.returns_authorize bus intent correlation context started) rfl).bind ?_
    rintro result _ _ state ⟨rfl, denies, rfl⟩
    cases result with
    | error error =>
      apply settles_fail collecting error started
      intro length
      exact ⟨_, .failure (.inl (denies error rfl)) length, rfl⟩
    | ok => exact settles_execute collecting correlation context started bound

private theorem settles_dispatchTo (bound : BoundHandler σ ι α) :
    Settles intent.name (bus.dispatchTo intent bound context started) false state.metrics state := by
  have correlates : (bus.correlate intent).Keeps BusState.metrics state := by
    refine fun _ => ⟨?_, trivial⟩
    split
    · rfl
    · rfl
  refine (Task.commits_of_keeps correlates (fun _ _ => trivial)
    (Task.returns_of_forall _ fun _ => trivial) rfl).bind ?_
  rintro correlation _ _ state ⟨rfl, _, rfl⟩
  have enters : (Bus.enterScope correlation).Keeps BusState.metrics state := fun _ => ⟨rfl, trivial⟩
  refine (Task.commits_of_keeps enters (fun _ _ => trivial)
    (Task.returns_of_forall _ fun _ => trivial) rfl).bind ?_
  rintro slot _ _ state ⟨rfl, _, rfl⟩
  have leaves (state : BusState σ ι α) : (Bus.leaveScope slot state).metrics = state.metrics := rfl
  exact ((settles_stages collecting correlation context started bound).mapEvents
    (consults_inside _)).releasing leaves

/-- A dispatch settles the counters in its last turn. -/
theorem settles_dispatch :
    Settles intent.name (bus.dispatch intent context) false state.metrics state := by
  intro started _
  simp only [Task.bind]
  split
  · exact ⟨[], .lookup rfl, rfl⟩
  · exact fun _ => ⟨[], .lookup rfl, rfl⟩
  · next bound _ => exact settles_dispatchTo collecting context started bound

private theorem settles_dispatchAndKeep (key : String) :
    Settles intent.name (bus.dispatchAndKeep intent key context) false state.metrics state := by
  refine (settles_dispatch collecting context).bind ?_
  rintro result late before state owed
  cases result with
  | error error => exact owed
  | ok output => exact Task.commits_signal_bind rfl fun _ => owed

/-- A dispatch through the cache settles the counters in its last turn. -/
theorem settles_dispatchCached :
    Settles intent.name (bus.dispatchCached intent context) false state.metrics state := by
  unfold Bus.dispatchCached
  split
  · exact settles_dispatch collecting context
  · next key _ =>
    intro _
    refine Task.commits_signal_bind rfl ?_
    split
    · exact settles_dispatchAndKeep collecting context key
    · next result _ =>
      split
      · exact Task.commits_signal_bind rfl ⟨[], .kept result.value, rfl⟩
      · exact Task.commits_signal_bind rfl (settles_dispatchAndKeep collecting context key)

end

end IntentBus
