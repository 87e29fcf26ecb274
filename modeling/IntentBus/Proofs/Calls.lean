import IntentBus.Bus.Basic
import IntentBus.Proofs.Effects

/-! The calls that a bus makes while it dispatches, among all that can be seen of it. -/

namespace IntentBus

/-- Those whom a dispatch calls, in the order of its stages: the constraint engine, the intent's own validation,
the gate, the handler, and the publisher. -/
inductive Stage
  | engine
  | validation
  | gate
  | execution
  | publication
deriving DecidableEq

namespace Stage

def rank : Stage → Nat
  | engine => 0
  | validation => 1
  | gate => 2
  | execution => 3
  | publication => 4

end Stage

namespace BusEvent

variable {α : Type}

def stage? : BusEvent α → Option Stage
  | engine .. => some .engine
  | validate _ => some .validation
  | gate .. => some .gate
  | preProcess _ | executeInContext _ | execute _ | postProcess .. | onSuccess _ | onError .. => some .execution
  | publish .. => some .publication
  | _ => none

def isCall (event : BusEvent α) : Bool := event.stage?.isSome

def Quiet (event : BusEvent α) : Prop := event.isCall = false

/-- What can be seen of the steps of an attempt for a correlation, once it has begun. -/
inductive OfSteps (correlation : Correlation) : BusEvent α → Prop
  | executeInContext : OfSteps correlation (executeInContext correlation)
  | execute : OfSteps correlation (execute correlation)
  | postProcess (output : α) : OfSteps correlation (postProcess correlation output)
  | handler (event : HandlerEvent) : OfSteps correlation (handler correlation event)

/-- What can be seen of an attempt for a correlation once it has begun. -/
inductive OfAttempt (correlation : Correlation) : BusEvent α → Prop
  | executeInContext : OfAttempt correlation (executeInContext correlation)
  | execute : OfAttempt correlation (execute correlation)
  | postProcess (output : α) : OfAttempt correlation (postProcess correlation output)
  | onSuccess : OfAttempt correlation (onSuccess correlation)
  | onError (failure : Failure) : OfAttempt correlation (onError correlation failure)
  | handler (event : HandlerEvent) : OfAttempt correlation (handler correlation event)
  | log (entry : LogEntry) : OfAttempt correlation (log entry)

def OfExecution (correlation : Correlation) (event : BusEvent α) : Prop :=
  event = preProcess correlation ∨ event.OfAttempt correlation

/-- An event is a call of the same stage inside a span. -/
@[simp] theorem stage?_inside (span : LogSpan) (event : BusEvent α) :
    (event.inside span).stage? = event.stage? := by
  cases event with
  | handler correlation event => cases event <;> rfl
  | _ => rfl

/-- Being in a span makes a difference for the log only. -/
theorem inside_of_isCall {event : BusEvent α} (call : event.isCall) (span : LogSpan) :
    event.inside span = event := by
  cases event with
  | handler correlation event => nomatch call
  | log entry => nomatch call
  | _ => rfl

/-- A span makes no difference to the calls. -/
theorem calls_inside (span : LogSpan) (events : List (BusEvent α)) :
    (events.map (.inside span)).filter isCall = events.filter isCall := by
  induction events with
  | nil => rfl
  | cons event rest ih =>
    by_cases call : event.isCall
    · rw [List.map_cons, inside_of_isCall call, List.filter_cons_of_pos call, ih, List.filter_cons_of_pos call]
    · have outer : ¬(event.inside span).isCall := by rwa [isCall, stage?_inside]
      rw [List.map_cons, List.filter_cons_of_neg outer, ih, List.filter_cons_of_neg call]

/-- What is seen of the steps of an attempt is seen of the attempt. -/
theorem OfSteps.ofAttempt {correlation : Correlation} {event : BusEvent α} (own : event.OfSteps correlation) :
    event.OfAttempt correlation := by
  cases own with
  | executeInContext => exact .executeInContext
  | execute => exact .execute
  | postProcess output => exact .postProcess output
  | handler event => exact .handler event

/-- What is seen of an attempt may as well be seen inside a span. -/
theorem OfAttempt.inside {correlation : Correlation} {event : BusEvent α}
    (h : event.OfAttempt correlation) (span : LogSpan) :
    (event.inside span).OfAttempt correlation := by
  cases h with
  | handler event =>
    cases event with
    | log entry => exact .handler _
    | inspect => exact .handler _
  | executeInContext => exact .executeInContext
  | execute => exact .execute
  | postProcess output => exact .postProcess output
  | onSuccess => exact .onSuccess
  | onError failure => exact .onError failure
  | log entry => exact .log _

/-- A call in an attempt that has begun is a call of the handler, but not the one that begins an attempt. -/
theorem OfAttempt.stage?_eq {correlation : Correlation} {event : BusEvent α}
    (h : event.OfAttempt correlation) (call : event.isCall) : event.stage? = some .execution := by
  cases h with
  | handler event => nomatch call
  | log entry => nomatch call
  | _ => rfl

def begins : BusEvent α → Bool
  | preProcess _ => true
  | _ => false

/-- Nothing that is seen of an attempt once it has begun begins another one. -/
theorem OfAttempt.not_begins {correlation : Correlation} {event : BusEvent α} (own : event.OfAttempt correlation) :
    event.begins = false := by
  cases own <;> rfl

/-- An entry of the log is no call. -/
theorem quiet_log (entry : LogEntry) : (log entry : BusEvent α).Quiet := rfl

/-- What is seen of access rules is no call. -/
theorem quiet_ofAccess (event : AccessEvent) : (ofAccess event : BusEvent α).Quiet := by
  cases event with
  | log entry => rfl
  | authorizeInContext correlation => rfl
  | authorize correlation => rfl

end BusEvent

def BeginsOnce {α : Type} (correlation : Correlation) (events : List (BusEvent α)) : Prop :=
  ∃ rest, events = .preProcess correlation :: rest ∧ ∀ event ∈ rest, event.OfAttempt correlation

/-- The events of one attempt begin one attempt. -/
theorem BeginsOnce.countP_begins {α : Type} {correlation : Correlation} {events : List (BusEvent α)}
    (begins : BeginsOnce correlation events) : events.countP BusEvent.begins = 1 := by
  obtain ⟨rest, rfl, own⟩ := begins
  have others : rest.countP BusEvent.begins = 0 :=
    List.countP_eq_zero.2 fun event mem => ne_true_of_eq_false (own event mem).not_begins
  rw [List.countP_cons_of_pos rfl, others]

/-- As many attempts are seen to begin as there are. -/
theorem BeginsOnce.countP_flatMap {α β : Type} {correlation : Correlation} {parts : List β}
    {events : β → List (BusEvent α)} (each : ∀ part ∈ parts, BeginsOnce correlation (events part)) :
    (parts.flatMap events).countP BusEvent.begins = parts.length := by
  have counts : parts.map (fun part => (events part).countP BusEvent.begins) = parts.map fun _ => 1 :=
    List.map_congr_left fun part mem => (each part mem).countP_begins
  rw [List.countP_flatMap, Function.comp_def, counts, List.map_const', List.sum_replicate_nat, Nat.mul_one]

namespace Run

variable {σ α β : Type}

def calls (run : Run σ (BusEvent α) β) : List (BusEvent α) := run.events.filter BusEvent.isCall

def stages (run : Run σ (BusEvent α) β) : List Stage := run.calls.filterMap BusEvent.stage?

def callsOf (stage : Stage) (run : Run σ (BusEvent α) β) : List (BusEvent α) :=
  run.calls.filter (·.stage? = some stage)

/-- The calls of a run begin with those that happened before it. -/
@[simp] theorem calls_after (trace : List (Moment σ (BusEvent α))) (run : Run σ (BusEvent α) β) :
    (run.after trace).calls = (trace.map (·.event)).filter BusEvent.isCall ++ run.calls := by
  rw [calls, after_events, List.filter_append, calls]

/-- The calls of a run that goes on from another come after the calls of that one. -/
theorem calls_after_trace {γ : Type} (first : Run σ (BusEvent α) γ) (run : Run σ (BusEvent α) β) :
    (run.after first.trace).calls = first.calls ++ run.calls :=
  calls_after first.trace run

/-- The calls of a run that has its result at once are those among its events. -/
@[simp] theorem calls_still (result : β) (time : Nat) (state : σ) (events : List (BusEvent α)) :
    (still result time state events).calls = events.filter BusEvent.isCall := by
  rw [calls, still_events]

@[simp] theorem calls_releasing (release : σ → σ) (run : Run σ (BusEvent α) β) :
    (run.releasing release).calls = run.calls := rfl

/-- The calls of a run are the same inside a span. -/
@[simp] theorem calls_mapEvents_inside (span : LogSpan) (run : Run σ (BusEvent α) β) :
    (run.mapEvents (.inside span)).calls = run.calls := by
  rw [calls, mapEvents_events, BusEvent.calls_inside, calls]

/-- The calls of two runs in a row are those of the first and, if that has a result, those of the second. -/
theorem calls_andThen {γ : Type} (run : Run σ (BusEvent α) β)
    (next : β → Nat → σ → Run σ (BusEvent α) γ) :
    (run.andThen next).calls = run.calls ++
      (match run.result with
        | none => []
        | some result => (next result run.time run.state).calls) := by
  cases ends : run.result with
  | none =>
    rw [andThen_of_none ends]
    simp [calls, events]
  | some result =>
    rw [andThen_of_some ends, calls_after]
    rfl

/-- The calls of a run are those of the stages, one stage after the other. -/
structure Parted (run : Run σ (BusEvent α) β) (parts : Stage → List (BusEvent α)) : Prop where
  calls : run.calls = parts .engine ++ (parts .validation ++ (parts .gate ++
    (parts .execution ++ parts .publication)))
  own : ∀ stage, ∀ call ∈ parts stage, call.stage? = some stage

namespace Parted

variable {run : Run σ (BusEvent α) β} {parts : Stage → List (BusEvent α)}

private theorem filter_part (parted : run.Parted parts) (stage other : Stage) :
    (parts other).filter (·.stage? = some stage) = if other = stage then parts other else [] := by
  split
  · next same =>
    apply List.filter_eq_self.2
    intro call mem
    rw [parted.own other call mem, same]
    exact decide_eq_true rfl
  · next different =>
    apply List.filter_eq_nil_iff.2
    intro call mem
    rw [parted.own other call mem]
    simpa using different

/-- The calls of a stage are its part. -/
theorem callsOf (parted : run.Parted parts) (stage : Stage) : run.callsOf stage = parts stage := by
  simp only [Run.callsOf, parted.calls, List.filter_append, parted.filter_part]
  cases stage <;> simp

private theorem filterMap_part (parted : run.Parted parts) (stage : Stage) :
    (parts stage).filterMap BusEvent.stage? = List.replicate (parts stage).length stage := by
  have own := parted.own stage
  generalize parts stage = part at own ⊢
  induction part with
  | nil => rfl
  | cons call rest ih =>
    rw [List.filterMap_cons, own call (.head rest), ih fun other mem => own other (.tail call mem)]
    rfl

/-- The stages are called in their order. -/
theorem ordered (parted : run.Parted parts) : run.stages.Pairwise (·.rank ≤ ·.rank) := by
  have each (stage : Stage) : (List.replicate (parts stage).length stage).Pairwise (·.rank ≤ ·.rank) :=
    List.pairwise_replicate.2 (.inr (Nat.le_refl _))
  simp only [Run.stages, parted.calls, List.filterMap_append, parted.filterMap_part, List.pairwise_append, each,
    List.mem_append, List.mem_replicate, true_and]
  refine ⟨⟨⟨?_, ?_⟩, ?_⟩, ?_⟩
  · rintro _ ⟨_, rfl⟩ _ ⟨_, rfl⟩
    decide
  · rintro _ ⟨_, rfl⟩ _ (⟨_, rfl⟩ | ⟨_, rfl⟩) <;> decide
  · rintro _ ⟨_, rfl⟩ _ (⟨_, rfl⟩ | ⟨_, rfl⟩ | ⟨_, rfl⟩) <;> decide
  · rintro _ ⟨_, rfl⟩ _ (⟨_, rfl⟩ | ⟨_, rfl⟩ | ⟨_, rfl⟩ | ⟨_, rfl⟩) <;> decide

end Parted

end Run

namespace Task

variable {σ α β : Type}

/-- A task none of whose events is a call makes no calls. -/
theorem calls_of_emits {task : Task σ (BusEvent α) β} (quiet : task.Emits BusEvent.Quiet)
    (time : Nat) (state : σ) : (task.run time state).calls = [] :=
  List.filter_eq_nil_iff.2 fun event mem => ne_true_of_eq_false (quiet.run time state event mem)

/-- A task whose first event is its only call. -/
theorem calls_of_opens {call : BusEvent α} {task : Task σ (BusEvent α) β}
    (opens : task.Opens call BusEvent.Quiet) (isCall : call.isCall) (time : Nat) (state : σ) :
    (task.run time state).calls = [call] := by
  obtain ⟨rest, same, quiet⟩ := opens.run time state
  have silent : rest.filter BusEvent.isCall = [] :=
    List.filter_eq_nil_iff.2 fun event mem => ne_true_of_eq_false (quiet event mem)
  rw [Run.calls, same, List.filter_cons_of_pos isCall, silent]

end Task

end IntentBus
