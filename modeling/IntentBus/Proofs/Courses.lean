import IntentBus.Proofs.AttemptHistories

/-! The course of a call, as far as it has come: which attempts are in all that was seen of it, and what came of the call by
what came of the last of them. It is told from the state in which the call was begun. -/

namespace IntentBus

variable {σ ι α : Type}

def BusEvent.Aside (event : BusEvent α) : Prop := event.callsOn .execution = false

/-- The errors with which a bus refuses an intent before anything is executed; there is a reason for each, and access is
denied only where it is asked for. -/
inductive Bus.Refuses (bus : Bus σ ι α) (correlation : Correlation) : DispatchError → Prop
  | invalid (phase : ValidationPhase) {violations : List Violation} (elapsed : Duration) (reason : violations ≠ []) :
    Refuses bus correlation (.validation phase violations (.ofCorrelation correlation elapsed))
  | denied {violations : List Violation} (elapsed : Duration) (reason : violations ≠ [])
    (enabled : bus.config.authorizationEnabled = true) :
    Refuses bus correlation (.authorization violations (.ofCorrelation correlation elapsed))

/-- What comes of a dispatch by what comes of its execution; it may also be unfinished after its execution is over. -/
inductive Concludes (handler : String) (correlation : Correlation) :
    Option (Except ExecutionFault α) → Option (Except DispatchError α) → Prop
  | unfinished (execution : Option (Except ExecutionFault α)) : Concludes handler correlation execution none
  | failed (fault : ExecutionFault) (elapsed : Duration) : Concludes handler correlation (some (.error fault))
    (some (.error (Bus.executionError handler (.ofCorrelation correlation elapsed) fault)))
  | succeeded (output : α) : Concludes handler correlation (some (.ok output)) (some (.ok output))

/-- What is seen of the stages of a dispatch, and what comes of them. -/
inductive Bus.Course (bus : Bus σ ι α) (intent : Intent σ ι α) (bound : BoundHandler σ ι α) (correlation : Correlation)
    (context : ExecutionContext) : List (BusEvent α) → Option (Except DispatchError α) → Prop
  | judging {events : List (BusEvent α)} (aside : ∀ event ∈ events, event.Aside) :
    Course bus intent bound correlation context events none
  | refused {events : List (BusEvent α)} {error : DispatchError} (aside : ∀ event ∈ events, event.Aside)
    (refuses : bus.Refuses correlation error) : Course bus intent bound correlation context events (some (.error error))
  | executed {before middle after : List (BusEvent α)} {attempts : List (AttemptHistory α)}
    {execution : Option (Except ExecutionFault α)} {result : Option (Except DispatchError α)}
    (early : ∀ event ∈ before, event.Aside) (rows : (bus.request intent bound correlation context).Rows attempts middle execution)
    (late : ∀ event ∈ after, event.Aside) (concludes : Concludes bound.binding.handler correlation execution result) :
    Course bus intent bound correlation context (before ++ (middle ++ after)) result

def BusEvent.Silent (event : BusEvent α) : Prop := event.Aside ∧ event.correlationId? = none

/-- What is seen of a call that was begun in a state, and what comes of it. -/
inductive Call.Course (bus : Bus σ ι α) (call : Call σ ι α) (state : BusState σ ι α) :
    List (BusEvent α) → Option (Except DispatchError α) → Prop
  | kept {events : List (BusEvent α)} (silent : ∀ event ∈ events, event.Silent) (value : α) :
    Course bus call state events (some (.ok value))
  | misbound {events : List (BusEvent α)} (silent : ∀ event ∈ events, event.Silent) {error : ConfigurationError}
    (found : state.registry.tryFind call.intent.type = .error error) :
    Course bus call state events (some (.error (.configuration error)))
  | unbound {events : List (BusEvent α)} (silent : ∀ event ∈ events, event.Silent) (elapsed : Duration)
    (found : state.registry.tryFind call.intent.type = .ok none) :
    Course bus call state events
      (some (.error (.handlerNotFound call.intent.name state.registry.names (.ofIntent call.intent elapsed))))
  | dispatched {bound : BoundHandler σ ι α} (found : state.registry.tryFind call.intent.type = .ok (some bound))
    {events : List (BusEvent α)} {result : Option (Except DispatchError α)}
    (course : bus.Course call.intent bound (call.intent.correlation (bus.freshId state.issued)) call.context events result)
    (told : ∀ event ∈ events, ∀ id, event.correlationId? = some id →
      id = (call.intent.correlation (bus.freshId state.issued)).id) :
    Course bus call state events result

namespace BusEvent

variable {event : BusEvent α}

/-- An event that is no call at all is no call of a handler. -/
theorem aside_of_quiet (quiet : event.Quiet) : event.Aside := callsOn_of_quiet quiet .execution

private theorem aside_concat {events : List (BusEvent α)} {last : BusEvent α} (aside : ∀ event ∈ events, event.Aside)
    (own : last.Aside) : ∀ event ∈ events ++ [last], event.Aside :=
  List.forall_mem_append.2 ⟨aside, List.forall_mem_singleton.2 own⟩

private theorem silent_concat {events : List (BusEvent α)} {last : BusEvent α} (silent : ∀ event ∈ events, event.Silent)
    (own : last.Silent) : ∀ event ∈ events ++ [last], event.Silent :=
  List.forall_mem_append.2 ⟨silent, List.forall_mem_singleton.2 own⟩

private theorem silent_log (entry : LogEntry) : (log entry : BusEvent α).Silent := ⟨rfl, rfl⟩

private theorem silent_cacheGet (intent key : String) (hit : Bool) : (cacheGet intent key hit : BusEvent α).Silent :=
  ⟨rfl, rfl⟩

private theorem silent_cachePut (intent key : String) : (cachePut intent key : BusEvent α).Silent := ⟨rfl, rfl⟩

/-- Validation calls no handler. -/
theorem OfValidation.aside {intent : Intent σ ι α} {correlation : Correlation}
    (own : event.OfValidation intent correlation) : event.Aside := by
  cases own <;> rfl

/-- Authorization calls no handler. -/
theorem OfAuthorization.aside {intent : Intent σ ι α} {correlation : Correlation}
    (own : event.OfAuthorization intent correlation) : event.Aside := by
  cases own with
  | gate => rfl
  | access event => exact aside_of_quiet (quiet_ofAccess event)
  | log entry => rfl

private theorem OfPublication.aside {intent : Intent σ ι α} {correlation : Correlation}
    (own : event.OfPublication intent correlation) : event.Aside := by
  cases own <;> rfl

private theorem aside_inside {events : List (BusEvent α)} (aside : ∀ event ∈ events, event.Aside) (span : LogSpan) :
    ∀ event ∈ events.map (BusEvent.inside span), event.Aside :=
  List.forall_mem_map.2 fun event mem => (callsOn_inside .execution span event).trans (aside event mem)

end BusEvent

private theorem tells_aside {β : Type} {task : BusTask σ ι α β} {seen : List (BusEvent α)}
    (emits : task.Emits BusEvent.Aside) (aside : ∀ event ∈ seen, event.Aside) :
    task.Tells (fun events _ => ∀ event ∈ events, event.Aside) seen :=
  emits.tells (fun _ _ before own => BusEvent.aside_concat before own) aside

namespace Bus

section

variable {bus : Bus σ ι α} {intent : Intent σ ι α} {bound : BoundHandler σ ι α} {correlation : Correlation}
  {context : ExecutionContext} {events : List (BusEvent α)} {result : Option (Except DispatchError α)}

private theorem Course.inside (course : bus.Course intent bound correlation context events result) (span : LogSpan) :
    bus.Course intent bound correlation context (events.map (.inside span)) result := by
  cases course with
  | judging aside => exact .judging (BusEvent.aside_inside aside span)
  | refused aside refuses => exact .refused (BusEvent.aside_inside aside span) refuses
  | executed early rows late concludes =>
    rw [List.map_append, List.map_append]
    exact .executed (BusEvent.aside_inside early span) (rows.inside span) (BusEvent.aside_inside late span) concludes

private theorem Course.behind (course : bus.Course intent bound correlation context events result)
    {seen : List (BusEvent α)} (aside : ∀ event ∈ seen, event.Aside) :
    bus.Course intent bound correlation context (seen ++ events) result := by
  cases course with
  | judging own => exact .judging (List.forall_mem_append.2 ⟨aside, own⟩)
  | refused own refuses => exact .refused (List.forall_mem_append.2 ⟨aside, own⟩) refuses
  | executed early rows late concludes =>
    rw [← List.append_assoc]
    exact .executed (List.forall_mem_append.2 ⟨aside, early⟩) rows late concludes

private theorem Course.concat (course : bus.Course intent bound correlation context events result)
    {event : BusEvent α} (aside : event.Aside) :
    bus.Course intent bound correlation context (events ++ [event]) result := by
  cases course with
  | judging own => exact .judging (BusEvent.aside_concat own aside)
  | refused own refuses => exact .refused (BusEvent.aside_concat own aside) refuses
  | executed early rows late concludes =>
    rw [List.append_assoc, List.append_assoc]
    exact .executed early rows (BusEvent.aside_concat late aside) concludes

end

variable (bus : Bus σ ι α) (intent : Intent σ ι α) (correlation : Correlation) (context : ExecutionContext)
  (started : Nat)

private abbrev Admits {β : Type} (bus : Bus σ ι α) (correlation : Correlation) (result : Except DispatchError β) : Prop :=
  ∀ error, result = .error error → bus.Refuses correlation error

private theorem admits_judged (phase : ValidationPhase) (judge : ApplicationTask σ ValidationOutcome) :
    (judged phase judge correlation started : BusTask σ ι α _).Returns (bus.Admits correlation) := by
  apply Task.returns_bind
  intro outcome
  split
  · exact fun _ same => nomatch same
  · next invalid =>
    rintro now _ _ ⟨⟩
    exact .invalid phase (.ofMillis (now - started)) fun empty => invalid (List.isEmpty_iff.2 empty)

private theorem admits_validate : (bus.validate intent correlation started).Returns (bus.Admits correlation) := by
  apply (admits_judged bus correlation started .structural (bus.engine intent)).bind
  intro result admits
  cases result with
  | error error => exact admits
  | ok => exact admits_judged bus correlation started .custom (intent.validate correlation)

private theorem denialReasons_ne_nil (outcome : AuthorizationOutcome) : denialReasons intent outcome ≠ [] := by
  unfold denialReasons
  split
  · exact List.cons_ne_nil _ _
  · next given => exact fun empty => given (List.isEmpty_iff.2 empty)

private theorem admits_authorize : (bus.authorize intent correlation context started).Returns (bus.Admits correlation) := by
  unfold authorize
  split
  · exact fun _ same => nomatch same
  · next asked =>
    apply Task.returns_bind
    intro outcome
    split
    · exact fun _ same => nomatch same
    · rintro now _ _ ⟨⟩
      exact .denied (.ofMillis (now - started)) (denialReasons_ne_nil intent outcome) (by simpa using asked)

variable (bound : BoundHandler σ ι α)

private theorem course_of_refusal {task : BusTask σ ι α (Except DispatchError α)} {error : DispatchError}
    {seen : List (BusEvent α)} (reports : task.Emits BusEvent.OfReport) (returns : task.Returns (· = .error error))
    (aside : ∀ event ∈ seen, event.Aside) (refuses : bus.Refuses correlation error) :
    task.Tells (bus.Course intent bound correlation context) seen := by
  refine ((tells_aside (reports.mono fun _ own => BusEvent.aside_of_quiet own.quiet) aside).and returns.tells).mono ?_
  rintro events result ⟨aside, ends⟩
  cases result with
  | none => exact .judging aside
  | some result =>
    cases ends result rfl
    exact .refused aside refuses

private theorem course_of_conclusion {task : BusTask σ ι α (Except DispatchError α)} {before middle : List (BusEvent α)}
    {attempts : List (AttemptHistory α)} {execution : Except ExecutionFault α} (early : ∀ event ∈ before, event.Aside)
    (rows : (bus.request intent bound correlation context).Rows attempts middle (some execution))
    (emits : task.Emits BusEvent.Aside)
    (returns : task.Returns fun result => Concludes bound.binding.handler correlation (some execution) (some result)) :
    task.Tells (bus.Course intent bound correlation context) (before ++ middle) := by
  refine (emits.tells_behind.and returns.tells).mono ?_
  rintro _ result ⟨⟨after, rfl, late⟩, ends⟩
  rw [List.append_assoc]
  refine .executed early rows late ?_
  cases result with
  | none => exact .unfinished _
  | some result => exact ends result rfl

def conclusion (execution : Except ExecutionFault α) : BusTask σ ι α (Except DispatchError α) :=
  match execution with
  | .error fault => (BusTask.elapsedSince started).bind fun elapsed =>
      bus.fail intent (executionError bound.binding.handler (.ofCorrelation correlation elapsed) fault) started
  | .ok output => (bus.publish intent output correlation).bind fun _ => bus.succeed intent output started

/-- To execute an intent is to run the layers of its handler and then to conclude the dispatch. -/
theorem execute_eq_conclusion : bus.execute intent bound correlation context started =
    (ExecutionService.stack bus.config.retry bus.draw bound.handler (bus.request intent bound correlation context)).bind
      (bus.conclusion intent correlation started bound) :=
  rfl

/-- Behind the execution no handler is called. -/
theorem aside_conclusion (execution : Except ExecutionFault α) :
    (bus.conclusion intent correlation started bound execution).Emits BusEvent.Aside := by
  cases execution with
  | error fault => exact fun _ _ => (bus.emits_fail intent started _).mono fun _ own => BusEvent.aside_of_quiet own.quiet
  | ok output =>
    refine ((bus.emits_publish intent correlation output).mono fun _ own => own.aside).bind fun _ => ?_
    exact (bus.emits_succeed intent started output).mono fun _ own => BusEvent.aside_of_quiet own.quiet

/-- The dispatch concludes by what came of the execution. -/
theorem concludes_conclusion (execution : Except ExecutionFault α) :
    (bus.conclusion intent correlation started bound execution).Returns fun result =>
      Concludes bound.binding.handler correlation (some execution) (some result) := by
  cases execution with
  | error fault =>
    intro now _
    apply (returns_fail bus intent started _).mono
    rintro _ rfl
    exact .failed fault (.ofMillis (now - started))
  | ok output =>
    apply Task.returns_bind
    intro _
    apply (returns_succeed bus intent started output).mono
    rintro _ rfl
    exact .succeeded output

private theorem course_of_execute {seen : List (BusEvent α)} (aside : ∀ event ∈ seen, event.Aside) :
    (bus.execute intent bound correlation context started).Tells (bus.Course intent bound correlation context) seen := by
  have attempts : (ExecutionService.stack bus.config.retry bus.draw bound.handler
      (bus.request intent bound correlation context)).Tells (fun events execution => ∃ attempts middle,
        events = seen ++ middle ∧ (bus.request intent bound correlation context).Rows attempts middle execution) seen :=
    ((ExecutionService.rows_of_stack bound.handler _ bus.config.retry bus.draw rfl).mono
      fun middle _ ⟨attempts, rows⟩ => ⟨attempts, middle, rfl, rows⟩).behind
  rw [execute_eq_conclusion]
  refine attempts.bind (fun _ told => ?_) fun _ execution told => ?_
  · obtain ⟨attempts, middle, rfl, rows⟩ := told
    rw [← List.append_nil middle]
    exact .executed aside rows (List.forall_mem_nil _) (.unfinished none)
  · obtain ⟨attempts, middle, rfl, rows⟩ := told
    exact course_of_conclusion bus intent correlation context bound aside rows
      (aside_conclusion bus intent correlation started bound execution)
      (concludes_conclusion bus intent correlation started bound execution)

private theorem course_of_stages :
    (bus.stages intent bound correlation context started).Tells (bus.Course intent bound correlation context) [] := by
  have validates := (tells_aside ((bus.emits_validate intent correlation started).mono fun _ own => own.aside)
    (List.forall_mem_nil _)).and (admits_validate bus intent correlation started).tells
  refine validates.bind (fun _ told => .judging told.1) fun seen result told => ?_
  obtain ⟨aside, admits⟩ := told
  cases result with
  | error error =>
    exact course_of_refusal bus intent correlation context bound (bus.emits_reject intent started error)
      (returns_reject bus intent started error) aside (admits _ rfl error rfl)
  | ok =>
    have authorizes := (tells_aside ((bus.emits_authorize intent correlation context started).mono fun _ own => own.2.aside)
      aside).and (admits_authorize bus intent correlation context started).tells
    refine authorizes.bind (fun _ told => .judging told.1) fun seen result told => ?_
    obtain ⟨aside, admits⟩ := told
    cases result with
    | error error =>
      exact course_of_refusal bus intent correlation context bound (bus.emits_fail intent started error)
        (returns_fail bus intent started error) aside (admits _ rfl error rfl)
    | ok => exact course_of_execute bus intent correlation context started bound aside

/-- The first turn of a dispatch is that of what its lookup finds. -/
theorem advance_lookup (time : Nat) (state : BusState σ ι α) : (bus.dispatch intent context).advance time state =
    (match state.registry.tryFind intent.type with
      | .error error => .done (.error (.configuration error))
      | .ok none => notFound state.registry intent time
      | .ok (some bound) => bus.dispatchTo intent bound context time : BusTask σ ι α _).advance time state :=
  rfl

end Bus

namespace Call

variable {bus : Bus σ ι α} {call : Call σ ι α} {state : BusState σ ι α} {time : Nat} {seen : List (BusEvent α)}
  {result : Option (Except DispatchError α)}

private theorem course_of_dispatchTo {bound : BoundHandler σ ι α}
    (found : state.registry.tryFind call.intent.type = .ok (some bound)) (silent : ∀ event ∈ seen, event.Silent)
    (started : Nat) : (bus.dispatchTo call.intent bound call.context started).TellsFrom (call.Course bus state) time state
      seen := by
  -- The correlation is that of the state in which the dispatch begins; all that comes after it may begin in any state.
  refine Task.tellsFrom_update fun _ _ => Task.Tells.enclosed _ ?_
  have course := Bus.course_of_stages bus call.intent (call.intent.correlation (bus.freshId state.issued)) call.context
    started bound
  have emits := bus.emits_stages call.intent (call.intent.correlation (bus.freshId state.issued)) call.context started bound
  refine (course.and emits.tells_behind).mono ?_
  rintro _ result ⟨course, events, rfl, own⟩
  refine .dispatched found ((course.inside _).behind fun event mem => (silent event mem).1) ?_
  refine List.forall_mem_append.2 ⟨fun event mem id told => ?_, List.forall_mem_map.2 fun event mem id told => ?_⟩
  · nomatch (silent event mem).2.symm.trans told
  · rw [correlationId?_inside] at told
    exact id_of_told (own event mem) told

private theorem course_of_dispatch (silent : ∀ event ∈ seen, event.Silent) :
    (bus.dispatch call.intent call.context).TellsFrom (call.Course bus state) time state seen := by
  rw [Task.TellsFrom, Bus.advance_lookup]
  cases found : state.registry.tryFind call.intent.type with
  | error error => exact Task.tellsFrom_done (.misbound silent found)
  | ok bound =>
    cases bound with
    | none =>
      have ends : (Bus.notFound state.registry call.intent time).Tells (call.Course bus state) seen :=
        Task.tells_signal fun now _ => .unbound (BusEvent.silent_concat silent (BusEvent.silent_log _)) (.ofMillis (now - time)) found
      exact ends.advance time state
    | some bound => exact course_of_dispatchTo found silent time

private theorem Course.concat (course : call.Course bus state seen result) {event : BusEvent α} (silent : event.Silent) :
    call.Course bus state (seen ++ [event]) result := by
  cases course with
  | kept own value => exact .kept (BusEvent.silent_concat own silent) value
  | misbound own found => exact .misbound (BusEvent.silent_concat own silent) found
  | unbound own elapsed found => exact .unbound (BusEvent.silent_concat own silent) elapsed found
  | dispatched found course told =>
    refine .dispatched found (course.concat silent.1) (List.forall_mem_append.2 ⟨told, List.forall_mem_singleton.2 ?_⟩)
    exact fun id own => nomatch silent.2.symm.trans own

private theorem course_of_dispatchAndKeep (key : String) (silent : ∀ event ∈ seen, event.Silent) :
    (bus.dispatchAndKeep call.intent key call.context).TellsFrom (call.Course bus state) time state seen := by
  refine (course_of_dispatch silent).bind (fun _ course => course) fun events result course => ?_
  cases result with
  | error error => exact course
  | ok output => exact Task.tells_signal fun _ _ => course.concat (BusEvent.silent_cachePut _ _)

private theorem course_of_task (time : Nat) (state : BusState σ ι α) :
    (call.task bus).TellsFrom (call.Course bus state) time state [] := by
  have silent : ∀ event ∈ ([] : List (BusEvent α)), event.Silent := List.forall_mem_nil _
  unfold Call.task
  split
  · unfold Bus.dispatchCached
    split
    · exact course_of_dispatch silent
    · next key _ =>
      apply Task.tellsFrom_signal
      have asked := BusEvent.silent_concat silent (BusEvent.silent_cacheGet call.intent.name key
        (state.cache.get? call.intent.name key).isSome)
      split
      · exact course_of_dispatchAndKeep key asked
      · split
        · apply Task.tellsFrom_signal
          exact Task.tellsFrom_done (.kept (BusEvent.silent_concat asked (BusEvent.silent_log _)) _)
        · apply Task.tellsFrom_signal
          exact course_of_dispatchAndKeep key (BusEvent.silent_concat asked (BusEvent.silent_log _))
  · exact course_of_dispatch silent

end Call

/-- Whatever happens to a bus, all calls take their courses, each from the state in which it was begun. -/
theorem Session.courses_after (bus : Bus σ ι α) (start : BusState σ ι α) (moves : List (Move σ ι α)) :
    ((opening start).after bus moves).TellsSince bus start moves fun call state => call.Course bus state :=
  tells_since_begin (fun _ time state _ => Call.course_of_task time state) moves

end IntentBus
