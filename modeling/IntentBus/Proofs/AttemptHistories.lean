import IntentBus.Proofs.Correlations
import IntentBus.Proofs.Histories
import IntentBus.Proofs.Retries

/-! The attempts at a request as they are seen, each up to the next: one that comes to its own end is told to its handler
once and logged once, as it ended. One that is cut off by its bound is neither told nor logged, though it counts among
the attempts. -/

namespace IntentBus

variable {σ ι α : Type}

namespace BusEvent

def tells : BusEvent α → Bool
  | onSuccess _ | onError .. => true
  | _ => false

def completion? : BusEvent α → Option LogEntry
  | log entry => if entry.message = "execution attempt complete" then some entry else none
  | _ => none

end BusEvent

/-- What the handler is told of the end of an attempt, and what is logged of it, by what came of the attempt. -/
inductive ExecutionRequest.Closes (request : ExecutionRequest σ ι α) :
    Option (Except ExecutionFault α) → List (BusEvent α) → List LogEntry → Prop
  | unfinished : Closes request none [] []
  | cut (timeout : Duration) (bound : request.timeout = some timeout) :
    Closes request (some (.error (.timedOut timeout request.attempt.toNat))) [] []
  | ended (result : Except Failure α) (elapsed : Duration) (spans : List LogSpan) :
    Closes request (some (result.mapError (.failed · request.attempt.toNat))) [Handler.closing request result]
      [{ ExecutionService.completionLog request (result.mapError (.failed · request.attempt.toNat)) elapsed with
        spans := spans }]

/-- An attempt as it is seen: its number, all events up to the next attempt, and what came of it, if it is over. -/
structure AttemptHistory (α : Type) where
  number : UInt32
  events : List (BusEvent α)
  outcome : Option (Except ExecutionFault α)

/-- An attempt at a request begins once, and is closed as it ended. -/
structure AttemptHistory.Closed (request : ExecutionRequest σ ι α) (attempt : AttemptHistory α) : Prop where
  begins : BeginsOnce request.correlation attempt.events
  closes : (request.withAttempt attempt.number).Closes attempt.outcome (attempt.events.filter BusEvent.tells)
    (attempt.events.filterMap BusEvent.completion?)

/-- Attempts at a request, one after the other, with all that is seen of them. -/
structure ExecutionRequest.Rows (request : ExecutionRequest σ ι α) (attempts : List (AttemptHistory α))
    (events : List (BusEvent α)) (result : Option (Except ExecutionFault α)) : Prop where
  events : events = attempts.flatMap (·.events)
  numbered : attempts.map (·.number.toNat) = List.range' 1 attempts.length
  closed : ∀ attempt ∈ attempts, attempt.Closed request
  repeated : ∀ attempt ∈ attempts.dropLast, ∃ fault, attempt.outcome = some (.error fault)
  ends : ∀ value, result = some value → ∃ last ∈ attempts.getLast?, last.outcome = some value

namespace BusEvent

variable {event : BusEvent α}

private theorem OfSteps.not_tells {correlation : Correlation} (own : event.OfSteps correlation) : event.tells = false := by
  cases own <;> rfl

private theorem OfSteps.completion?_eq {correlation : Correlation} (own : event.OfSteps correlation) :
    event.completion? = none := by
  cases own <;> rfl

private theorem tells_inside (span : LogSpan) (event : BusEvent α) : (event.inside span).tells = event.tells := by
  cases event with
  | handler correlation event => cases event <;> rfl
  | _ => rfl

private theorem inside_of_tells (tells : event.tells = true) (span : LogSpan) : event.inside span = event := by
  cases event with
  | onSuccess | onError => rfl
  | _ => nomatch tells

private theorem completion?_inside (span : LogSpan) (event : BusEvent α) :
    (event.inside span).completion? = event.completion?.map (.inside span) := by
  cases event with
  | handler correlation event => cases event <;> rfl
  | log entry =>
    simp only [inside, completion?, LogEntry.inside]
    split <;> rfl
  | _ => rfl

/-- A span makes no difference to what handlers are told. -/
theorem filter_tells_inside (span : LogSpan) (events : List (BusEvent α)) :
    (events.map (.inside span)).filter tells = events.filter tells := by
  have same : tells ∘ inside span = (tells : BusEvent α → Bool) := funext (tells_inside span)
  rw [List.filter_map, same]
  refine (List.map_congr_left fun event mem => ?_).trans (List.map_id _)
  exact inside_of_tells (List.mem_filter.1 mem).2 span

/-- Nor does it to what is logged of the ends of attempts, but for the span itself. -/
theorem filterMap_completion?_inside (span : LogSpan) (events : List (BusEvent α)) :
    (events.map (.inside span)).filterMap completion? = (events.filterMap completion?).map (.inside span) := by
  rw [List.filterMap_map, List.map_filterMap]
  exact List.filterMap_congr fun event _ => completion?_inside span event

end BusEvent

namespace BeginsOnce

variable {correlation : Correlation} {events : List (BusEvent α)}

private theorem concat (begins : BeginsOnce correlation events) {event : BusEvent α}
    (own : event.OfAttempt correlation) : BeginsOnce correlation (events ++ [event]) := by
  obtain ⟨rest, rfl, others⟩ := begins
  exact ⟨rest ++ [event], rfl, List.forall_mem_append.2 ⟨others, List.forall_mem_singleton.2 own⟩⟩

private theorem inside (begins : BeginsOnce correlation events) (span : LogSpan) :
    BeginsOnce correlation (events.map (.inside span)) := by
  obtain ⟨rest, rfl, own⟩ := begins
  refine ⟨rest.map (.inside span), rfl, fun event mem => ?_⟩
  obtain ⟨inner, here, rfl⟩ := List.mem_map.1 mem
  exact (own inner here).inside span

end BeginsOnce

namespace ExecutionRequest.Closes

variable {request : ExecutionRequest σ ι α} {outcome : Option (Except ExecutionFault α)} {told : List (BusEvent α)}
  {logged : List LogEntry}

private theorem of_none (closes : request.Closes none told logged) : told = [] ∧ logged = [] := by
  cases closes with
  | unfinished => exact ⟨rfl, rfl⟩

private theorem inside (closes : request.Closes outcome told logged) (span : LogSpan) :
    request.Closes outcome told (logged.map (.inside span)) := by
  cases closes with
  | unfinished => exact .unfinished
  | cut timeout bound => exact .cut timeout bound
  | ended result elapsed spans => exact .ended result elapsed (span :: spans)

end ExecutionRequest.Closes

namespace AttemptHistory

variable {request : ExecutionRequest σ ι α} {attempt : AttemptHistory α}

def concat (attempt : AttemptHistory α) (event : BusEvent α) : AttemptHistory α :=
  { attempt with events := attempt.events ++ [event] }

def inside (span : LogSpan) (attempt : AttemptHistory α) : AttemptHistory α :=
  { attempt with events := attempt.events.map (.inside span) }

private theorem Closed.of_withAttempt {number : UInt32} (closed : attempt.Closed (request.withAttempt number)) :
    attempt.Closed request :=
  ⟨closed.begins, closed.closes⟩

private theorem Closed.concat_log (closed : attempt.Closed request) {entry : LogEntry}
    (other : entry.message ≠ "execution attempt complete") : (attempt.concat (.log entry)).Closed request := by
  refine ⟨closed.begins.concat (.log entry), ?_⟩
  have silent : (BusEvent.log entry : BusEvent α).completion? = none := if_neg other
  simpa [concat, List.filterMap_append, silent, BusEvent.tells] using closed.closes

private theorem Closed.inside (closed : attempt.Closed request) (span : LogSpan) :
    (attempt.inside span).Closed request := by
  refine ⟨closed.begins.inside span, ?_⟩
  simp only [AttemptHistory.inside, BusEvent.filter_tells_inside, BusEvent.filterMap_completion?_inside]
  exact closed.closes.inside span

private theorem Closed.cut {number : UInt32} {events : List (BusEvent α)}
    (closed : (⟨number, events, none⟩ : AttemptHistory α).Closed request) {timeout : Duration}
    (bound : request.timeout = some timeout) :
    (⟨number, events, some (.error (.timedOut timeout number.toNat))⟩ : AttemptHistory α).Closed request := by
  obtain ⟨untold, unlogged⟩ := closed.closes.of_none
  refine ⟨closed.begins, ?_⟩
  simp only at untold unlogged ⊢
  rw [untold, unlogged]
  exact .cut timeout bound

end AttemptHistory

/-- All attempts in a span are attempts as they were, but for the span. -/
theorem ExecutionRequest.Rows.inside {request : ExecutionRequest σ ι α} {attempts : List (AttemptHistory α)}
    {events : List (BusEvent α)} {result : Option (Except ExecutionFault α)} (rows : request.Rows attempts events result)
    (span : LogSpan) : request.Rows (attempts.map (.inside span)) (events.map (.inside span)) result where
  events := by
    rw [rows.events, List.map_flatMap, List.flatMap_map]
    rfl
  numbered := by
    rw [List.map_map, List.length_map]
    exact rows.numbered
  closed := List.forall_mem_map.2 fun attempt mem => (rows.closed attempt mem).inside span
  repeated := by
    rw [← List.map_dropLast]
    exact List.forall_mem_map.2 rows.repeated
  ends value same := by
    obtain ⟨last, mem, outcome⟩ := rows.ends value same
    exact ⟨last.inside span, by rw [List.getLast?_map, Option.mem_def.1 mem]; rfl, outcome⟩

/-- As many attempts are seen to begin as there are. -/
theorem ExecutionRequest.Rows.countP_begins {request : ExecutionRequest σ ι α} {attempts : List (AttemptHistory α)}
    {events : List (BusEvent α)} {result : Option (Except ExecutionFault α)} (rows : request.Rows attempts events result) :
    events.countP BusEvent.begins = attempts.length := by
  rw [rows.events]
  exact BeginsOnce.countP_flatMap fun attempt mem => (rows.closed attempt mem).begins

/-- A fault tells how many attempts there were, and a bound that has run out is that of the request. -/
theorem ExecutionRequest.Rows.fault {request : ExecutionRequest σ ι α} {attempts : List (AttemptHistory α)}
    {events : List (BusEvent α)} {fault : ExecutionFault} (rows : request.Rows attempts events (some (.error fault))) :
    1 ≤ attempts.length ∧ fault.attempts = attempts.length ∧
      ∀ timeout number, fault = .timedOut timeout number → request.timeout = some timeout := by
  obtain ⟨last, mem, outcome⟩ := rows.ends _ rfl
  have made := List.length_pos_of_mem (List.mem_of_getLast? mem)
  have position : last.number.toNat = attempts.length := by
    have numbers := congrArg List.getLast? rows.numbered
    rw [List.getLast?_map, Option.mem_def.1 mem, List.getLast?_range', if_neg (Nat.ne_of_gt made), Option.map_some,
      Option.some_inj] at numbers
    omega
  have closes := (rows.closed last (List.mem_of_getLast? mem)).closes
  rw [outcome] at closes
  refine ⟨made, ?_⟩
  generalize last.events.filter BusEvent.tells = told, last.events.filterMap BusEvent.completion? = logged,
    same : Option.some (Except.error fault) = failed at closes
  cases closes with
  | unfinished => nomatch same
  | cut timeout bound =>
    cases same
    refine ⟨position, ?_⟩
    rintro _ _ ⟨⟩
    exact bound
  | ended result elapsed spans =>
    cases result with
    | ok output => nomatch same
    | error failure =>
      cases same
      exact ⟨position, fun _ _ other => nomatch other⟩

private structure Told (request : ExecutionRequest σ ι α) (events : List (BusEvent α))
    (result : Option (Except Failure α)) : Prop where
  begins : BeginsOnce request.correlation events
  told : events.filter BusEvent.tells = (result.map (Handler.closing request)).toList
  unlogged : events.filterMap BusEvent.completion? = []

namespace Told

variable {request : ExecutionRequest σ ι α} {events : List (BusEvent α)}

private theorem start : Told request [.preProcess request.correlation] none :=
  ⟨⟨[], rfl, List.forall_mem_nil _⟩, rfl, rfl⟩

private theorem step (told : Told request events none) {event : BusEvent α} (own : event.OfSteps request.correlation) :
    Told request (events ++ [event]) none := by
  obtain ⟨begins, untold, unlogged⟩ := told
  refine ⟨begins.concat own.ofAttempt, ?_, ?_⟩
  · simp [List.filter_append, untold, own.not_tells]
  · simp [List.filterMap_append, unlogged, own.completion?_eq]

private theorem close (told : Told request events none) (result : Except Failure α) :
    Told request (events ++ [Handler.closing request result]) (some result) := by
  obtain ⟨begins, untold, unlogged⟩ := told
  cases result with
  | ok output => exact ⟨begins.concat .onSuccess, by simp [untold]; rfl, by simp [unlogged]; rfl⟩
  | error failure => exact ⟨begins.concat (.onError failure), by simp [untold]; rfl, by simp [unlogged]; rfl⟩

private theorem unfinished (told : Told request events none) (span : LogSpan) :
    (⟨request.attempt, events.map (.inside span), none⟩ : AttemptHistory α).Closed request := by
  refine ⟨told.begins.inside span, ?_⟩
  simp only [BusEvent.filter_tells_inside, BusEvent.filterMap_completion?_inside, told.told, told.unlogged]
  exact .unfinished

private theorem ended {result : Except Failure α} (told : Told request events (some result)) (elapsed : Duration)
    (span : LogSpan) :
    let outcome := result.mapError (.failed · request.attempt.toNat)
    (⟨request.attempt, (events ++ [BusEvent.log (ExecutionService.completionLog request outcome elapsed)]).map
      (BusEvent.inside span), some outcome⟩ : AttemptHistory α).Closed request := by
  refine ⟨(told.begins.concat (BusEvent.OfAttempt.log _)).inside span, ?_⟩
  simp only [BusEvent.filter_tells_inside, BusEvent.filterMap_completion?_inside, List.filter_append,
    List.filterMap_append, told.told, told.unlogged]
  exact .ended result elapsed [span]

end Told

namespace ExecutionService

variable (handler : Handler σ ι α) (request : ExecutionRequest σ ι α)

private theorem tells_attempt : (handler.attempt request).Tells (Told request) [] := by
  have steps : (handler.steps request).Tells (fun events _ => Told request events none) [] :=
    (handler.opens_steps request).tells (fun _ _ told own => told.step own) .start
  exact steps.bind (fun _ told => told) fun _ result told => fun _ _ => told.close result

private theorem tells_traced : (traced handler.service request).Tells
    (fun events outcome => (⟨request.attempt, events, outcome⟩ : AttemptHistory α).Closed request) [] := by
  refine Task.tells_mapEvents fun started _ => ?_
  have service : (handler.service request).Tells (fun events outcome => ∃ result, Told request events result ∧
      outcome = result.map (·.mapError (.failed · request.attempt.toNat))) [] := by
    refine (tells_attempt handler request).bind (fun _ told => ⟨none, told, rfl⟩) fun _ result told => ?_
    exact ⟨some result, told, rfl⟩
  refine service.bind (fun _ told => ?_) fun events outcome told => ?_
  · obtain ⟨result, told, unended⟩ := told
    obtain rfl := Option.map_eq_none_iff.1 unended.symm
    exact told.unfinished request.span
  · obtain ⟨result, told, ended⟩ := told
    obtain ⟨result, rfl, rfl⟩ := Option.map_eq_some_iff.1 ended.symm
    exact fun now _ => told.ended (.ofMillis (now - started)) request.span

/-- A single attempt is closed as it ends. -/
theorem tells_single : (single handler request).Tells
    (fun events outcome => (⟨request.attempt, events, outcome⟩ : AttemptHistory α).Closed request) [] := by
  have traced := tells_traced handler request
  unfold single bounded
  cases bound : request.timeout with
  | none => exact traced
  | some timeout =>
    refine (traced.bounded 0 timeout.toMillisUp).bind (fun _ closed => closed) fun events result closed => ?_
    cases result with
    | none => exact closed.cut bound
    | some result => exact closed

end ExecutionService

namespace ExecutionRequest

private structure Failed (request : ExecutionRequest σ ι α) (attempts : List (AttemptHistory α)) (number : UInt32) :
    Prop where
  numbered : attempts.map (·.number.toNat) = List.range' 1 attempts.length
  closed : ∀ attempt ∈ attempts, attempt.Closed request
  failed : ∀ attempt ∈ attempts, ∃ fault, attempt.outcome = some (.error fault)
  next : number.toNat = attempts.length + 1

namespace Failed

variable {request : ExecutionRequest σ ι α} {attempts : List (AttemptHistory α)} {attempt : AttemptHistory α}

private theorem numbered_concat (failed : Failed request attempts attempt.number) :
    (attempts ++ [attempt]).map (·.number.toNat) = List.range' 1 (attempts ++ [attempt]).length := by
  rw [List.map_append, failed.numbered, List.length_append, List.length_singleton, List.range'_concat]
  simp [failed.next, Nat.add_comm]

private theorem rows (failed : Failed request attempts attempt.number) (closed : attempt.Closed request)
    {result : Option (Except ExecutionFault α)} (ends : ∀ value, result = some value → attempt.outcome = some value) :
    request.Rows (attempts ++ [attempt]) (attempts.flatMap (·.events) ++ attempt.events) result where
  events := by simp
  numbered := failed.numbered_concat
  closed := List.forall_mem_append.2 ⟨failed.closed, List.forall_mem_singleton.2 closed⟩
  repeated := by
    rw [List.dropLast_concat]
    exact failed.failed
  ends value same := ⟨attempt, by simp, ends value same⟩

private theorem concat (failed : Failed request attempts attempt.number) (closed : attempt.Closed request)
    {fault : ExecutionFault} (fails : attempt.outcome = some (.error fault)) {next : UInt32}
    (more : next.toNat = attempt.number.toNat + 1) : Failed request (attempts ++ [attempt]) next where
  numbered := failed.numbered_concat
  closed := List.forall_mem_append.2 ⟨failed.closed, List.forall_mem_singleton.2 closed⟩
  failed := List.forall_mem_append.2 ⟨failed.failed, List.forall_mem_singleton.2 ⟨fault, fails⟩⟩
  next := by rw [more, failed.next, List.length_append, List.length_singleton]

private theorem waiting {number : UInt32} (failed : Failed request attempts number) :
    request.Rows attempts (attempts.flatMap (·.events)) none where
  events := rfl
  numbered := failed.numbered
  closed := failed.closed
  repeated attempt mem := failed.failed attempt ((List.dropLast_sublist _).subset mem)
  ends _ same := nomatch same

end Failed

end ExecutionRequest

namespace ExecutionService

variable (handler : Handler σ ι α) (request : ExecutionRequest σ ι α)

private theorem message_retryLog (policy : RetryPolicy) (number : UInt32) (delay : Duration) (fault : ExecutionFault) :
    (retryLog policy request number delay fault).message ≠ "execution attempt complete" := by
  simp [retryLog]

/-- Of the choice of a delay nothing is seen. -/
theorem silent_delayBefore (policy : RetryPolicy) (draw : Nat → Nat) (number : UInt32) :
    (delayBefore policy draw number : BusTask σ ι α Duration).Emits fun _ => False := by
  unfold delayBefore
  dsimp only
  split
  · exact fun _ _ => trivial
  · trivial

private theorem tells_attemptsFrom (policy : RetryPolicy) (draw : Nat → Nat) (number : UInt32)
    {attempts : List (AttemptHistory α)} (failed : request.Failed attempts number) :
    (attemptsFrom policy draw (single handler) request number).Tells
      (fun events result => ∃ attempts, request.Rows attempts events result) (attempts.flatMap (·.events)) := by
  induction number using attemptsFrom.induct policy generalizing attempts with
  | case1 number ih =>
    rw [attemptsFrom]
    have first : (single handler (request.withAttempt number)).Tells (fun events outcome => ∃ own,
        (⟨number, own, outcome⟩ : AttemptHistory α).Closed request ∧ events = attempts.flatMap (·.events) ++ own)
          (attempts.flatMap (·.events)) :=
      ((tells_single handler (request.withAttempt number)).mono fun own _ closed =>
        ⟨own, closed.of_withAttempt, rfl⟩).behind
    refine first.bind (fun events told => ?_) fun events outcome told => ?_
    · obtain ⟨own, closed, rfl⟩ := told
      exact ⟨_, failed.rows closed fun _ same => absurd same.symm (Option.some_ne_none _)⟩
    · obtain ⟨own, closed, rfl⟩ := told
      cases outcome with
      | ok output => exact ⟨_, failed.rows closed fun _ same => same⟩
      | error fault =>
        simp only
        split
        · exact ⟨_, failed.rows closed fun _ same => same⟩
        · next more =>
          have row : request.Rows _ (attempts.flatMap (·.events) ++ own) none :=
            failed.rows closed fun _ same => absurd same.symm (Option.some_ne_none _)
          refine (silent_delayBefore policy draw (number + 1)).tells_bind ⟨_, row⟩ fun delay => Task.tells_signal ?_
          -- What is logged before the next attempt belongs to the one that failed.
          let last := (⟨number, own, some (.error fault)⟩ : AttemptHistory α).concat
            (.log (retryLog policy request number delay fault))
          have logged : last.Closed request := closed.concat_log (message_retryLog request policy number delay fault)
          have next : request.Failed (attempts ++ [last]) (number + 1) :=
            ExecutionRequest.Failed.concat failed logged rfl (toNat_next more)
          have seen : attempts.flatMap (·.events) ++ own ++ [.log (retryLog policy request number delay fault)] =
              (attempts ++ [last]).flatMap (·.events) := by
            simp [last, AttemptHistory.concat]
          rw [seen]
          exact (Task.emits_sleep delay.toMillisUp).tells_bind ⟨_, next.waiting⟩ fun _ => ih more next

/-- Attempts are made one after the other, and each is closed as it ended. -/
theorem rows_of_stack (policy : RetryPolicy) (draw : Nat → Nat) (fresh : request.attempt = 1) :
    (stack policy draw handler request).Tells (fun events result => ∃ attempts, request.Rows attempts events result) [] := by
  have start : (if request.attempt = 0 then 1 else request.attempt) = 1 := by rw [fresh]; rfl
  have unbegun : request.Failed ([] : List (AttemptHistory α)) 1 :=
    ⟨rfl, List.forall_mem_nil _, List.forall_mem_nil _, rfl⟩
  rw [stack, retried, start]
  exact tells_attemptsFrom handler request policy draw 1 unbegun

end ExecutionService

end IntentBus
