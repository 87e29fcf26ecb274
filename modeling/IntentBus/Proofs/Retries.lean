import IntentBus.Proofs.Attempts
import IntentBus.Proofs.Backoff
import Mathlib.Data.List.Chain

/-! Attempts in a row: they are repeated until one succeeds or no more are allowed, with one wait between each
and the next. -/

namespace IntentBus

variable {σ ι α : Type}

namespace Duration

/-- A jittered span is in the second half of the span, as far as 64 bits of nanoseconds reach. -/
theorem jittered_bounds (span : Duration) (draw : Nat) :
    min span.nanos (UInt64.size - 1) / 2 ≤ (span.jittered draw).nanos ∧
      (span.jittered draw).nanos ≤ min span.nanos (UInt64.size - 1) := by
  have drawn := Nat.mod_lt draw
    (Nat.add_one_pos (min span.nanos (UInt64.size - 1) - min span.nanos (UInt64.size - 1) / 2))
  have short : min span.nanos (UInt64.size - 1) < limit := Nat.lt_of_le_of_lt (Nat.min_le_left _ _) span.bounded
  unfold jittered
  rw [nanos_ofNanos (by omega)]
  omega

end Duration

/-- The wait before an attempt: the backoff of the policy, or with jitter a part of it that one drawn number
decides. -/
structure Wait (policy : RetryPolicy) (draw : Nat → Nat) (attempt : Nat) (before after : BusState σ ι α)
    (length : Duration) : Prop where
  plain : policy.jitter = false → length = policy.backoff attempt ∧ after = before
  jittered : policy.jitter = true → policy.backoff attempt ≠ .zero →
    length = (policy.backoff attempt).jittered (draw before.drawn) ∧
      after = { before with drawn := before.drawn + 1 }
  idle : policy.backoff attempt = .zero → length = .zero ∧ after = before
  atLeast : min (policy.backoff attempt).nanos (UInt64.size - 1) / 2 ≤ length.nanos
  atMost : length.nanos ≤ (policy.backoff attempt).nanos

namespace ExecutionService

variable (policy : RetryPolicy) (draw : Nat → Nat)

/-- The wait before an attempt is drawn at once, and it is one that the policy allows. -/
theorem run_delayBefore (attempt : UInt32) (time : Nat) (state : BusState σ ι α) :
    ∃ length after, (delayBefore policy draw attempt).run time state = .still length time after [] ∧
      Wait policy draw attempt.toNat state after length := by
  unfold delayBefore
  dsimp only
  split
  · next shortened =>
    simp only [Bool.and_eq_true, decide_eq_true_eq] at shortened
    obtain ⟨jitter, positive⟩ := shortened
    have bounds := (policy.backoff attempt.toNat).jittered_bounds (draw state.drawn)
    refine ⟨(policy.backoff attempt.toNat).jittered (draw state.drawn),
      { state with drawn := state.drawn + 1 }, rfl, ?_⟩
    exact
      { plain := fun plain => nomatch plain.symm.trans jitter
        jittered := fun _ _ => ⟨rfl, rfl⟩
        idle := fun immediate => absurd immediate positive
        atLeast := bounds.1
        atMost := bounds.2.trans (Nat.min_le_left _ _) }
  · next plain =>
    simp only [Bool.and_eq_true, decide_eq_true_eq] at plain
    refine ⟨policy.backoff attempt.toNat, state, rfl, ?_⟩
    exact
      { plain := fun _ => ⟨rfl, rfl⟩
        jittered := fun jitter positive => absurd ⟨jitter, positive⟩ plain
        idle := fun immediate => ⟨immediate, rfl⟩
        atLeast := (Nat.div_le_self _ 2).trans (Nat.min_le_left _ _)
        atMost := Nat.le_refl _ }

end ExecutionService

namespace Attempt

/-- The second attempt is the one that follows upon the first, which failed. -/
structure Follows (policy : RetryPolicy) (draw : Nat → Nat) (service : ExecutionService σ ι α)
    (request : ExecutionRequest σ ι α) (first second : Attempt σ ι α) : Prop where
  number : second.number.toNat = first.number.toNat + 1
  failed : ∃ fault, (first.under service request).result = some (.error fault)
  waited : ∃ length, Wait policy draw second.number.toNat (first.under service request).state second.state length ∧
    second.began = (first.under service request).time + length.toMillisUp

end Attempt

namespace ExecutionService

/-- A run of attempts in a row, of which the first is given. -/
structure Row (policy : RetryPolicy) (draw : Nat → Nat) (service : ExecutionService σ ι α)
    (request : ExecutionRequest σ ι α) (first : Attempt σ ι α) (attempts : List (Attempt σ ι α))
    (run : Run (BusState σ ι α) (BusEvent α) (Except ExecutionFault α)) : Prop where
  begins : attempts.head? = some first
  follow : attempts.IsChain (Attempt.Follows policy draw service request)
  ends : ∃ last ∈ attempts.getLast?, run.result = (last.under service request).result ∧
    run.time = (last.under service request).time ∧ run.state = (last.under service request).state
  exhausted : ∀ fault, run.result = some (.error fault) →
    first.number.toNat + attempts.length = policy.attemptLimit.toNat + 1
  limited : first.number.toNat + attempts.length ≤ policy.attemptLimit.toNat + 1
  calls : run.calls = attempts.flatMap fun attempt => (attempt.under service request).calls

variable {policy : RetryPolicy} {draw : Nat → Nat} {service : ExecutionService σ ι α}
  {request : ExecutionRequest σ ι α}

private theorem Row.single {first : Attempt σ ι α}
    (limited : first.number.toNat ≤ policy.attemptLimit.toNat)
    (exhausted : ∀ fault, (first.under service request).result = some (.error fault) →
      policy.attemptLimit.toNat ≤ first.number.toNat) :
    Row policy draw service request first [first] (first.under service request) where
  begins := rfl
  follow := .singleton first
  ends := ⟨first, rfl, rfl, rfl, rfl⟩
  exhausted fault failed := by
    have := exhausted fault failed
    simp only [List.length_singleton]
    omega
  limited := by simp only [List.length_singleton]; omega
  calls := by simp

private theorem Row.cons {first second : Attempt σ ι α} {attempts : List (Attempt σ ι α)}
    {run whole : Run (BusState σ ι α) (BusEvent α) (Except ExecutionFault α)}
    (row : Row policy draw service request second attempts run)
    (follows : first.Follows policy draw service request second) {entry : LogEntry} {time : Nat}
    {state : BusState σ ι α}
    (same : whole = run.after ((first.under service request).trace ++ [⟨time, state, .log entry⟩])) :
    Row policy draw service request first (first :: attempts) whole where
  begins := rfl
  follow := List.isChain_cons.2 ⟨fun next head => by
    cases row.begins.symm.trans head
    exact follows, row.follow⟩
  ends := by
    obtain ⟨last, mem, ends⟩ := row.ends
    exact ⟨last, by simp [List.getLast?_cons, Option.mem_def.1 mem], by rw [same]; exact ends⟩
  exhausted fault failed := by
    rw [same] at failed
    have := row.exhausted fault failed
    have := follows.number
    simp only [List.length_cons]
    omega
  limited := by
    have := row.limited
    have := follows.number
    simp only [List.length_cons]
    omega
  calls := by
    rw [same, Run.calls, Run.after_events, List.map_append, List.filter_append, List.filter_append,
      List.flatMap_cons, ← row.calls]
    simp [Run.calls, Run.events, BusEvent.isCall, BusEvent.stage?]

private theorem run_attemptsFrom (number : UInt32) (time : Nat) (state : BusState σ ι α) :
    (attemptsFrom policy draw service request number).run time state =
      ((service (request.withAttempt number)).run time state).andThen fun result time state =>
        match result with
        | .ok output => .still (.ok output) time state []
        | .error fault =>
          if policy.attemptLimit ≤ number then .still (.error fault) time state []
          else ((delayBefore policy draw (number + 1)).run time state).andThen fun length time state =>
            ((attemptsFrom policy draw service request (number + 1)).run (time + length.toMillisUp) state).after
              [⟨time, state, .log (retryLog policy request number length fault)⟩] := by
  rw [attemptsFrom]
  simp only [Task.bind_eq, Task.run_bind]
  congr 1
  funext result time state
  cases result with
  | ok output => rfl
  | error fault =>
    simp only
    split
    · rfl
    · rw [Task.run_bind]
      congr 1
      funext length time state
      simp only [Task.run_bind, Task.run_signal, Task.run_sleep, Run.still_andThen]
      rfl

private theorem run_attemptsFrom_last {first : Attempt σ ι α}
    (stops : ∀ fault, (first.under service request).result = some (.error fault) →
      policy.attemptLimit ≤ first.number) :
    (attemptsFrom policy draw service request first.number).run first.began first.state =
      first.under service request := by
  rw [run_attemptsFrom]
  apply Run.andThen_eq_self
  intro result ends
  cases result with
  | ok output => rfl
  | error fault => exact if_pos (stops fault ends)

private theorem run_attemptsFrom_again {first : Attempt σ ι α} {fault : ExecutionFault}
    (failed : (first.under service request).result = some (.error fault))
    (more : ¬policy.attemptLimit ≤ first.number) {length : Duration} {waited : BusState σ ι α}
    (wait : (delayBefore policy draw (first.number + 1)).run (first.under service request).time
      (first.under service request).state = .still length (first.under service request).time waited []) :
    (attemptsFrom policy draw service request first.number).run first.began first.state =
      ((attemptsFrom policy draw service request (first.number + 1)).run
        ((first.under service request).time + length.toMillisUp) waited).after
          ((first.under service request).trace ++ [⟨(first.under service request).time, waited,
            .log (retryLog policy request first.number length fault)⟩]) := by
  rw [run_attemptsFrom]
  refine (Run.andThen_of_some failed _).trans ?_
  simp only [if_neg more]
  rw [wait, Run.still_andThen, List.map_nil, Run.after_nil, Run.after_after]

/-- Numbers of attempts below the limit do not wrap around. -/
theorem toNat_next {number : UInt32} (more : ¬policy.attemptLimit ≤ number) :
    (number + 1).toNat = number.toNat + 1 := by
  have below := UInt32.lt_iff_toNat_lt.1 (UInt32.not_le.1 more)
  have := policy.attemptLimit.toNat_lt
  rw [UInt32.toNat_add, UInt32.toNat_one]
  omega

/-- Attempts from one on are attempts in a row. -/
theorem row_of_attemptsFrom (first : Attempt σ ι α)
    (within : first.number.toNat ≤ policy.attemptLimit.toNat) :
    ∃ attempts, Row policy draw service request first attempts
      ((attemptsFrom policy draw service request first.number).run first.began first.state) := by
  -- The recursion goes up to the limit, so the induction is on what is left below it.
  induction left : policy.attemptLimit.toNat - first.number.toNat using Nat.strongRecOn generalizing first with
  | ind left ih =>
    by_cases repeated : ∃ fault, (first.under service request).result = some (.error fault) ∧
        ¬policy.attemptLimit ≤ first.number
    · obtain ⟨fault, failed, more⟩ := repeated
      have below := UInt32.lt_iff_toNat_lt.1 (UInt32.not_le.1 more)
      have next := toNat_next more
      obtain ⟨length, waited, went, wait⟩ := run_delayBefore policy draw (first.number + 1)
        (first.under service request).time (first.under service request).state
      obtain ⟨attempts, row⟩ := ih (policy.attemptLimit.toNat - (first.number + 1).toNat) (by omega)
        ⟨first.number + 1, (first.under service request).time + length.toMillisUp, waited⟩
        (by simp only [next]; omega) rfl
      exact ⟨first :: attempts, row.cons ⟨next, ⟨fault, failed⟩, length, wait, rfl⟩
        (run_attemptsFrom_again failed more went)⟩
    · have stops : ∀ fault, (first.under service request).result = some (.error fault) →
          policy.attemptLimit ≤ first.number := fun fault failed =>
        Decidable.byContradiction fun more => repeated ⟨fault, failed, more⟩
      rw [run_attemptsFrom_last stops]
      exact ⟨[first], Row.single within fun fault failed => UInt32.le_iff_toNat_le.1 (stops fault failed)⟩

/-- A policy allows at least one attempt. -/
theorem attemptLimit_toNat (policy : RetryPolicy) :
    policy.attemptLimit.toNat = max 1 policy.maxAttempts.toNat := by
  unfold RetryPolicy.attemptLimit
  split
  · next zero => rw [zero]; rfl
  · next nonzero =>
    have positive : policy.maxAttempts.toNat ≠ 0 := fun zero => nonzero (UInt32.toNat_inj.1 zero)
    omega

/-- The layers of a handler's service make attempts in a row, from the first on. -/
theorem row_of_stack (policy : RetryPolicy) (draw : Nat → Nat) (handler : Handler σ ι α)
    {request : ExecutionRequest σ ι α} (fresh : request.attempt = 1) (time : Nat)
    (state : BusState σ ι α) :
    ∃ attempts, Row policy draw (ExecutionService.single handler) request ⟨1, time, state⟩ attempts
      ((stack policy draw handler request).run time state) := by
  have allowed : (1 : UInt32).toNat ≤ policy.attemptLimit.toNat := by
    rw [attemptLimit_toNat]
    exact Nat.le_max_left _ _
  have start : (if request.attempt = 0 then 1 else request.attempt) = 1 := by rw [fresh]; rfl
  rw [stack, retried, start]
  exact row_of_attemptsFrom ⟨1, time, state⟩ allowed

/-- The calls of an execution: all are calls of the handler, there are some, and the last one upon a success
tells the handler of it. -/
theorem calls_of_stack (policy : RetryPolicy) (draw : Nat → Nat) (handler : Handler σ ι α)
    {request : ExecutionRequest σ ι α} (fresh : request.attempt = 1) (time : Nat)
    (state : BusState σ ι α) :
    (∀ call ∈ ((stack policy draw handler request).run time state).calls, call.stage? = some .execution) ∧
      ((stack policy draw handler request).run time state).calls ≠ [] ∧
      ∀ output, ((stack policy draw handler request).run time state).result = some (.ok output) →
        ∃ before, ((stack policy draw handler request).run time state).calls =
          before ++ [.onSuccess request.correlation] := by
  obtain ⟨attempts, row⟩ := row_of_stack policy draw handler fresh time state
  obtain ⟨last, mem, result, _⟩ := row.ends
  have first : ⟨1, time, state⟩ ∈ attempts := List.mem_of_head? row.begins
  rw [row.calls]
  refine ⟨fun call mem => ?_, fun uncalled => ?_, fun output succeeds => ?_⟩
  · obtain ⟨attempt, _, mem⟩ := List.mem_flatMap.1 mem
    exact Attempt.stage?_of_mem_calls mem
  · obtain ⟨rest, calls, _⟩ := @Attempt.under_calls _ _ _ ⟨1, time, state⟩ handler request
    have empty := List.flatMap_eq_nil_iff.1 uncalled _ first
    nomatch calls.symm.trans empty
  · obtain ⟨before, calls⟩ := Attempt.calls_of_success (result.symm.trans succeeds)
    obtain ⟨earlier, split⟩ := List.getLast?_eq_some_iff.1 mem
    refine ⟨earlier.flatMap (fun attempt => (attempt.under (single handler) request).calls) ++ before, ?_⟩
    rw [split, List.flatMap_append, List.append_assoc]
    simp [calls]

private theorem numbers_of_follow {first : Attempt σ ι α} {attempts : List (Attempt σ ι α)}
    (begins : attempts.head? = some first)
    (follow : attempts.IsChain (Attempt.Follows policy draw service request)) :
    attempts.map (·.number.toNat) = List.range' first.number.toNat attempts.length := by
  induction attempts generalizing first with
  | nil => nomatch begins
  | cons attempt rest ih =>
    cases begins
    cases rest with
    | nil => rfl
    | cons second rest =>
      obtain ⟨next, follow⟩ := List.isChain_cons_cons.1 follow
      rw [List.map_cons, ih rfl follow, next.number]
      rfl

private theorem Row.last_number {first last : Attempt σ ι α} {attempts : List (Attempt σ ι α)}
    {run : Run (BusState σ ι α) (BusEvent α) (Except ExecutionFault α)}
    (row : Row policy draw service request first attempts run) (fresh : first.number = 1)
    (mem : last ∈ attempts.getLast?) : last.number.toNat = attempts.length := by
  have numbers := congrArg List.getLast? (numbers_of_follow row.begins row.follow)
  rw [List.getLast?_map, Option.mem_def.1 mem, List.getLast?_range', fresh] at numbers
  split at numbers
  · nomatch numbers
  · rw [Option.map_some, Option.some_inj, UInt32.toNat_one] at numbers
    omega

end ExecutionService

/-- How an attempt counts: with its own result if that comes by its bound, at the time and in the state at which
it comes, and else as cut off by its bound. It has a result of its own if and only if its steps bring one about, at the
time at which they do, and the handler is told of it then. -/
structure Attempt.Counted (handler : Handler σ ι α) (request : ExecutionRequest σ ι α)
    (attempt : Attempt σ ι α) : Prop where
  result : (attempt.under (ExecutionService.single handler) request).result = attempt.verdict handler request
  inTime : attempt.InTime handler request →
    (attempt.under (ExecutionService.single handler) request).time = (attempt.alone handler request).time ∧
      (attempt.under (ExecutionService.single handler) request).state = (attempt.alone handler request).state
  late : ¬attempt.InTime handler request → ∀ timeout ∈ request.timeout,
    (attempt.under (ExecutionService.single handler) request).time = attempt.began + timeout.toMillisUp
  brings : ∀ result ended final, (attempt.alone handler request).Ends result ended final ↔
    ∃ before after, handler.Brings (request.withAttempt attempt.number) attempt.began attempt.state.application result
        ended before ∧
      handler.Told (request.withAttempt attempt.number) result before after ∧
      final = attempt.state.withApplication after
  calls : BeginsOnce request.correlation (attempt.under (ExecutionService.single handler) request).calls

/-- The attempts of a run: numbered from one and at most as many as the policy allows, each but the last a
failure with one wait after it. The last attempt ends the run with a success, or it is the last allowed. -/
structure Attempted (policy : RetryPolicy) (draw : Nat → Nat) (handler : Handler σ ι α)
    (request : ExecutionRequest σ ι α) (time : Nat) (state : BusState σ ι α) (attempts : List (Attempt σ ι α))
    (run : Run (BusState σ ι α) (BusEvent α) (Except ExecutionFault α)) : Prop where
  numbered : attempts.map (·.number.toNat) = List.range' 1 attempts.length
  limited : attempts.length ≤ max 1 policy.maxAttempts.toNat
  begins : ∃ first ∈ attempts.head?, first.began = time ∧ first.state = state
  follow : attempts.IsChain (Attempt.Follows policy draw (ExecutionService.single handler) request)
  counted : ∀ attempt ∈ attempts, attempt.Counted handler request
  ends : ∃ last ∈ attempts.getLast?, run.result = last.verdict handler request ∧
    run.time = (last.under (ExecutionService.single handler) request).time ∧
    run.state = (last.under (ExecutionService.single handler) request).state
  exhausted : ∀ fault, run.result = some (.error fault) →
    attempts.length = max 1 policy.maxAttempts.toNat ∧ fault.attempts = attempts.length
  finishes : (request.timeout.isSome ∨ ∀ attempt ∈ attempts, (attempt.alone handler request).result.isSome) →
    run.result.isSome
  calls : run.calls =
    attempts.flatMap fun attempt => (attempt.under (ExecutionService.single handler) request).calls

/-- Each attempt is seen to begin in the calls of the run. -/
theorem Attempted.countP_begins {policy : RetryPolicy} {draw : Nat → Nat} {handler : Handler σ ι α}
    {request : ExecutionRequest σ ι α} {time : Nat} {state : BusState σ ι α} {attempts : List (Attempt σ ι α)}
    {run : Run (BusState σ ι α) (BusEvent α) (Except ExecutionFault α)}
    (attempted : Attempted policy draw handler request time state attempts run) :
    run.calls.countP BusEvent.begins = attempts.length := by
  rw [attempted.calls]
  exact BeginsOnce.countP_flatMap fun attempt mem => (attempted.counted attempt mem).calls

namespace Attempt

variable {attempt : Attempt σ ι α} {handler : Handler σ ι α} {request : ExecutionRequest σ ι α}

/-- Every attempt counts with its own result if that comes in time, and else with that of its bound. -/
theorem counted : attempt.Counted handler request where
  result := under_result
  inTime inTime := (under_of_inTime inTime).2
  late late _ bound := (under_of_late late bound).2
  brings _ _ _ := Handler.ends_attempt_iff handler _
  calls := under_calls

/-- The fault of an attempt tells its number. -/
theorem attempts_of_verdict {fault : ExecutionFault}
    (failed : attempt.verdict handler request = some (.error fault)) :
    fault.attempts = attempt.number.toNat := by
  unfold verdict at failed
  split at failed
  · obtain ⟨result, _, mapped⟩ := Option.map_eq_some_iff.1 failed
    cases result with
    | error failure =>
      cases mapped
      rfl
    | ok output => nomatch mapped
  · obtain ⟨timeout, _, mapped⟩ := Option.map_eq_some_iff.1 failed
    cases mapped
    rfl

/-- An attempt has a verdict if it ends at all or is bounded. -/
theorem verdict_isSome
    (ends : request.timeout.isSome ∨ (attempt.alone handler request).result.isSome) :
    (attempt.verdict handler request).isSome := by
  unfold verdict
  split
  · next inTime => rw [Option.isSome_map]; exact inTime.1
  · next late =>
    rw [Option.isSome_map]
    refine ends.elim id fun own => Option.isSome_iff_ne_none.2 fun unbounded => late ⟨own, ?_⟩
    intro timeout bound
    nomatch unbounded.symm.trans bound

end Attempt

/-- The service of a handler in all its layers makes attempts in a row: up to the first success, or as many as
are allowed, and then the last fault is the result. -/
theorem stack_makes_attempts (policy : RetryPolicy) (draw : Nat → Nat) (handler : Handler σ ι α)
    (intent : Intent σ ι α) (correlation : Correlation) (context : ExecutionContext) (name : String)
    (timeout : Option Duration) (time : Nat) (state : BusState σ ι α) :
    ∃ attempts, Attempted policy draw handler
      (ExecutionRequest.first intent correlation context name timeout) time state attempts
      ((ExecutionService.stack policy draw handler
        (ExecutionRequest.first intent correlation context name timeout)).run time state) := by
  have limit := ExecutionService.attemptLimit_toNat policy
  have fresh : (ExecutionRequest.first intent correlation context name timeout).attempt = 1 := rfl
  obtain ⟨attempts, row⟩ := ExecutionService.row_of_stack policy draw handler fresh time state
  obtain ⟨last, mem, result, ended⟩ := row.ends
  rw [Attempt.under_result] at result
  have position := row.last_number rfl mem
  have limited := row.limited
  simp only [UInt32.toNat_one] at limited
  refine ⟨attempts, ?_⟩
  exact
    { numbered := ExecutionService.numbers_of_follow row.begins row.follow
      limited := by omega
      begins := ⟨_, row.begins, rfl, rfl⟩
      follow := row.follow
      counted := fun attempt _ => Attempt.counted
      ends := ⟨last, mem, result, ended⟩
      exhausted := fun fault failed => by
        have exhausted := row.exhausted fault failed
        have counted := Attempt.attempts_of_verdict (result.symm.trans failed)
        simp only [UInt32.toNat_one] at exhausted
        exact ⟨by omega, counted.trans position⟩
      finishes := fun ends => by
        rw [result]
        exact Attempt.verdict_isSome (ends.imp id fun own => own last (List.mem_of_getLast? mem))
      calls := row.calls }

def Handler.checkedReport : Handler Nat Unit String :=
  { Handler.plain ⟨"Report", "Report", .query, "text", 0⟩ "ReportHandler" fun _ _ =>
      (Task.sleep 20).bind fun _ => .done (.ok "report") with
    postProcess := fun _ _ _ => .get fun _ refusals => .done (if refusals = 0 then .error ⟨"refused", []⟩ else .ok ())
    onError := fun _ _ _ refusals => refusals + 1 }

/-- Reports take just as long as they may. The first one is refused, the second one is made after a wait of forty
milliseconds, and it is the result. -/
theorem stack_makes_attempts_until_checked :
    let policy : RetryPolicy := ⟨3, .ofMillis 40, .ofMillis 2000, 2, false⟩
    let intent : Intent Nat Unit String := .plain Handler.checkedReport.type (.fresh .nil 0) ()
    let request : ExecutionRequest Nat Unit String := .first intent (intent.correlation "c-1") .empty "ReportHandler"
      (some (.ofMillis 20))
    let run := (ExecutionService.stack policy id Handler.checkedReport request).run 5 (.initial .standard 0)
    run.result = some (.ok "report") ∧ run.time = 85 ∧ run.state.application = 1 ∧
      ∃ attempts, Attempted policy id Handler.checkedReport request 5 (.initial .standard 0) attempts run ∧
        attempts.map (·.number.toNat) = [1, 2] := by
  intro policy intent request run
  obtain ⟨attempts, attempted⟩ := stack_makes_attempts policy id Handler.checkedReport intent (intent.correlation "c-1")
    .empty "ReportHandler" (some (.ofMillis 20)) 5 (.initial .standard 0)
  have two : attempts.length = 2 := attempted.countP_begins.symm.trans (by decide +kernel)
  refine ⟨by decide +kernel, by decide +kernel, by decide +kernel, attempts, attempted, ?_⟩
  rw [attempted.numbered, two]
  rfl

end IntentBus
