import IntentBus.Proofs.Caching
import IntentBus.Proofs.Cancellations
import Mathlib.Algebra.BigOperators.Ring.List
import Mathlib.Algebra.Group.Action.Defs
import Mathlib.Algebra.Order.BigOperators.Group.List
import Mathlib.Algebra.Order.Ring.Nat

/-! How long a dispatch takes in virtual time: an attempt as long as it needs or is let, and each wait between two
attempts as long as the policy says. Where attempts are bounded in time, every dispatch comes to its end. -/

namespace IntentBus

variable {σ ι α : Type}

namespace Duration

/-- Whole milliseconds need no rounding. -/
theorem toMillisUp_of_whole {span : Duration} (whole : nanosPerMilli ∣ span.nanos) :
    span.toMillisUp * nanosPerMilli = span.nanos := by
  obtain ⟨millis, same⟩ := whole
  unfold toMillisUp
  rw [same]
  unfold nanosPerMilli
  omega

private theorem toMillisUp_le {first second : Duration} (le : first.nanos ≤ second.nanos) :
    first.toMillisUp ≤ second.toMillisUp :=
  Nat.div_le_div_right (Nat.add_le_add_right le _)

end Duration

namespace Attempt

variable (handler : Handler σ ι α) (request : ExecutionRequest σ ι α)

def length? (attempt : Attempt σ ι α) : Option Nat :=
  (attempt.alone handler request).result.map fun _ => (attempt.alone handler request).time - attempt.began

def spent (bound : Nat) (attempt : Attempt σ ι α) : Nat :=
  min ((attempt.length? handler request).getD bound) bound

def spentNanos (bound : Duration) (attempt : Attempt σ ι α) : Nat :=
  match attempt.length? handler request with
  | some millis => min (millis * Duration.nanosPerMilli) bound.nanos
  | none => bound.nanos

variable {handler request} {attempt : Attempt σ ι α}

private theorem spentNanos_of_whole {bound : Duration} (whole : Duration.nanosPerMilli ∣ bound.nanos) :
    attempt.spentNanos handler request bound =
      attempt.spent handler request bound.toMillisUp * Duration.nanosPerMilli := by
  have exact := Duration.toMillisUp_of_whole whole
  unfold spentNanos spent
  cases attempt.length? handler request with
  | none => rw [Option.getD_none, min_self, exact]
  | some millis => rw [Option.getD_some, ← Nat.mul_min_mul_right, exact]

private theorem under_time {timeout : Duration} (bound : request.timeout = some timeout) :
    (attempt.under (ExecutionService.single handler) request).time =
      attempt.began + attempt.spent handler request timeout.toMillisUp := by
  have later : attempt.began ≤ (attempt.alone handler request).time := Task.le_run_time _ _ _
  by_cases inTime : attempt.InTime handler request
  · obtain ⟨ends, early⟩ := inTime
    obtain ⟨result, same⟩ := Option.isSome_iff_exists.1 ends
    have soon := early timeout bound
    rw [(under_of_inTime ⟨ends, early⟩).2.1]
    simp only [spent, length?, same, Option.map_some, Option.getD_some]
    omega
  · rw [(under_of_late inTime bound).2]
    cases ends : (attempt.alone handler request).result with
    | none => rw [spent, length?, ends, Option.map_none, Option.getD_none, min_self]
    | some result =>
      have slow : ¬(attempt.alone handler request).time ≤ attempt.began + timeout.toMillisUp := by
        intro early
        refine inTime ⟨Option.isSome_of_eq_some ends, fun other same => ?_⟩
        cases bound.symm.trans same
        exact early
      simp only [spent, length?, ends, Option.map_some, Option.getD_some]
      omega

private theorem under_isSome (bound : request.timeout.isSome) :
    (attempt.under (ExecutionService.single handler) request).result.isSome := by
  rw [under_result]
  exact verdict_isSome (.inl bound)

private theorem under_isSome_iff (unbounded : request.timeout = none) :
    (attempt.under (ExecutionService.single handler) request).result.isSome ↔
      (attempt.length? handler request).isSome := by
  have inTime : attempt.InTime handler request ↔ (attempt.alone handler request).result.isSome := by
    refine ⟨And.left, fun ends => ⟨ends, fun timeout same => ?_⟩⟩
    nomatch unbounded.symm.trans same
  rw [under_result, verdict, length?, Option.isSome_map]
  split
  · rw [Option.isSome_map]
  · next late => simp [unbounded, mt inTime.2 late]

private theorem spentNanos_le (bound : Duration) : attempt.spentNanos handler request bound ≤ bound.nanos := by
  unfold spentNanos
  split
  · exact Nat.min_le_right _ _
  · exact Nat.le_refl _

private theorem spent_le (bound : Nat) : attempt.spent handler request bound ≤ bound := Nat.min_le_right _ _

end Attempt

section

variable {policy : RetryPolicy} {draw : Nat → Nat} {handler : Handler σ ι α} {request : ExecutionRequest σ ι α}

private theorem time_of_follow {timeout : Duration} (bound : request.timeout = some timeout)
    {first last : Attempt σ ι α} {attempts : List (Attempt σ ι α)} (begins : attempts.head? = some first)
    (follow : attempts.IsChain (Attempt.Follows policy draw (ExecutionService.single handler) request))
    (ends : last ∈ attempts.getLast?) :
    ∃ waits : List Duration, waits.length + 1 = attempts.length ∧
      (last.under (ExecutionService.single handler) request).time =
        first.began + (attempts.map (·.spent handler request timeout.toMillisUp)).sum +
          (waits.map Duration.toMillisUp).sum ∧
      (policy.jitter = false →
        waits = (List.range' (first.number.toNat + 1) (attempts.length - 1)).map policy.backoff) ∧
      ∀ wait ∈ waits, wait.nanos ≤ policy.maxBackoff.nanos := by
  -- The attempts are taken from the first on; each wait is over when the next attempt begins.
  induction attempts generalizing first with
  | nil => nomatch begins
  | cons attempt rest ih =>
    cases begins
    cases rest with
    | nil =>
      cases ends
      refine ⟨[], rfl, ?_, fun _ => rfl, List.forall_mem_nil _⟩
      simp [Attempt.under_time bound]
    | cons second rest =>
      obtain ⟨next, follow⟩ := List.isChain_cons_cons.1 follow
      obtain ⟨wait, waited, began⟩ := next.waited
      obtain ⟨waits, count, time, plain, most⟩ := ih rfl follow ends
      refine ⟨wait :: waits, congrArg (· + 1) count, ?_, ?_, ?_⟩
      · rw [time, began, Attempt.under_time bound]
        simp only [List.map_cons, List.sum_cons]
        omega
      · intro steady
        rw [plain steady, (waited.plain steady).1, next.number, List.length_cons, List.length_cons, Nat.add_sub_cancel,
          Nat.add_sub_cancel, List.length_cons, List.range'_succ, List.map_cons]
      · refine List.forall_mem_cons.2 ⟨?_, most⟩
        exact Nat.le_trans waited.atMost (policy.backoff_le_maxBackoff _)

private theorem isSome_of_follow {first last : Attempt σ ι α} {attempts : List (Attempt σ ι α)}
    (begins : attempts.head? = some first)
    (follow : attempts.IsChain (Attempt.Follows policy draw (ExecutionService.single handler) request))
    (ends : last ∈ attempts.getLast?)
    (done : (last.under (ExecutionService.single handler) request).result.isSome) :
    ∀ attempt ∈ attempts, (attempt.under (ExecutionService.single handler) request).result.isSome := by
  induction attempts generalizing first with
  | nil => nomatch begins
  | cons attempt rest ih =>
    cases rest with
    | nil =>
      cases ends
      exact List.forall_mem_cons.2 ⟨done, List.forall_mem_nil _⟩
    | cons second rest =>
      obtain ⟨next, follow⟩ := List.isChain_cons_cons.1 follow
      obtain ⟨fault, failed⟩ := next.failed
      exact List.forall_mem_cons.2 ⟨Option.isSome_of_eq_some failed, ih rfl follow ends⟩

end

namespace Bus

/-- The judges of an intent, and the publisher if there is one, keep nobody waiting. -/
structure AnswersAtOnce (bus : Bus σ ι α) (intent : Intent σ ι α) (correlation : Correlation)
    (context : ExecutionContext) : Prop where
  engine : (bus.engine intent).Prompt
  own : (intent.validate correlation).Prompt
  gate : (bus.gate.judge intent.name (askIntent intent) correlation context).Prompt
  publisher : bus.PublishesAtOnce

def waits (bus : Bus σ ι α) (attempts : Nat) : List Duration :=
  (List.range' 2 (attempts - 1)).map bus.config.retry.backoff

/-- The time that a dispatch takes, in terms of the attempts that it makes. Its stages begin at a time, in a state. Time
is counted in milliseconds, each timer being rounded up; where all timers are set to whole ones it is the time that they
are set to. -/
structure Lasts (bus : Bus σ ι α) (intent : Intent σ ι α) (bound : BoundHandler σ ι α) (correlation : Correlation)
    (context : ExecutionContext) (time : Nat) (state : BusState σ ι α) (attempts : List (Attempt σ ι α))
    (run : Run (BusState σ ι α) (BusEvent α) (Except DispatchError α)) : Prop where
  refused : ¬bus.Admitted intent correlation context time state.application → attempts = [] ∧ run.EndsAt time
  admitted : bus.Admitted intent correlation context time state.application →
    let start := state.withApplication (bus.admission intent correlation context time state.application).2
    ExecutionService.Row bus.config.retry bus.draw (ExecutionService.single bound.handler)
      (bus.request intent bound correlation context) ⟨1, time, start⟩ attempts
      (bus.execution intent bound correlation context time start)
  calls : run.callsOf .execution = attempts.flatMap fun attempt =>
    (attempt.under (ExecutionService.single bound.handler) (bus.request intent bound correlation context)).calls
  limited : attempts.length ≤ max 1 bus.config.retry.maxAttempts.toNat
  bounded : ∀ timeout, bound.timeout.or bus.config.defaultTimeout = some timeout → run.result.isSome
  unbounded : bound.timeout.or bus.config.defaultTimeout = none → (run.result.isSome ↔
    ∀ attempt ∈ attempts, (attempt.length? bound.handler (bus.request intent bound correlation context)).isSome)
  exact : ∀ timeout, bound.timeout.or bus.config.defaultTimeout = some timeout → bus.config.retry.jitter = false →
    run.time = time + (attempts.map (·.spent bound.handler (bus.request intent bound correlation context)
      timeout.toMillisUp)).sum + ((bus.waits attempts.length).map Duration.toMillisUp).sum
  atMost : ∀ timeout, bound.timeout.or bus.config.defaultTimeout = some timeout →
    run.time ≤ time + attempts.length * timeout.toMillisUp +
      (attempts.length - 1) * bus.config.retry.maxBackoff.toMillisUp
  whole : ∀ timeout, bound.timeout.or bus.config.defaultTimeout = some timeout → bus.config.retry.jitter = false →
    (∀ timer ∈ timeout :: bus.waits attempts.length, Duration.nanosPerMilli ∣ timer.nanos) →
    (run.time - time) * Duration.nanosPerMilli = (attempts.map (·.spentNanos bound.handler
        (bus.request intent bound correlation context) timeout)).sum + ((bus.waits attempts.length).map (·.nanos)).sum ∧
      (run.time - time) * Duration.nanosPerMilli ≤
        attempts.length * timeout.nanos + (attempts.length - 1) * bus.config.retry.maxBackoff.nanos

section

variable {bus : Bus σ ι α} {intent : Intent σ ι α} {bound : BoundHandler σ ι α} {correlation : Correlation}
  {context : ExecutionContext} {time started : Nat} {state : BusState σ ι α}

private theorem prompt_judged (phase : ValidationPhase) {judge : ApplicationTask σ ValidationOutcome}
    (prompt : judge.Prompt) : (judged phase judge correlation started : BusTask σ ι α _).Prompt := by
  apply prompt.focus.bind
  intro outcome
  split
  · trivial
  · exact fun _ _ => trivial

private theorem prompt_validate (answers : bus.AnswersAtOnce intent correlation context) :
    (bus.validate intent correlation started).Prompt := by
  refine (prompt_judged .structural answers.engine : Task.Prompt _).bind ?_
  intro result
  cases result with
  | error error => trivial
  | ok => exact prompt_judged .custom answers.own

private theorem prompt_authorize (answers : bus.AnswersAtOnce intent correlation context) :
    (bus.authorize intent correlation context started).Prompt := by
  unfold authorize
  split
  · trivial
  · have asked : (bus.askGate intent correlation context).Prompt := answers.gate.focus
    apply asked.bind
    intro outcome
    split
    · trivial
    · exact fun _ _ => trivial

private theorem authorization_endsAt (answers : bus.AnswersAtOnce intent correlation context)
    (valid : bus.Valid intent correlation time state.application) :
    (bus.authorizationOfValid intent correlation context time state).EndsAt time := by
  have validates : (bus.validate intent correlation time).Prompt := prompt_validate answers
  have authorizes : (bus.authorize intent correlation context time).Prompt := prompt_authorize answers
  obtain ⟨_, validated⟩ := validates.run time state
  obtain ⟨_, judged, _⟩ := @validate_of_valid _ _ _ _ _ _ time _ _ valid.1 valid.2
  have soon : (bus.ownJudgement intent correlation time state.application).time = time := judged.symm.trans validated
  have authorized := authorizes.run time
    (state.withApplication (bus.ownJudgement intent correlation time state.application).state)
  change ((bus.authorize intent correlation context time).run (bus.ownJudgement _ _ _ _).time _).EndsAt time
  rwa [soon]

private theorem admission_time (answers : bus.AnswersAtOnce intent correlation context)
    (admitted : bus.Admitted intent correlation context time state.application) :
    (bus.admission intent correlation context time state.application).1 = time := by
  obtain ⟨_, passed, _⟩ := authorization_of_admitted admitted
  exact passed.symm.trans (authorization_endsAt answers admitted.1).2

private theorem execute_follows (answers : bus.AnswersAtOnce intent correlation context) (now : Nat) :
    (((bus.execute intent bound correlation context started).run now state).result.isSome ↔
        (bus.execution intent bound correlation context now state).result.isSome) ∧
      ((bus.execute intent bound correlation context started).run now state).time =
        (bus.execution intent bound correlation context now state).time := by
  simp only [execute, Task.bind_eq, Task.run_bind]
  refine Run.andThen_endsAt fun result => ?_
  cases result with
  | error fault =>
    have fails (elapsed : Duration) : (bus.fail intent (executionError bound.binding.handler
        (.ofCorrelation correlation elapsed) fault) started).Prompt := prompt_fail bus intent started _
    exact (fails (.ofMillis ((bus.execution intent bound correlation context now state).time - started))).run _ _
  | ok output =>
    have publishes : (bus.publish intent output correlation).Prompt :=
      prompt_publish intent correlation answers.publisher output
    exact (publishes.bind fun _ => prompt_succeed bus intent started output).run _ _

variable (bound) in
private theorem stages_of_execution (answers : bus.AnswersAtOnce intent correlation context)
    (admitted : bus.Admitted intent correlation context time state.application) :
    let execution := bus.execution intent bound correlation context time
      (state.withApplication (bus.admission intent correlation context time state.application).2)
    (((bus.stages intent bound correlation context time).run time state).result.isSome ↔
        execution.result.isSome) ∧
      ((bus.stages intent bound correlation context time).run time state).time = execution.time := by
  obtain ⟨passes, sameTime, sameState⟩ := authorization_of_admitted admitted
  rw [run_stages_of_valid admitted.1, Run.andThen_of_some passes, sameTime, sameState, admission_time answers admitted]
  exact execute_follows answers time

private theorem stages_endsAt (answers : bus.AnswersAtOnce intent correlation context)
    (refused : ¬bus.Admitted intent correlation context time state.application) :
    ((bus.stages intent bound correlation context time).run time state).EndsAt time := by
  have validates : (bus.validate intent correlation time).Prompt := prompt_validate answers
  by_cases valid : bus.Valid intent correlation time state.application
  · have enabled : bus.config.authorizationEnabled = true :=
      Decidable.byContradiction fun disabled => refused ⟨valid, fun enabled => absurd enabled disabled⟩
    rw [run_stages_of_valid valid]
    refine (authorization_endsAt answers valid).andThen fun result authorized => ?_
    cases result with
    | error error => exact (prompt_fail bus intent time error).run _ _
    | ok =>
      cases asked : (bus.accessOfValid intent correlation context time state.application).result with
      | none => nomatch (authorization_of_unanswered enabled asked).symm.trans authorized
      | some outcome =>
        have denied : outcome ≠ .granted := by
          rintro rfl
          exact refused ⟨valid, fun _ => asked⟩
        nomatch (authorization_of_denied enabled asked denied).symm.trans authorized
  · rw [run_stages]
    refine (validates.run time state).andThen fun result validated => ?_
    cases result with
    | error error => exact (prompt_reject bus intent time error).run _ _
    | ok => exact absurd (valid_of_validate validated) valid

private theorem sum_map_le {f : β → Nat} {items : List β} {bound : Nat} (most : ∀ item ∈ items, f item ≤ bound) :
    (items.map f).sum ≤ items.length * bound := by
  have sums := List.sum_le_card_nsmul (items.map f) bound fun value mem => by
    obtain ⟨item, own, rfl⟩ := List.mem_map.1 mem
    exact most item own
  rwa [List.length_map, smul_eq_mul] at sums

private theorem whole_of_exact {timeout : Duration} {attempts : List (Attempt σ ι α)} {stop : Nat}
    {request : ExecutionRequest σ ι α} {handler : Handler σ ι α}
    (exact : stop = time + (attempts.map (·.spent handler request timeout.toMillisUp)).sum +
      ((bus.waits attempts.length).map Duration.toMillisUp).sum)
    (whole : ∀ timer ∈ timeout :: bus.waits attempts.length, Duration.nanosPerMilli ∣ timer.nanos) :
    (stop - time) * Duration.nanosPerMilli =
        (attempts.map (·.spentNanos handler request timeout)).sum + ((bus.waits attempts.length).map (·.nanos)).sum ∧
      (stop - time) * Duration.nanosPerMilli ≤
        attempts.length * timeout.nanos + (attempts.length - 1) * bus.config.retry.maxBackoff.nanos := by
  obtain ⟨own, others⟩ := List.forall_mem_cons.1 whole
  have spent : (attempts.map (·.spent handler request timeout.toMillisUp)).sum * Duration.nanosPerMilli =
      (attempts.map (·.spentNanos handler request timeout)).sum := by
    rw [← List.sum_map_mul_right]
    exact congrArg List.sum (List.map_congr_left fun attempt _ => (Attempt.spentNanos_of_whole own).symm)
  have waited : ((bus.waits attempts.length).map Duration.toMillisUp).sum * Duration.nanosPerMilli =
      ((bus.waits attempts.length).map (·.nanos)).sum := by
    rw [← List.sum_map_mul_right]
    exact congrArg List.sum (List.map_congr_left fun wait mem => Duration.toMillisUp_of_whole (others wait mem))
  have total : (stop - time) * Duration.nanosPerMilli =
      (attempts.map (·.spentNanos handler request timeout)).sum + ((bus.waits attempts.length).map (·.nanos)).sum := by
    rw [← spent, ← waited, ← Nat.add_mul, exact, Nat.add_assoc, Nat.add_sub_cancel_left]
  have given : (attempts.map (·.spentNanos handler request timeout)).sum ≤ attempts.length * timeout.nanos :=
    sum_map_le fun attempt _ => attempt.spentNanos_le timeout
  have most : ((bus.waits attempts.length).map (·.nanos)).sum ≤
      (bus.waits attempts.length).length * bus.config.retry.maxBackoff.nanos :=
    sum_map_le fun wait own => by
      obtain ⟨number, _, rfl⟩ := List.mem_map.1 own
      exact bus.config.retry.backoff_le_maxBackoff number
  have count : (bus.waits attempts.length).length = attempts.length - 1 := by
    rw [waits, List.length_map, List.length_range']
  rw [count] at most
  exact ⟨total, total.trans_le (Nat.add_le_add given most)⟩

private theorem lasts_of_row {attempts : List (Attempt σ ι α)}
    {run : Run (BusState σ ι α) (BusEvent α) (Except DispatchError α)}
    (admitted : bus.Admitted intent correlation context time state.application)
    (row : let start := state.withApplication (bus.admission intent correlation context time state.application).2
      ExecutionService.Row bus.config.retry bus.draw (ExecutionService.single bound.handler)
        (bus.request intent bound correlation context) ⟨1, time, start⟩ attempts
        (bus.execution intent bound correlation context time start))
    (calls : run.callsOf .execution = (bus.execution intent bound correlation context time
      (state.withApplication (bus.admission intent correlation context time state.application).2)).calls)
    (ends : run.result.isSome ↔ (bus.execution intent bound correlation context time
      (state.withApplication (bus.admission intent correlation context time state.application).2)).result.isSome)
    (lasts : run.time = (bus.execution intent bound correlation context time
      (state.withApplication (bus.admission intent correlation context time state.application).2)).time) :
    bus.Lasts intent bound correlation context time state attempts run := by
  obtain ⟨last, mem, result, stops, _⟩ := row.ends
  have limit := ExecutionService.attemptLimit_toNat bus.config.retry
  have limited := row.limited
  simp only [UInt32.toNat_one] at limited
  have times (timeout : Duration) (has : (bus.request intent bound correlation context).timeout = some timeout) :=
    time_of_follow has row.begins row.follow mem
  have exact (timeout : Duration) (has : bound.timeout.or bus.config.defaultTimeout = some timeout)
      (steady : bus.config.retry.jitter = false) : run.time = time + (attempts.map (·.spent bound.handler
        (bus.request intent bound correlation context) timeout.toMillisUp)).sum +
          ((bus.waits attempts.length).map Duration.toMillisUp).sum := by
    obtain ⟨waits, _, took, plain, _⟩ := times timeout has
    rw [lasts, stops, took, plain steady]
    rfl
  refine
    { refused := fun refused => absurd admitted refused
      admitted := fun _ => row
      calls := calls.trans row.calls
      limited := by omega
      bounded := fun timeout has => ?_
      unbounded := fun unlimited => ?_
      exact := exact
      atMost := fun timeout has => ?_
      whole := fun timeout has steady whole => whole_of_exact (exact timeout has steady) whole }
  · rw [ends, result]
    exact Attempt.under_isSome (Option.isSome_of_eq_some has)
  · have each (attempt : Attempt σ ι α) := @Attempt.under_isSome_iff _ _ _ bound.handler
      (bus.request intent bound correlation context) attempt unlimited
    rw [ends, result]
    refine ⟨fun done attempt own => (each attempt).1 ?_, fun ended => (each last).2 (ended last (List.mem_of_getLast? mem))⟩
    exact isSome_of_follow row.begins row.follow mem done attempt own
  · obtain ⟨waits, count, took, _, most⟩ := times timeout has
    have spent : (attempts.map (·.spent bound.handler (bus.request intent bound correlation context)
        timeout.toMillisUp)).sum ≤ attempts.length * timeout.toMillisUp := sum_map_le fun attempt _ => attempt.spent_le _
    have waited : (waits.map Duration.toMillisUp).sum ≤ waits.length * bus.config.retry.maxBackoff.toMillisUp :=
      sum_map_le fun wait own => Duration.toMillisUp_le (most wait own)
    have others : waits.length = attempts.length - 1 := by omega
    rw [others] at waited
    rw [lasts, stops, took]
    simp only at spent waited ⊢
    omega

private theorem Lasts.of_same {attempts : List (Attempt σ ι α)}
    {run other : Run (BusState σ ι α) (BusEvent α) (Except DispatchError α)}
    (lasts : bus.Lasts intent bound correlation context time state attempts run) (calls : other.calls = run.calls)
    (result : other.result = run.result) (stops : other.time = run.time) :
    bus.Lasts intent bound correlation context time state attempts other := by
  have callsOf : other.callsOf .execution = run.callsOf .execution := congrArg (List.filter _) calls
  constructor
  · unfold Run.EndsAt
    rw [result, stops]
    exact lasts.refused
  · exact lasts.admitted
  · rw [callsOf]
    exact lasts.calls
  · exact lasts.limited
  · rw [result]
    exact lasts.bounded
  · rw [result]
    exact lasts.unbounded
  · rw [stops]
    exact lasts.exact
  · rw [stops]
    exact lasts.atMost
  · rw [stops]
    exact lasts.whole

variable (bound time state) in
private theorem lasts_stages (answers : bus.AnswersAtOnce intent correlation context) :
    ∃ attempts, bus.Lasts intent bound correlation context time state attempts
      ((bus.stages intent bound correlation context time).run time state) := by
  have staged : bus.Staged intent bound correlation context time state
      ((bus.stages intent bound correlation context time).run time state) := staged_of_stages
  by_cases admitted : bus.Admitted intent correlation context time state.application
  · have fresh : (bus.request intent bound correlation context).attempt = 1 := rfl
    obtain ⟨attempts, row⟩ := ExecutionService.row_of_stack bus.config.retry bus.draw bound.handler fresh time
      (state.withApplication (bus.admission intent correlation context time state.application).2)
    obtain ⟨calls, _⟩ := staged.executed admitted
    rw [admission_time answers admitted] at calls
    obtain ⟨ends, stops⟩ := stages_of_execution bound answers admitted
    exact ⟨attempts, lasts_of_row admitted row calls ends stops⟩
  · have ended : ((bus.stages intent bound correlation context time).run time state).EndsAt time :=
      stages_endsAt answers admitted
    have uncalled : ((bus.stages intent bound correlation context time).run time state).callsOf .execution = [] :=
      Classical.byContradiction fun called => admitted (staged.execution.1 called)
    refine ⟨[], ?_⟩
    exact
      { refused := fun _ => ⟨rfl, ended⟩
        admitted := fun other => absurd other admitted
        calls := uncalled
        limited := Nat.zero_le _
        bounded := fun _ _ => ended.1
        unbounded := fun _ => iff_of_true ended.1 (List.forall_mem_nil _)
        exact := fun _ _ _ => ended.2
        atMost := fun timeout _ => by simp [ended.2]
        whole := fun _ _ _ whole => whole_of_exact ended.2 whole }

end

end Bus

/-- A dispatch of a bound intent, by a call that is not answered from the cache, about which everybody but the handler
answers at once, lasts as long as the attempts that it makes and the waits between them. So it comes to an end when
each attempt is bounded in time, and otherwise when each attempt does. -/
theorem Call.lasts (bus : Bus σ ι α) (call : Call σ ι α) (time : Nat) (state : BusState σ ι α)
    {bound : BoundHandler σ ι α} (found : state.registry.tryFind call.intent.type = .ok (some bound))
    (misses : call.hit? bus state = none)
    (answers : bus.AnswersAtOnce call.intent (call.intent.correlation (bus.freshId state.issued)) call.context) :
    ∃ attempts, bus.Lasts call.intent bound (call.intent.correlation (bus.freshId state.issued)) call.context time
      (bus.entered call.intent state) attempts ((call.task bus).run time state) := by
  obtain ⟨attempts, lasts⟩ := Bus.lasts_stages bound time (bus.entered call.intent state) answers
  have plain : bus.Lasts call.intent bound (call.intent.correlation (bus.freshId state.issued)) call.context time
      (bus.entered call.intent state) attempts ((bus.dispatch call.intent call.context).run time state) := by
    rw [bus.run_dispatch call.intent call.context time state found]
    exact lasts.of_same (Run.calls_mapEvents_inside _ _) rfl rfl
  refine ⟨attempts, ?_⟩
  have asked : call.Asks bus state := call.asks
  cases asked with
  | nothing task _ =>
    rw [task]
    exact plain
  | miss task own others _ =>
    have falls := Bus.fallsThrough_of_miss call.context time own others
    rw [task]
    exact plain.of_same falls.calls falls.result falls.time
  | hit _ _ _ _ answers => nomatch answers.symm.trans misses

/-- A report that needs longer than the thirty milliseconds it is given is tried twice, fifty milliseconds apart. -/
theorem Call.lasts_of_slow_report :
    let config := { BusConfig.standard with
      defaultTimeout := some (.ofMillis 30), retry := { RetryPolicy.single with maxAttempts := 2 } }
    let bus := { Traffic.publishingBus with config := config }
    let entry : RegistryEntry Unit Unit String := .of ⟨Traffic.slowReport, Traffic.slowHandler.name⟩ Traffic.slowHandler
    let state : BusState Unit Unit String :=
      ⟨⟨.permissive, Table.empty.insert Traffic.slowReport entry⟩, .empty, .empty, .empty, (), 0, 0⟩
    let call : Call Unit Unit String := ⟨.plain Traffic.slowReport (.fresh .nil 0) (), .empty, false⟩
    let correlation := call.intent.correlation (bus.freshId state.issued)
    state.registry.tryFind Traffic.slowReport = .ok (some entry.bound) ∧ call.hit? bus state = none ∧
      bus.AnswersAtOnce call.intent correlation call.context ∧
        ((call.task bus).run 5 state).time = 5 + (30 + 30) + 50 ∧
          ∃ attempts, bus.Lasts call.intent entry.bound correlation call.context 5 (bus.entered call.intent state) attempts
            ((call.task bus).run 5 state) := by
  intro config bus entry state call correlation
  have found : state.registry.tryFind Traffic.slowReport = .ok (some entry.bound) := rfl
  have misses : call.hit? bus state = none := rfl
  have answers : bus.AnswersAtOnce call.intent correlation call.context := by
    refine ⟨(Task.prompt_signals _).bind fun _ => trivial, trivial, trivial, ?_⟩
    rintro _ ⟨⟩ _ _
    trivial
  exact ⟨found, misses, answers, by decide +kernel, call.lasts bus 5 state found misses answers⟩

end IntentBus
