import IntentBus.Bank.Demo
import IntentBus.Proofs.Backstage
import IntentBus.Proofs.Books
import IntentBus.Proofs.Cancellations
import IntentBus.Proofs.Evaluation
import IntentBus.Proofs.Results
import IntentBus.Proofs.Turns

/-! The bank at its bus: a call changes the ledger in its last turn only, and only if its request is served. -/

namespace IntentBus.Bank

def holdings (state : BusState Ledger Request Reply) : Registry Ledger Request Reply × Ledger :=
  (state.registry, state.application)

/-- What a request that came to a result has made of the holdings: with an error nothing, and else what the ledger
makes of it. -/
def Served {ε : Type} (request : Request) (result : Except ε Reply)
    (before after : Registry Ledger Request Reply × Ledger) : Prop :=
  match result with
  | .error _ => after = before
  | .ok reply => after.1 = before.1 ∧ before.2.serve request = (.ok reply, after.2)

def Teller (handler : Handler Ledger Request Reply) : Prop :=
  ∃ type timeout, handler = { Bank.handler type with timeout := timeout }

private theorem passes_of_isValid {set : ConstraintSet} (valid : set.evaluate.isValid = true) :
    ∀ constraint ∈ set.constraints, ¬constraint.rule.Fails constraint.value := by
  intro constraint mem fails
  have unbroken := List.filterMap_eq_nil_iff.1 (List.isEmpty_iff.1 valid) constraint mem
  rw [Constraint.violation?, Rule.violation?_eq_some_iff.2 (.fails fails)] at unbroken
  cases unbroken

private theorem sound_of_isValid {request : Request} (valid : request.constraints.evaluate.isValid = true) :
    request.Sound := by
  have passes := passes_of_isValid valid
  cases request with
  | «open» holder deposit =>
    have mem : (⟨"deposit", .int deposit, .nonNegative, some "opening deposit cannot be negative"⟩ : Constraint) ∈
      (Request.open holder deposit).constraints.constraints := .tail _ (.head _)
    exact Classical.byContradiction fun negative => passes _ mem (Rule.fails_int_iff.2.2 negative)
  | withdraw account amount =>
    have mem : (⟨"amount", .int amount, .positive, none⟩ : Constraint) ∈
      (Request.withdraw account amount).constraints.constraints := .tail _ (.head _)
    exact Classical.byContradiction fun notPositive => passes _ mem (Rule.fails_int_iff.1.2 notPositive)
  | balance account => trivial

private theorem eq_of_serve_error {ledger : Ledger} {request : Request} {failure : Failure}
    (fails : (ledger.serve request).1 = .error failure) : (ledger.serve request).2 = ledger := by
  cases request with
  | «open» holder deposit => cases fails
  | withdraw account amount =>
    simp only [Ledger.serve] at fails ⊢
    cases taken : ledger.withdraw account amount with
    | error other => rfl
    | ok next =>
      rw [taken] at fails
      cases fails
  | balance account => rfl

abbrev Serves {ε : Type} (request : Request) (task : BusTask Ledger Request Reply (Except ε Reply)) (seen : Bool)
    (state : BusState Ledger Request Reply) : Prop :=
  task.Commits (fun _ => false) holdings (fun _ => Served request) seen (holdings state) state

section

variable {handler : Handler Ledger Request Reply} (teller : Teller handler)
  (request : ExecutionRequest Ledger Request Reply) (seen : Bool) (state : BusState Ledger Request Reply)

include teller

private theorem serves_attempt : Serves request.intent.content (handler.attempt request) seen state := by
  obtain ⟨type, timeout, rfl⟩ := teller
  intro _ _
  simp only [Task.bind]
  have still := @eq_of_serve_error state.application request.intent.content
  cases served : state.application.serve request.intent.content with
  | mk result next =>
    rw [served] at still
    cases result with
    | error failure => exact fun _ => congrArg (Prod.mk state.registry) (still rfl)
    | ok reply => exact fun _ => ⟨rfl, served⟩

private theorem serves_single : Serves request.intent.content (ExecutionService.single handler request) seen state := by
  have service (seen : Bool) : Serves request.intent.content (handler.service request) seen state := by
    refine (serves_attempt teller request seen state).bind fun result late before after serves => ?_
    cases result with
    | error failure => exact serves
    | ok reply => exact serves
  have traced : Serves request.intent.content (ExecutionService.traced handler.service request) seen state := by
    refine Task.Commits.mapEvents (fun _ => rfl) fun _ => ?_
    exact (service seen).bind fun result late before after serves _ => serves
  unfold ExecutionService.single ExecutionService.bounded
  cases request.timeout with
  | none => exact traced
  | some timeout =>
    refine (traced.bounded 0 timeout.toMillisUp).bind fun result late before after serves => ?_
    cases result with
    | none => exact serves
    | some result => exact serves

private theorem serves_attemptsFrom (policy : RetryPolicy) (draw : Nat → Nat) (attempt : UInt32) :
    Serves request.intent.content
      (ExecutionService.attemptsFrom policy draw (ExecutionService.single handler) request attempt) seen state := by
  induction attempt using ExecutionService.attemptsFrom.induct policy generalizing seen state with
  | case1 attempt ih =>
    rw [ExecutionService.attemptsFrom]
    refine (serves_single teller (request.withAttempt attempt) seen state).bind fun result late before after serves => ?_
    cases result with
    | ok reply => exact serves
    | error fault =>
      obtain rfl : holdings after = before := serves
      simp only
      split
      · rfl
      · next more =>
        have delays : (ExecutionService.delayBefore policy draw (attempt + 1)).Keeps holdings after := by
          simp only [ExecutionService.delayBefore]
          split
          · exact fun _ => ⟨rfl, trivial⟩
          · trivial
        refine (delays.commits False.elim rfl).bind ?_
        rintro delay late _ after ⟨_, rfl⟩
        refine Task.commits_signal_bind rfl ?_
        refine ((Task.keeps_sleep delay.toMillisUp after).commits False.elim rfl).bind ?_
        rintro _ late _ after ⟨_, rfl⟩
        exact ih more late after

private theorem serves_stack (policy : RetryPolicy) (draw : Nat → Nat) :
    Serves request.intent.content (ExecutionService.stack policy draw handler request) seen state :=
  serves_attemptsFrom teller request seen state policy draw _

end

def Settled (limited : Bool) (request : Request) (context : ExecutionContext) (result : Except DispatchError Reply)
    (before after : Registry Ledger Request Reply × Ledger) : Prop :=
  Served request result before after ∧
    ((∃ reply, result = .ok reply) → request.Sound ∧ (limited = true → request.Allowed context))

/-- A task that leaves the holdings alone in all turns but the last, in which a call is settled. -/
abbrev Settles (limited : Bool) (request : Request) (context : ExecutionContext)
    (task : BusTask Ledger Request Reply (Except DispatchError Reply)) (seen : Bool)
    (state : BusState Ledger Request Reply) : Prop :=
  task.Commits (fun _ => false) holdings (fun _ => Settled limited request context) seen (holdings state) state

section

variable (options : Options) (freshId : Nat → String) (draw : Nat → Nat) (scope : String) (request : Request)
  (provenance : Provenance) (correlation : Correlation) (context : ExecutionContext) (started : Nat)
  {seen : Bool} (state : BusState Ledger Request Reply)

private theorem holdings_uncounted (metrics : MetricsCollector) (state : BusState Ledger Request Reply) :
    holdings { state with metrics := metrics } = holdings state := rfl

private theorem settled_error {limited : Bool} {request : Request} {context : ExecutionContext} {error : DispatchError}
    {before after : Registry Ledger Request Reply × Ledger} (same : after = before) :
    Settled limited request context (.error error) before after := by
  refine ⟨same, ?_⟩
  rintro ⟨_, other⟩
  nomatch other

private theorem settles_error {limited : Bool} {request : Request} {context : ExecutionContext}
    {state : BusState Ledger Request Reply} {error : DispatchError}
    {task : BusTask Ledger Request Reply (Except DispatchError Reply)} (keeps : task.Keeps holdings state)
    (fails : task.Returns (· = .error error)) : Settles limited request context task seen state := by
  refine ((keeps.commits False.elim rfl).and_returns fails).mono ?_
  rintro late _ before after ⟨⟨_, same⟩, rfl⟩
  exact settled_error same

private theorem keeps_application {ε β : Type} {event : ε → BusEvent Reply} {task : Task Ledger ε β}
    (reads : ∀ ledger, task.Keeps id ledger) : (BusTask.ofApplication event task).Keeps holdings state :=
  ((reads state.application).focus event fun _ => rfl).of_id

private theorem sound_of_judged : (Bus.judged .structural ((bus options freshId draw).engine (request.intent scope
    provenance)) correlation started : BusTask Ledger Request Reply _).Returns
      (fun result => result = .ok () → request.Sound) := by
  have evaluates : ((bus options freshId draw).engine (request.intent scope provenance)).Returns
      (· = request.constraints.evaluate) := Task.returns_bind _ fun _ => rfl
  refine (evaluates.focus BusEvent.log).bind fun outcome same => ?_
  split
  · next valid => exact fun _ => sound_of_isValid (same ▸ valid)
  · exact fun _ _ passed => nomatch passed

private theorem validates : ((bus options freshId draw).validate (request.intent scope provenance) correlation
    started).Commits (fun _ => false) holdings (fun _ result before after =>
      after = before ∧ (result = .ok () → request.Sound)) seen (holdings state) state := by
  have engine (ledger : Ledger) : ((bus options freshId draw).engine (request.intent scope provenance)).Keeps id ledger :=
    (Task.keeps_signals _ ledger).bind fun _ _ => trivial
  have own (ledger : Ledger) : ((request.intent scope provenance).validate correlation).Keeps id ledger := trivial
  have keeps : ((bus options freshId draw).validate (request.intent scope provenance) correlation started).Keeps
      holdings state := by
    refine (Bus.keeps_judged_of_asked correlation started state .structural
      (keeps_application state engine)).bind fun result state => ?_
    cases result with
    | error error => trivial
    | ok => exact Bus.keeps_judged_of_asked correlation started state .custom (keeps_application state own)
  have returns : ((bus options freshId draw).validate (request.intent scope provenance) correlation started).Returns
      (fun result => result = .ok () → request.Sound) := by
    refine (sound_of_judged options freshId draw scope request provenance correlation started).bind ?_
    intro result sound
    cases result with
    | error error => exact fun passed => nomatch passed
    | ok => exact Task.returns_of_forall _ fun _ _ => sound rfl
  exact ((keeps.commits False.elim rfl).and_returns returns).mono fun _ _ _ _ ended => ⟨ended.1.2, ended.2⟩

private theorem allowed_of_access : (Bus.askIntent (request.intent scope provenance) correlation context).Returns
    (fun outcome => outcome.isAuthorized = true → request.Allowed context) := by
  cases request with
  | withdraw account amount =>
    change (Request.withdrawalAccess amount context).isAuthorized = true → amount.toInt ≤ limit context
    unfold Request.withdrawalAccess
    dsimp only
    split
    · exact fun granted => nomatch granted
    · next within => exact fun _ => Int.not_lt.1 within
  | _ => exact Task.returns_of_forall _ fun _ _ => trivial

private theorem authorizes : ((bus options freshId draw).authorize (request.intent scope provenance) correlation context
    started).Commits (fun _ => false) holdings (fun _ result before after =>
      after = before ∧ (result = .ok () → (!options.disableAuthorization) = true → request.Allowed context)) seen
        (holdings state) state := by
  have reads (ledger : Ledger) : (Bus.askIntent (request.intent scope provenance) correlation context).Keeps id ledger := by
    cases request <;> trivial
  have asked : ((bus options freshId draw).askGate (request.intent scope provenance) correlation context).Keeps holdings
      state := keeps_application state reads
  have answers : ((bus options freshId draw).askGate (request.intent scope provenance) correlation context).Returns
      (fun outcome => outcome.isAuthorized = true → request.Allowed context) :=
    (allowed_of_access scope request provenance correlation context).focus BusEvent.ofAccess
  have authorizing : ((bus options freshId draw).authorize (request.intent scope provenance) correlation context
      started).Keeps holdings state ∧ ((bus options freshId draw).authorize (request.intent scope provenance) correlation
        context started).Returns
          (fun result => result = .ok () → (!options.disableAuthorization) = true → request.Allowed context) := by
    unfold Bus.authorize
    split
    · next disabled => exact ⟨trivial, fun _ enabled => nomatch disabled.symm.trans (congrArg (!·) enabled)⟩
    · refine ⟨asked.bind fun outcome state => ?_, answers.bind fun outcome allowed => ?_⟩
      · split
        · trivial
        · exact fun _ => trivial
      · split
        · next granted => exact fun _ _ => allowed granted
        · exact fun _ _ passed => nomatch passed
  exact ((authorizing.1.commits False.elim rfl).and_returns authorizing.2).mono fun _ _ _ _ ended => ⟨ended.1.2, ended.2⟩

private theorem discreet_logPublisher : Publisher.Discreet logPublisher := fun _ _ => ⟨trivial, fun _ => trivial⟩

private theorem settles_execute {bound : BoundHandler Ledger Request Reply} (teller : Teller bound.handler)
    (sound : request.Sound) (allowed : (!options.disableAuthorization) = true → request.Allowed context) :
    Settles (!options.disableAuthorization) request context ((bus options freshId draw).execute
      (request.intent scope provenance) bound correlation context started) seen state := by
  refine (serves_stack teller ((bus options freshId draw).request (request.intent scope provenance) bound correlation
    context) seen state _ _).bind fun result late before after serves => ?_
  cases result with
  | error fault =>
    obtain rfl : holdings after = before := serves
    exact fun _ => settles_error (Bus.keeps_fail_uncounted holdings_uncounted _ _ _ after _)
      (Bus.returns_fail _ _ _ _)
  | ok reply =>
    have publishes : ((bus options freshId draw).publish (request.intent scope provenance) reply correlation).Aside
        BusEvent.Backstage := by
      refine Bus.aside_publish _ _ ?_ reply
      rintro _ ⟨⟩
      exact discreet_logPublisher
    refine Task.Prompt.commits (publishes.prompt.bind fun _ => Bus.prompt_succeed _ _ _ reply)
      ((publishes.keeps after).of_id.bind fun _ state => Bus.keeps_succeed_uncounted holdings_uncounted _ _ _ state reply)
      (Task.returns_bind _ fun _ => Bus.returns_succeed _ _ _ reply) ?_
    rintro _ _ rfl
    exact ⟨serves, fun _ => ⟨sound, allowed⟩⟩

private theorem settles_stages {bound : BoundHandler Ledger Request Reply} (teller : Teller bound.handler) :
    Settles (!options.disableAuthorization) request context ((bus options freshId draw).stages
      (request.intent scope provenance) bound correlation context started) seen state := by
  refine (validates options freshId draw scope request provenance correlation started state).bind ?_
  rintro result late _ after ⟨rfl, sound⟩
  cases result with
  | error error =>
    exact settles_error (Bus.keeps_reject_uncounted holdings_uncounted _ _ _ after _) (Bus.returns_reject _ _ _ _)
  | ok =>
    refine (authorizes options freshId draw scope request provenance correlation context started after).bind ?_
    rintro result late _ after ⟨rfl, allowed⟩
    cases result with
    | error error =>
      exact settles_error (Bus.keeps_fail_uncounted holdings_uncounted _ _ _ after _) (Bus.returns_fail _ _ _ _)
    | ok =>
      exact settles_execute options freshId draw scope request provenance correlation context started after teller
        (sound rfl) (allowed rfl)

def Staffed (registry : Registry Ledger Request Reply) : Prop :=
  ∀ type bound, registry.tryFind type = .ok (some bound) → Teller bound.handler

private theorem settles_dispatch (staffed : Staffed state.registry) : Settles (!options.disableAuthorization) request
    context ((bus options freshId draw).dispatch (request.intent scope provenance) context) seen state := by
  intro started _
  simp only [Task.bind]
  split
  · exact settled_error rfl
  · exact fun _ => settled_error rfl
  · next bound found =>
    have teller := staffed _ bound found
    have correlates : ((bus options freshId draw).correlate (request.intent scope provenance)).Keeps holdings state := by
      refine fun _ => ⟨?_, trivial⟩
      split
      · rfl
      · rfl
    refine (correlates.commits False.elim rfl).bind ?_
    rintro correlation late _ state ⟨_, rfl⟩
    have enters : (Bus.enterScope correlation).Keeps holdings state := fun _ => ⟨rfl, trivial⟩
    refine (enters.commits False.elim rfl).bind ?_
    rintro slot late _ state ⟨_, rfl⟩
    have stages := @settles_stages options freshId draw scope request provenance correlation context started late state
      bound teller
    have spanned (span : LogSpan) : Settles (!options.disableAuthorization) request context (BusTask.inSpan span
        ((bus options freshId draw).stages (request.intent scope provenance) bound correlation context started)) late
          state := stages.mapEvents fun _ => rfl
    have leaves (state : BusState Ledger Request Reply) : holdings (Bus.leaveScope slot state) = holdings state := rfl
    exact (spanned _).releasing leaves

/-- However a request is made, its call is settled. -/
theorem settles_call (staffed : Staffed state.registry) (cached : Bool) :
    Settles (!options.disableAuthorization) request context
      ((⟨request.intent scope provenance, context, cached⟩ : Call Ledger Request Reply).task (bus options freshId draw))
        seen state := by
  have dispatches := @settles_dispatch options freshId draw scope request provenance context seen state staffed
  cases cached with
  | false => exact dispatches
  | true => exact dispatches

end

end IntentBus.Bank
