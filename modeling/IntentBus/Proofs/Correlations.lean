import IntentBus.Proofs.Caching
import IntentBus.Proofs.Cancellations
import IntentBus.Proofs.Results

/-! The correlation of a dispatch: everybody who is called about an intent is told one id, which is active from lookup
to the end of the dispatch, whichever end that is. -/

namespace IntentBus

variable {σ ι α β : Type}

def BusEvent.correlationId? : BusEvent α → Option String
  | validate correlation | gate _ correlation | preProcess correlation | executeInContext correlation
  | execute correlation | handler correlation _ | postProcess correlation _ | onSuccess correlation
  | onError correlation _ => some correlation.id
  | publish origin _ => some origin.correlationId
  | _ => none

/-- What can be seen of the stages of a dispatch: what they ask, each with the correlation of the dispatch, and what
they report. -/
inductive BusEvent.OfStages (intent : Intent σ ι α) (correlation : Correlation) : BusEvent α → Prop
  | constraints : OfStages intent correlation constraints
  | engine : OfStages intent correlation (engine intent.name intent.constraints.size)
  | validate : OfStages intent correlation (validate correlation)
  | gate : OfStages intent correlation (gate intent.name correlation)
  | access (event : AccessEvent) : OfStages intent correlation (ofAccess event)
  | execution {event : BusEvent α} (own : event.OfExecution correlation) : OfStages intent correlation event
  | sideEffect (output : α) : OfStages intent correlation (sideEffect output)
  | publish (effect : SideEffect) : OfStages intent correlation (publish (intent.descriptor correlation) effect)
  | telemetry (signal : TelemetrySignal) : OfStages intent correlation (telemetry signal)
  | log (entry : LogEntry) : OfStages intent correlation (log entry)

namespace BusEvent.OfStages

variable {intent : Intent σ ι α} {correlation : Correlation} {event : BusEvent α}

private theorem of_validation (own : event.OfValidation intent correlation) : event.OfStages intent correlation := by
  cases own with
  | constraints => exact .constraints
  | engine => exact .engine
  | validate => exact .validate
  | log entry => exact .log entry

private theorem of_authorization (own : event.OfAuthorization intent correlation) : event.OfStages intent correlation := by
  cases own with
  | gate => exact .gate
  | access event => exact .access event
  | log entry => exact .log entry

private theorem of_publication (own : event.OfPublication intent correlation) : event.OfStages intent correlation := by
  cases own with
  | sideEffect output => exact .sideEffect output
  | publish effect => exact .publish effect
  | log entry => exact .log entry

private theorem of_report (own : event.OfReport) : event.OfStages intent correlation := by
  cases own with
  | telemetry signal => exact .telemetry signal
  | log entry => exact .log entry

end BusEvent.OfStages

def ErrsUnder (correlation : Correlation) (result : Except DispatchError β) : Prop :=
  ∀ error, result = .error error → ∃ elapsed, error.trace? = some (.ofCorrelation correlation elapsed)

private theorem errsUnder_ok {correlation : Correlation} (value : β) : ErrsUnder correlation (.ok value) :=
  fun _ same => nomatch same

private theorem errsUnder_error {correlation : Correlation} {error : DispatchError} {elapsed : Duration}
    (own : error.trace? = some (.ofCorrelation correlation elapsed)) :
    ErrsUnder correlation (.error error : Except DispatchError β) := by
  rintro _ ⟨⟩
  exact ⟨elapsed, own⟩

private theorem ErrsUnder.error {γ : Type} {correlation : Correlation} {error : DispatchError}
    (errs : ErrsUnder correlation (.error error : Except DispatchError β)) :
    ErrsUnder correlation (.error error : Except DispatchError γ) := by
  obtain ⟨elapsed, own⟩ := errs error rfl
  exact errsUnder_error own

/-- An event tells the same correlation id inside a span. -/
theorem correlationId?_inside (span : LogSpan) (event : BusEvent α) :
    (event.inside span).correlationId? = event.correlationId? := by
  cases event with
  | handler correlation event => cases event <;> rfl
  | _ => rfl

/-- The stages tell nobody another id than that of their correlation. -/
theorem id_of_told {intent : Intent σ ι α} {correlation : Correlation} {event : BusEvent α}
    (own : event.OfStages intent correlation) {id : String} (told : event.correlationId? = some id) :
    id = correlation.id := by
  cases own with
  | execution own =>
    rcases own with rfl | own
    · exact (Option.some.inj told).symm
    · cases own with
      | log entry => nomatch told
      | _ => exact (Option.some.inj told).symm
  | access event => cases event <;> nomatch told
  | validate | gate | publish effect => exact (Option.some.inj told).symm
  | _ => nomatch told

namespace Bus

variable (bus : Bus σ ι α) (intent : Intent σ ι α) (correlation : Correlation) (context : ExecutionContext)
  (started : Nat)

variable (bound : BoundHandler σ ι α)

/-- Nothing else is seen of the stages of a dispatch. -/
theorem emits_stages :
    (bus.stages intent bound correlation context started).Emits (BusEvent.OfStages intent correlation) :=
  emits_stages_of_each context started (fun _ => .of_validation) (fun _ _ => .of_authorization) (fun _ => .execution)
    (fun _ => .of_publication) (fun _ => .of_report) bound

private theorem traced_judged (phase : ValidationPhase) (judge : ApplicationTask σ ValidationOutcome) :
    (judged phase judge correlation started : BusTask σ ι α _).Returns (ErrsUnder correlation) := by
  apply Task.returns_bind
  intro outcome
  split
  · exact errsUnder_ok ()
  · exact fun _ _ => errsUnder_error rfl

private theorem traced_validate : (bus.validate intent correlation started).Returns (ErrsUnder correlation) := by
  apply (traced_judged correlation started .structural (bus.engine intent)).bind
  intro result expected
  cases result with
  | error error => exact expected
  | ok => exact traced_judged correlation started .custom (intent.validate correlation)

private theorem traced_authorize :
    (bus.authorize intent correlation context started).Returns (ErrsUnder correlation) := by
  unfold authorize
  split
  · exact errsUnder_ok ()
  · apply Task.returns_bind
    intro outcome
    split
    · exact errsUnder_ok ()
    · exact fun _ _ => errsUnder_error rfl

private theorem traced_execute :
    (bus.execute intent bound correlation context started).Returns (ErrsUnder correlation) := by
  apply Task.returns_bind
  intro result
  cases result with
  | error fault =>
    intro now state
    apply (returns_fail bus intent started _).mono
    rintro _ rfl
    cases fault <;> exact errsUnder_error rfl
  | ok output =>
    apply Task.returns_bind
    intro _
    apply (returns_succeed bus intent started output).mono
    rintro _ rfl
    exact errsUnder_ok output

private theorem traced_stages :
    (bus.stages intent bound correlation context started).Returns (ErrsUnder correlation) := by
  apply (traced_validate bus intent correlation started).bind
  intro result rejected
  cases result with
  | error error =>
    apply (returns_reject bus intent started error).mono
    rintro _ rfl
    exact rejected.error
  | ok =>
    apply (traced_authorize bus intent correlation context started).bind
    intro result denied
    cases result with
    | error error =>
      apply (returns_fail bus intent started error).mono
      rintro _ rfl
      exact denied.error
    | ok => exact traced_execute bus intent correlation context started bound

end Bus

def BusState.scopes (state : BusState σ ι α) : List (Nat × String) := state.tracker.scopes

/-- Whoever is called at a moment is told one id, which is active then, while one more dispatch is under way than
before. -/
def Moment.Shares (id : String) (before : Nat) (moment : Moment (BusState σ ι α) (BusEvent α)) : Prop :=
  ∀ told, moment.event.correlationId? = some told →
    told = id ∧ moment.state.tracker.isActive id = true ∧ moment.state.inFlight = before + 1

/-- As many dispatches are under way as before, under the same ids. -/
structure BusState.SameScopes (state after : BusState σ ι α) : Prop where
  inFlight : after.inFlight = state.inFlight
  active : ∀ id, after.tracker.isActive id = state.tracker.isActive id

/-- A run in which no scope is opened or closed. -/
structure Run.Unscoped (state : BusState σ ι α) (run : Run (BusState σ ι α) (BusEvent α) β) : Prop where
  ends : run.result.isSome
  tracker : run.state.tracker = state.tracker
  moments : ∀ moment ∈ run.trace, moment.state.tracker = state.tracker

/-- A task that dispatches an intent under an id, from a time and a state on. The id is the intent's own, or else the
next one of the supply, and all who are called are told it; the scope is closed at each end that the dispatch can
come to, and wherever it is dropped. -/
structure Correlated (bus : Bus σ ι α) (intent : Intent σ ι α) (id : String)
    (task : BusTask σ ι α (Except DispatchError α)) (time : Nat) (state : BusState σ ι α) : Prop where
  given : ∀ own, intent.provenance.correlationId = some own →
    id = own ∧ (task.run time state).state.issued = state.issued
  fresh : intent.provenance.correlationId = none →
    id = bus.freshId state.issued ∧ (task.run time state).state.issued = state.issued + 1
  shared : ∀ moment ∈ (task.run time state).trace, moment.Shares id state.inFlight
  errs : ∀ error, (task.run time state).result = some (.error error) →
    ∃ elapsed, error.trace? = some ⟨intent.name, intent.provenance.id, some id, elapsed⟩
  closed : (task.run time state).result.isSome → state.SameScopes (task.run time state).state
  dropped : ∀ left, let cut := (task.within left).run time state
    cut.result.isSome ∧ cut.trace <+: (task.run time state).trace ∧ state.SameScopes cut.state

private theorem sameScopes_of_scopes {state after : BusState σ ι α} (same : after.scopes = state.scopes) :
    state.SameScopes after where
  inFlight := congrArg List.length same
  active id := congrArg (fun scopes : List (Nat × String) => scopes.any (·.2 = id)) same

private theorem shares_of_silent {id : String} {before : Nat} {moment : Moment (BusState σ ι α) (BusEvent α)}
    (silent : moment.event.correlationId? = none) : moment.Shares id before :=
  fun _ tells => nomatch silent.symm.trans tells

namespace Bus

variable {bus : Bus σ ι α} {intent : Intent σ ι α} {context : ExecutionContext} {state : BusState σ ι α}

private theorem dispatchAndKeep_follows (bus : Bus σ ι α) (intent : Intent σ ι α) (context : ExecutionContext)
    (state : BusState σ ι α) (key : String) (time : Nat) :
    let plain := (bus.dispatch intent context).run time state
    let keeping := (bus.dispatchAndKeep intent key context).run time state
    keeping.result = plain.result ∧ keeping.state.tracker = plain.state.tracker ∧
      keeping.state.issued = plain.state.issued ∧ ∃ late, keeping.trace = plain.trace ++ late ∧
        ∀ moment ∈ late, moment.state.tracker = plain.state.tracker ∧ moment.event.correlationId? = none := by
  intro plain keeping
  have runs : keeping = _ := run_dispatchAndKeep context time
  rw [runs]
  cases ends : ((bus.dispatch intent context).run time state).result with
  | none =>
    rw [Run.andThen_of_none ends]
    exact ⟨rfl, rfl, rfl, [], (List.append_nil _).symm, List.forall_mem_nil _⟩
  | some result =>
    rw [Run.andThen_of_some ends]
    cases result with
    | error error => exact ⟨rfl, rfl, rfl, [], rfl, List.forall_mem_nil _⟩
    | ok output => exact ⟨rfl, rfl, rfl, _, rfl, List.forall_mem_cons.2 ⟨⟨rfl, rfl⟩, List.forall_mem_nil _⟩⟩

private theorem missed_moment {key : String} {found : Option (CachedResult α)} {time : Nat}
    {moment : Moment (BusState σ ι α) (BusEvent α)}
    (mem : moment ∈ (missEvents intent key found).map fun event => ⟨time, state, event⟩) :
    moment.state = state ∧ moment.event.correlationId? = none := by
  obtain ⟨event, seen, rfl⟩ := List.mem_map.1 mem
  refine ⟨rfl, ?_⟩
  cases found with
  | none =>
    cases List.mem_singleton.1 seen
    rfl
  | some kept =>
    rcases List.mem_cons.1 seen with rfl | seen
    · rfl
    · cases List.mem_singleton.1 seen
      rfl

private theorem apart_issued : BusState.Apart (BusState.issued : BusState σ ι α → Nat) where
  application := fun _ _ => rfl
  drawn := fun _ _ => rfl
  metrics := fun _ _ => rfl

private structure Carries (bus : Bus σ ι α) (intent : Intent σ ι α) (task : BusTask σ ι α (Except DispatchError α))
    (time : Nat) (state : BusState σ ι α) : Prop where
  issued : (task.run time state).state.issued = (bus.entered intent state).issued
  shares : ∀ moment ∈ (task.run time state).trace,
    moment.Shares (intent.correlation (bus.freshId state.issued)).id state.inFlight
  errs : ∀ result, (task.run time state).result = some result →
    ErrsUnder (intent.correlation (bus.freshId state.issued)) result
  restores : task.Restores BusState.scopes state

private theorem Carries.correlated {task : BusTask σ ι α (Except DispatchError α)} {time : Nat}
    (carries : Carries bus intent task time state) :
    Correlated bus intent (intent.provenance.correlationId.getD (bus.freshId state.issued)) task time state where
  given own has := by
    refine ⟨by rw [has, Option.getD_some], ?_⟩
    rw [carries.issued]
    simp only [entered, has, Option.isSome_some, if_true]
  fresh absent := by
    refine ⟨by rw [absent, Option.getD_none], ?_⟩
    rw [carries.issued]
    simp only [entered, absent, Option.isSome_none, Bool.false_eq_true, if_false]
  shared := carries.shares
  errs error fails := carries.errs _ fails error rfl
  closed ends := sameScopes_of_scopes (carries.restores.run time ends)
  dropped left := by
    obtain ⟨ends, before⟩ := task.run_within_ends left time state
    exact ⟨ends, before, sameScopes_of_scopes (carries.restores left time)⟩

section

variable {bound : BoundHandler σ ι α} (found : state.registry.tryFind intent.type = .ok (some bound))

include found

private theorem shares_dispatch (time : Nat) : ∀ moment ∈ ((bus.dispatch intent context).run time state).trace,
    moment.Shares (intent.correlation (bus.freshId state.issued)).id state.inFlight := by
  rw [run_dispatch bus intent context time state found]
  intro moment mem told tells
  obtain ⟨inner, own, rfl⟩ := List.mem_map.1 mem
  rw [correlationId?_inside] at tells
  have kept := (keeps_stages apart_tracker bus intent (intent.correlation (bus.freshId state.issued)) context time
    (bus.entered intent state) bound).moments time inner own
  have ofStages := (emits_stages bus intent (intent.correlation (bus.freshId state.issued)) context time bound).run
    time (bus.entered intent state) inner.event (List.mem_map_of_mem own)
  refine ⟨id_of_told ofStages tells, ?_, ?_⟩
  · simp [kept, entered, CorrelationTracker.enter, CorrelationTracker.isActive]
  · simp [BusState.inFlight, kept, entered, CorrelationTracker.enter, CorrelationTracker.count]

private theorem restores_dispatch (sound : state.Sound) :
    (bus.dispatch intent context).Restores BusState.scopes state := by
  intro left time
  obtain ⟨ends, _⟩ := (bus.stages intent bound (intent.correlation (bus.freshId state.issued)) context
    time).run_within_ends left time (bus.entered intent state)
  have kept := ((keeps_stages apart_tracker bus intent (intent.correlation (bus.freshId state.issued)) context time
    (bus.entered intent state) bound).bounded 0 left).run time
  obtain ⟨result, same⟩ := Option.isSome_iff_exists.1 ends
  rw [run_within_dispatch context found rfl, Run.releasing_state_of_some _ ((Run.mapEvents_result _ _).trans same),
    Run.mapEvents_state]
  simp only [BusState.scopes, leaveScope, Task.within, kept]
  exact sound.scopes_release_enter (intent.correlation (bus.freshId state.issued)).id

private theorem carries_dispatch (sound : state.Sound) (time : Nat) :
    Carries bus intent (bus.dispatch intent context) time state where
  issued := by
    have kept := (keeps_stages apart_issued bus intent (intent.correlation (bus.freshId state.issued)) context time
      (bus.entered intent state) bound).run time
    have leaves (state : BusState σ ι α) (slot : Nat) : (leaveScope slot state).issued = state.issued := rfl
    rw [run_dispatch bus intent context time state found, Run.releasing_state_same fun state => leaves state _]
    exact kept
  shares := shares_dispatch found time
  errs result ends := by
    rw [run_dispatch bus intent context time state found] at ends
    exact (traced_stages bus intent _ context time bound).run ends
  restores := restores_dispatch found sound

private theorem carries_dispatchAndKeep (sound : state.Sound) (key : String) (time : Nat) :
    Carries bus intent (bus.dispatchAndKeep intent key context) time state := by
  have carries : Carries bus intent (bus.dispatch intent context) time state := carries_dispatch found sound time
  obtain ⟨sameResult, _, sameIssued, late, split, silent⟩ := dispatchAndKeep_follows bus intent context state key time
  refine ⟨sameIssued.trans carries.issued, ?_, sameResult ▸ carries.errs, ?_⟩
  · rw [split, List.forall_mem_append]
    exact ⟨carries.shares, fun moment mem => shares_of_silent (silent moment mem).2⟩
  · apply carries.restores.bind
    intro result after
    cases result with
    | error error => trivial
    | ok output => exact fun _ => ⟨rfl, trivial⟩

private theorem carries_of_miss (sound : state.Sound) {key : String} (own : bus.cacheKey? intent = some key)
    (misses : ∀ kept, state.cache.get? intent.name key = some kept → kept.type ≠ intent.type.resultType) (time : Nat) :
    Carries bus intent (bus.dispatchCached intent context) time state := by
  have carries : Carries bus intent (bus.dispatchAndKeep intent key context) time state :=
    carries_dispatchAndKeep found sound key time
  have restores : (bus.dispatchCached intent context).Restores BusState.scopes state := by
    unfold dispatchCached
    rw [own]
    apply Task.restores_get
    intro _
    refine Task.Restores.emit ?_ _
    simp only [Task.bind]
    split
    · exact carries.restores
    · next kept has =>
      rw [if_neg (misses kept has)]
      exact carries.restores.emit _
  have runs := run_dispatchCached_of_miss context time own misses
  refine ⟨runs ▸ carries.issued, ?_, runs ▸ carries.errs, restores⟩
  rw [runs, Run.after_trace, List.forall_mem_append]
  exact ⟨fun moment mem => shares_of_silent (missed_moment mem).2, carries.shares⟩

end

private theorem unscoped_dispatch (unbound : ∀ bound, state.registry.tryFind intent.type ≠ .ok (some bound))
    (time : Nat) : ((bus.dispatch intent context).run time state).Unscoped state := by
  simp only [dispatch, Task.bind_eq, Task.run_bind, Task.run_clock, Task.run_read, Run.still_andThen, List.map_nil,
    Run.after_nil]
  cases found : state.registry.tryFind intent.type with
  | error error => exact ⟨rfl, rfl, List.forall_mem_nil _⟩
  | ok found? =>
    cases found? with
    | none => exact ⟨rfl, rfl, List.forall_mem_cons.2 ⟨rfl, List.forall_mem_nil _⟩⟩
    | some bound => exact absurd found (unbound bound)

private theorem unscoped_dispatchCached (unbound : ∀ bound, state.registry.tryFind intent.type ≠ .ok (some bound))
    {key : String} (own : bus.cacheKey? intent = some key)
    (misses : ∀ kept, state.cache.get? intent.name key = some kept → kept.type ≠ intent.type.resultType) (time : Nat) :
    ((bus.dispatchCached intent context).run time state).Unscoped state := by
  have plain : ((bus.dispatch intent context).run time state).Unscoped state := unscoped_dispatch unbound time
  obtain ⟨sameResult, sameTracker, _, late, split, after⟩ := dispatchAndKeep_follows bus intent context state key time
  rw [run_dispatchCached_of_miss context time own misses]
  refine ⟨?_, sameTracker.trans plain.tracker, ?_⟩
  · rw [Run.after_result, sameResult]
    exact plain.ends
  · rw [Run.after_trace, split, List.forall_mem_append, List.forall_mem_append]
    refine ⟨fun moment mem => ?_, plain.moments, fun moment mem => (after moment mem).1.trans plain.tracker⟩
    rw [(missed_moment mem).1]

private theorem unscoped_of_hit {key : String} (own : bus.cacheKey? intent = some key) {kept : CachedResult α}
    (found : state.cache.get? intent.name key = some kept) (typed : kept.type = intent.type.resultType) (time : Nat) :
    ((bus.dispatchCached intent context).run time state).Unscoped state := by
  rw [run_dispatchCached_of_hit context time own found typed]
  refine ⟨rfl, rfl, fun moment mem => ?_⟩
  obtain ⟨_, _, rfl⟩ := List.mem_map.1 mem
  rfl

end Bus

namespace Traffic

variable {bus : Bus σ ι α} {traffic : Traffic σ ι α}

/-- Whatever happened to a bus before, a call that goes past lookup has one correlation from there to its end: its
judges, its handler in each of its attempts and its publisher are told one id, that of the intent or else a fresh one,
which is active as long as they are called and not one moment longer, however the call ends or is dropped. A call that
ends at lookup or is answered from the cache opens no scope. -/
theorem correlated_of_steps {handlers : List (Handler σ ι α)} {application : σ} {state : BusState σ ι α}
    (built : (bus.build handlers application).2 = .ok state) (steps : Steps bus (opening state) traffic)
    (call : Call σ ι α) (time : Nat) :
    (∀ bound, traffic.state.registry.tryFind call.intent.type = .ok (some bound) →
      call.hit? bus traffic.state = none →
        Correlated bus call.intent (call.intent.provenance.correlationId.getD (bus.freshId traffic.state.issued))
          (call.task bus) time traffic.state) ∧
      ((call.hit? bus traffic.state).isSome ∨
        (∀ bound, traffic.state.registry.tryFind call.intent.type ≠ .ok (some bound)) →
          ((call.task bus).run time traffic.state).Unscoped traffic.state) := by
  have sound := sound_of_steps built steps
  have asked : call.Asks bus traffic.state := call.asks
  cases asked with
  | nothing task misses =>
    rw [task, misses]
    refine ⟨fun bound found _ => (Bus.carries_dispatch found sound time).correlated, ?_⟩
    rintro (hit | unbound)
    · nomatch hit
    · exact Bus.unscoped_dispatch unbound time
  | miss task own others misses =>
    rw [task, misses]
    refine ⟨fun bound found _ => (Bus.carries_of_miss found sound own others time).correlated, ?_⟩
    rintro (hit | unbound)
    · nomatch hit
    · exact Bus.unscoped_dispatchCached unbound own others time
  | hit task own found typed answers =>
    rw [task, answers]
    refine ⟨?_, fun _ => Bus.unscoped_of_hit own found typed time⟩
    rintro _ _ ⟨⟩

/-- A second report is asked for while the first one is still judged. -/
theorem correlated_of_second_report :
    let plain : Intent Unit Unit String := .plain slowReport (.fresh .nil 0) ()
    let first := { plain with validate := fun _ => (Task.sleep 40).bind fun _ => .done .valid }
    let entry : RegistryEntry Unit Unit String := .of ⟨slowReport, slowHandler.name⟩ slowHandler
    let state : BusState Unit Unit String :=
      ⟨⟨.permissive, Table.empty.insert slowReport entry⟩, .empty, .empty, .empty, (), 0, 0⟩
    let traffic := (opening state).turn first.name [] ((publishingBus.dispatch first .empty).advance 0 state)
    let second : Call Unit Unit String := ⟨{ plain with sideEffect := fun report => some ⟨report, .null⟩ }, .empty, false⟩
    (publishingBus.build [slowHandler] ()).2 = .ok state ∧ Steps publishingBus (opening state) traffic ∧
      traffic.state.inFlight = 1 ∧ traffic.state.registry.tryFind slowReport = .ok (some entry.bound) ∧
        second.hit? publishingBus traffic.state = none ∧
          Correlated publishingBus second.intent (toString 1) (second.task publishingBus) 5 traffic.state := by
  intro plain first entry state traffic second
  have built : (publishingBus.build [slowHandler] ()).2 = .ok state := rfl
  have steps : Steps publishingBus (opening state) traffic := .single (.dispatch first .empty 0)
  have busy : traffic.state.inFlight = 1 := rfl
  have found : traffic.state.registry.tryFind slowReport = .ok (some entry.bound) := rfl
  have misses : second.hit? publishingBus traffic.state = none := rfl
  exact ⟨built, steps, busy, found, misses, (correlated_of_steps built steps second 5).1 entry.bound found misses⟩

end Traffic

end IntentBus
