import IntentBus.Proofs.Drops
import IntentBus.Proofs.Pipeline
import IntentBus.Proofs.Scopes

/-! Invocations that are dropped before they end. Nothing that lasts happens in a dispatch before its last stretch,
in which it waits for nobody; so a dispatch that is dropped has done no more than ask its judges and its handler. -/

namespace IntentBus

variable {σ ι α β : Type}

/-- Whether an event is something of a dispatch that stays: that it is counted, its effect published, or its result
kept. -/
def BusEvent.lasts : BusEvent α → Bool
  | telemetry _ | publish .. | cachePut .. => true
  | _ => false

def BusState.held (state : BusState σ ι α) :
    Registry σ ι α × MetricsCollector × ResultCache α × CorrelationTracker :=
  (state.registry, state.metrics, state.cache, state.tracker)

/-- What is left when a dispatch is dropped: of its scope, nothing but that its slot is taken. -/
def BusState.standing (state : BusState σ ι α) :
    Registry σ ι α × MetricsCollector × ResultCache α × List (Nat × String) :=
  (state.registry, state.metrics, state.cache, state.tracker.scopes)

private theorem aside_held : BusState.Aside (BusState.held : BusState σ ι α → _) :=
  ⟨fun _ _ => rfl, fun _ _ => rfl⟩

/-- Nothing that is seen of an execution stays. -/
theorem lasts_of_execution {correlation : Correlation} {event : BusEvent α}
    (own : event.OfExecution correlation) : event.lasts = false := by
  rcases own with rfl | own
  · rfl
  · cases own <;> rfl

private theorem lasts_inside (span : LogSpan) (event : BusEvent α) : (event.inside span).lasts = event.lasts := by
  cases event with
  | handler correlation event => cases event <;> rfl
  | _ => rfl

namespace Bus

variable (bus : Bus σ ι α) (intent : Intent σ ι α) (correlation : Correlation) (context : ExecutionContext)
  (started : Nat)

/-- Nothing that is seen of validation stays. -/
theorem passing_validate : (bus.validate intent correlation started).Emits (BusEvent.lasts · = false) :=
  (bus.emits_validate intent correlation started).mono fun _ own => by cases own <;> rfl

/-- Nothing that is seen of authorization stays. -/
theorem passing_authorize : (bus.authorize intent correlation context started).Emits (BusEvent.lasts · = false) :=
  (bus.emits_authorize intent correlation context started).mono fun _ own => by
    cases own.2 with
    | access event => cases event <;> rfl
    | _ => rfl

private theorem prompt_observe (observation : Observation) : (bus.observe observation).Prompt := by
  unfold observe
  split
  · exact fun _ _ => Task.prompt_signals _
  · trivial

/-- A failure is reported at once. -/
theorem prompt_fail (error : DispatchError) : (bus.fail intent error started).Prompt :=
  fun _ _ => (prompt_observe bus _).bind fun _ => trivial

/-- A rejection is reported at once. -/
theorem prompt_reject (error : DispatchError) : (bus.reject intent error started).Prompt := by
  unfold reject
  split
  · exact (prompt_observe bus _).bind fun _ => prompt_fail bus intent started _
  · exact prompt_fail bus intent started _

/-- A success is reported at once. -/
theorem prompt_succeed (output : α) : (bus.succeed intent output started).Prompt := by
  intro _ _
  apply (prompt_observe bus _).bind
  intro _
  split
  · trivial
  · trivial

def PublishesAtOnce : Prop := ∀ publisher ∈ bus.publisher, ∀ origin effect, (publisher origin effect).Prompt

variable {bus}

/-- An output is published at once if the publisher answers at once. -/
theorem prompt_publish (answers : bus.PublishesAtOnce) (output : α) :
    (bus.publish intent output correlation).Prompt := by
  unfold publish
  cases has : bus.publisher with
  | none => trivial
  | some publisher =>
    cases intent.sideEffect output with
    | none => trivial
    | some effect =>
      have delivers := answers publisher has (intent.descriptor correlation) effect
      apply delivers.focus.bind
      intro failure
      cases failure with
      | none => trivial
      | some failure => trivial

variable {intent correlation started} {state : BusState σ ι α}

private theorem withdraws_execute (answers : bus.PublishesAtOnce) (bound : BoundHandler σ ι α) :
    (bus.execute intent bound correlation context started).Withdraws BusState.held (BusEvent.lasts · = false)
      state := by
  have emits : (ExecutionService.stack bus.config.retry bus.draw bound.handler
      (bus.request intent bound correlation context)).Emits (BusEvent.lasts · = false) :=
    (ExecutionService.opens_stack bound.handler _ _ _).emits (by rfl) fun _ own => lasts_of_execution own
  apply Task.Withdraws.bind (ExecutionService.keeps_stack aside_held bound.handler _ _ _ state) emits
  intro result after _
  cases result with
  | error fault =>
    have prompt (error : Duration → DispatchError) : (Task.bind (BusTask.elapsedSince started) fun elapsed =>
        bus.fail intent (error elapsed) started).Prompt := fun _ _ => prompt_fail bus intent started _
    exact (prompt _).withdraws
  | ok output =>
    exact ((prompt_publish intent correlation answers output).bind fun _ =>
      prompt_succeed bus intent started output).withdraws

private theorem withdraws_stages (answers : bus.PublishesAtOnce) (bound : BoundHandler σ ι α) :
    (bus.stages intent bound correlation context started).Withdraws BusState.held (BusEvent.lasts · = false)
      state := by
  apply Task.Withdraws.bind (keeps_validate aside_held bus intent correlation started state)
    (passing_validate bus intent correlation started)
  intro result after _
  cases result with
  | error error => exact (prompt_reject bus intent started error).withdraws
  | ok =>
    apply Task.Withdraws.bind (keeps_authorize aside_held bus intent correlation context started after)
      (passing_authorize bus intent correlation context started)
    intro result after _
    cases result with
    | error error => exact (prompt_fail bus intent started error).withdraws
    | ok => exact withdraws_execute context answers bound

section

variable {left time : Nat}

/-- There is no time to drop a dispatch before lookup. -/
theorem run_within_lookup : ((bus.dispatch intent context).within left).run time state =
    ((match state.registry.tryFind intent.type with
      | .error error => .done (.error (.configuration error))
      | .ok none => notFound state.registry intent time
      | .ok (some bound) => bus.dispatchTo intent bound context time : BusTask σ ι α _).within left).run time state :=
  rfl

/-- The dispatch of a bound intent that is dropped is that of its stages, with its scope closed. -/
theorem run_within_dispatch {bound : BoundHandler σ ι α}
    (found : state.registry.tryFind intent.type = .ok (some bound))
    (own : correlation = intent.correlation (bus.freshId state.issued)) :
    ((bus.dispatch intent context).within left).run time state =
      ((((bus.stages intent bound correlation context time).within left).run time
        (bus.entered intent state)).mapEvents (.inside (dispatchSpan intent bound.binding.handler correlation))).releasing
          (leaveScope state.tracker.nextSlot) := by
  subst own
  have enters : ((bus.dispatchTo intent bound context time).within left).run time state =
      ((((bus.stages intent bound (intent.correlation (bus.freshId state.issued)) context time).mapEvents
        (.inside (dispatchSpan intent bound.binding.handler (intent.correlation (bus.freshId state.issued))))).releasing
          (leaveScope state.tracker.nextSlot)).within left).run time (bus.entered intent state) := by
    unfold entered dispatchTo correlate
    split
    · rfl
    · rfl
  rw [run_within_lookup, found, ← Task.run_within_mapEvents, ← Task.run_within_releasing]
  exact enters

end

private theorem standing_of_held {after : BusState σ ι α} (sound : state.Sound)
    (held : after.held = (bus.entered intent state).held) :
    (leaveScope state.tracker.nextSlot after).standing = state.standing := by
  simp only [BusState.held, Prod.mk.injEq] at held
  obtain ⟨registry, metrics, cache, tracker⟩ := held
  have closed := sound.scopes_release_enter (intent.correlation (bus.freshId state.issued)).id
  simp only [BusState.standing, leaveScope, registry, metrics, cache, tracker]
  simp only [entered, closed]

private theorem withdraws_dispatch (answers : bus.PublishesAtOnce) (sound : state.Sound) :
    (bus.dispatch intent context).Withdraws BusState.standing (BusEvent.lasts · = false) state := by
  intro left time cut
  cases found : state.registry.tryFind intent.type with
  | error error =>
    rw [run_within_lookup, found] at cut
    nomatch cut
  | ok found? =>
    cases found? with
    | none =>
      rw [run_within_lookup, found] at cut
      nomatch cut
    | some bound =>
      rw [run_within_dispatch context found rfl, Run.releasing_result, Run.mapEvents_result] at cut
      obtain ⟨held, passing⟩ := withdraws_stages context answers bound left time cut
      rw [run_within_dispatch context found rfl]
      generalize ((bus.stages intent bound _ context time).within left).run time _ = run at cut held passing ⊢
      refine ⟨?_, fun event mem => ?_⟩
      · rw [Run.releasing_state_of_some _ ((Run.mapEvents_result _ run).trans cut)]
        exact standing_of_held sound held
      · rw [Run.releasing_events, Run.mapEvents_events] at mem
        obtain ⟨inner, own, rfl⟩ := List.mem_map.1 mem
        rw [lasts_inside]
        exact passing inner own

private theorem withdraws_dispatchAndKeep (answers : bus.PublishesAtOnce) (sound : state.Sound) (key : String) :
    (bus.dispatchAndKeep intent key context).Withdraws BusState.standing (BusEvent.lasts · = false) state := by
  refine (withdraws_dispatch context answers sound).bind_prompt fun result => ?_
  cases result with
  | error error => trivial
  | ok output => exact fun _ _ => trivial

private theorem withdraws_dispatchCached (answers : bus.PublishesAtOnce) (sound : state.Sound) :
    (bus.dispatchCached intent context).Withdraws BusState.standing (BusEvent.lasts · = false) state := by
  unfold dispatchCached
  split
  · exact withdraws_dispatch context answers sound
  · next key _ =>
    apply Task.withdraws_get
    intro _
    refine Task.Withdraws.emit (by rfl) ?_
    simp only [Task.bind]
    split
    · exact withdraws_dispatchAndKeep context answers sound key
    · split
      · exact Task.Prompt.withdraws trivial
      · exact (withdraws_dispatchAndKeep context answers sound key).emit (by rfl)

/-- A dispatch that began in a state and was dropped before its end, compared with the same dispatch to its end:
what it did is what it would have done until then, and none of it is left in the state. -/
structure Withdrawn (state : BusState σ ι α)
    (whole : Run (BusState σ ι α) (BusEvent α) (Except DispatchError α)) (deadline : Nat)
    (cut : Run (BusState σ ι α) (BusEvent α) (Option (Except DispatchError α))) : Prop where
  result : cut.result = some none
  time : cut.time = deadline
  trace : cut.trace <+: whole.trace
  passing : ∀ event ∈ cut.events, event.lasts = false
  metrics : cut.state.metrics = state.metrics
  cache : cut.state.cache = state.cache
  registry : cut.state.registry = state.registry
  inFlight : cut.state.inFlight = state.inFlight
  active : ∀ id, cut.state.tracker.isActive id = state.tracker.isActive id

/-- A dispatch that began in a state and has until a deadline: it goes as it would go without, or is withdrawn. -/
structure Cancelled (state : BusState σ ι α)
    (whole : Run (BusState σ ι α) (BusEvent α) (Except DispatchError α)) (deadline : Nat)
    (cut : Run (BusState σ ι α) (BusEvent α) (Option (Except DispatchError α))) : Prop where
  completed : ∀ result, whole.result = some result → whole.time ≤ deadline →
    cut = ⟨some (some result), whole.time, whole.state, whole.trace⟩
  withdrawn : (whole.result.isSome → deadline < whole.time) → Withdrawn state whole deadline cut

private theorem cancelled_of_withdraws {task : BusTask σ ι α (Except DispatchError α)}
    (withdraws : task.Withdraws BusState.standing (BusEvent.lasts · = false) state) (time left : Nat) :
    Cancelled state (task.run time state) (time + left) ((task.within left).run time state) where
  completed result ends inTime := Task.run_bounded_of_le ends inTime
  withdrawn late := by
    obtain ⟨cut, stops, before⟩ := Task.run_bounded_of_lt late
    obtain ⟨standing, passing⟩ := withdraws left time cut
    simp only [BusState.standing, Prod.mk.injEq] at standing
    obtain ⟨registry, metrics, cache, scopes⟩ := standing
    exact
      { result := cut
        time := stops
        trace := before
        passing := passing
        metrics := metrics
        cache := cache
        registry := registry
        inFlight := congrArg List.length scopes
        active := fun id => congrArg (fun scopes : List (Nat × String) => scopes.any (·.2 = id)) scopes }

end Bus

namespace Traffic

variable {bus : Bus σ ι α} {traffic : Traffic σ ι α}

/-- Whatever happened to a bus before, a dispatch that is dropped when its time is up has run as it would have run
without a limit. If it was not at its end by then, no trace of it is left but in the application, as long as the
publisher keeps nobody waiting. -/
theorem cancelled_of_steps (answers : bus.PublishesAtOnce) {handlers : List (Handler σ ι α)} {application : σ}
    {state : BusState σ ι α} (built : (bus.build handlers application).2 = .ok state)
    (steps : Steps bus (opening state) traffic) (intent : Intent σ ι α) (context : ExecutionContext)
    (time left : Nat) :
    ∀ task ∈ [bus.dispatch intent context, bus.dispatchCached intent context],
      Bus.Cancelled traffic.state (task.run time traffic.state) (time + left)
        ((task.within left).run time traffic.state) := by
  have sound := sound_of_steps built steps
  simp only [List.forall_mem_cons]
  refine ⟨?_, ?_, List.forall_mem_nil _⟩
  · exact Bus.cancelled_of_withdraws (Bus.withdraws_dispatch context answers sound) time left
  · exact Bus.cancelled_of_withdraws (Bus.withdraws_dispatchCached context answers sound) time left

def slowReport : IntentType := ⟨"Report", "Report", .query, "text", 0⟩

def slowHandler : Handler Unit Unit String :=
  .plain slowReport "ReportHandler" fun _ _ => (Task.sleep 40).bind fun _ => .done (.ok "report")

def publishingBus : Bus Unit Unit String :=
  { Bus.ofConfig .standard toString id with collecting := true, publisher := some fun _ _ => .done none }

/-- A second report is dropped after thirty milliseconds, while the first one is under way. -/
theorem cancelled_of_slow_report :
    let plain : Intent Unit Unit String := .plain slowReport (.fresh .nil 0) ()
    let intent := { plain with sideEffect := fun report => some ⟨report, .null⟩ }
    let state : BusState Unit Unit String :=
      ⟨⟨.permissive, Table.empty.insert slowReport (.of ⟨slowReport, slowHandler.name⟩ slowHandler)⟩, .empty, .empty,
        .empty, (), 0, 0⟩
    let first := (publishingBus.dispatch intent .empty).advance 0 state
    let traffic := (opening state).turn intent.name [] first
    let second := publishingBus.dispatch intent .empty
    publishingBus.PublishesAtOnce ∧ (publishingBus.build [slowHandler] ()).2 = .ok state ∧
      Steps publishingBus (opening state) traffic ∧ traffic.state.inFlight = 1 ∧
        second ∈ [second, publishingBus.dispatchCached intent .empty] ∧
        (second.run 5 traffic.state).time = 45 ∧
        Bus.Cancelled traffic.state (second.run 5 traffic.state) (5 + 30)
          ((second.within 30).run 5 traffic.state) := by
  intro plain intent state first traffic second
  have answers : publishingBus.PublishesAtOnce := by
    rintro _ ⟨⟩ _ _
    trivial
  have built : (publishingBus.build [slowHandler] ()).2 = .ok state := rfl
  have steps : Steps publishingBus (opening state) traffic := .single (.dispatch intent .empty 0)
  have mem : second ∈ [second, publishingBus.dispatchCached intent .empty] := .head _
  have busy : traffic.state.inFlight = 1 := by decide +kernel
  have ends : (second.run 5 traffic.state).time = 45 := by decide +kernel
  exact ⟨answers, built, steps, busy, mem, ends, cancelled_of_steps answers built steps intent .empty 5 30 second mem⟩

end Traffic

end IntentBus
