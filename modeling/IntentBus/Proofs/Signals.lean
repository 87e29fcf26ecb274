import IntentBus.Proofs.Emissions
import IntentBus.Proofs.Histories
import IntentBus.Proofs.Recording

/-! What telemetry is told of a dispatch: the signals of what is observed of it, all of them in its last turn, and nothing if
it is dropped before that. -/

namespace IntentBus

variable {σ ι α β : Type}

private theorem telemetry?_of_execution {correlation : Correlation} {event : BusEvent α}
    (own : event.OfExecution correlation) : event.telemetry? = none := by
  rcases own with rfl | own
  · rfl
  · cases own <;> rfl

def signalsOf (events : List (BusEvent α)) : List TelemetrySignal := events.filterMap BusEvent.telemetry?

/-- Telemetry is told what is observed of an intent when its dispatch is over, and nothing before. -/
def Reports (intent : String) (events : List (BusEvent α)) : Option (Except DispatchError α) → Prop
  | none => signalsOf events = []
  | some result => ∃ observations, Observed intent (events.any BusEvent.consults) result observations ∧
    signalsOf events = observations.flatMap (·.signals)

private structure Unlooked (events : List (BusEvent α)) : Prop where
  unconsulted : events.any BusEvent.consults = false
  silent : signalsOf events = []

private structure Noted (observations : List Observation) (events : List (BusEvent α)) : Prop where
  consulted : events.any BusEvent.consults = true
  told : signalsOf events = observations.flatMap (·.signals)

@[simp] theorem signalsOf_append (events others : List (BusEvent α)) :
    signalsOf (events ++ others) = signalsOf events ++ signalsOf others :=
  List.filterMap_append

private theorem signalsOf_concat {events : List (BusEvent α)} {event : BusEvent α} (silent : event.telemetry? = none) :
    signalsOf (events ++ [event]) = signalsOf events := by
  rw [signalsOf_append, signalsOf, signalsOf, List.filterMap_cons_none silent, List.filterMap_nil, List.append_nil]

private theorem signalsOf_telemetry (signals : List TelemetrySignal) :
    signalsOf (signals.map .telemetry : List (BusEvent α)) = signals := by
  rw [signalsOf, List.filterMap_map]
  exact List.filterMap_some

private theorem telemetry?_inside (span : LogSpan) (event : BusEvent α) :
    BusEvent.telemetry? (event.inside span) = event.telemetry? := by
  cases event with
  | handler correlation event => cases event <;> rfl
  | _ => rfl

private theorem signalsOf_inside (span : LogSpan) (events : List (BusEvent α)) :
    signalsOf (events.map (.inside span)) = signalsOf events := by
  rw [signalsOf, List.filterMap_map]
  exact List.filterMap_congr fun event _ => telemetry?_inside span event

namespace Unlooked

variable {seen events : List (BusEvent α)} {intent : String} {result : Option (Except DispatchError α)}

private theorem nil : Unlooked ([] : List (BusEvent α)) := ⟨rfl, rfl⟩

private theorem concat (unlooked : Unlooked seen) {event : BusEvent α} (unconsulted : event.consults = false)
    (silent : event.telemetry? = none) : Unlooked (seen ++ [event]) := by
  obtain ⟨before, signalless⟩ := unlooked
  exact ⟨by simp [before, unconsulted], (signalsOf_concat silent).trans signalless⟩

private theorem reports (unlooked : Unlooked seen) {observations : List Observation} {result : Except DispatchError α}
    (observed : Observed intent false result observations) (unobserved : observations = []) :
    Reports intent seen (some result) := by
  refine ⟨observations, ?_, ?_⟩
  · rwa [unlooked.unconsulted]
  · rw [unlooked.silent, unobserved, List.flatMap_nil]

private theorem behind (unlooked : Unlooked seen) (reports : Reports intent events result) :
    Reports intent (seen ++ events) result := by
  obtain ⟨unconsulted, silent⟩ := unlooked
  cases result with
  | none =>
    rw [Reports, signalsOf_append, silent]
    exact reports
  | some result =>
    rw [Reports, signalsOf_append, silent, List.any_append, unconsulted, Bool.false_or, List.nil_append]
    exact reports

end Unlooked

private theorem Reports.inside {intent : String} {events : List (BusEvent α)} {result : Option (Except DispatchError α)}
    (reports : Reports intent events result) (span : LogSpan) : Reports intent (events.map (.inside span)) result := by
  have consults : BusEvent.consults ∘ .inside span = (BusEvent.consults : BusEvent α → Bool) :=
    funext (consults_inside span)
  cases result with
  | none => exact (signalsOf_inside span events).trans reports
  | some result =>
    rw [Reports, signalsOf_inside, List.any_map, consults]
    exact reports

private theorem Reports.concat {intent : String} {events : List (BusEvent α)} {result : Option (Except DispatchError α)}
    (reports : Reports intent events result) {event : BusEvent α} (unconsulted : event.consults = false)
    (silent : event.telemetry? = none) : Reports intent (events ++ [event]) result := by
  cases result with
  | none =>
    rw [Reports, signalsOf_concat silent]
    exact reports
  | some result =>
    rw [Reports, signalsOf_concat silent, List.any_append, List.any_cons, List.any_nil, unconsulted,
      Bool.or_false, Bool.or_false]
    exact reports

namespace Noted

variable {observations : List Observation} {seen : List (BusEvent α)} {intent : String}

private theorem concat (told : Noted observations seen) {event : BusEvent α} (silent : event.telemetry? = none) :
    Noted observations (seen ++ [event]) := by
  obtain ⟨consulted, same⟩ := told
  exact ⟨by simp [consulted], (signalsOf_concat silent).trans same⟩

private theorem observe (told : Noted observations seen) (observation : Observation) :
    Noted (observations ++ [observation]) (seen ++ observation.signals.map .telemetry) := by
  obtain ⟨consulted, same⟩ := told
  exact ⟨by simp [consulted], by simp [same, signalsOf_telemetry]⟩

private theorem reports (told : Noted observations seen) {result : Except DispatchError α}
    (observed : Observed intent true result observations) : Reports intent seen (some result) :=
  ⟨observations, by rwa [told.consulted], told.told⟩

private theorem tells {task : BusTask σ ι α β} (silent : task.Emits fun event => event.telemetry? = none)
    (told : Noted observations seen) : task.Tells (fun events _ => Noted observations events) seen :=
  silent.tells (fun _ _ told own => told.concat own) told

end Noted

namespace Bus

section

variable {bus : Bus σ ι α} {intent : Intent σ ι α} {observations : List Observation} {seen : List (BusEvent α)}

private theorem tells_signals {ε : Type} {fits : List ε → Option β → Prop} {f : Unit → Task σ ε β} {events seen : List ε}
    (rest : (f ()).Tells fits (seen ++ events)) : ((Task.signals events).bind f).Tells fits seen := by
  induction events generalizing seen with
  | nil => rwa [List.append_nil] at rest
  | cons event others ih =>
    rw [List.append_cons] at rest
    exact ih rest

variable (collecting : bus.collecting = true)

include collecting

private theorem tells_observe {fits : List (BusEvent α) → Option β → Prop} {f : Unit → BusTask σ ι α β}
    {observation : Observation} (rest : (f ()).Tells fits (seen ++ observation.signals.map .telemetry)) :
    ((bus.observe observation).bind f).Tells fits seen := by
  unfold observe
  rw [if_pos collecting]
  exact fun _ _ => tells_signals rest

private theorem reports_fail (told : Noted observations seen) (error : DispatchError) (started : Nat)
    (observed : ∀ length, Observed intent.name true (.error error : Except DispatchError α)
      (observations ++ [.failure intent.name error.kind length])) :
    (bus.fail intent error started).Tells (Reports intent.name) seen :=
  fun _ _ => tells_observe collecting (((told.observe _).concat rfl).reports (observed _))

private theorem reports_succeed (told : Noted [] seen) (output : α) (started : Nat) :
    (bus.succeed intent output started).Tells (Reports intent.name) seen := by
  refine fun _ _ => tells_observe collecting ?_
  split
  · exact ((told.observe _).concat rfl).reports (.success output _)
  · exact (told.observe _).reports (.success output _)

private theorem reports_reject (told : Noted [] seen) (phase : ValidationPhase) (violations : List Violation)
    (trace : IntentTrace) (started : Nat) :
    (bus.reject intent (.validation phase violations trace) started).Tells (Reports intent.name) seen :=
  tells_observe collecting (reports_fail collecting (told.observe _) _ started
    fun length => .invalid phase violations trace length)

variable (intent) (correlation : Correlation) (context : ExecutionContext) (started : Nat) (bound : BoundHandler σ ι α)

private theorem reports_execute (told : Noted [] seen) :
    (bus.execute intent bound correlation context started).Tells (Reports intent.name) seen := by
  have executes : (ExecutionService.stack bus.config.retry bus.draw bound.handler
      (bus.request intent bound correlation context)).Emits fun event => event.telemetry? = none :=
    (ExecutionService.opens_stack bound.handler _ _ _).emits (by rfl) fun _ own => telemetry?_of_execution own
  refine (told.tells executes).bind (fun _ told => told.told) fun _ result told => ?_
  cases result with
  | error fault =>
    exact fun _ _ => reports_fail collecting told _ started fun length =>
      .failure (.inr (stage_executionError _ _ fault)) length
  | ok output =>
    have publishes : (bus.publish intent output correlation).Emits fun event => event.telemetry? = none :=
      (bus.emits_publish intent correlation output).mono fun _ own => by cases own <;> rfl
    exact (told.tells publishes).bind (fun _ told => told.told) fun _ _ told => reports_succeed collecting told output started

private theorem reports_stages :
    (bus.stages intent bound correlation context started).Tells (Reports intent.name) [] := by
  -- The engine is asked first, and that is what shows that the dispatch is past lookup.
  have silent : (bus.validate intent correlation started).Emits fun event => event.telemetry? = none :=
    (bus.emits_validate intent correlation started).mono fun _ own => by cases own <;> rfl
  have asked : Noted [] [BusEvent.constraints, BusEvent.engine intent.name intent.constraints.size (α := α)] := ⟨rfl, rfl⟩
  have validates : (bus.validate intent correlation started).Tells (fun events _ => Noted [] events) [] := by
    change Task.Tells _ (Task.bind (judged .structural (bus.engine intent) correlation started) _) _
    exact asked.tells silent.2.2
  refine (validates.and (returns_validate bus intent correlation started).tells).bind (fun _ told => told.1.told) ?_
  rintro _ result ⟨told, rejects⟩
  cases result with
  | error error =>
    cases error with
    | validation phase violations trace => exact reports_reject collecting told phase violations trace started
    | _ => nomatch rejects _ rfl _ rfl
  | ok =>
    have silent : (bus.authorize intent correlation context started).Emits fun event => event.telemetry? = none :=
      (bus.emits_authorize intent correlation context started).mono fun _ own => by
        cases own.2 with
        | access event => cases event <;> rfl
        | _ => rfl
    refine ((told.tells silent).and (returns_authorize bus intent correlation context started).tells).bind
      (fun _ told => told.1.told) ?_
    rintro _ result ⟨told, denies⟩
    cases result with
    | error error =>
      exact reports_fail collecting told error started fun length => .failure (.inl (denies _ rfl error rfl)) length
    | ok => exact reports_execute intent collecting correlation context started bound told

private theorem reports_dispatch_behind (unlooked : Unlooked seen) :
    (bus.dispatch intent context).Tells (Reports intent.name) seen := by
  intro started _ _ state
  simp only [Task.bind]
  split
  · exact unlooked.reports (.lookup rfl) rfl
  · exact fun _ _ => (unlooked.concat rfl rfl).reports (.lookup rfl) rfl
  · next bound _ =>
    intro _ _ _ _
    apply Task.Tells.enclosed
    apply (reports_stages intent collecting _ context started bound).mono
    exact fun _ _ reports => unlooked.behind (reports.inside _)

private theorem reports_dispatchAndKeep (key : String) (unlooked : Unlooked seen) :
    (bus.dispatchAndKeep intent key context).Tells (Reports intent.name) seen := by
  refine (reports_dispatch_behind intent collecting context unlooked).bind (fun _ reports => reports) fun _ result reports => ?_
  cases result with
  | error error => exact reports
  | ok output => exact fun _ _ => reports.concat rfl rfl

/-- Telemetry is told of a dispatch what is observed of it. -/
theorem reports_dispatch : (bus.dispatch intent context).Tells (Reports intent.name) [] :=
  reports_dispatch_behind intent collecting context .nil

/-- It makes no difference whether the intent is dispatched through the cache. -/
theorem reports_dispatchCached : (bus.dispatchCached intent context).Tells (Reports intent.name) [] := by
  unfold dispatchCached
  split
  · exact reports_dispatch intent collecting context
  · next key _ =>
    intro _ state
    simp only [Task.bind]
    have asked (hit : Bool) : Unlooked ([] ++ [(.cacheGet intent.name key hit : BusEvent α)]) := Unlooked.nil.concat rfl rfl
    refine Task.tells_signal ?_
    split
    · exact reports_dispatchAndKeep intent collecting context key (asked _)
    · next result _ =>
      split
      · exact ((asked _).concat rfl rfl).reports (.kept result.value) rfl
      · exact reports_dispatchAndKeep intent collecting context key ((asked _).concat rfl rfl)

end

end Bus

end IntentBus
