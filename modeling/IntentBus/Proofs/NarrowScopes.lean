import IntentBus.Proofs.Correlations
import IntentBus.Proofs.OpenScopes

/-! The scopes of a bus at work, in slots of 64 bits: whatever happens to a bus, calls of its tracker have made the tracker
what it is. A tracker with such slots tells the same about the dispatches under way after the same calls, until it has given
out all its slots. -/

namespace IntentBus

variable {σ ι α : Type}

namespace BusState

/-- Calls have made the tracker of the state what it is, and a tracker with slots of 64 bits tells the same after them. -/
structure MadeBy (calls : List ScopeCall) (state : BusState σ ι α) : Prop where
  tracker : (CorrelationTracker.scoping.after calls).tracker = state.tracker
  entered : ScopeCall.entered calls = state.tracker.nextSlot
  narrow : state.tracker.nextSlot < UInt64.size → (NarrowTracker.scoping.after calls).tracker.Alike state.tracker

private theorem madeBy_of_tracker {calls : List ScopeCall} {state : BusState σ ι α}
    (made : (CorrelationTracker.scoping.after calls).tracker = state.tracker) : state.MadeBy calls := by
  have entered : ScopeCall.entered calls = state.tracker.nextSlot := by
    rw [← made, CorrelationTracker.nextSlot_after]
  refine ⟨made, entered, fun few => ?_⟩
  rw [← made]
  exact NarrowTracker.alike_after (entered ▸ few)

variable {state after : BusState σ ι α} {more : List ScopeCall}

/-- Where the same dispatches are under way as before, a tracker with slots of 64 bits tells so as well. -/
theorem SameScopes.narrow (same : state.SameScopes after) (made : after.MadeBy more)
    (few : after.tracker.nextSlot < UInt64.size) : (NarrowTracker.scoping.after more).tracker.Alike state.tracker where
  count := (made.narrow few).count.trans same.inFlight
  isActive id := ((made.narrow few).isActive id).trans (same.active id)

end BusState

/-- Whoever is told an id is told one that a tracker with slots of 64 bits knows then, and it counts one more dispatch than
before. -/
theorem Moment.Shares.narrow {id : String} {before : Nat} {moment : Moment (BusState σ ι α) (BusEvent α)}
    (shares : moment.Shares id before) {calls : List ScopeCall} (made : moment.state.MadeBy calls)
    (few : moment.state.tracker.nextSlot < UInt64.size) {told : String} (tells : moment.event.correlationId? = some told) :
    NarrowTracker.scoping.isActive (NarrowTracker.scoping.after calls).tracker told = true ∧
      NarrowTracker.scoping.count (NarrowTracker.scoping.after calls).tracker = before + 1 := by
  obtain ⟨rfl, active, counted⟩ := shares told tells
  obtain ⟨count, isActive⟩ := made.narrow few
  exact ⟨(isActive told).trans active, count.trans counted⟩

/-- A dispatch that is withdrawn leaves the same dispatches under way as before. -/
theorem Bus.Withdrawn.sameScopes {state : BusState σ ι α}
    {whole : Run (BusState σ ι α) (BusEvent α) (Except DispatchError α)} {deadline : Nat}
    {cut : Run (BusState σ ι α) (BusEvent α) (Option (Except DispatchError α))}
    (withdrawn : Bus.Withdrawn state whole deadline cut) : state.SameScopes cut.state :=
  ⟨withdrawn.inFlight, withdrawn.active⟩

private theorem Call.preserves_task {holds : CorrelationTracker → Prop} (stable : CorrelationTracker.Stable holds)
    (bus : Bus σ ι α) (call : Call σ ι α) {state : BusState σ ι α} (now : holds state.tracker) :
    (call.task bus).Preserves (BusState.Tracks holds) state := by
  unfold Call.task
  split
  · exact bus.preserves_dispatchCached stable call.intent call.context now
  · exact bus.preserves_dispatch stable call.intent call.context now

namespace Traffic

variable {bus : Bus σ ι α} {traffic : Traffic σ ι α}

/-- Whatever happens to a bus, calls of its tracker have made it what it is. Others are added to them while one more call of
the bus runs, whether it comes to its end or is dropped: at each moment at which something is seen of it, and behind it. -/
theorem made_of_steps {handlers : List (Handler σ ι α)} {application : σ} {state : BusState σ ι α}
    (built : (bus.build handlers application).2 = .ok state) (steps : Steps bus (opening state) traffic) :
    ∃ calls, traffic.state.MadeBy calls ∧ ∀ (call : Call σ ι α) (time : Nat),
      (∀ moment ∈ ((call.task bus).run time traffic.state).trace, ∃ more, moment.state.MadeBy (calls ++ more)) ∧
        (∃ more, ((call.task bus).run time traffic.state).state.MadeBy (calls ++ more)) ∧
        ∀ left, ∃ more, (((call.task bus).within left).run time traffic.state).state.MadeBy (calls ++ more) := by
  obtain ⟨calls, made⟩ :=
    (orderly_of_steps (CorrelationTracker.stable_made []) ⟨[], rfl⟩ built steps).now
  have further {later : BusState σ ι α}
      (tracked : ∃ more, (CorrelationTracker.scoping.after (calls ++ more)).tracker = later.tracker) :
      ∃ more, later.MadeBy (calls ++ more) :=
    tracked.imp fun _ => BusState.madeBy_of_tracker
  refine ⟨calls, BusState.madeBy_of_tracker made, fun call time => ?_⟩
  have now : ∃ more, (CorrelationTracker.scoping.after (calls ++ more)).tracker = traffic.state.tracker :=
    ⟨[], by rwa [List.append_nil]⟩
  have preserves := Call.preserves_task (CorrelationTracker.stable_made calls) bus call now
  obtain ⟨moments, final⟩ := preserves.run now time
  exact ⟨fun moment mem => further (moments moment mem), further final,
    fun left => further ((preserves.bounded 0 left).run now time).2⟩

end Traffic

end IntentBus
