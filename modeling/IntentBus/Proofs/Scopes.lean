import IntentBus.Proofs.Keeping
import IntentBus.Proofs.Traffic

/-! The scopes of a bus at work: a slot that is still to be given out is not in use, so that the scope of a
dispatch is the only one that is closed with it. -/

namespace IntentBus

variable {σ ι α : Type}

namespace CorrelationTracker

variable {tracker : CorrelationTracker}

def Sound (tracker : CorrelationTracker) : Prop := ∀ scope ∈ tracker.scopes, scope.1 < tracker.nextSlot

/-- A tracker without scopes is in order. -/
theorem sound_empty : empty.Sound := List.forall_mem_nil _

/-- A tracker stays in order when a scope is opened. -/
theorem Sound.enter (sound : tracker.Sound) (id : String) : (tracker.enter id).2.Sound :=
  List.forall_mem_cons.2 ⟨Nat.lt_succ_self _, fun scope mem => Nat.lt_succ_of_lt (sound scope mem)⟩

/-- A tracker stays in order when a scope is closed. -/
theorem Sound.release (sound : tracker.Sound) (slot : Nat) : (tracker.release slot).Sound :=
  fun scope mem => sound scope (List.mem_filter.1 mem).1

/-- What holds of a tracker still holds when a scope is opened or closed. -/
structure Stable (holds : CorrelationTracker → Prop) : Prop where
  enter : ∀ tracker, holds tracker → ∀ id, holds (tracker.enter id).2
  release : ∀ tracker, holds tracker → ∀ slot, holds (tracker.release slot)

private theorem stable_sound : Stable Sound := ⟨fun _ sound => sound.enter, fun _ sound => sound.release⟩

/-- Closing the scope that was opened last leaves the scopes that were open before. -/
theorem Sound.scopes_release_enter (sound : tracker.Sound) (id : String) :
    ((tracker.enter id).2.release tracker.nextSlot).scopes = tracker.scopes := by
  have others : tracker.scopes.filter (·.1 ≠ tracker.nextSlot) = tracker.scopes :=
    List.filter_eq_self.2 fun scope mem => decide_eq_true (Nat.ne_of_lt (sound scope mem))
  exact (List.filter_cons_of_neg (by simp)).trans others

end CorrelationTracker

namespace Task

variable {ε δ β γ : Type} {inv : σ → Prop}

/-- From a state on, every state that the task comes to has a property, if others keep it up while the task
waits. -/
def Preserves (inv : σ → Prop) : Task σ ε β → σ → Prop
  | done _, state => inv state
  | get next, state => ∀ time, (next time state).Preserves inv state
  | set value next, _ => inv value ∧ next.Preserves inv value
  | emit _ next, state => next.Preserves inv state
  | wait _ _ release next, state => inv state ∧ (∀ state, inv state → inv (release state)) ∧
    ∀ state, inv state → next.Preserves inv state
  | never release, state => inv state ∧ ∀ state, inv state → inv (release state)

/-- A task that leaves alone all that a property is about preserves it. -/
theorem Keeps.preserves {look : σ → γ} {holds : γ → Prop} {task : Task σ ε β} {state : σ}
    (keeps : task.Keeps look state) (now : holds (look state)) :
    task.Preserves (fun state => holds (look state)) state := by
  induction task generalizing state with
  | done result => exact now
  | get next ih =>
    intro time
    exact ih time state (keeps time) now
  | set value next ih =>
    have later : holds (look value) := keeps.1 ▸ now
    exact ⟨later, ih keeps.2 later⟩
  | emit event next ih => exact ih keeps now
  | wait millis age release next ih =>
    exact ⟨now, fun state => (congrArg holds (keeps.1 state)).mpr, fun state => ih (keeps.2 state)⟩
  | never release => exact ⟨now, fun state => (congrArg holds (keeps state)).mpr⟩

/-- Two tasks in a row keep up a property that each of them keeps up. -/
theorem Preserves.bind {task : Task σ ε β} {f : β → Task σ ε γ} {state : σ}
    (first : task.Preserves inv state)
    (rest : ∀ result state, inv state → (f result).Preserves inv state) :
    (task.bind f).Preserves inv state := by
  induction task generalizing state with
  | done result => exact rest result state first
  | get next ih =>
    intro time
    exact ih time state (first time)
  | set value next ih => exact ⟨first.1, ih first.2⟩
  | emit event next ih => exact ih first
  | wait millis age release next ih =>
    obtain ⟨now, released, later⟩ := first
    exact ⟨now, released, fun state before => ih (later state before)⟩
  | never release => exact first

/-- A task keeps up the same however its events are seen. -/
theorem Preserves.mapEvents (f : ε → δ) {task : Task σ ε β} {state : σ}
    (preserves : task.Preserves inv state) : (task.mapEvents f).Preserves inv state := by
  induction task generalizing state with
  | done result => exact preserves
  | get next ih =>
    intro time
    exact ih time state (preserves time)
  | set value next ih => exact ⟨preserves.1, ih preserves.2⟩
  | emit event next ih => exact ih preserves
  | wait millis age release next ih =>
    obtain ⟨now, released, later⟩ := preserves
    exact ⟨now, released, fun state before => ih (later state before)⟩
  | never release => exact preserves

/-- A release that keeps up a property does so behind a task that does. -/
theorem Preserves.releasing {release : σ → σ} (safe : ∀ state, inv state → inv (release state))
    {task : Task σ ε β} {state : σ} (preserves : task.Preserves inv state) :
    (task.releasing release).Preserves inv state := by
  induction task generalizing state with
  | done result => exact fun _ => ⟨safe state preserves, safe state preserves⟩
  | get next ih =>
    intro time
    exact ih time state (preserves time)
  | set value next ih => exact ⟨preserves.1, ih preserves.2⟩
  | emit event next ih => exact ih preserves
  | wait millis age inner next ih =>
    obtain ⟨now, released, later⟩ := preserves
    exact ⟨now, fun state before => safe _ (released state before), fun state before => ih (later state before)⟩
  | never inner => exact ⟨preserves.1, fun state before => safe _ (preserves.2 state before)⟩

/-- What a turn leaves has the property, and so has what comes after the pause. -/
theorem Preserves.advance {task : Task σ ε β} {state : σ} (preserves : task.Preserves inv state)
    (time : Nat) : inv (task.advance time state).state ∧
      match (task.advance time state).pause with
      | .ended _ => True
      | .waiting _ _ release next =>
        (∀ state, inv state → inv (release state)) ∧ ∀ state, inv state → next.Preserves inv state
      | .stuck release => ∀ state, inv state → inv (release state) := by
  induction task generalizing state with
  | done result => exact ⟨preserves, trivial⟩
  | get next ih => exact ih time state (preserves time)
  | set value next ih => exact ih preserves.2
  | emit event next ih => exact ih preserves
  | wait millis age release next ih => exact preserves
  | never release => exact preserves

/-- Every state of a run has the property, where something is seen of the run and at its end. -/
theorem Preserves.run {task : Task σ ε β} {state : σ} (preserves : task.Preserves inv state) (now : inv state)
    (time : Nat) : (∀ moment ∈ (task.run time state).trace, inv moment.state) ∧ inv (task.run time state).state := by
  induction task generalizing time state with
  | done result => exact ⟨List.forall_mem_nil _, now⟩
  | get next ih => exact ih time state (preserves time) now time
  | set value next ih => exact ih preserves.2 preserves.1 time
  | emit event next ih =>
    obtain ⟨moments, final⟩ := ih preserves now time
    exact ⟨List.forall_mem_cons.2 ⟨now, moments⟩, final⟩
  | wait millis age release next ih => exact ih (preserves.2.2 state now) now (time + millis)
  | never release => exact ⟨List.forall_mem_nil _, now⟩

private theorem preserves_dropAfter {release : σ → σ} (safe : ∀ state, inv state → inv (release state)) (left age : Nat)
    {state : σ} (now : inv state) : (bounded.dropAfter left age release : Task σ ε (Option β)).Preserves inv state := by
  have drops (state : σ) (now : inv state) :
      (get fun _ state => set (release state) (done none) : Task σ ε (Option β)).Preserves inv state :=
    fun _ => ⟨safe state now, safe state now⟩
  unfold bounded.dropAfter
  split
  · exact drops state now
  · exact ⟨now, safe, drops⟩

/-- A task that is dropped after some time preserves the property as well. -/
theorem Preserves.bounded {task : Task σ ε β} {state : σ} (preserves : task.Preserves inv state) (elapsed left : Nat) :
    (task.bounded elapsed left).Preserves inv state := by
  induction task generalizing elapsed left state with
  | done result => exact preserves
  | get next ih =>
    intro time
    exact ih time state (preserves time) elapsed left
  | set value next ih => exact ⟨preserves.1, ih preserves.2 elapsed left⟩
  | emit event next ih => exact ih preserves elapsed left
  | wait millis age release next ih =>
    obtain ⟨now, released, later⟩ := preserves
    rw [Task.bounded]
    split
    · exact ⟨now, released, fun state before => ih (later state before) (elapsed + millis) (left - millis)⟩
    · exact preserves_dropAfter released left elapsed now
  | never release => exact preserves_dropAfter preserves.2 left elapsed preserves.1

end Task

abbrev BusState.Sound (state : BusState σ ι α) : Prop := state.tracker.Sound

abbrev BusState.Tracks (holds : CorrelationTracker → Prop) (state : BusState σ ι α) : Prop := holds state.tracker

/-- Counting has no say in the tracker. -/
theorem apart_tracker : BusState.Apart (BusState.tracker : BusState σ ι α → CorrelationTracker) where
  application := fun _ _ => rfl
  drawn := fun _ _ => rfl
  metrics := fun _ _ => rfl

section

variable {holds : CorrelationTracker → Prop} (stable : CorrelationTracker.Stable holds)

include stable

namespace Bus

variable (bus : Bus σ ι α) (intent : Intent σ ι α) (context : ExecutionContext) {state : BusState σ ι α}

private theorem preserves_dispatchTo (bound : BoundHandler σ ι α) (started : Nat) (now : holds state.tracker) :
    (bus.dispatchTo intent bound context started).Preserves (BusState.Tracks holds) state := by
  have correlates : (bus.correlate intent).Preserves (BusState.Tracks holds) state := by
    intro _
    simp only [Task.Preserves, and_self]
    change holds (BusState.tracker (if _ then _ else _))
    split
    · exact now
    · exact now
  apply correlates.bind
  intro correlation state now
  have enters : (enterScope correlation).Preserves (BusState.Tracks holds) state :=
    fun _ => ⟨stable.enter state.tracker now correlation.id, stable.enter state.tracker now correlation.id⟩
  apply enters.bind
  intro slot state now
  refine Task.Preserves.releasing (fun state now => stable.release state.tracker now slot) (Task.Preserves.mapEvents _ ?_)
  exact (keeps_stages apart_tracker bus intent correlation context started state bound).preserves now

/-- A dispatch keeps up what holds of the tracker, wherever it stops. -/
theorem preserves_dispatch (now : holds state.tracker) :
    (bus.dispatch intent context).Preserves (BusState.Tracks holds) state := by
  intro started _
  simp only [Task.bind]
  split
  · exact now
  · exact fun _ => now
  · next bound _ => exact preserves_dispatchTo stable bus intent context bound started now

private theorem preserves_dispatchAndKeep (key : String) (now : holds state.tracker) :
    (bus.dispatchAndKeep intent key context).Preserves (BusState.Tracks holds) state := by
  apply (preserves_dispatch stable bus intent context now).bind
  intro result state now
  cases result with
  | error error => exact now
  | ok output => exact fun _ => ⟨now, now⟩

/-- A dispatch through the cache keeps up what holds of the tracker, wherever it stops. -/
theorem preserves_dispatchCached (now : holds state.tracker) :
    (bus.dispatchCached intent context).Preserves (BusState.Tracks holds) state := by
  unfold dispatchCached
  split
  · exact preserves_dispatch stable bus intent context now
  · next key _ =>
    intro _
    simp only [Task.bind]
    split
    · exact preserves_dispatchAndKeep stable bus intent context key now
    · split
      · exact now
      · exact preserves_dispatchAndKeep stable bus intent context key now

end Bus

end

def Pending.Safe (holds : CorrelationTracker → Prop) (pending : Pending σ ι α) : Prop :=
  (∀ state, holds state.tracker → holds (pending.release state).tracker) ∧
    ∀ state, holds state.tracker → pending.next.Preserves (BusState.Tracks holds) state

namespace Traffic

variable {bus : Bus σ ι α} {traffic next : Traffic σ ι α} {holds : CorrelationTracker → Prop}

/-- The tracker has a property, and whatever is under way keeps it up. -/
structure Orderly (holds : CorrelationTracker → Prop) (traffic : Traffic σ ι α) : Prop where
  now : holds traffic.state.tracker
  safe : ∀ pending ∈ traffic.pending, pending.Safe holds

private theorem orderly_turn {task : BusTask σ ι α (Except DispatchError α)} {state : BusState σ ι α}
    (preserves : task.Preserves (BusState.Tracks holds) state) (safe : ∀ pending ∈ traffic.pending, pending.Safe holds)
    (intent : String) (seen : List (BusEvent α)) (time : Nat) :
    (traffic.turn intent seen (task.advance time state)).Orderly holds := by
  obtain ⟨now, later⟩ := preserves.advance time
  generalize task.advance time state = ran at now later
  unfold turn
  cases pause : ran.pause with
  | ended result => exact ⟨now, safe⟩
  | waiting millis age release next =>
    rw [pause] at later
    exact ⟨now, List.forall_mem_cons.2 ⟨later, safe⟩⟩
  | stuck release =>
    rw [pause] at later
    exact ⟨now, List.forall_mem_cons.2 ⟨⟨later, fun _ now => ⟨now, later⟩⟩, safe⟩⟩

private theorem orderly_step (stable : CorrelationTracker.Stable holds) (orderly : traffic.Orderly holds)
    (step : Step bus traffic next) : next.Orderly holds := by
  have safe := orderly.safe
  cases step with
  | dispatch intent context time =>
    exact orderly_turn (bus.preserves_dispatch stable intent context orderly.now) safe _ _ time
  | dispatchCached intent context time =>
    exact orderly_turn (bus.preserves_dispatchCached stable intent context orderly.now) safe _ _ time
  | @resume earlier later invocation time waits =>
    rw [waits, List.forall_mem_append, List.forall_mem_cons] at safe
    obtain ⟨before, own, after⟩ := safe
    exact orderly_turn (own.2 _ orderly.now) (List.forall_mem_append.2 ⟨before, after⟩) _ _ time
  | @drop earlier later invocation waits =>
    rw [waits, List.forall_mem_append, List.forall_mem_cons] at safe
    obtain ⟨before, own, after⟩ := safe
    exact ⟨own.1 _ orderly.now, List.forall_mem_append.2 ⟨before, after⟩⟩
  | register handler succeeds =>
    obtain ⟨registry, rfl⟩ := Bus.eq_of_register succeeds
    exact ⟨orderly.now, safe⟩
  | unregister type => exact ⟨orderly.now, safe⟩
  | outside application cache => exact ⟨orderly.now, safe⟩

/-- Whatever happens to a bus, what held of its tracker before any scope was opened, and still holds when scopes are opened
and closed, holds of it. -/
theorem orderly_of_steps (stable : CorrelationTracker.Stable holds) (fresh : holds .empty)
    {handlers : List (Handler σ ι α)} {application : σ} {state : BusState σ ι α}
    (built : (bus.build handlers application).2 = .ok state) (steps : Steps bus (opening state) traffic) :
    traffic.Orderly holds := by
  induction steps with
  | refl =>
    refine ⟨?_, List.forall_mem_nil _⟩
    simp only [Bus.build] at built
    split at built
    · nomatch built
    · cases built
      exact fresh
  | tail _ step ih => exact orderly_step stable ih step

/-- Whatever happens to a bus, its scopes stay in order. -/
theorem sound_of_steps {handlers : List (Handler σ ι α)} {application : σ} {state : BusState σ ι α}
    (built : (bus.build handlers application).2 = .ok state) (steps : Steps bus (opening state) traffic) :
    traffic.state.Sound :=
  (orderly_of_steps CorrelationTracker.stable_sound CorrelationTracker.sound_empty built steps).now

end Traffic

end IntentBus
