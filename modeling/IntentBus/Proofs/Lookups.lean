import IntentBus.Proofs.Building
import IntentBus.Proofs.Histories
import IntentBus.Proofs.Keeping

/-! What a bus in use finds at a lookup: its table of handlers is what registrations and removals have made of it, whichever
calls are under way meanwhile. -/

namespace IntentBus

variable {σ ι α : Type}

namespace Task

variable {ε β γ : Type} {look : σ → γ}

/-- A turn keeps what the task keeps, and so does what comes after the pause. -/
theorem Keeps.advance {task : Task σ ε β} {state : σ} (keeps : task.Keeps look state) (time : Nat) :
    look (task.advance time state).state = look state ∧
      match (task.advance time state).pause with
      | .ended _ => True
      | .waiting _ _ release next => (∀ state, look (release state) = look state) ∧ ∀ state, next.Keeps look state
      | .stuck release => ∀ state, look (release state) = look state := by
  induction task generalizing state with
  | done result => exact ⟨rfl, trivial⟩
  | get next ih => exact ih time state (keeps time)
  | set value next ih =>
    obtain ⟨same, later⟩ := ih keeps.2
    exact ⟨same.trans keeps.1, later⟩
  | emit event next ih => exact ih keeps
  | wait millis age release next ih => exact ⟨rfl, keeps⟩
  | never release => exact ⟨rfl, keeps⟩

end Task

namespace Bus

private theorem apart_registry : BusState.Apart (BusState.registry : BusState σ ι α → Registry σ ι α) where
  application := fun _ _ => rfl
  drawn := fun _ _ => rfl
  metrics := fun _ _ => rfl

variable (bus : Bus σ ι α) (intent : Intent σ ι α) (context : ExecutionContext) (state : BusState σ ι α)

private theorem registry_dispatch : (bus.dispatch intent context).Keeps BusState.registry state := by
  intro started _
  simp only [Task.bind]
  split
  · trivial
  · exact fun _ => trivial
  · next bound _ =>
    have correlates : (bus.correlate intent).Keeps BusState.registry state := by
      refine fun _ => ⟨?_, trivial⟩
      simp only
      split
      · rfl
      · rfl
    apply correlates.bind
    intro correlation state
    have enters : (enterScope correlation).Keeps BusState.registry state := fun _ => ⟨rfl, trivial⟩
    apply enters.bind
    intro slot state
    have leaves (state : BusState σ ι α) : (leaveScope slot state).registry = state.registry := rfl
    refine Task.Keeps.releasing leaves (Task.Keeps.mapEvents _ ?_)
    exact keeps_stages apart_registry bus intent correlation context started state bound

private theorem registry_dispatchAndKeep (key : String) :
    (bus.dispatchAndKeep intent key context).Keeps BusState.registry state := by
  apply (registry_dispatch bus intent context state).bind
  intro result state
  cases result with
  | error error => trivial
  | ok output => exact fun _ => ⟨rfl, trivial⟩

private theorem registry_task (call : Call σ ι α) : (call.task bus).Keeps BusState.registry state := by
  unfold Call.task
  split
  · unfold dispatchCached
    split
    · exact registry_dispatch bus call.intent call.context state
    · next key _ =>
      intro _
      simp only [Task.bind]
      split
      · exact registry_dispatchAndKeep bus call.intent call.context state key
      · split
        · trivial
        · exact registry_dispatchAndKeep bus call.intent call.context state key
  · exact registry_dispatch bus call.intent call.context state

end Bus

def Move.registryCall? : Move σ ι α → Option (RegistryCall σ ι α)
  | register handler => some (.register handler)
  | unregister type => some (.unregister type)
  | begin .. | resume .. | drop _ | outside _ => none

namespace Session

variable {bus : Bus σ ι α} {session : Session σ ι α} {start state : BusState σ ι α}

private def Idle (session : Session σ ι α) : Prop :=
  ∀ own ∈ session.ongoing, (∀ state, (own.release state).registry = state.registry) ∧
    ∀ state, own.next.Keeps BusState.registry state

private theorem idle_turn (idle : session.Idle) {call : Call σ ι α} {seen : List (BusEvent α)}
    {task : BusTask σ ι α (Except DispatchError α)} {state : BusState σ ι α}
    (keeps : task.Keeps BusState.registry state) (time : Nat) :
    let next := session.turn call seen (task.advance time state)
    next.state.registry = state.registry ∧ next.Idle := by
  obtain ⟨same, later⟩ := keeps.advance time
  generalize task.advance time state = ran at same later ⊢
  obtain ⟨pause, after, trace⟩ := ran
  cases pause with
  | ended result => exact ⟨same, idle⟩
  | waiting millis age release next => exact ⟨same, List.forall_mem_cons.2 ⟨later, idle⟩⟩
  | stuck release => exact ⟨same, List.forall_mem_cons.2 ⟨⟨later, fun _ => later⟩, idle⟩⟩

private theorem idle_step (idle : session.Idle) (move : Move σ ι α) :
    (session.step bus move).state.registry = session.state.registry.after move.registryCall?.toList ∧
      (session.step bus move).Idle := by
  cases move with
  | begin call time => exact idle_turn idle (bus.registry_task session.state call) time
  | resume place time =>
    simp only [Session.step]
    cases found : session.ongoing[place]? with
    | none => exact ⟨rfl, idle⟩
    | some own =>
      have rest : Idle { session with ongoing := session.ongoing.eraseIdx place } :=
        fun other mem => idle other (List.mem_of_mem_eraseIdx mem)
      exact idle_turn rest ((idle own (List.mem_of_getElem? found)).2 session.state) time
  | drop place =>
    simp only [Session.step]
    cases found : session.ongoing[place]? with
    | none => exact ⟨rfl, idle⟩
    | some own =>
      exact ⟨(idle own (List.mem_of_getElem? found)).1 session.state,
        fun other mem => idle other (List.mem_of_mem_eraseIdx mem)⟩
  | register handler =>
    simp only [Session.step, Bus.register, Move.registryCall?, Option.toList_some, Registry.after, List.foldl_cons,
      List.foldl_nil, RegistryCall.apply]
    cases session.state.registry.register handler with
    | error error => exact ⟨rfl, idle⟩
    | ok registered => exact ⟨rfl, idle⟩
  | unregister type => exact ⟨rfl, idle⟩
  | outside application => exact ⟨rfl, idle⟩

/-- After any moves, the table of handlers is what the registrations and removals among them have made of it. -/
theorem registry_after (bus : Bus σ ι α) (start : BusState σ ι α) (moves : List (Move σ ι α)) :
    ((opening start).after bus moves).state.registry = start.registry.after (moves.filterMap Move.registryCall?) := by
  suffices both : ∀ session : Session σ ι α, session.Idle →
      (session.after bus moves).state.registry = session.state.registry.after (moves.filterMap Move.registryCall?) from
    both (opening start) (List.forall_mem_nil _)
  induction moves with
  | nil => exact fun _ _ => rfl
  | cons move rest ih =>
    intro session idle
    obtain ⟨same, next⟩ := idle_step idle move
    have later := ih (session.step bus move) next
    rw [same] at later
    refine later.trans ?_
    cases asked : move.registryCall? with
    | none => rw [List.filterMap_cons_none asked, Option.toList_none]; rfl
    | some call => rw [List.filterMap_cons_some asked, Option.toList_some]; rfl

end Session

namespace Registry

variable {registry : Registry σ ι α}

private theorem mem_of_mem_successes {calls : List (RegistryCall σ ι α)} {call : RegistryCall σ ι α}
    (mem : call ∈ registry.successes calls) : call ∈ calls := by
  induction calls generalizing registry with
  | nil => nomatch mem
  | cons first rest ih =>
    simp only [successes] at mem
    split at mem
    · rcases List.mem_cons.1 mem with rfl | mem
      · exact .head _
      · exact .tail _ (ih mem)
    · exact .tail _ (ih mem)

end Registry

namespace Session

variable {bus : Bus σ ι α} {start state : BusState σ ι α} {handlers : List (Handler σ ι α)} {application : σ}

private theorem mirrors_after_build (built : (bus.build handlers application).2 = .ok start) (moves : List (Move σ ι α)) :
    ((opening start).after bus moves).state.registry.Mirrors
      (handlers.map .register ++ start.registry.successes (moves.filterMap Move.registryCall?)) := by
  rw [registry_after]
  obtain ⟨registry, succeeds, rfl⟩ := Bus.build_eq_ok.1 built
  exact Registry.mirrors_after (Registry.mirrors_registerAll (Registry.mirrors_empty _) succeeds) _

/-- In every state that a bus comes to after it was built, its table refines the log of what was registered and removed
with success. -/
theorem refines_of_reaches (built : (bus.build handlers application).2 = .ok start) (reaches : Reaches bus start state) :
    ∃ log, state.registry.Refines log := by
  obtain ⟨moves, rfl⟩ := reaches
  exact ⟨_, Registry.refines_of_mirrors (mirrors_after_build built moves)⟩

/-- A handler that a lookup finds serves the type; the bus was built with it, or it was registered since then. -/
theorem registered_of_bound (built : (bus.build handlers application).2 = .ok start) {moves : List (Move σ ι α)}
    {type : IntentType} {bound : BoundHandler σ ι α}
    (found : ((opening start).after bus moves).state.registry.tryFind type = .ok (some bound)) :
    bound.handler.type = type ∧ (bound.handler ∈ handlers ∨ Move.register bound.handler ∈ moves) := by
  have mirrors := mirrors_after_build built moves
  unfold Registry.tryFind at found
  cases held : ((opening start).after bus moves).state.registry.table.find? type with
  | none =>
    rw [held] at found
    nomatch found
  | some entry =>
    obtain ⟨handler, ⟨earlier, later, log, own, _⟩, rfl⟩ := (mirrors.entries type entry).1 held
    rw [held] at found
    simp only [RegistryEntry.of, own, if_true] at found
    cases found
    refine ⟨own, ?_⟩
    have mem : RegistryCall.register handler ∈ earlier ++ .register handler :: later :=
      List.mem_append_right _ (List.mem_cons_self ..)
    rcases List.mem_append.1 (log ▸ mem) with built | since
    · obtain ⟨_, mem, ⟨⟩⟩ := List.mem_map.1 built
      exact .inl mem
    · obtain ⟨move, mem, asked⟩ := List.mem_filterMap.1 (Registry.mem_of_mem_successes since)
      cases move <;> cases asked
      exact .inr mem

/-- The state in which a call is begun is one that a bus in use comes to. -/
theorem Begins.reaches {moves : List (Move σ ι α)} {call : Call σ ι α} (begins : Begins bus start moves call state) :
    Reaches bus start state := by
  obtain ⟨earlier, time, later, _, same⟩ := begins
  exact ⟨earlier, same⟩

end Session

end IntentBus
