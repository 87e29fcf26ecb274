import IntentBus.Bus.Build
import IntentBus.Bus.Dispatch
import IntentBus.Proofs.Calls
import IntentBus.Schedule

/-! Sessions: what becomes of a bus by a list of moves. Calls begin, go on and are dropped in any order, and between
two turns of theirs handlers are registered and removed, and the application changes. -/

namespace IntentBus

variable {σ ι α : Type}

/-- A call of a bus: an intent in a context, dispatched through the cache or past it. -/
structure Call (σ ι α : Type) where
  intent : Intent σ ι α
  context : ExecutionContext
  cached : Bool

/-- A call between two turns, with all that was seen of it. -/
structure Ongoing (σ ι α : Type) where
  call : Call σ ι α
  events : List (BusEvent α)
  release : BusState σ ι α → BusState σ ι α
  next : BusTask σ ι α (Except DispatchError α)

/-- A call that is over. One that was dropped has no result. -/
structure Ended (σ ι α : Type) where
  call : Call σ ι α
  events : List (BusEvent α)
  result : Option (Except DispatchError α)

/-- A bus in use; the call that ended last comes first. -/
structure Session (σ ι α : Type) where
  state : BusState σ ι α
  ongoing : List (Ongoing σ ι α)
  ended : List (Ended σ ι α)

/-- What can be done next; calls that are under way are told apart by their places. -/
inductive Move (σ ι α : Type)
  | begin (call : Call σ ι α) (time : Nat)
  | resume (place time : Nat)
  | drop (place : Nat)
  | register (handler : Handler σ ι α)
  | unregister (type : IntentType)
  | outside (application : σ)

def Call.task (bus : Bus σ ι α) (call : Call σ ι α) : BusTask σ ι α (Except DispatchError α) :=
  if call.cached then bus.dispatchCached call.intent call.context else bus.dispatch call.intent call.context

namespace Session

def opening (state : BusState σ ι α) : Session σ ι α := ⟨state, [], []⟩

def turn (session : Session σ ι α) (call : Call σ ι α) (seen : List (BusEvent α))
    (ran : Advance (BusState σ ι α) (BusEvent α) (Except DispatchError α)) : Session σ ι α :=
  let events := seen ++ ran.trace.map (·.event)
  match ran.pause with
  | .ended result => ⟨ran.state, session.ongoing, ⟨call, events, some result⟩ :: session.ended⟩
  | .waiting _ _ release next => ⟨ran.state, ⟨call, events, release, next⟩ :: session.ongoing, session.ended⟩
  | .stuck release => ⟨ran.state, ⟨call, events, release, .never release⟩ :: session.ongoing, session.ended⟩

/-- A move; one that is about no call, or that a bus refuses, changes nothing. -/
def step (bus : Bus σ ι α) (session : Session σ ι α) : Move σ ι α → Session σ ι α
  | .begin call time => session.turn call [] ((call.task bus).advance time session.state)
  | .resume place time =>
    match session.ongoing[place]? with
    | none => session
    | some own =>
      let others := { session with ongoing := session.ongoing.eraseIdx place }
      others.turn own.call own.events (own.next.advance time session.state)
  | .drop place =>
    match session.ongoing[place]? with
    | none => session
    | some own =>
      ⟨own.release session.state, session.ongoing.eraseIdx place, ⟨own.call, own.events, none⟩ :: session.ended⟩
  | .register handler =>
    match Bus.register session.state handler with
    | .error _ => session
    | .ok (_, state) => { session with state := state }
  | .unregister type => { session with state := (Bus.unregister session.state type).2 }
  | .outside application => { session with state := session.state.withApplication application }

def after (bus : Bus σ ι α) (session : Session σ ι α) (moves : List (Move σ ι α)) : Session σ ι α :=
  moves.foldl (step bus) session

end Session

def BusEvent.callsOn (stage : Stage) (event : BusEvent α) : Bool := event.stage? = some stage

namespace BusEvent

/-- An event is a call of the same stage inside a span. -/
@[simp] theorem callsOn_inside (stage : Stage) (span : LogSpan) (event : BusEvent α) :
    (event.inside span).callsOn stage = event.callsOn stage := by
  rw [callsOn, stage?_inside, callsOn]

/-- An event that is no call is a call of no stage. -/
theorem callsOn_of_quiet {event : BusEvent α} (quiet : event.Quiet) (stage : Stage) : event.callsOn stage = false := by
  cases found : event.stage? with
  | none => simp [callsOn, found]
  | some own => simp [Quiet, isCall, found] at quiet

end BusEvent

def Bus.passage (bus : Bus σ ι α) : List Stage :=
  [.engine, .validation] ++ (if bus.config.authorizationEnabled then [.gate] else []) ++ [.execution]

namespace Ended

def complete (bus : Bus σ ι α) (ended : Ended σ ι α) : Bool :=
  bus.passage.all fun stage => ended.events.any (·.callsOn stage)

/-- What a call that is over has put in the cache for a name and a key: its output, if it was a query of this name
and key that was dispatched through the cache of the bus and went through all stages. -/
def kept? (bus : Bus σ ι α) (name key : String) (ended : Ended σ ι α) : Option (CachedResult α) :=
  match ended.result with
  | some (.ok output) =>
    if ended.call.cached ∧ bus.caching ∧ ended.call.intent.type.kind = .query ∧
        ended.call.intent.cacheKey = some key ∧ ended.call.intent.name = name ∧ ended.complete bus then
      some ⟨ended.call.intent.type.resultType, output⟩
    else none
  | _ => none

end Ended

end IntentBus
