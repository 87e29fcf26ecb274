import IntentBus.Bus.Build
import IntentBus.Bus.Dispatch
import IntentBus.Schedule
import Mathlib.Logic.Relation

/-! A bus at work: invocations take turns in any order and may be dropped between two of their turns. They share
one state, in which handlers are registered and removed meanwhile. -/

namespace IntentBus

variable {σ ι α : Type}

/-- An invocation that is over, with all that was seen of it. One that was dropped has no result. -/
structure Invocation (α : Type) where
  intent : String
  events : List (BusEvent α)
  result : Option (Except DispatchError α)

/-- An invocation between two turns: what it goes on with, and what is released when it is dropped instead. -/
structure Pending (σ ι α : Type) where
  intent : String
  events : List (BusEvent α)
  release : BusState σ ι α → BusState σ ι α
  next : BusTask σ ι α (Except DispatchError α)

/-- A bus at work; the invocation that ended last comes first. -/
structure Traffic (σ ι α : Type) where
  state : BusState σ ι α
  pending : List (Pending σ ι α)
  finished : List (Invocation α)

namespace Traffic

def opening (state : BusState σ ι α) : Traffic σ ι α := ⟨state, [], []⟩

def turn (traffic : Traffic σ ι α) (intent : String) (seen : List (BusEvent α))
    (ran : Advance (BusState σ ι α) (BusEvent α) (Except DispatchError α)) : Traffic σ ι α :=
  let events := seen ++ ran.trace.map (·.event)
  match ran.pause with
  | .ended result => ⟨ran.state, traffic.pending, ⟨intent, events, some result⟩ :: traffic.finished⟩
  | .waiting _ _ release next =>
    ⟨ran.state, ⟨intent, events, release, next⟩ :: traffic.pending, traffic.finished⟩
  | .stuck release =>
    ⟨ran.state, ⟨intent, events, release, .never release⟩ :: traffic.pending, traffic.finished⟩

/-- What may happen next: an invocation begins, goes on or is dropped, a handler is registered or removed, or
something outside of the bus changes. -/
inductive Step (bus : Bus σ ι α) (traffic : Traffic σ ι α) : Traffic σ ι α → Prop
  | dispatch (intent : Intent σ ι α) (context : ExecutionContext) (time : Nat) :
    Step bus traffic (traffic.turn intent.name [] ((bus.dispatch intent context).advance time traffic.state))
  | dispatchCached (intent : Intent σ ι α) (context : ExecutionContext) (time : Nat) :
    Step bus traffic
      (traffic.turn intent.name [] ((bus.dispatchCached intent context).advance time traffic.state))
  | resume {earlier later : List (Pending σ ι α)} (invocation : Pending σ ι α) (time : Nat)
    (waits : traffic.pending = earlier ++ invocation :: later) :
    Step bus traffic (({ traffic with pending := earlier ++ later } : Traffic σ ι α).turn invocation.intent
      invocation.events (invocation.next.advance time traffic.state))
  | drop {earlier later : List (Pending σ ι α)} (invocation : Pending σ ι α)
    (waits : traffic.pending = earlier ++ invocation :: later) :
    Step bus traffic ⟨invocation.release traffic.state, earlier ++ later,
      ⟨invocation.intent, invocation.events, none⟩ :: traffic.finished⟩
  | register (handler : Handler σ ι α) {registration : Registration} {next : BusState σ ι α}
    (succeeds : Bus.register traffic.state handler = .ok (registration, next)) :
    Step bus traffic { traffic with state := next }
  | unregister (type : IntentType) :
    Step bus traffic { traffic with state := (Bus.unregister traffic.state type).2 }
  | outside (application : σ) (cache : ResultCache α) :
    Step bus traffic { traffic with state := { traffic.state with application := application, cache := cache } }

abbrev Steps (bus : Bus σ ι α) : Traffic σ ι α → Traffic σ ι α → Prop := Relation.ReflTransGen (Step bus)

end Traffic

end IntentBus
