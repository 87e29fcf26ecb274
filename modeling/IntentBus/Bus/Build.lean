import IntentBus.Bus.Basic

/-! Building a bus: its handlers are registered in order, and the first failure is that of the building. -/

namespace IntentBus.Bus

variable {σ ι α : Type}

/-- Whether the bus asks for access, as far as its settings and its gate tell. -/
def authorizationEnabled (bus : Bus σ ι α) : Bool := bus.config.authorizationEnabled && bus.gate.enabled

/-- What the log says about a bus that is ready. -/
def readyLog (bus : Bus σ ι α) (handlers : Nat) : LogEntry :=
  ⟨.info, .dispatch, "bus ready",
    [("handlers", .ofInt handlers), ("authorization", .bool bus.authorizationEnabled),
      ("mode", .string bus.config.registrationMode.label)], []⟩

/-- Builds the state of a bus with handlers, and tells what is written to the log on the way. -/
def build (bus : Bus σ ι α) (handlers : List (Handler σ ι α)) (application : σ) :
    List LogEntry × Except ConfigurationError (BusState σ ι α) :=
  let start : BusState σ ι α := .initial bus.config application
  match start.registry.registerAll handlers with
  | (log, .error error) => (log, .error error)
  | (log, .ok registry) => (log ++ [bus.readyLog registry.size], .ok { start with registry := registry })

/-- Registers a handler on a bus that is at work. -/
def register (state : BusState σ ι α) (handler : Handler σ ι α) :
    Except ConfigurationError (Registration × BusState σ ι α) :=
  (state.registry.register handler).map fun (registration, registry) =>
    (registration, { state with registry := registry })

/-- A registration changes nothing but the registry. -/
theorem eq_of_register {state next : BusState σ ι α} {handler : Handler σ ι α} {registration : Registration}
    (succeeds : register state handler = .ok (registration, next)) :
    ∃ registry, next = { state with registry := registry } := by
  unfold register at succeeds
  cases result : state.registry.register handler with
  | error error =>
    rw [result] at succeeds
    nomatch succeeds
  | ok registered =>
    rw [result] at succeeds
    cases succeeds
    exact ⟨registered.2, rfl⟩

/-- Removes the handler of an intent type from a bus that is at work. -/
def unregister (state : BusState σ ι α) (type : IntentType) : Bool × BusState σ ι α :=
  let (removed, registry) := state.registry.unregister type
  (removed, { state with registry := registry })

end IntentBus.Bus
