import IntentBus.Handler
import IntentBus.Policy
import IntentBus.Table

/-! The table of handlers, kept by intent type. Registration sees to it that one name never serves two types. -/

namespace IntentBus

/-- Which intent type a handler serves, under the name of the handler. -/
structure HandlerBinding where
  intent : IntentType
  handler : String
deriving DecidableEq

/-- A handler with its binding and the timeout that it declared when it was registered. -/
structure BoundHandler (σ ι α : Type) where
  binding : HandlerBinding
  handler : Handler σ ι α
  timeout : Option Duration

/-- What the table holds for an intent type. -/
structure RegistryEntry (σ ι α : Type) where
  binding : HandlerBinding
  bound : BoundHandler σ ι α

/-- A successful registration, with the name of the handler that it replaced. -/
structure Registration where
  binding : HandlerBinding
  replaced : Option String
deriving DecidableEq

/-- The bound handlers by intent type. -/
structure Registry (σ ι α : Type) where
  mode : RegistrationMode
  table : Table IntentType (RegistryEntry σ ι α)

namespace Handler

variable {σ ι α : Type}

/-- The binding of a handler; the name of its intent must neither be blank nor hold a blank character. -/
def resolve (handler : Handler σ ι α) : Except ConfigurationError HandlerBinding :=
  let name := handler.type.name
  if Text.allBlank name then .error (.blankIntentName handler.name)
  else if Text.anyBlank name then .error (.invalidIntentName name handler.name)
  else .ok ⟨handler.type, handler.name⟩

end Handler

namespace RegistryEntry

variable {σ ι α : Type}

/-- The entry of a handler that is registered under a binding. -/
def of (binding : HandlerBinding) (handler : Handler σ ι α) : RegistryEntry σ ι α :=
  ⟨binding, binding, handler, handler.timeout⟩

/-- Whether an entry serves another type under the name of a type. -/
def clashes (entry : RegistryEntry σ ι α) (type : IntentType) : Bool :=
  entry.binding.intent.name = type.name && entry.binding.intent ≠ type

end RegistryEntry

namespace Registration

/-- What the log says about a registration; a replacement is announced before it. -/
def log (registration : Registration) : List LogEntry :=
  let intent := registration.binding.intent
  let handler := Json.string registration.binding.handler
  (registration.replaced.toList.map fun previous =>
    ⟨.warn, .registry, "replacing existing handler binding",
      [("intent", .string intent.name), ("previous", .string previous), ("replacement", handler)], []⟩) ++
    [⟨.debug, .registry, "handler registered",
      [("intent", .string intent.name), ("kind", .string intent.kind.label), ("handler", handler),
        ("result", .string intent.resultType)], []⟩]

end Registration

namespace Registry

variable {σ ι α : Type}

def empty (mode : RegistrationMode) : Registry σ ι α := ⟨mode, .empty⟩

/-- The first entry on a walk through the table that serves another type under the name of a type. -/
def clash? (registry : Registry σ ι α) (type : IntentType) : Option (RegistryEntry σ ι α) :=
  registry.table.values.find? (·.clashes type)

/-- Binds a handler to its intent type. A failed registration changes nothing. -/
def register (registry : Registry σ ι α) (handler : Handler σ ι α) :
    Except ConfigurationError (Registration × Registry σ ι α) :=
  match handler.resolve with
  | .error error => .error error
  | .ok binding =>
    let type := binding.intent
    match registry.clash? type with
    | some entry => .error (.ambiguousIntentName type.name entry.binding.intent.typeName type.typeName)
    | none =>
      match (registry.table.find? type).map (·.binding.handler), registry.mode with
      | some existing, .strict => .error (.duplicateBinding type.name existing)
      | replaced, _ =>
        .ok (⟨binding, replaced⟩, { registry with table := registry.table.insert type (.of binding handler) })

/-- The handler bound to an intent type; an entry whose handler serves another type is an error. -/
def tryFind (registry : Registry σ ι α) (type : IntentType) :
    Except ConfigurationError (Option (BoundHandler σ ι α)) :=
  match registry.table.find? type with
  | none => .ok none
  | some entry =>
    if entry.bound.handler.type = type then .ok (some entry.bound) else .error (.bindingMismatch type.name)

/-- The handler bound to an intent type, if there is one and it serves the type. -/
def find? (registry : Registry σ ι α) (type : IntentType) : Option (BoundHandler σ ι α) :=
  match registry.tryFind type with
  | .ok found => found
  | .error _ => none

def binding? (registry : Registry σ ι α) (type : IntentType) : Option HandlerBinding :=
  (registry.table.find? type).map (·.binding)

def hasHandler (registry : Registry σ ι α) (type : IntentType) : Bool := registry.table.contains type

/-- Removes the binding of an intent type, and tells whether there was one. -/
def unregister (registry : Registry σ ι α) (type : IntentType) : Bool × Registry σ ι α :=
  if registry.hasHandler type then (true, { registry with table := registry.table.erase type })
  else (false, registry)

/-- What the log says about a removal. -/
def removalLog (type : IntentType) : LogEntry :=
  ⟨.debug, .registry, "handler unregistered", [("intent", .string type.name)], []⟩

/-- The bound types in the order of their names. -/
def types (registry : Registry σ ι α) : List IntentType :=
  IntentType.listing (registry.table.values.map (·.binding.intent))

def names (registry : Registry σ ι α) : List String := registry.types.map (·.name)

def size (registry : Registry σ ι α) : Nat := registry.table.size

def isEmpty (registry : Registry σ ι α) : Bool := registry.table.isEmpty

/-- Registers handlers one by one up to the first that fails; the log is that of the successful ones. -/
def registerAll (registry : Registry σ ι α) :
    List (Handler σ ι α) → List LogEntry × Except ConfigurationError (Registry σ ι α)
  | [] => ([], .ok registry)
  | handler :: rest =>
    match registry.register handler with
    | .error error => ([], .error error)
    | .ok (registration, next) =>
      let (log, result) := next.registerAll rest
      (registration.log ++ log, result)

end Registry

end IntentBus
