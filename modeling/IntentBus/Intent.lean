import IntentBus.Constraint
import IntentBus.Context
import IntentBus.Log
import IntentBus.Task

/-! Intents: the commands and queries that a bus dispatches, with their types and their provenance. -/

namespace IntentBus

/-- Commands may change state, queries only read it. -/
inductive IntentKind
  | command
  | query
deriving DecidableEq

/-- A type of intents: the name of the type itself, the name under which its intents are routed and logged,
the type of their results, and a number that tells apart types that agree in everything else. -/
structure IntentType where
  typeName : String
  name : String
  kind : IntentKind
  resultType : String
  serial : Nat
deriving DecidableEq

/-- Where an intent comes from. -/
structure Provenance where
  id : Uuid
  createdAtMillis : UInt64
  correlationId : Option String
  initiatorId : Option String
  metadata : Dictionary String

/-- The id that all stages of one dispatch share, and the intent that it belongs to. -/
structure Correlation where
  id : String
  intentName : String
  intentId : Uuid
deriving DecidableEq

/-- Something to publish after a successful execution. -/
structure SideEffect where
  topic : String
  payload : Json

/-- The intent that a side effect comes from. -/
structure IntentDescriptor where
  intentType : String
  intentId : Uuid
  correlationId : String
  initiatorId : Option String
deriving DecidableEq

/-- What those do whom a bus asks: they work on the state of the application, which may take time, and write to
the log. -/
abbrev ApplicationTask (σ β : Type) := Task σ LogEntry β

/-- An intent with content `ι`, whose execution has a result in `α`. Without a rule for the context,
authorization in a context is plain authorization. -/
structure Intent (σ ι α : Type) where
  type : IntentType
  provenance : Provenance
  content : ι
  constraints : ConstraintSet
  validate : Correlation → ApplicationTask σ ValidationOutcome
  authorize : Correlation → ApplicationTask σ AuthorizationOutcome
  authorizeInContext : Option (Correlation → ExecutionContext → ApplicationTask σ AuthorizationOutcome)
  sideEffect : α → Option SideEffect
  cacheKey : Option String

namespace IntentKind

/-- The name of a kind in logs. -/
def label : IntentKind → String
  | command => "command"
  | query => "query"

/-- The name of a kind in data. -/
def tag : IntentKind → String
  | command => "Command"
  | query => "Query"

def toJson (kind : IntentKind) : Json := .string kind.tag

def decoder : Json.Decoder IntentKind := .name ([command, query].map fun kind => (kind.tag, kind))

end IntentKind

namespace IntentType

/-- The order of listings: by the name of the intents, and then by the type itself. -/
def before (first second : IntentType) : Bool :=
  first.name < second.name || (first.name = second.name && (first.typeName < second.typeName ||
    (first.typeName = second.typeName && first.serial < second.serial)))

/-- Puts a type in its place among types that are in order; one that takes no place of its own is left out. -/
def insertInto (type : IntentType) : List IntentType → List IntentType
  | [] => [type]
  | first :: rest =>
    if type.before first then type :: first :: rest
    else if first.before type then first :: type.insertInto rest
    else first :: rest

/-- Types in order. -/
def listing (types : List IntentType) : List IntentType := types.foldr insertInto []

end IntentType

namespace Provenance

/-- The provenance of an intent of which only the id and the time of creation are known. -/
def fresh (id : Uuid) (createdAtMillis : UInt64) : Provenance := ⟨id, createdAtMillis, none, none, .empty⟩

def withCorrelationId (provenance : Provenance) (id : String) : Provenance :=
  { provenance with correlationId := some id }

def withInitiator (provenance : Provenance) (id : String) : Provenance :=
  { provenance with initiatorId := some id }

def withMetadata (provenance : Provenance) (key value : String) : Provenance :=
  { provenance with metadata := provenance.metadata.insert key value }

def toJson (provenance : Provenance) : Json :=
  .object [("id", .ofUuid provenance.id), ("created_at_millis", .ofUInt64 provenance.createdAtMillis),
    ("correlation_id", .ofOption .string provenance.correlationId),
    ("initiator_id", .ofOption .string provenance.initiatorId),
    ("metadata", .ofDictionary .string provenance.metadata)]

def decoder : Json.Decoder Provenance :=
  .record false ["id", "created_at_millis", "correlation_id", "initiator_id", "metadata"] fun
    | depth, [id, time, correlation, initiator, metadata] => do
      let id ← Json.Decoder.required .uuid depth id
      let time ← Json.Decoder.required .uint64 depth time
      let correlation ← Json.Decoder.optional .string depth correlation
      let initiator ← Json.Decoder.optional .string depth initiator
      let metadata ← Json.Decoder.required (.dictionary .string) depth metadata
      return ⟨id, time, correlation, initiator, metadata⟩
    | _, _ => none

end Provenance

namespace SideEffect

def toJson (effect : SideEffect) : Json :=
  .object [("topic", .string effect.topic), ("payload", effect.payload)]

def decoder : Json.Decoder SideEffect :=
  .record false ["topic", "payload"] fun
    | depth, [topic, payload] => do
      let topic ← Json.Decoder.required .string depth topic
      let payload ← Json.Decoder.required .value depth payload
      return ⟨topic, payload⟩
    | _, _ => none

end SideEffect

namespace IntentDescriptor

def toJson (descriptor : IntentDescriptor) : Json :=
  .object [("intent_type", .string descriptor.intentType), ("intent_id", .ofUuid descriptor.intentId),
    ("correlation_id", .string descriptor.correlationId),
    ("initiator_id", .ofOption .string descriptor.initiatorId)]

def decoder : Json.Decoder IntentDescriptor :=
  .record false ["intent_type", "intent_id", "correlation_id", "initiator_id"] fun
    | depth, [type, id, correlation, initiator] => do
      let type ← Json.Decoder.required .string depth type
      let id ← Json.Decoder.required .uuid depth id
      let correlation ← Json.Decoder.required .string depth correlation
      let initiator ← Json.Decoder.optional .string depth initiator
      return ⟨type, id, correlation, initiator⟩
    | _, _ => none

end IntentDescriptor

namespace Intent

variable {σ ι α : Type}

/-- An intent without constraints, rules, side effects and caching, open to everybody. -/
def plain (type : IntentType) (provenance : Provenance) (content : ι) : Intent σ ι α :=
  ⟨type, provenance, content, .empty, fun _ => .done .valid, fun _ => .done .granted, none, fun _ => none, none⟩

def name (intent : Intent σ ι α) : String := intent.type.name

/-- The correlation of a dispatch: the id of the intent's own, else a fresh one. -/
def correlation (intent : Intent σ ι α) (fresh : String) : Correlation :=
  ⟨intent.provenance.correlationId.getD fresh, intent.name, intent.provenance.id⟩

def descriptor (intent : Intent σ ι α) (correlation : Correlation) : IntentDescriptor :=
  ⟨intent.name, intent.provenance.id, correlation.id, intent.provenance.initiatorId⟩

end Intent

end IntentBus
