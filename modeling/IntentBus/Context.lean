import IntentBus.Json.Decoder
import IntentBus.Json.View

/-! The context of a request: who asks, when, under which feature flags and with which properties. -/

namespace IntentBus

/-- The texts that identify a request and its origin. -/
inductive IdentityField
  | userId
  | tenantId
  | organizationId
  | sessionId
  | requestId
  | source
  | clientIp
  | userAgent
deriving DecidableEq

/-- The context of a request; its creation time is in milliseconds. -/
structure ExecutionContext where
  userId : Option String
  tenantId : Option String
  organizationId : Option String
  sessionId : Option String
  requestId : Option String
  source : Option String
  clientIp : Option String
  userAgent : Option String
  createdAtMillis : UInt64
  featureFlags : Dictionary Bool
  properties : Dictionary Json

namespace IdentityField

def all : List IdentityField :=
  [userId, tenantId, organizationId, sessionId, requestId, source, clientIp, userAgent]

/-- The name of a field in data. -/
def key : IdentityField → String
  | userId => "user_id"
  | tenantId => "tenant_id"
  | organizationId => "organization_id"
  | sessionId => "session_id"
  | requestId => "request_id"
  | source => "source"
  | clientIp => "client_ip"
  | userAgent => "user_agent"

def ofKey? (key : String) : Option IdentityField := all.find? (·.key = key)

end IdentityField

namespace ExecutionContext

/-- The context of a request of which nothing is known. -/
def empty : ExecutionContext :=
  ⟨none, none, none, none, none, none, none, none, 0, .empty, .empty⟩

instance : Inhabited ExecutionContext := ⟨empty⟩

def identity (context : ExecutionContext) : IdentityField → Option String
  | .userId => context.userId
  | .tenantId => context.tenantId
  | .organizationId => context.organizationId
  | .sessionId => context.sessionId
  | .requestId => context.requestId
  | .source => context.source
  | .clientIp => context.clientIp
  | .userAgent => context.userAgent

def withIdentity (context : ExecutionContext) (field : IdentityField) (text : String) : ExecutionContext :=
  match field with
  | .userId => { context with userId := some text }
  | .tenantId => { context with tenantId := some text }
  | .organizationId => { context with organizationId := some text }
  | .sessionId => { context with sessionId := some text }
  | .requestId => { context with requestId := some text }
  | .source => { context with source := some text }
  | .clientIp => { context with clientIp := some text }
  | .userAgent => { context with userAgent := some text }

/-- A request is authenticated when its user is known. -/
def isAuthenticated (context : ExecutionContext) : Bool := context.userId.isSome

/-- The value of a flag, or a default when it is not set. -/
def isFeatureEnabled (context : ExecutionContext) (name : String) (default : Bool) : Bool :=
  (context.featureFlags.find? name).getD default

/-- A property seen in some shape; absent when it has another. -/
def property {α : Type} (context : ExecutionContext) (view : Json → Option α) (key : String) : Option α :=
  (context.properties.find? key).bind view

def propertyOr {α : Type} (context : ExecutionContext) (view : Json → Option α) (key : String)
    (default : α) : α :=
  (context.property view key).getD default

def toJson (context : ExecutionContext) : Json :=
  .object (IdentityField.all.map (fun field => (field.key, .ofOption .string (context.identity field))) ++
    [("created_at_millis", .ofUInt64 context.createdAtMillis),
      ("feature_flags", .ofDictionary .bool context.featureFlags),
      ("properties", .ofDictionary id context.properties)])

def decoder : Json.Decoder ExecutionContext :=
  .record false (IdentityField.all.map (·.key) ++ ["created_at_millis", "feature_flags", "properties"]) fun
    | depth, [user, tenant, organization, session, request, source, ip, agent, time, flags, properties] => do
      let text := Json.Decoder.optional .string depth
      let time ← Json.Decoder.required .uint64 depth time
      let flags ← Json.Decoder.required (.dictionary .bool) depth flags
      let properties ← Json.Decoder.required (.dictionary .value) depth properties
      return ⟨← text user, ← text tenant, ← text organization, ← text session, ← text request,
        ← text source, ← text ip, ← text agent, time, flags, properties⟩
    | _, _ => none

/-- A context under construction; without a time of its own it gets the time at which it is built. -/
structure Builder where
  context : ExecutionContext
  createdAtMillis : Option UInt64

namespace Builder

def fresh : Builder := ⟨.empty, none⟩

def withIdentity (builder : Builder) (field : IdentityField) (text : String) : Builder :=
  { builder with context := builder.context.withIdentity field text }

def withCreatedAtMillis (builder : Builder) (millis : UInt64) : Builder :=
  { builder with createdAtMillis := some millis }

def withFeature (builder : Builder) (name : String) (enabled : Bool) : Builder :=
  { builder with
    context := { builder.context with featureFlags := builder.context.featureFlags.insert name enabled } }

def withProperty (builder : Builder) (key : String) (value : Json) : Builder :=
  { builder with
    context := { builder.context with properties := builder.context.properties.insert key value } }

def build (builder : Builder) (now : UInt64) : ExecutionContext :=
  { builder.context with createdAtMillis := builder.createdAtMillis.getD now }

end Builder

/-- A builder that starts from a context and keeps its time. -/
def toBuilder (context : ExecutionContext) : Builder := ⟨context, some context.createdAtMillis⟩

end ExecutionContext

end IntentBus
