import IntentBus.Context
import IntentBus.Outcome

/-! Rules of access that look at the context alone. -/

namespace IntentBus

/-- An amount and the property that limits it; a default holds where the property is no whole number. -/
structure AmountLimit where
  property : String
  default : Int
  amount : Int

/-- What a context has to offer; each part is asked for only if it is given. A feature comes with the value that
counts while its flag is not set. -/
structure AccessRule where
  feature : Option (String × Bool)
  authenticated : Bool
  tenant : Option String
  limit : Option AmountLimit

namespace AccessRule

def featureDenial (context : ExecutionContext) (name : String) (default : Bool) : Option Violation :=
  if context.isFeatureEnabled name default then none
  else some ⟨name, "feature " ++ name ++ " is off", "FEATURE_OFF"⟩

def loginDenial (context : ExecutionContext) : Option Violation :=
  if context.isAuthenticated then none else some ⟨"user", "login required", "UNAUTHENTICATED"⟩

def tenantDenial (context : ExecutionContext) (tenant : String) : Option Violation :=
  if context.tenantId = some tenant then none
  else some ⟨"tenant", "tenant may not purge", "TENANT_FORBIDDEN"⟩

def limitDenial (context : ExecutionContext) (limit : AmountLimit) : Option Violation :=
  let bound := context.propertyOr Json.int64? limit.property limit.default
  if limit.amount ≤ bound then none
  else some ⟨"amount",
    "withdrawal of " ++ toString limit.amount ++ " exceeds the limit of " ++ toString bound,
    "LIMIT_EXCEEDED"⟩

/-- The denials in the order in which the parts are checked. -/
def denials (rule : AccessRule) (context : ExecutionContext) : List Violation :=
  (rule.feature.bind fun (name, default) => featureDenial context name default).toList ++
    (if rule.authenticated then (loginDenial context).toList else []) ++
    (rule.tenant.bind (tenantDenial context)).toList ++ (rule.limit.bind (limitDenial context)).toList

/-- The first denial decides. -/
def decide (rule : AccessRule) (context : ExecutionContext) : AuthorizationOutcome :=
  match rule.denials context with
  | [] => .granted
  | denial :: _ => .denied denial

end AccessRule

end IntentBus
