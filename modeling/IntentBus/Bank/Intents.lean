import IntentBus.Bank.Ledger
import IntentBus.Bus.Basic

/-! The intents of the bank and their handlers. -/

namespace IntentBus.Bank

/-- The property of the context that limits withdrawals. -/
def limitProperty : String := "withdraw_limit"

/-- The limit where the context sets none. -/
def standardLimit : Int := 50

/-- The types of the three intents, named inside a module. -/
def openType (scope : String) : IntentType :=
  ⟨scope ++ "OpenAccount", "OpenAccount", .command, "alloc::string::String", 0⟩

def withdrawType (scope : String) : IntentType := ⟨scope ++ "Withdraw", "Withdraw", .command, "i64", 0⟩

def balanceType (scope : String) : IntentType := ⟨scope ++ "GetBalance", "GetBalance", .query, "i64", 0⟩

namespace Request

def type (scope : String) : Request → IntentType
  | .open .. => openType scope
  | .withdraw .. => withdrawType scope
  | .balance _ => balanceType scope

/-- What a request has to satisfy before the ledger sees it. -/
def constraints : Request → ConstraintSet
  | .open holder deposit =>
    (((ConstraintSet.empty.rule "name" (.text holder) .notBlank).message
      "account holder name is required").rule "deposit" (.int deposit) .nonNegative).message
      "opening deposit cannot be negative"
  | .withdraw account amount =>
    (ConstraintSet.empty.rule "account_id" (.text account) .notBlank).rule "amount" (.int amount) .positive
  | .balance _ => .empty

/-- Whether the context allows a withdrawal of an amount. -/
def withdrawalAccess (amount : Int64) (context : ExecutionContext) : AuthorizationOutcome :=
  let limit := context.propertyOr Json.int64? limitProperty standardLimit
  if limit < amount.toInt then
    .denied ⟨"amount", "withdrawal of " ++ toString amount.toInt ++ " exceeds the limit of " ++ toString limit,
      "LIMIT_EXCEEDED"⟩
  else .granted

/-- Withdrawals alone depend on the context. -/
def access :
    Request → Option (Correlation → ExecutionContext → ApplicationTask Ledger AuthorizationOutcome)
  | .withdraw _ amount => some fun _ context => .done (withdrawalAccess amount context)
  | _ => none

/-- A new account is announced; nothing else is. -/
def sideEffect : Request → Reply → Option SideEffect
  | .open holder deposit, .account id =>
    some ⟨"accounts.opened",
      .object [("account_id", .string id), ("deposit", .ofInt64 deposit), ("holder", .string holder)]⟩
  | _, _ => none

/-- The intent that asks for a request to be served. -/
def intent (scope : String) (request : Request) (provenance : Provenance) : Intent Ledger Request Reply :=
  let plain : Intent Ledger Request Reply := .plain (request.type scope) provenance request
  { plain with
    constraints := request.constraints
    authorizeInContext := request.access
    sideEffect := request.sideEffect }

end Request

/-- A handler that has its requests served by the ledger. -/
def handler (type : IntentType) : Handler Ledger Request Reply :=
  .plain type (type.typeName ++ "Handler") fun intent _ =>
    .update fun ledger => ledger.serve intent.content

/-- The handlers of the bank; balances have to be read within half a second. -/
def handlers (scope : String) : List (Handler Ledger Request Reply) :=
  [handler (openType scope), handler (withdrawType scope),
    { handler (balanceType scope) with timeout := some (.ofMillis 500) }]

/-- The publisher that writes side effects to the log. -/
def logPublisher : Publisher Ledger := fun origin effect => do
  Task.signal ⟨.info, .bank, "side effect published",
    [("topic", .string effect.topic), ("intent", .string origin.intentType),
      ("correlation_id", .string origin.correlationId),
      ("payload", .string effect.payload.render)], []⟩
  return none

end IntentBus.Bank
