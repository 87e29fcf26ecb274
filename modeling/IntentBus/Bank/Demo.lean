import IntentBus.Bank.Intents
import IntentBus.Bank.Options
import IntentBus.Bus.Build
import IntentBus.Bus.Dispatch
import IntentBus.Log.Filter

/-! A walk through the bank: an account is opened and queried, a withdrawal beyond the limit and one within it
follow, then an account that nobody may open; and what is counted on the way is exported. -/

namespace IntentBus.Bank

/-- The bus of the bank under some options. -/
def bus (options : Options) (freshId : Nat → String) (draw : Nat → Nat) : Bus Ledger Request Reply :=
  { Bus.ofConfig options.busConfig freshId draw with
    collecting := true
    publisher := some logPublisher }

/-- The context of the teller, with the limit for withdrawals. -/
def tellerContext (options : Options) : ExecutionContext :=
  ((((ExecutionContext.Builder.fresh.withIdentity .userId "teller-7").withIdentity .source
    "relay-demo").withProperty limitProperty (.ofInt64 options.withdrawLimit))).build 0

/-- A task of the bank's bus. -/
abbrev BankTask := BusTask Ledger Request Reply

/-- The reply as data. -/
def Reply.toJson : Reply → Json
  | .account id => .string id
  | .amount units => .ofInt64 units

/-- What a walk needs: the bus, the module that the intents are named in, the context of the teller, and the
provenance of each intent by its place in the walk. -/
structure Walk where
  bus : Bus Ledger Request Reply
  scope : String
  context : ExecutionContext
  provenance : Nat → Provenance

namespace Walk

def dispatch (walk : Walk) (request : Request) (provenance : Provenance) :
    BankTask (Except DispatchError Reply) :=
  walk.bus.dispatch (request.intent walk.scope provenance) walk.context

/-- Asks for an amount and logs how that went. -/
def withdraw (walk : Walk) (place : Nat) (account : String) (amount : Int64) : BankTask Unit := do
  let provenance := (walk.provenance place).withCorrelationId ("withdraw-" ++ toString amount.toInt)
  match ← walk.dispatch (.withdraw account amount) provenance with
  | .ok remaining =>
    BusTask.log .info .bank "withdrawal accepted"
      [("amount", .ofInt64 amount), ("remaining", remaining.toJson)]
  | .error error =>
    BusTask.log .warn .bank "withdrawal refused"
      [("amount", .ofInt64 amount), ("kind", .string error.kind.label), ("error", .string error.message)]

/-- Submits an account without holder and with a debt, in no context. -/
def openInvalid (walk : Walk) (place : Nat) : BankTask Unit := do
  match ← { walk with context := .empty }.dispatch (.open "" (-5)) (walk.provenance place) with
  | .ok _ => return
  | .error error =>
    BusTask.log .warn .bank "account rejected"
      [("kind", .string error.kind.label), ("error", .string error.message)]

def logTotals : BankTask Unit := do
  let totals := (← Task.read).metrics.totals
  BusTask.log .info .bank "dispatch totals" [("totals", .string totals.toJson.render)]

/-- The walk. An error of the first two dispatches ends it. -/
def steps (walk : Walk) : BankTask (Except DispatchError Unit) := do
  match ← walk.dispatch (.open "Ada" 42) ((walk.provenance 0).withInitiator "teller-7") with
  | .error error => return .error error
  | .ok reply =>
    let account := match reply with
      | .account id => id
      | .amount _ => ""
    match ← walk.dispatch (.balance account) (walk.provenance 1) with
    | .error error => return .error error
    | .ok balance =>
      BusTask.log .info .bank "account opened"
        [("account_id", .string account), ("balance", balance.toJson)]
      walk.withdraw 2 account 100
      walk.withdraw 3 account 10
      walk.openInvalid 4
      logTotals
      return .ok ()

end Walk

/-- What comes out of a walk: the log, the exported counters, and whether it came to its end. -/
structure Report where
  log : List LogEntry
  counters : List String
  completed : Bool

/-- Counts of exported metrics by name and labels. -/
def countUpdate (counts : Dictionary Nat) (update : MetricUpdate) : Dictionary Nat :=
  let line (name : String) (labels : List (String × String)) : String :=
    name ++ "\x7b" ++ ",".intercalate (labels.map fun label => label.1 ++ "=\"" ++ label.2 ++ "\"") ++ "\x7d"
  let key := match update with
    | .count name labels => line name labels
    | .observe name labels _ => line (name ++ "_count") labels
  counts.alter key fun before => before.getD 0 + 1

/-- The lines of the export that count, in the order of their texts. -/
def exportLines (signals : List TelemetrySignal) : List String :=
  let counts := (signals.map MetricUpdate.ofSignal).foldl countUpdate .empty
  counts.entries.map fun entry => entry.1 ++ " " ++ toString entry.2

/-- The whole demonstration, from the start of the program to its report. -/
def demonstrate (options : Options) (scope : String) (freshId : Nat → String) (draw : Nat → Nat)
    (provenance : Nat → Provenance) : Report :=
  let bus := bus options freshId draw
  let starting : LogEntry :=
    ⟨.info, .bank, "starting relay demo", [("config", .string options.busConfig.toJson.render)], []⟩
  match bus.build (handlers scope) Ledger.empty with
  | (log, .error _) => ⟨starting :: log, [], false⟩
  | (log, .ok state) =>
    let walk : Walk := ⟨bus, scope, tellerContext options, provenance⟩
    let run := walk.steps.run 0 state
    let events := run.trace.map (·.event)
    let completed := match run.result with
      | some (.ok ()) => true
      | _ => false
    ⟨starting :: log ++ events.filterMap BusEvent.log?,
      if completed then exportLines (events.filterMap BusEvent.telemetry?) else [], completed⟩

end IntentBus.Bank
