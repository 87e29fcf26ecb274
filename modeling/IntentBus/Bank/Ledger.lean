import IntentBus.Dictionary
import IntentBus.Failure

/-! A ledger of accounts with balances in whole units. -/

namespace IntentBus.Bank

/-- How many accounts were opened, and the balance of each. -/
structure Ledger where
  opened : Nat
  balances : Dictionary Int64

/-- What customers may ask for. -/
inductive Request
  | open (holder : String) (deposit : Int64)
  | withdraw (account : String) (amount : Int64)
  | balance (account : String)

/-- What they get: the id of a new account, or an amount. -/
inductive Reply
  | account (id : String)
  | amount (units : Int64)
deriving DecidableEq

namespace Ledger

def empty : Ledger := ⟨0, .empty⟩

/-- The id of the account that is opened as the `n`-th. -/
def accountId (n : Nat) : String := "A" ++ toString n

def unknownAccount (account : String) : Failure := ⟨"unknown account " ++ account, []⟩

def insufficientFunds : Failure := ⟨"insufficient funds", []⟩

/-- Opens an account under the next id. -/
def openAccount (ledger : Ledger) (deposit : Int64) : String × Ledger :=
  let id := accountId (ledger.opened + 1)
  (id, ⟨ledger.opened + 1, ledger.balances.insert id deposit⟩)

/-- Takes an amount that the balance covers; the answer is what remains. -/
def withdraw (ledger : Ledger) (account : String) (amount : Int64) : Except Failure (Int64 × Ledger) :=
  match ledger.balances.find? account with
  | none => .error (unknownAccount account)
  | some balance =>
    if amount ≤ balance then
      .ok (balance - amount, { ledger with balances := ledger.balances.insert account (balance - amount) })
    else .error insufficientFunds

def balance (ledger : Ledger) (account : String) : Except Failure Int64 :=
  match ledger.balances.find? account with
  | none => .error (unknownAccount account)
  | some balance => .ok balance

/-- Serves a request; a request that fails leaves the ledger as it was. -/
def serve (ledger : Ledger) : Request → Except Failure Reply × Ledger
  | .open _ deposit =>
    let (id, next) := ledger.openAccount deposit
    (.ok (.account id), next)
  | .withdraw account amount =>
    match ledger.withdraw account amount with
    | .ok (rest, next) => (.ok (.amount rest), next)
    | .error failure => (.error failure, ledger)
  | .balance account => ((ledger.balance account).map .amount, ledger)

end Ledger

end IntentBus.Bank
