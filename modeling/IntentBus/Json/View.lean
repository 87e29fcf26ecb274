import IntentBus.Json.Basic

/-! Data values seen as plain values of one shape; a value of another shape is seen as nothing. -/

namespace IntentBus.Json

variable {α : Type}

/-- An integer within the bounds, both included. -/
def intWithin? (low high : Int) : Json → Option Int
  | integer n _ => if low ≤ n ∧ n ≤ high then some n else none
  | _ => none

def int64? (value : Json) : Option Int := intWithin? Int64.minValue.toInt Int64.maxValue.toInt value

/-- A natural number below a bound. -/
def natBelow? (bound : Nat) : Json → Option Nat
  | integer n _ => if 0 ≤ n ∧ n < bound then some n.toNat else none
  | _ => none

/-- A number, integers included. -/
def binary64? : Json → Option Binary64
  | integer n _ => some (.ofInt n)
  | float x => some x
  | _ => none

def bool? : Json → Option Bool
  | bool b => some b
  | _ => none

def string? : Json → Option String
  | string text => some text
  | _ => none

/-- A text of one character. -/
def char? : Json → Option Char
  | string text =>
    match text.toList with
    | [c] => some c
    | _ => none
  | _ => none

def unit? : Json → Option Unit
  | null => some ()
  | _ => none

/-- Null is seen as an absent value. -/
def option? (view : Json → Option α) : Json → Option (Option α)
  | null => some none
  | value => (view value).map some

/-- The value of a member; null if there is no such member. -/
def member (value : Json) (key : String) : Json :=
  match value with
  | object members => (members.lookup key).getD null
  | _ => null

def members? : Json → Option (List (String × Json))
  | object members => some members
  | _ => none

def uuid? (value : Json) : Option Uuid := value.string?.bind Uuid.ofText?

/-- A span of time by its seconds and nanoseconds. -/
def duration? (value : Json) : Option Duration := do
  let secs ← natBelow? UInt64.size (value.member "secs")
  let nanos ← natBelow? UInt32.size (value.member "nanos")
  Duration.ofParts? secs nanos

def list? (view : Json → Option α) : Json → Option (List α)
  | array items => items.mapM view
  | _ => none

def pair? {β : Type} (first : Json → Option α) (second : Json → Option β) : Json → Option (α × β)
  | array [left, right] => do return (← first left, ← second right)
  | _ => none

def dictionary? (view : Json → Option α) : Json → Option (Dictionary α)
  | object members =>
    (members.mapM fun member => (view member.2).map (member.1, ·)).map Dictionary.ofList
  | _ => none

end IntentBus.Json
