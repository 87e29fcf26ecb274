import IntentBus.Constraint
import IntentBus.Json.View
import IntentBus.Pattern.Reader

/-! Constraints stated as data: each statement adds a constraint or gives the last one its message. -/

namespace IntentBus

/-- Why statements cannot be followed. -/
inductive StatementError
  | malformed
  | invalidPattern
deriving DecidableEq

/-- What reading a statement comes to. -/
abbrev Stated (α : Type) := Except StatementError α

namespace Stated

/-- A member that has to be there in some shape. -/
def member {α : Type} (view : Json → Option α) (statement : Json) (key : String) : Stated α :=
  match view (statement.member key) with
  | some value => .ok value
  | none => .error .malformed

end Stated

/-- Reads a number from its text. -/
def Binary64.ofJson? (value : Json) : Option Binary64 := value.string?.bind Binary64.ofText?

namespace FieldValue

/-- The value under the name of its kind. -/
def ofMember? : String → Json → Option FieldValue
  | "missing", _ | "none", _ => some missing
  | "str", value | "string", value | "string_ref", value => value.string?.map text
  | "i64", value => value.int64?.map fun n => int (.ofInt n)
  | "i32", value => (value.intWithin? Int32.minValue.toInt Int32.maxValue.toInt).map fun n => int (.ofInt n)
  | "u32", value => (value.natBelow? UInt32.size).map fun n => int (.ofNat n)
  | "f64", value => (Binary64.ofJson? value).map float
  | "bool", value => value.bool?.map bool
  | _, _ => none

/-- Reads a value; one that is said to be there stands for itself. -/
def ofJson? : Json → Option FieldValue
  | .object [(key, value)] => if key = "some" then ofJson? value else ofMember? key value
  | _ => none

def toJson : FieldValue → Json
  | missing => .object [("missing", .null)]
  | text content => .object [("text", .string content)]
  | int n => .object [("int", .ofInt64 n)]
  | float x => .object [("float", .string x.text)]
  | bool b => .object [("bool", .bool b)]

end FieldValue

namespace Rule

/-- Reads a rule of some kind with its parameters. -/
def ofJson (kind : String) (statement : Json) : Stated Rule :=
  match kind with
  | "required" => .ok required
  | "not_blank" => .ok notBlank
  | "positive" => .ok positive
  | "non_negative" => .ok nonNegative
  | "range" => do
    return range (← Stated.member Binary64.ofJson? statement "min")
      (← Stated.member Binary64.ofJson? statement "max")
  | "length" => do
    let count := Stated.member (·.natBelow? UInt64.size) statement
    return length (← count "min") (← count "max")
  | "check" => do
    return check (← Stated.member (·.bool?) statement "passed") (← Stated.member (·.string?) statement "code")
  | "pattern" => do
    let source ← Stated.member (·.string?) statement "pattern"
    match Pattern.ofText? source with
    | some expression => return pattern source expression
    | none => throw .invalidPattern
  | _ => .error .malformed

end Rule

namespace Constraint

def toJson (constraint : Constraint) : Json :=
  .object [("field", .string constraint.field), ("value", constraint.value.toJson),
    ("code", .string constraint.rule.code), ("message", .ofOption .string constraint.message)]

end Constraint

namespace ConstraintSet

/-- Follows one more statement. -/
def state (set : ConstraintSet) (statement : Json) : Stated ConstraintSet := do
  let text := Stated.member (·.string?) statement
  match ← text "add" with
  | "message" => return set.message (← text "message")
  | "check" =>
    return set.check (← text "field") (← Stated.member (·.bool?) statement "passed") (← text "code")
      (← text "message")
  | kind =>
    let nested := statement.member "rule"
    let rule ←
      if kind = "rule" then Rule.ofJson (← Stated.member (·.string?) nested "kind") nested
      else Rule.ofJson kind statement
    let set := set.rule (← text "field") (← Stated.member FieldValue.ofJson? statement "value") rule
    match ← Stated.member (·.option? Json.string?) statement "message" with
    | some message => return set.message message
    | none => return set

/-- Follows the statements in order. -/
def ofStatements (statements : List Json) : Stated ConstraintSet := statements.foldlM state .empty

end ConstraintSet

end IntentBus
