import IntentBus.Number.Shortest
import IntentBus.Outcome
import IntentBus.Pattern.Basic

/-! Constraints on the fields of an intent. Evaluation reports every broken constraint, in order. -/

namespace IntentBus

/-- The value of a field at the time when the constraints are stated. -/
inductive FieldValue
  | missing
  | text (text : String)
  | int (value : Int64)
  | float (value : Binary64)
  | bool (value : Bool)
deriving DecidableEq

/-- A rule about one field. Ranges are inclusive, and a length counts characters. A pattern keeps the text that
it was read from. -/
inductive Rule
  | required
  | notBlank
  | positive
  | nonNegative
  | range (min max : Binary64)
  | length (min max : Nat)
  | pattern (source : String) (pattern : Pattern)
  | check (passed : Bool) (code : String)

/-- A rule bound to the value of a field; a message of its own replaces that of the rule. -/
structure Constraint where
  field : String
  value : FieldValue
  rule : Rule
  message : Option String

/-- Constraints in the order of their statement. -/
structure ConstraintSet where
  constraints : List Constraint

namespace FieldValue

/-- The number nearest to a numeric value. -/
def number? : FieldValue → Option Binary64
  | int n => some (.ofInt n.toInt)
  | float x => some x
  | _ => none

end FieldValue

namespace Rule

/-- The code of a violation of the rule. -/
def code : Rule → String
  | required => "REQUIRED"
  | notBlank => "NOT_BLANK"
  | positive => "POSITIVE"
  | nonNegative => "NON_NEGATIVE"
  | range .. => "OUT_OF_RANGE"
  | length .. => "LENGTH"
  | pattern .. => "PATTERN"
  | check _ code => code

/-- The message of a violation of the rule. -/
def message : Rule → String
  | required => "is required"
  | notBlank => "must not be blank"
  | positive => "must be positive"
  | nonNegative => "must not be negative"
  | range min max => "must be between " ++ min.text ++ " and " ++ max.text
  | length min max => "length must be between " ++ toString min ++ " and " ++ toString max
  | pattern source _ => "must match " ++ source
  | check .. => "is invalid"

/-- The code for a value to which the rule does not apply. -/
def mismatchCode : String := "TYPE_MISMATCH"

/-- The code with which a value breaks a rule about its number. -/
def numericViolation? (rule : Rule) (value : FieldValue) (holds : Binary64 → Bool) : Option String :=
  match value.number? with
  | some x => if holds x then none else some rule.code
  | none => some mismatchCode

/-- The code with which a value breaks a rule. A missing value breaks only the rules that ask for one. -/
def violation? (rule : Rule) (value : FieldValue) : Option String :=
  let test (passed : Bool) : Option String := if passed then none else some rule.code
  match rule, value with
  | check passed _, _ => test passed
  | required, .missing | notBlank, .missing => some rule.code
  | required, _ => none
  | _, .missing => none
  | notBlank, .text text => test (!Text.allBlank text)
  | positive, value => rule.numericViolation? value fun x => 0 < x
  | nonNegative, value => rule.numericViolation? value fun x => 0 ≤ x
  | range min max, value => rule.numericViolation? value fun x => min ≤ x && x ≤ max
  | length min max, .text text => test (min ≤ text.length && text.length ≤ max)
  | pattern _ expression, .text text => test (expression.matchesIn text)
  | _, _ => some mismatchCode

end Rule

namespace Constraint

/-- The violation that a broken constraint reports. -/
def violation? (constraint : Constraint) : Option Violation :=
  (constraint.rule.violation? constraint.value).map fun code =>
    ⟨constraint.field, constraint.message.getD constraint.rule.message, code⟩

end Constraint

namespace ConstraintSet

def empty : ConstraintSet := ⟨[]⟩

instance : Inhabited ConstraintSet := ⟨empty⟩

def size (set : ConstraintSet) : Nat := set.constraints.length

def isEmpty (set : ConstraintSet) : Bool := set.constraints.isEmpty

/-- States one more constraint. -/
def rule (set : ConstraintSet) (field : String) (value : FieldValue) (rule : Rule) : ConstraintSet :=
  ⟨set.constraints ++ [⟨field, value, rule, none⟩]⟩

/-- Gives the last constraint a message of its own. -/
def message (set : ConstraintSet) (message : String) : ConstraintSet :=
  match set.constraints.getLast? with
  | none => set
  | some last => ⟨set.constraints.dropLast ++ [{ last with message := some message }]⟩

/-- States the result of a test made elsewhere. -/
def check (set : ConstraintSet) (field : String) (passed : Bool) (code message : String) : ConstraintSet :=
  (set.rule field (.bool passed) (.check passed code)).message message

/-- The violations of a set of constraints, in its order. -/
def evaluate (set : ConstraintSet) : ValidationOutcome := ⟨set.constraints.filterMap Constraint.violation?⟩

end ConstraintSet

end IntentBus
