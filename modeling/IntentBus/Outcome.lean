import IntentBus.Json.Decoder

/-! What validation and authorization say about an intent. -/

namespace IntentBus

/-- The part of validation that an outcome comes from: declared constraints first, then the rules of the intent. -/
inductive ValidationPhase
  | structural
  | custom
deriving DecidableEq

/-- A reason why an intent is refused: what it is about, a message for people and a code for programs. -/
structure Violation where
  subject : String
  message : String
  code : String
deriving DecidableEq

/-- The violations found, in order; an outcome is valid when there are none. -/
structure ValidationOutcome where
  violations : List Violation
deriving DecidableEq

/-- An answer of authorization. A reason against the intent outweighs the flag. -/
structure AuthorizationOutcome where
  flag : Bool
  violations : List Violation
deriving DecidableEq

namespace ValidationPhase

def label : ValidationPhase → String
  | structural => "structural"
  | custom => "custom"

/-- The name of a phase in data. -/
def tag : ValidationPhase → String
  | structural => "Structural"
  | custom => "Custom"

def toJson (phase : ValidationPhase) : Json := .string phase.tag

def decoder : Json.Decoder ValidationPhase :=
  .name ([structural, custom].map fun phase => (phase.tag, phase))

end ValidationPhase

namespace Violation

def text (violation : Violation) : String :=
  violation.subject ++ ": " ++ violation.message ++ " [" ++ violation.code ++ "]"

/-- Violations of fields and of resources differ in the name of their subject only. -/
def toJson (subjectName : String) (violation : Violation) : Json :=
  .object [(subjectName, .string violation.subject), ("message", .string violation.message),
    ("code", .string violation.code)]

def decoder (subjectName : String) : Json.Decoder Violation :=
  .record false [subjectName, "message", "code"] fun
    | depth, [subject, message, code] => do
      let subject ← Json.Decoder.required .string depth subject
      let message ← Json.Decoder.required .string depth message
      let code ← Json.Decoder.required .string depth code
      return ⟨subject, message, code⟩
    | _, _ => none

end Violation

namespace ValidationOutcome

def valid : ValidationOutcome := ⟨[]⟩

def push (outcome : ValidationOutcome) (violation : Violation) : ValidationOutcome :=
  ⟨outcome.violations ++ [violation]⟩

def merge (first second : ValidationOutcome) : ValidationOutcome :=
  ⟨first.violations ++ second.violations⟩

def isValid (outcome : ValidationOutcome) : Bool := outcome.violations.isEmpty

def fields (outcome : ValidationOutcome) : List String := outcome.violations.map (·.subject)

def toJson (outcome : ValidationOutcome) : Json :=
  .object [("violations", .ofList (Violation.toJson "field") outcome.violations)]

def decoder : Json.Decoder ValidationOutcome :=
  .record false ["violations"] fun
    | depth, [violations] => do
      let violations ← Json.Decoder.required (.list (Violation.decoder "field")) depth violations
      return ⟨violations⟩
    | _, _ => none

end ValidationOutcome

namespace AuthorizationOutcome

def granted : AuthorizationOutcome := ⟨true, []⟩

def denied (violation : Violation) : AuthorizationOutcome := ⟨false, [violation]⟩

def deny (outcome : AuthorizationOutcome) (violation : Violation) : AuthorizationOutcome :=
  ⟨false, outcome.violations ++ [violation]⟩

def isAuthorized (outcome : AuthorizationOutcome) : Bool := outcome.flag && outcome.violations.isEmpty

def toJson (outcome : AuthorizationOutcome) : Json :=
  .object [("authorized", .bool outcome.flag),
    ("violations", .ofList (Violation.toJson "resource") outcome.violations)]

def decoder : Json.Decoder AuthorizationOutcome :=
  .record false ["authorized", "violations"] fun
    | depth, [flag, violations] => do
      let flag ← Json.Decoder.required .bool depth flag
      let violations ← Json.Decoder.required (.list (Violation.decoder "resource")) depth violations
      return ⟨flag, violations⟩
    | _, _ => none

end AuthorizationOutcome

end IntentBus
