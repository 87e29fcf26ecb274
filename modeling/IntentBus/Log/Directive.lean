import IntentBus.Log
import IntentBus.Pattern.Reader
import IntentBus.Text.Alphanumeric
import IntentBus.Text.ByteSlice

/-! The directives of log filters: which targets, spans and fields they name, and up to which verbosity they
let entries through. -/

namespace IntentBus

/-- What a directive asks of the value of a field. The text of a pattern tells patterns apart. -/
inductive FieldDemand
  | present
  | bool (value : Bool)
  | integer (value : Int)
  | number (value : Binary64)
  | matching (text : String) (pattern : Pattern)
deriving DecidableEq

/-- A directive of a filter. A target stands for all targets that begin like it; a span or a field that is not
named is not asked for. -/
structure LogDirective where
  target : String
  span : Option String
  field : Option (String × FieldDemand)
  verbosity : Nat
deriving DecidableEq

/-- Why a filter cannot be read: a directive breaks the rules, or one of its parts would begin or end inside a
character. -/
inductive LogFilterError
  | malformed
  | brokenCharacter
deriving DecidableEq

namespace LogFilterError

def message : LogFilterError → String
  | malformed => "invalid filter directive"
  | brokenCharacter => "part of a filter directive ends inside a character"

/-- The code with which a program ends that is given such a filter; only the rules of directives count as an
error that it reports. -/
def exitCode : LogFilterError → Nat
  | malformed => 1
  | brokenCharacter => 101

end LogFilterError

namespace FieldDemand

/-- Whether a value meets a demand; the values of fields are texts and whole numbers. -/
def accepts : FieldDemand → Option Json → Bool
  | present, _ => true
  | bool value, some (.bool given) => value = given
  | integer value, some (.integer given _) => value = given
  | matching _ pattern, some (.string given) => pattern.matchesWhole given
  | _, _ => false

/-- Reads a demand for a value: a truth value, a number, or a pattern for the whole value. -/
def ofText? (text : String) : Option FieldDemand :=
  if text = "true" then some (bool true)
  else if text = "false" then some (bool false)
  else
    match (Numeral.integer? text).filter fun n => FitsWord n with
    | some n => some (integer n)
    | none =>
      match Binary64.ofText? text with
      | some x => some (number x)
      | none => (Pattern.ofText? text).map (matching text)

end FieldDemand

namespace LogDirective

/-- The verbosity that a level names, by its number or by its name in any case. -/
def verbosity? (text : String) : Option Nat :=
  match Numeral.natural? text with
  | some n => if n ≤ 5 then some n else none
  | none =>
    ["off", "error", "warn", "info", "debug", "trace"].findIdx? (· = String.ofList (text.toList.map Char.toLower))

/-- A directive that lets everything through. -/
def unlimited : LogDirective := ⟨"", none, none, 5⟩

/-- Whether a directive may begin with a character, a bracket apart. -/
def beginsTarget (c : Char) : Bool := Text.isAlphanumeric c || c = '_' || c = ':' || c = '-'

/-- Where in a directive the reading stands. The parts begin at a position in bytes. -/
inductive Place
  | start
  | target (start : Nat)
  | span (start : Nat)
  | field (start : Nat)
  | fieldEnd
  | spanEnd
  | level (start : Nat)

/-- A directive that is being read. -/
structure Reading where
  place : Place
  position : Nat
  directive : LogDirective

/-- A part of the text of a directive. -/
def part (chars : List Char) (start stop : Nat) : Except LogFilterError String :=
  match Text.byteSlice? chars start stop with
  | some part => .ok (String.ofList part)
  | none => .error .brokenCharacter

/-- Reads a field: its name, and after an equals sign what is asked of its value. -/
def field? (text : String) : Option (String × FieldDemand) :=
  match text.splitOn "=" with
  | name :: value :: _ => (FieldDemand.ofText? value).map (name, ·)
  | _ => some (text, .present)

/-- Reads a level; an absent one is no limit. -/
def level (text : String) : Except LogFilterError Nat :=
  if text = "" then .ok 5
  else match verbosity? text with
    | some verbosity => .ok verbosity
    | none => .error .malformed

namespace Reading

/-- Goes on to another place after a character. -/
def move (reading : Reading) (place : Place) (size : Nat) : Reading :=
  { reading with place := place, position := reading.position + size }

/-- Takes one more character. Parts are cut out of the whole text at the positions counted here. -/
def step (chars : List Char) (reading : Reading) (c : Char) : Except LogFilterError Reading := do
  let position := reading.position
  let directive := reading.directive
  match reading.place, c with
  | .start, '[' => return reading.move (.span (position + 1)) 1
  | .start, c =>
    if beginsTarget c then return reading.move (.target position) c.utf8Size else throw .malformed
  | .target start, '=' =>
    return { reading with directive := { directive with target := ← part chars start position } }.move
      (.level (position + 1)) 1
  | .target start, '[' =>
    return { reading with directive := { directive with target := ← part chars start position } }.move
      (.span (position + 1)) 1
  | .span start, ']' =>
    return { reading with directive := { directive with span := ← part chars start position } }.move .spanEnd 1
  | .span start, '\x7b' =>
    let name ← part chars start position
    return { reading with directive := { directive with span := if name = "" then none else some name } }.move
      (.field (position + 1)) 1
  | .field start, '\x7d' =>
    let text ← part chars start position
    match if text = "" then none else field? text with
    | some field => return { reading with directive := { directive with field := some field } }.move .fieldEnd 1
    | none => throw .malformed
  | .fieldEnd, ']' => return reading.move .spanEnd 1
  | .spanEnd, '=' => return reading.move (.level (position + 1)) 1
  | .fieldEnd, _ | .spanEnd, _ => throw .malformed
  | place, c => return reading.move place c.utf8Size

/-- Ends a directive. Without an equals sign its text is a level or, failing that, a target without limit. -/
def finish (chars : List Char) (reading : Reading) : Except LogFilterError LogDirective :=
  let stop := Text.byteLength chars
  match reading.place with
  | .target start => do
    let text ← part chars start stop
    match verbosity? text with
    | some verbosity => return { reading.directive with verbosity := verbosity }
    | none => return { reading.directive with target := text }
  | .level start => do return { reading.directive with verbosity := ← level (← part chars start stop) }
  | .spanEnd => .ok reading.directive
  | _ => .error .malformed

end Reading

/-- A text without the blanks at both ends. -/
def trimmed (chars : List Char) : List Char :=
  ((chars.dropWhile Text.isBlank).reverse.dropWhile Text.isBlank).reverse

/-- Reads a directive. Positions are counted without blanks at both ends, and parts are taken at these
positions of the whole text. -/
def ofText (text : String) : Except LogFilterError LogDirective := do
  let reading ← (trimmed text.toList).foldlM (Reading.step text.toList) ⟨.start, 0, unlimited⟩
  reading.finish text.toList

end LogDirective

end IntentBus
