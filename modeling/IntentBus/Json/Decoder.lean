import IntentBus.Json.Document
import IntentBus.Json.Number

/-! Reading plain values and records from JSON texts. What a reader does not ask for is not inspected. -/

namespace IntentBus.Json

/-- Reads a value from a tree in which so many containers more may be opened on the way down. -/
abbrev Decoder (α : Type u) := Nat → Document → Option α

namespace Decoder

variable {α : Type u}

/-- How deep the containers of a text may be nested where they are read. -/
def depthLimit : Nat := 127

def string : Decoder String
  | _, .string content => content
  | _, _ => none

def bool : Decoder Bool
  | _, .bool value => some value
  | _, _ => none

/-- An integer without point and exponent. -/
def int : Decoder Int
  | _, .number numeral =>
    match ofNumeral? numeral with
    | some (.integer value _) => some value
    | _ => none
  | _, _ => none

/-- A natural number below a bound. -/
def natBelow (bound : Nat) : Decoder Nat := fun depth document =>
  (int depth document).bind fun n => if 0 ≤ n ∧ n < bound then some n.toNat else none

def uint64 : Decoder UInt64 := fun depth document => (natBelow UInt64.size depth document).map UInt64.ofNat

def uint32 : Decoder UInt32 := fun depth document => (natBelow UInt32.size depth document).map UInt32.ofNat

/-- A number, integers included. -/
def binary64 : Decoder Binary64
  | _, .number numeral =>
    match ofNumeral? numeral with
    | some (.integer value _) => some (.ofInt value)
    | some (.float value) => some value
    | _ => none
  | _, _ => none

def uuid : Decoder Uuid := fun depth document => (string depth document).bind Uuid.ofText?

/-- One of several names, either as a string or as the only key of an object with a null. -/
def name (table : List (String × α)) : Decoder α
  | _, .string (some text) => table.lookup text
  | _ + 1, .object [(some text, .null)] => table.lookup text
  | _, _ => none

def list (item : Decoder α) : Decoder (List α)
  | depth + 1, .array items => items.mapM (item depth)
  | _, _ => none

/-- The members of an object, every key having content. -/
def members? (members : List (Option String × Document)) : Option (List (String × Document)) :=
  members.mapM fun (key, value) => key.map (·, value)

/-- An object with arbitrary keys; the last value of a key stays. -/
def dictionary (value : Decoder α) : Decoder (Dictionary α)
  | depth + 1, .object members =>
    ((members? members).bind fun members =>
      members.mapM fun (key, document) => (value depth document).map (key, ·)).map Dictionary.ofList
  | _, _ => none

/-- A record: an object in which no named field occurs twice, or an array of all fields in order. Other
fields are passed over, or refused by a closed record. -/
def record (closed : Bool) (names : List String) (build : Nat → List (Option Document) → Option α) :
    Decoder α
  | depth + 1, .array items =>
    if items.length = names.length then build depth (items.map some) else none
  | depth + 1, .object members =>
    (members? members).bind fun members =>
      if closed && members.any (fun (key, _) => !names.contains key) then none
      else if names.any fun name => 1 < members.countP (·.1 = name) then none
      else build depth (names.map (List.lookup · members))
  | _, _ => none

/-- A field that has to be there. -/
def required (decoder : Decoder α) (depth : Nat) (field : Option Document) : Option α :=
  field.bind (decoder depth)

/-- A field that may be absent or null. -/
def optional (decoder : Decoder α) (depth : Nat) : Option Document → Option (Option α)
  | none | some .null => some none
  | some document => (decoder depth document).map some

/-- A span of time: seconds and nanoseconds, whole seconds among the nanoseconds being carried. -/
def duration : Decoder Duration :=
  record true ["secs", "nanos"] fun
    | depth, [secs, nanos] => do
      let secs ← required (natBelow UInt64.size) depth secs
      let nanos ← required (natBelow UInt32.size) depth nanos
      Duration.ofParts? secs nanos
    | _, _ => none

mutual

/-- Any data value. The members of an object are put in order, the last value of a key staying. -/
def value : Nat → Document → Option Json
  | _, .null => some .null
  | _, .bool b => some (.bool b)
  | _, .number numeral => ofNumeral? numeral
  | _, .string content => content.map .string
  | 0, .array _ => none
  | depth + 1, .array items => (values depth items).map .array
  | 0, .object _ => none
  | depth + 1, .object members =>
    (entries depth members).map fun entries => .object (Dictionary.ofList entries).entries

def values : Nat → List Document → Option (List Json)
  | _, [] => some []
  | depth, item :: items => do
    let item ← value depth item
    let items ← values depth items
    return item :: items

def entries : Nat → List (Option String × Document) → Option (List (String × Json))
  | _, [] => some []
  | depth, (key, item) :: members => do
    let key ← key
    let item ← value depth item
    let members ← entries depth members
    return (key, item) :: members

end

/-- Reads a whole text. -/
def ofText? (decoder : Decoder α) (text : String) : Option α :=
  (Document.ofText? text).bind (decoder depthLimit)

end Decoder

end IntentBus.Json
