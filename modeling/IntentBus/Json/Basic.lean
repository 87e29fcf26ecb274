import IntentBus.Dictionary
import IntentBus.Duration
import IntentBus.Number.Binary64
import IntentBus.Uuid

/-! Data values in the JSON data model, and how plain values become such data. -/

namespace IntentBus

/-- The integers that fit 64 bits, with or without a sign. -/
def FitsWord (n : Int) : Prop := -9223372036854775808 ≤ n ∧ n < 18446744073709551616

instance (n : Int) : Decidable (FitsWord n) := inferInstanceAs (Decidable (_ ∧ _))

/-- A data value. The members of an object stand in the order in which they are written. -/
inductive Json
  | null
  | bool (value : Bool)
  | integer (value : Int) (fits : FitsWord value)
  | float (value : Binary64)
  | string (text : String)
  | array (items : List Json)
  | object (members : List (String × Json))

namespace Json

instance : Inhabited Json := ⟨null⟩

/-- An integer within reach, or null. -/
def ofInt (n : Int) : Json := if fits : FitsWord n then integer n fits else null

def ofUInt64 (n : UInt64) : Json := integer n.toNat ⟨by omega, by have := n.toNat_lt; omega⟩

def ofInt64 (n : Int64) : Json :=
  integer n.toInt ⟨by have := n.le_toInt; omega, by have := n.toInt_lt; omega⟩

def ofUInt32 (n : UInt32) : Json := integer n.toNat ⟨by omega, by have := n.toNat_lt; omega⟩

/-- A number; what is not finite has no number in data. -/
def ofBinary64 (x : Binary64) : Json := if x.isFinite then float x else null

def ofOption {α : Type u} (f : α → Json) : Option α → Json
  | none => null
  | some value => f value

def ofList {α : Type u} (f : α → Json) (items : List α) : Json := array (items.map f)

/-- A dictionary is an object with its keys in order. -/
def ofDictionary {α : Type u} (f : α → Json) (dictionary : Dictionary α) : Json :=
  object (dictionary.entries.map fun entry => (entry.1, f entry.2))

/-- A span of time as seconds and the nanoseconds beyond them. -/
def ofDuration (span : Duration) : Json :=
  object [("secs", ofInt span.secs), ("nanos", ofInt span.subsecNanos)]

def ofUuid (id : Uuid) : Json := string id.text

end Json

end IntentBus
