import IntentBus.Json.View
import IntentBus.Number.Shortest

/-! The shapes in which a data value may be asked for by name. -/

namespace IntentBus.Json

/-- The integers between two bounds, as data. -/
def integers (low high : Int) (value : Json) : Option Json := (intWithin? low high value).map ofInt

/-- The natural numbers below a bound, as data. -/
def naturals (bound : Nat) (value : Json) : Option Json := (natBelow? bound value).map (ofInt ·)

/-- The view of a shape: the value as it is seen in that shape, as data again. Numbers that may have a fraction
are seen as their texts. -/
def shapeView? : String → Option (Json → Option Json)
  | "i64" => some (integers Int64.minValue.toInt Int64.maxValue.toInt)
  | "u64" => some (naturals UInt64.size)
  | "i32" => some (integers Int32.minValue.toInt Int32.maxValue.toInt)
  | "u32" => some (naturals UInt32.size)
  | "i8" => some (integers Int8.minValue.toInt Int8.maxValue.toInt)
  | "u8" => some (naturals UInt8.size)
  | "f64" => some fun value => value.binary64?.map fun x => string x.text
  | "bool" => some fun value => value.bool?.map bool
  | "string" => some fun value => value.string?.map string
  | "char" => some fun value => value.char?.map fun c => string c.toString
  | "unit" => some fun value => value.unit?.map fun () => null
  | "opt_i64" => some fun value => (value.option? int64?).map (ofOption ofInt)
  | "vec_i64" => some fun value => (value.list? int64?).map (ofList ofInt)
  | "vec_string" => some fun value => (value.list? string?).map (ofList string)
  | "map_i64" => some fun value => (value.dictionary? int64?).map (ofDictionary ofInt)
  | "pair" => some fun value => (value.pair? int64? string?).map fun pair => array [ofInt pair.1, string pair.2]
  | "value" => some some
  | _ => none

end IntentBus.Json
