import IntentBus.Json.Basic
import IntentBus.Json.Token
import IntentBus.Number.Shortest

/-! Data values as text, without white space between the tokens. -/

namespace IntentBus.Json

/-- A number; what is not finite is written as null. -/
def numberToken : Binary64 → Token
  | .finite negative units _ => .number (NumberLayout.data.numeral negative units)
  | _ => .null

def integerToken (n : Int) : Token :=
  .number ⟨n < 0, (toString n.natAbs).toList, [], none⟩

mutual

/-- The tokens of a value. -/
def tokens : Json → List Token
  | null => [.null]
  | bool value => [.bool value]
  | integer value _ => [integerToken value]
  | float value => [numberToken value]
  | string text => [.string (some text)]
  | array [] => [.arrayStart, .arrayEnd]
  | array (item :: items) => .arrayStart :: item.tokens ++ itemTokens items
  | object [] => [.objectStart, .objectEnd]
  | object ((key, value) :: members) =>
    .objectStart :: .string (some key) :: .colon :: value.tokens ++ memberTokens members

/-- The tokens from the end of an item to the end of its array. -/
def itemTokens : List Json → List Token
  | [] => [.arrayEnd]
  | item :: items => .comma :: item.tokens ++ itemTokens items

/-- The tokens from the end of a member to the end of its object. -/
def memberTokens : List (String × Json) → List Token
  | [] => [.objectEnd]
  | (key, value) :: members =>
    .comma :: .string (some key) :: .colon :: value.tokens ++ memberTokens members

end

/-- The text of a value. -/
def render (value : Json) : String := String.ofList (value.tokens.flatMap Token.chars)

end IntentBus.Json
