import IntentBus.Json.Token

/-! JSON texts as trees. A tree keeps what reading may still refuse: numerals, repeated keys and strings
without content. -/

namespace IntentBus.Json

/-- A JSON text. -/
inductive Document
  | null
  | bool (value : Bool)
  | number (numeral : Numeral)
  | string (content : Option String)
  | array (items : List Document)
  | object (members : List (Option String × Document))

/-- A container around the place where reading stands, its finished parts last first. -/
inductive Frame
  | item (before : List Document)
  | member (before : List (Option String × Document)) (key : Option String)

/-- What may come next, inside the containers that are still open. -/
inductive Reading
  | value (frames : List Frame)
  | firstItem (frames : List Frame)
  | firstKey (frames : List Frame)
  | key (before : List (Option String × Document)) (frames : List Frame)
  | colon (before : List (Option String × Document)) (key : Option String) (frames : List Frame)
  | after (document : Document) (frames : List Frame)

namespace Reading

/-- Starts a value. -/
def start (frames : List Frame) : Token → Option Reading
  | .null => some (after .null frames)
  | .bool b => some (after (.bool b) frames)
  | .number numeral => some (after (.number numeral) frames)
  | .string content => some (after (.string content) frames)
  | .arrayStart => some (firstItem frames)
  | .objectStart => some (firstKey frames)
  | _ => none

/-- Takes one more token. -/
def step : Reading → Token → Option Reading
  | value frames, token => start frames token
  | firstItem frames, .arrayEnd => some (after (.array []) frames)
  | firstItem frames, token => start (.item [] :: frames) token
  | firstKey frames, .objectEnd => some (after (.object []) frames)
  | firstKey frames, .string content => some (colon [] content frames)
  | key before frames, .string content => some (colon before content frames)
  | colon before content frames, .colon => some (value (.member before content :: frames))
  | after document (.item before :: frames), .comma =>
    some (value (.item (document :: before) :: frames))
  | after document (.item before :: frames), .arrayEnd =>
    some (after (.array (document :: before).reverse) frames)
  | after document (.member before content :: frames), .comma =>
    some (key ((content, document) :: before) frames)
  | after document (.member before content :: frames), .objectEnd =>
    some (after (.object ((content, document) :: before).reverse) frames)
  | _, _ => none

/-- The tree, once every container is closed. -/
def finish : Reading → Option Document
  | after document [] => some document
  | _ => none

end Reading

namespace Document

/-- The tree of a row of tokens. -/
def ofTokens? (tokens : List Token) : Option Document :=
  (tokens.foldlM Reading.step (.value [])).bind Reading.finish

/-- The tree of a text; nothing but white space may stand around it. -/
def ofText? (text : String) : Option Document := (lex text.toList).bind ofTokens?

end Document

end IntentBus.Json
