import IntentBus.Number.Numeral
import IntentBus.Uuid

/-! The tokens of JSON text: how each is written, and how a row of characters falls into tokens. -/

namespace IntentBus.Json

/-- A token. The content of a string is absent when an escape in it names half of a surrogate pair. -/
inductive Token
  | objectStart
  | objectEnd
  | arrayStart
  | arrayEnd
  | colon
  | comma
  | null
  | bool (value : Bool)
  | number (numeral : Numeral)
  | string (content : Option String)
deriving DecidableEq

/-- A control character without a short escape is written with four hexadecimal digits. -/
def escapeCode (c : Char) : List Char :=
  ['\\', 'u', '0', '0', Uuid.hexDigit (Uuid.lastDigit (c.toNat / 16)), Uuid.hexDigit (Uuid.lastDigit c.toNat)]

/-- A character inside quotes. -/
def quotedChar (c : Char) : List Char :=
  if c = '"' then ['\\', '"']
  else if c = '\\' then ['\\', '\\']
  else if c = '\x08' then ['\\', 'b']
  else if c = '\t' then ['\\', 't']
  else if c = '\n' then ['\\', 'n']
  else if c = '\x0c' then ['\\', 'f']
  else if c = '\r' then ['\\', 'r']
  else if c.toNat < 0x20 then escapeCode c
  else [c]

def quoted (text : String) : List Char := '"' :: text.toList.flatMap quotedChar ++ ['"']

/-- A token as it is written. -/
def Token.chars : Token → List Char
  | objectStart => ['\x7b']
  | objectEnd => ['\x7d']
  | arrayStart => ['[']
  | arrayEnd => [']']
  | colon => [':']
  | comma => [',']
  | null => ['n', 'u', 'l', 'l']
  | bool true => ['t', 'r', 'u', 'e']
  | bool false => ['f', 'a', 'l', 's', 'e']
  | number numeral => numeral.chars
  | string content => quoted (content.getD "")

/-- The part of a numeral that was read last. -/
inductive NumeralPart
  | sign
  | zero
  | whole
  | point
  | fraction
  | mark
  | exponentSign
  | exponent
deriving DecidableEq

/-- A numeral read so far, its digits last first. -/
structure NumeralRead where
  part : NumeralPart
  negative : Bool
  whole : List Char
  fraction : List Char
  exponentNegative : Bool
  exponent : List Char

namespace NumeralRead

/-- Takes one more character if the numeral can go on with it. -/
def extend (read : NumeralRead) (c : Char) : Option NumeralRead :=
  let intoExponent := some { read with part := .exponent, exponent := c :: read.exponent }
  let intoFraction := some { read with part := .fraction, fraction := c :: read.fraction }
  let isMark := c = 'e' || c = 'E'
  match read.part with
  | .sign =>
    if c = '0' then some { read with part := .zero, whole := [c] }
    else if c.isDigit then some { read with part := .whole, whole := [c] } else none
  | .zero =>
    if c = '.' then some { read with part := .point }
    else if isMark then some { read with part := .mark } else none
  | .whole =>
    if c.isDigit then some { read with whole := c :: read.whole }
    else if c = '.' then some { read with part := .point }
    else if isMark then some { read with part := .mark } else none
  | .point => if c.isDigit then intoFraction else none
  | .fraction =>
    if c.isDigit then intoFraction
    else if isMark then some { read with part := .mark } else none
  | .mark =>
    if c = '-' || c = '+' then
      some { read with part := .exponentSign, exponentNegative := c = '-' }
    else if c.isDigit then intoExponent else none
  | .exponentSign => if c.isDigit then intoExponent else none
  | .exponent => if c.isDigit then intoExponent else none

/-- The numeral, if it may end here. -/
def finish (read : NumeralRead) : Option Numeral :=
  let exponent : Int := Numeral.ofDigits read.exponent.reverse
  let numeral := Numeral.mk read.negative read.whole.reverse read.fraction.reverse
  match read.part with
  | .zero | .whole | .fraction => some (numeral none)
  | .exponent => some (numeral (some (if read.exponentNegative then -exponent else exponent)))
  | .sign | .point | .mark | .exponentSign => none

end NumeralRead

/-- Where inside a string the reading stands. -/
inductive StringPart
  | plain
  | escape
  | code (left value : Nat)

/-- A string read so far, last character first; `high` is the first half of a surrogate pair whose second
half has to follow, and `whole` tells that no half stood alone. -/
structure StringRead where
  part : StringPart
  chars : List Char
  high : Option Nat
  whole : Bool

namespace StringRead

/-- Takes a character of the content. -/
def push (read : StringRead) (c : Char) : StringRead :=
  ⟨.plain, c :: read.chars, none, read.whole && read.high.isNone⟩

/-- Takes a code unit; two halves of a surrogate pair make one character. -/
def pushUnit (read : StringRead) (unit : Nat) : StringRead :=
  if 0xDC00 ≤ unit && unit < 0xE000 then
    match read.high with
    | some high =>
      { read with
        part := .plain, high := none
        chars := Char.ofNat (0x10000 + (high - 0xD800) * 0x400 + (unit - 0xDC00)) :: read.chars }
    | none => { read with part := .plain, whole := false }
  else if 0xD800 ≤ unit && unit < 0xDC00 then
    { read with part := .plain, high := some unit, whole := read.whole && read.high.isNone }
  else read.push (Char.ofNat unit)

/-- The character that a short escape stands for. -/
def unescape? : Char → Option Char
  | '"' => some '"'
  | '\\' => some '\\'
  | '/' => some '/'
  | 'b' => some '\x08'
  | 'f' => some '\x0c'
  | 'n' => some '\n'
  | 'r' => some '\r'
  | 't' => some '\t'
  | _ => none

/-- Takes one more character other than the closing quote. -/
def extend (read : StringRead) (c : Char) : Option StringRead :=
  match read.part with
  | .plain =>
    if c = '\\' then some { read with part := .escape }
    else if c.toNat < 0x20 then none else some (read.push c)
  | .escape =>
    if c = 'u' then some { read with part := .code 3 0 } else (unescape? c).map read.push
  | .code left value =>
    (Uuid.hexValue? c).map fun digit =>
      let value := 16 * value + digit
      match left with
      | 0 => read.pushUnit value
      | left + 1 => { read with part := .code left value }

/-- The content; absent when half of a pair stood alone. -/
def content (read : StringRead) : Option String :=
  if read.whole && read.high.isNone then some (String.ofList read.chars.reverse) else none

end StringRead

/-- What the lexer is in the middle of. -/
inductive LexMode
  | between
  | word (left : List Char) (token : Token)
  | numeral (read : NumeralRead)
  | string (read : StringRead)

/-- White space between tokens. -/
def isSpace (c : Char) : Bool := c = ' ' || c = '\n' || c = '\t' || c = '\r'

/-- Starts a token, or completes one of a single character. -/
def startToken (c : Char) (tokens : List Token) : Option (LexMode × List Token) :=
  if isSpace c then some (.between, tokens)
  else match c with
    | '\x7b' => some (.between, .objectStart :: tokens)
    | '\x7d' => some (.between, .objectEnd :: tokens)
    | '[' => some (.between, .arrayStart :: tokens)
    | ']' => some (.between, .arrayEnd :: tokens)
    | ':' => some (.between, .colon :: tokens)
    | ',' => some (.between, .comma :: tokens)
    | 'n' => some (.word ['u', 'l', 'l'] .null, tokens)
    | 't' => some (.word ['r', 'u', 'e'] (.bool true), tokens)
    | 'f' => some (.word ['a', 'l', 's', 'e'] (.bool false), tokens)
    | '"' => some (.string ⟨.plain, [], none, true⟩, tokens)
    | '-' => some (.numeral ⟨.sign, true, [], [], false, []⟩, tokens)
    | c =>
      (NumeralRead.extend ⟨.sign, false, [], [], false, []⟩ c).map fun read => (.numeral read, tokens)

/-- Takes one more character; the tokens completed so far stand last first. -/
def lexStep : LexMode × List Token → Char → Option (LexMode × List Token)
  | (.between, tokens), c => startToken c tokens
  | (.word [] _, _), _ => none
  | (.word [last] token, tokens), c => if c = last then some (.between, token :: tokens) else none
  | (.word (next :: left) token, tokens), c => if c = next then some (.word left token, tokens) else none
  | (.numeral read, tokens), c =>
    match read.extend c with
    | some read => some (.numeral read, tokens)
    | none => read.finish.bind fun numeral => startToken c (.number numeral :: tokens)
  | (.string read, tokens), c =>
    match read.part with
    | .plain =>
      if c = '"' then some (.between, .string read.content :: tokens)
      else (read.extend c).map fun read => (.string read, tokens)
    | _ => (read.extend c).map fun read => (.string read, tokens)

/-- The tokens at the end of the text. -/
def lexFinish : LexMode × List Token → Option (List Token)
  | (.between, tokens) => some tokens.reverse
  | (.numeral read, tokens) => read.finish.map fun numeral => (.number numeral :: tokens).reverse
  | _ => none

/-- The tokens of a text. -/
def lex (chars : List Char) : Option (List Token) :=
  (chars.foldlM lexStep (.between, [])).bind lexFinish

end IntentBus.Json
