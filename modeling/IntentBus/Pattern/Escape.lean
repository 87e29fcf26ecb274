import IntentBus.Pattern.CharSet

/-! Escapes in patterns: what stands after a backslash. -/

namespace IntentBus

/-- What an escape stands for: a character, a set of characters, or one end of the text. -/
inductive Escape
  | char (c : Char)
  | set (set : CharSet)
  | textStart
  | textEnd

namespace Escape

/-- The value of a hexadecimal digit in either case. -/
def hexValue? (c : Char) : Option Nat := "0123456789abcdef".toList.idxOf? c.toLower

/-- The character whose code point some hexadecimal digits write. -/
def ofHex? (digits : List Char) : Option Escape := do
  let values ← digits.mapM hexValue?
  let code := values.foldl (fun n digit => 16 * n + digit) 0
  if digits.isEmpty || !decide (code.isValidChar) then none else some (char (Char.ofNat code))

/-- A code point in hexadecimal: any number of digits in braces, or so many without. -/
def codePoint? (size : Nat) (chars : List Char) : Option (Escape × List Char) :=
  match chars with
  | '\x7b' :: rest =>
    match rest.dropWhile (· ≠ '\x7d') with
    | _ :: after => (ofHex? (rest.takeWhile (· ≠ '\x7d'))).map (·, after)
    | [] => none
  | _ => if chars.length < size then none else (ofHex? (chars.take size)).map (·, chars.drop size)

/-- Letters have the meanings listed; a mark of the ASCII range stands for itself, angle brackets apart. -/
def ofChar? : Char → Option Escape
  | 'n' => some (char '\n')
  | 't' => some (char '\t')
  | 'r' => some (char '\r')
  | 'f' => some (char '\x0c')
  | 'v' => some (char '\x0b')
  | 'a' => some (char '\x07')
  | 'd' => some (set .digit)
  | 'D' => some (set (.complement .digit))
  | 's' => some (set .blank)
  | 'S' => some (set (.complement .blank))
  | 'A' => some textStart
  | 'z' => some textEnd
  | c => if c.toNat < 0x80 && !c.isAlphanum && c ≠ '<' && c ≠ '>' then some (char c) else none

/-- Reads what follows a backslash. -/
def read? : List Char → Option (Escape × List Char)
  | [] => none
  | 'x' :: rest => codePoint? 2 rest
  | 'u' :: rest => codePoint? 4 rest
  | 'U' :: rest => codePoint? 8 rest
  | c :: rest => (ofChar? c).map (·, rest)

end Escape

end IntentBus
