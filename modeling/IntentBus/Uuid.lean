/-! Universally unique identifiers: 32 hexadecimal digits, written in groups. -/

namespace IntentBus

/-- An identifier of 32 hexadecimal digits. -/
structure Uuid where
  digits : List (Fin 16)
  count : digits.length = 32
deriving DecidableEq

namespace Uuid

/-- The identifier of zeros only. -/
def nil : Uuid := ⟨List.replicate 32 0, rfl⟩

instance : Inhabited Uuid := ⟨nil⟩

/-- The last hexadecimal digit of a number. -/
def lastDigit (n : Nat) : Fin 16 := ⟨n % 16, Nat.mod_lt n (by decide)⟩

/-- An identifier of drawn digits, but for the digit that tells its version, which is 4, and the upper half of
the one that tells its variant. -/
def random (drawn : Nat → Fin 16) : Uuid :=
  ⟨(List.range 32).map fun place =>
    if place = 12 then 4 else if place = 16 then lastDigit (8 + (drawn place).val % 4) else drawn place,
    by simp⟩

def hexDigit (digit : Fin 16) : Char :=
  if digit.val < 10 then Char.ofNat ('0'.toNat + digit.val) else Char.ofNat ('a'.toNat + (digit.val - 10))

def hexValue? (c : Char) : Option (Fin 16) :=
  let code := c.toNat
  if '0'.toNat ≤ code && code ≤ '9'.toNat then some (lastDigit (code - '0'.toNat))
  else if 'a'.toNat ≤ code && code ≤ 'f'.toNat then some (lastDigit (code - 'a'.toNat + 10))
  else if 'A'.toNat ≤ code && code ≤ 'F'.toNat then some (lastDigit (code - 'A'.toNat + 10))
  else none

/-- How many digits the groups have that follow the first. -/
def laterGroups : List Nat := [4, 4, 4, 12]

/-- Lower-case digits in groups of 8, 4, 4, 4 and 12 with hyphens between them. -/
def chars (id : Uuid) : List Char :=
  let rec groups : List Nat → List Char → List Char
    | [], _ => []
    | size :: rest, digits => '-' :: digits.take size ++ groups rest (digits.drop size)
  let digits := id.digits.map hexDigit
  digits.take 8 ++ groups laterGroups (digits.drop 8)

def text (id : Uuid) : String := String.ofList id.chars

/-- The digits of the groups when each later group follows a hyphen. -/
def ungroup? : List Nat → List Char → Option (List Char)
  | [], chars => if chars.isEmpty then some [] else none
  | size :: rest, '-' :: chars => (ungroup? rest (chars.drop size)).map (chars.take size ++ ·)
  | _ :: _, _ => none

/-- The identifier of 32 hexadecimal digits in either case. -/
def ofDigits? (chars : List Char) : Option Uuid :=
  match chars.mapM hexValue? with
  | some digits => if count : digits.length = 32 then some ⟨digits, count⟩ else none
  | none => none

/-- Reads an identifier in groups. -/
def ofGroups? (chars : List Char) : Option Uuid :=
  ((ungroup? laterGroups (chars.drop 8)).map (chars.take 8 ++ ·)).bind ofDigits?

/-- Reads an identifier: in groups or without hyphens, the grouped form also in braces or after the name of
its resource scheme in either case. -/
def ofText? (text : String) : Option Uuid :=
  let chars := text.toList
  let scheme := "urn:uuid:".toList
  if chars.length = 32 then ofDigits? chars
  else if chars.length = 38 && chars.head? = some '\x7b' && chars.getLast? = some '\x7d' then
    ofGroups? (chars.drop 1).dropLast
  else if scheme.isPrefixOf (chars.map Char.toLower) then ofGroups? (chars.drop scheme.length)
  else ofGroups? chars

end Uuid

end IntentBus
