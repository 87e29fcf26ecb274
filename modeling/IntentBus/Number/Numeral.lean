import IntentBus.Number.Binary64

/-! Decimal numerals: what is written, and the double-precision number nearest to it. -/

namespace IntentBus

/-- A decimal numeral: digits before the point, digits after it, and a power of ten. No point is written
before an empty fraction. -/
structure Numeral where
  negative : Bool
  whole : List Char
  fraction : List Char
  exponent : Option Int
deriving DecidableEq

namespace Numeral

def digit (c : Char) : Nat := c.toNat - '0'.toNat

/-- The number that a row of digits stands for. -/
def ofDigits (digits : List Char) : Nat := digits.foldl (fun n c => 10 * n + digit c) 0

/-- A numeral without point and exponent. -/
def isInteger (numeral : Numeral) : Bool := numeral.fraction.isEmpty && numeral.exponent.isNone

/-- A numeral as it is written; an exponent always has its sign. -/
def chars (numeral : Numeral) : List Char :=
  (if numeral.negative then ['-'] else []) ++ numeral.whole ++
    (if numeral.fraction.isEmpty then [] else '.' :: numeral.fraction) ++
    match numeral.exponent with
    | none => []
    | some exponent => 'e' :: (if exponent < 0 then '-' else '+') :: Nat.toDigits 10 exponent.natAbs

/-- The number nearest to `significand * 10 ^ exponent`. Exponents that leave the format whatever the
significand are answered without computing the power. -/
def nearest (negative : Bool) (significand : Nat) (exponent : Int) : Binary64 :=
  let size := (significand.log2 / 3 + 1 : Nat)
  if significand = 0 || exponent + size < -400 then Binary64.zero negative
  else if 400 < exponent then .infinity negative
  else if exponent < 0 then Binary64.ofRatio negative significand (Nat.pow 10 exponent.natAbs)
  else Binary64.ofRatio negative (significand * Nat.pow 10 exponent.natAbs) 1

/-- The number nearest to a numeral. -/
def toBinary64 (numeral : Numeral) : Binary64 :=
  nearest numeral.negative (ofDigits (numeral.whole ++ numeral.fraction))
    (numeral.exponent.getD 0 - numeral.fraction.length)

/-- Splits a leading sign off. -/
def splitSign : List Char → Bool × List Char
  | '-' :: rest => (true, rest)
  | '+' :: rest => (false, rest)
  | rest => (false, rest)

/-- The number that a row of characters writes in digits alone. -/
def digits? (chars : List Char) : Option Nat :=
  if !chars.isEmpty && chars.all Char.isDigit then some (ofDigits chars) else none

/-- The exponent that ends a numeral, absent or written in full. -/
def exponent? : List Char → Option (Option Int)
  | [] => some none
  | c :: rest =>
    let (negative, digits) := splitSign rest
    if c = 'e' || c = 'E' then
      (digits? digits).map fun n => some (if negative then -(n : Int) else n)
    else none

/-- An unsigned numeral needs a digit on one side of the point at least. -/
def unsigned? (negative : Bool) (chars : List Char) : Option Numeral :=
  let whole := chars.takeWhile Char.isDigit
  let (fraction, rest) := match chars.dropWhile Char.isDigit with
    | '.' :: rest => (rest.takeWhile Char.isDigit, rest.dropWhile Char.isDigit)
    | rest => ([], rest)
  if whole.isEmpty && fraction.isEmpty then none
  else (exponent? rest).map (Numeral.mk negative whole fraction)

/-- The whole number that a text writes under an optional sign. -/
def integer? (text : String) : Option Int :=
  let (negative, rest) := splitSign text.toList
  (digits? rest).map fun n => if negative then -(n : Int) else n

/-- The whole number that a text writes under an optional plus sign. -/
def natural? (text : String) : Option Nat :=
  match splitSign text.toList with
  | (true, _) => none
  | (false, rest) => digits? rest

end Numeral

/-- Reads a number: a numeral, or the name of an infinity or of the value that is no number, in any case
and under an optional sign. -/
def Binary64.ofText? (text : String) : Option Binary64 :=
  let (negative, rest) := Numeral.splitSign text.toList
  let word := String.ofList (rest.map Char.toLower)
  if word = "nan" then some .nan
  else if word = "inf" || word = "infinity" then some (.infinity negative)
  else (Numeral.unsigned? negative rest).map Numeral.toBinary64

end IntentBus
