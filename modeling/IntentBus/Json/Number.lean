import IntentBus.Json.Basic
import IntentBus.Number.Numeral

/-! Numerals in data. An integer that fits 64 bits is kept; any other numeral becomes a double-precision
number by the quick rule: as many digits as fit 64 bits, scaled by powers of ten with a rounding at each
step. -/

namespace IntentBus.Json

/-- The longest leading part of a digit row that fits 64 bits after what was read before, and the digits
left over. -/
def takeDigits : Nat → List Char → Nat × List Char
  | n, [] => (n, [])
  | n, c :: rest =>
    if 10 * n + Numeral.digit c < UInt64.size then takeDigits (10 * n + Numeral.digit c) rest else (n, c :: rest)

/-- Division by a power of ten, at most 308 places at a time. -/
def scaleDown (x : Binary64) (places : Nat) : Binary64 :=
  if places ≤ 308 then x / Binary64.ofNat (Nat.pow 10 places)
  else if x.isZero then x
  else scaleDown (x / Binary64.ofNat (Nat.pow 10 308)) (places - 308)
termination_by places
decreasing_by omega

/-- A number scaled by a power of ten; `none` beyond the largest number. -/
def scale (x : Binary64) (exponent : Int) : Option Binary64 :=
  if exponent < 0 then some (scaleDown x exponent.natAbs)
  else if x.isZero then some x
  else if 308 < exponent then none
  else
    let scaled := x * Binary64.ofNat (Nat.pow 10 exponent.natAbs)
    if scaled.isFinite then some scaled else none

/-- The number of a numeral that is not kept as an integer. -/
def floatOfNumeral? (numeral : Numeral) : Option Binary64 :=
  let (whole, beyond) := takeDigits 0 numeral.whole
  let (significand, unread) := takeDigits whole numeral.fraction
  let places : Int := beyond.length - (numeral.fraction.length - unread.length : Nat)
  (scale (Binary64.ofNat significand) (places + numeral.exponent.getD 0)).map fun x =>
    match x with
    | .finite _ units exact => .finite numeral.negative units exact
    | x => x

/-- The number that a numeral stands for; `none` beyond the largest number. A negative zero is no integer. -/
def ofNumeral? (numeral : Numeral) : Option Json :=
  let magnitude := Numeral.ofDigits numeral.whole
  let n : Int := if numeral.negative then -magnitude else magnitude
  if fits : FitsWord n ∧ numeral.isInteger ∧ ¬ (numeral.negative ∧ magnitude = 0) then
    some (integer n fits.1)
  else (floatOfNumeral? numeral).map float

end IntentBus.Json
