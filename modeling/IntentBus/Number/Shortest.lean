import IntentBus.Number.Numeral

/-! The shortest decimal that reads back as a given number, and the ways to lay it out. -/

namespace IntentBus

/-- Which of its two neighbours stands for a magnitude halfway between them. -/
inductive TieRule
  | toEven
  | up
deriving DecidableEq

/-- The whole number nearest to `num / den`. -/
def TieRule.nearest (num den : Nat) : TieRule → Nat
  | toEven => Rounding.toEven num den
  | up => (2 * num + den) / (2 * den)

/-- The decimal `significand * 10 ^ exponent`. -/
structure Decimal where
  significand : Nat
  exponent : Int
deriving DecidableEq

namespace Decimal

/-- The digits, most significant first. -/
def digits (decimal : Decimal) : List Char := Nat.toDigits 10 decimal.significand

/-- How many digits stand before the point; negative when zeros follow the point first. -/
def point (decimal : Decimal) : Int := decimal.digits.length + decimal.exponent

/-- Whether the number nearest to a decimal is a given magnitude. -/
def readsAs (decimal : Decimal) (units : Nat) : Bool :=
  if decimal.exponent < 0 then
    Rounding.nearest (decimal.significand * Rounding.one) (Nat.pow 10 decimal.exponent.natAbs) = units
  else Rounding.nearest (decimal.significand * Nat.pow 10 decimal.exponent.natAbs * Rounding.one) 1 = units

/-- The two neighbours of a magnitude on the grid of multiples of `10 ^ exponent`, the nearer first. -/
def neighbours (tie : TieRule) (units : Nat) (exponent : Int) : List Decimal :=
  let num := if exponent < 0 then units * Nat.pow 10 exponent.natAbs else units
  let den := if exponent < 0 then Rounding.one else Rounding.one * Nat.pow 10 exponent.natAbs
  let floor := num / den
  let near := tie.nearest num den
  [⟨near, exponent⟩, ⟨2 * floor + 1 - near, exponent⟩]

/-- How many decimal digits stand before the point of a magnitude other than zero. -/
def pointOf (units : Nat) : Int := (Nat.toDigits 10 (units * Nat.pow 10 340 / Rounding.one)).length - 340

/-- The decimal of at most `count` digits, then of more, that reads back as the magnitude; seventeen
digits always do. -/
def search (tie : TieRule) (units : Nat) (point : Int) : (count more : Nat) → Decimal
  | count, 0 => (neighbours tie units (point - count)).headD ⟨0, 0⟩
  | count, more + 1 =>
    match (neighbours tie units (point - count)).find? (·.readsAs units) with
    | some decimal => decimal
    | none => search tie units point (count + 1) more

/-- Drops zeros at the end. -/
def trimFrom : (steps significand : Nat) → Int → Decimal
  | 0, significand, exponent => ⟨significand, exponent⟩
  | steps + 1, significand, exponent =>
    if significand ≠ 0 && significand % 10 = 0 then trimFrom steps (significand / 10) (exponent + 1)
    else ⟨significand, exponent⟩

/-- The decimal of fewest digits that reads back as a magnitude, and of those the nearest. -/
def shortest (tie : TieRule) (units : Nat) : Decimal :=
  if units = 0 then ⟨0, 0⟩
  else
    let found := search tie units (pointOf units) 1 16
    trimFrom 17 found.significand found.exponent

end Decimal

/-- How the numeral of a number is laid out. -/
structure NumberLayout where
  /-- Where the point may stand for positional writing; elsewhere the exponent is written. -/
  positional : Int → Bool
  /-- The fraction of a whole number in positional writing. -/
  wholeFraction : List Char
  /-- Which of two equally near decimals is written. -/
  tie : TieRule

namespace NumberLayout

/-- Numbers in messages: never an exponent, no point after a whole number, and a tie goes up. -/
def plain : NumberLayout := ⟨fun _ => true, [], .up⟩

/-- Numbers in data: an exponent for a point beyond sixteen digits or before five zeros, a fraction of one
zero after a whole number, and a tie goes to the even digit. -/
def data : NumberLayout := ⟨fun point => -5 < point && point ≤ 16, ['0'], .toEven⟩

/-- Digits around the point, with zeros where the point leaves the digits. -/
def positionalNumeral (layout : NumberLayout) (negative : Bool) (digits : List Char) (point : Int) :
    Numeral :=
  if point ≤ 0 then ⟨negative, ['0'], List.replicate point.natAbs '0' ++ digits, none⟩
  else
    let before := point.toNat
    if digits.length ≤ before then
      ⟨negative, digits ++ List.replicate (before - digits.length) '0', layout.wholeFraction, none⟩
    else ⟨negative, digits.take before, digits.drop before, none⟩

/-- The shortest numeral of a magnitude: one digit before the point wherever the exponent is written. -/
def numeral (layout : NumberLayout) (negative : Bool) (units : Nat) : Numeral :=
  let decimal := Decimal.shortest layout.tie units
  let digits := decimal.digits
  if layout.positional decimal.point then layout.positionalNumeral negative digits decimal.point
  else ⟨negative, digits.take 1, digits.drop 1, some (decimal.point - 1)⟩

end NumberLayout

/-- The text of a number in messages. -/
def Binary64.text : Binary64 → String
  | .nan => "NaN"
  | .infinity negative => if negative then "-inf" else "inf"
  | .finite negative units _ => String.ofList (NumberLayout.plain.numeral negative units).chars

end IntentBus
