import IntentBus.Json.Number
import IntentBus.Proofs.Decimals
import IntentBus.Proofs.Numerals

/-! Numbers in double precision as data writes them: each has a regular numeral with a fraction or an exponent, whose digits fit
64 bits together. -/

namespace IntentBus

namespace Numeral

def significand (numeral : Numeral) : Nat := ofDigits (numeral.whole ++ numeral.fraction)

def power (numeral : Numeral) : Int := numeral.exponent.getD 0 - numeral.fraction.length

/-- What the numeral of a number in data has in common with the decimal of the number. Where the exponent is written it has its
digits and their place; elsewhere there are digits behind the point. -/
structure Shows (numeral : Numeral) (decimal : Decimal) : Prop where
  regular : numeral.Regular
  fractional : numeral.isInteger = false
  fits : numeral.significand < UInt64.size
  place : numeral.power < 0 ∨ numeral.significand = decimal.significand ∧ numeral.power = decimal.exponent

end Numeral

namespace NumberLayout

open Numeral

private theorem isDigit_of_mem_zeros {count : Nat} {c : Char} (mem : c ∈ List.replicate count '0') : c.isDigit = true := by
  rw [List.eq_of_mem_replicate mem]
  decide

section

variable {decimal : Decimal}

private theorem significand_split (negative : Bool) (count : Nat) (exponent : Option Int) :
    significand ⟨negative, decimal.digits.take count, decimal.digits.drop count, exponent⟩ = decimal.significand := by
  rw [significand, List.take_append_drop]
  exact ofDigits_toDigits decimal.significand

private theorem significand_of_whole (negative : Bool) {before : Nat} (low : before ≤ 16)
    (short : decimal.digits.length ≤ before) :
    significand ⟨negative, decimal.digits ++ List.replicate (before - decimal.digits.length) '0', ['0'], none⟩ <
      UInt64.size := by
  have less : decimal.significand < Nat.pow 10 decimal.digits.length :=
    (Nat.length_toDigits_le_iff (by decide) Nat.length_toDigits_pos).1 (Nat.le_refl _)
  have value : significand ⟨negative, decimal.digits ++ List.replicate (before - decimal.digits.length) '0', ['0'], none⟩ =
      Nat.pow 10 (before - decimal.digits.length + 1) * decimal.significand := by
    rw [significand, List.append_assoc, ← List.replicate_succ', ofDigits_append_zeros, Decimal.digits, ofDigits_toDigits]
  calc significand _
    _ = Nat.pow 10 (before - decimal.digits.length + 1) * decimal.significand := value
    _ ≤ Nat.pow 10 (before - decimal.digits.length + 1) * Nat.pow 10 decimal.digits.length :=
      Nat.mul_le_mul_left _ (Nat.le_of_lt less)
    _ = Nat.pow 10 (before - decimal.digits.length + 1 + decimal.digits.length) := (Nat.pow_add 10 _ _).symm
    _ ≤ Nat.pow 10 17 := Nat.pow_le_pow_right (by decide) (by omega)
    _ < UInt64.size := by decide

private theorem shows_fraction (few : decimal.significand ≤ Nat.pow 10 17) (negative : Bool) :
    Shows ⟨negative, ['0'], List.replicate decimal.point.natAbs '0' ++ decimal.digits, none⟩ decimal := by
  have length : 0 < decimal.digits.length := Nat.length_toDigits_pos
  refine ⟨⟨fun c mem => ?_, fun c mem => ?_, .inl rfl⟩, ?_, ?_, .inl ?_⟩
  · rw [List.mem_singleton.1 mem]
    decide
  · exact (List.mem_append.1 mem).elim isDigit_of_mem_zeros isDigit_of_mem_toDigits
  · simp [isInteger, List.ne_nil_of_length_pos length]
  · have value := (ofDigits_zeros_append (decimal.point.natAbs + 1) decimal.digits).trans
      (ofDigits_toDigits decimal.significand)
    refine Nat.lt_of_le_of_lt (Nat.le_trans (Nat.le_of_eq ?_) few) (by decide)
    rwa [List.replicate_succ, List.cons_append] at value
  · rw [power, Option.getD_none, List.length_append]
    omega

variable (filled : decimal.significand ≠ 0)

include filled

private theorem regular_split (negative : Bool) {count : Nat} (positive : 0 < count) (exponent : Option Int) :
    Regular ⟨negative, decimal.digits.take count, decimal.digits.drop count, exponent⟩ where
  whole := fun c mem => isDigit_of_mem_toDigits (List.mem_of_mem_take mem)
  fraction := fun c mem => isDigit_of_mem_toDigits (List.mem_of_mem_drop mem)
  lead := by
    obtain ⟨first, rest, same, nonzero⟩ := toDigits_eq_cons filled
    obtain ⟨count, rfl⟩ := Nat.exists_eq_succ_of_ne_zero (Nat.ne_of_gt positive)
    refine .inr ⟨first, rest.take count, ?_, nonzero⟩
    rw [Decimal.digits, same, List.take_succ_cons]

private theorem shows_whole (negative : Bool) {before : Nat} (low : before ≤ 16) (short : decimal.digits.length ≤ before) :
    Shows ⟨negative, decimal.digits ++ List.replicate (before - decimal.digits.length) '0', ['0'], none⟩ decimal := by
  refine ⟨⟨fun c mem => ?_, fun c mem => ?_, ?_⟩, rfl, significand_of_whole negative low short, .inl ?_⟩
  · exact (List.mem_append.1 mem).elim isDigit_of_mem_toDigits isDigit_of_mem_zeros
  · rw [List.mem_singleton.1 mem]
    decide
  · obtain ⟨first, rest, same, nonzero⟩ := toDigits_eq_cons filled
    exact .inr ⟨first, _, by rw [Decimal.digits, same, List.cons_append], nonzero⟩
  · exact (by decide : (0 : Int) - (1 : Nat) < 0)

variable (few : decimal.significand ≤ Nat.pow 10 17) (negative : Bool)

include few

private theorem shows_scientific : Shows
    ⟨negative, decimal.digits.take 1, decimal.digits.drop 1, some (decimal.point - 1)⟩ decimal where
  regular := regular_split filled negative Nat.one_pos _
  fractional := Bool.and_false _
  fits := by
    rw [significand_split]
    exact Nat.lt_of_le_of_lt few (by decide)
  place := by
    refine .inr ⟨significand_split negative 1 _, ?_⟩
    have positive := Nat.length_toDigits_pos (b := 10) (n := decimal.significand)
    simp only [power, Option.getD_some, Decimal.point, Decimal.digits, List.length_drop]
    omega

private theorem shows_between {before : Nat} (positive : 0 < before) (long : before < decimal.digits.length) :
    Shows ⟨negative, decimal.digits.take before, decimal.digits.drop before, none⟩ decimal := by
  have more : 0 < (decimal.digits.drop before).length := by
    rw [List.length_drop]
    omega
  refine ⟨regular_split filled negative positive none, ?_, ?_, .inl ?_⟩
  · rw [isInteger, List.isEmpty_eq_false_iff.2 (List.ne_nil_of_length_pos more), Bool.false_and]
  · rw [significand_split]
    exact Nat.lt_of_le_of_lt few (by decide)
  · rw [power, Option.getD_none]
    dsimp only
    omega

private theorem shows_positional (low : decimal.point ≤ 16) :
    Shows (data.positionalNumeral negative decimal.digits decimal.point) decimal := by
  rw [positionalNumeral]
  split
  · exact shows_fraction few negative
  · dsimp only
    split
    · next short => exact shows_whole filled negative (by omega) short
    · next long => exact shows_between filled few negative (by omega) (Nat.lt_of_not_le long)

end

/-- The numeral of a magnitude has the sign it is asked for. -/
theorem negative_numeral (layout : NumberLayout) (negative : Bool) (units : Nat) :
    (layout.numeral negative units).negative = negative := by
  rw [numeral]
  split
  · rw [positionalNumeral]
    split
    · rfl
    · dsimp only
      split <;> rfl
  · rfl

/-- The numeral of a magnitude in data shows its shortest decimal. -/
theorem shows_numeral (negative : Bool) (units : Nat) :
    (data.numeral negative units).Shows (Decimal.shortest .toEven units) := by
  by_cases nothing : units = 0
  · subst nothing
    have zero : data.numeral negative 0 = ⟨negative, ['0'], ['0'], none⟩ := rfl
    have digit (c : Char) (mem : c ∈ ['0']) : c.isDigit = true := by
      rw [List.mem_singleton.1 mem]
      decide
    have value : (⟨negative, ['0'], ['0'], none⟩ : Numeral).significand = 0 := rfl
    have place : (⟨negative, ['0'], ['0'], none⟩ : Numeral).power = -1 := rfl
    rw [zero]
    exact ⟨⟨digit, digit, .inl rfl⟩, rfl, value ▸ by decide, .inl (place ▸ by decide)⟩
  · obtain ⟨nonzero, few, _⟩ := Decimal.standsFor_shortest nothing
    rw [numeral, show data.tie = .toEven from rfl]
    split
    · next positional =>
      have low := of_decide_eq_true (Bool.and_eq_true_iff.1 positional).2
      exact shows_positional nonzero few negative low
    · exact shows_scientific nonzero few negative

end NumberLayout

end IntentBus
