import IntentBus.Number.Shortest
import IntentBus.Proofs.Values
import Mathlib.Algebra.Order.Field.Power

/-! The shortest decimals of magnitudes: they have at most seventeen digits or are a power of ten, are not zero, and hardly
exceed the magnitude that they stand for. -/

namespace IntentBus

namespace Decimal

def value (decimal : Decimal) : ℚ := decimal.significand * 10 ^ decimal.exponent

private theorem ones_pos : (0 : ℚ) < Rounding.one := Nat.cast_pos.2 Rounding.one_pos

private theorem length_toDigits {n : Nat} (nonzero : n ≠ 0) :
    ∃ more, (Nat.toDigits 10 n).length = more + 1 ∧ Nat.pow 10 more ≤ n ∧ n < Nat.pow 10 (more + 1) := by
  obtain ⟨more, length⟩ := Nat.exists_eq_succ_of_ne_zero (Nat.ne_of_gt (@Nat.length_toDigits_pos 10 n))
  refine ⟨more, length, ?_, (Nat.length_toDigits_le_iff (by decide) more.succ_pos).1 (Nat.le_of_eq length)⟩
  rcases Nat.eq_zero_or_pos more with rfl | several
  · exact Nat.one_le_iff_ne_zero.2 nonzero
  · refine Nat.le_of_not_lt fun less => ?_
    have short := (Nat.length_toDigits_le_iff (by decide) several).2 less
    omega

private theorem bounds_of_scaled {units more places : Nat} (least : Nat.pow 10 more * Rounding.one ≤ units * Nat.pow 10 places)
    (most : units * Nat.pow 10 places < Nat.pow 10 (more + 1) * Rounding.one) :
    (10 : ℚ) ^ (more - places : Int) ≤ units / Rounding.one ∧
      (units : ℚ) / Rounding.one < 10 ^ ((more + 1 : Nat) - places : Int) := by
  have scale (count : Nat) : (10 : ℚ) ^ (count - places : Int) = 10 ^ count / 10 ^ places := by
    rw [zpow_sub₀ (by norm_num), zpow_natCast, zpow_natCast]
  rw [Nat.pow_eq, Nat.pow_eq] at least most
  rw [scale, scale, le_div_iff₀ ones_pos, div_lt_iff₀ ones_pos, div_mul_eq_mul_div, div_mul_eq_mul_div,
    div_le_iff₀ (by positivity), lt_div_iff₀ (by positivity)]
  exact ⟨by exact_mod_cast least, by exact_mod_cast most⟩

/-- How many digits stand before the point tells between which powers of ten a magnitude lies. -/
theorem pointOf_bounds {units : Nat} (nonzero : units ≠ 0) :
    (10 : ℚ) ^ (pointOf units - 1) ≤ units / Rounding.one ∧ (units : ℚ) / Rounding.one < 10 ^ pointOf units := by
  have small : Rounding.one ≤ Nat.pow 10 340 := by decide +kernel
  have filled : units * Nat.pow 10 340 / Rounding.one ≠ 0 :=
    Nat.ne_of_gt (Nat.div_pos (Nat.le_trans small (Nat.le_mul_of_pos_left (Nat.pow 10 340) (Nat.pos_of_ne_zero nonzero)))
      Rounding.one_pos)
  obtain ⟨more, length, least, most⟩ := length_toDigits filled
  have point : pointOf units = (more + 1 : Nat) - 340 := congrArg (fun count : Nat => (count : Int) - 340) length
  have bounds := bounds_of_scaled ((Nat.le_div_iff_mul_le Rounding.one_pos).1 least)
    ((Nat.div_lt_iff_lt_mul Rounding.one_pos).1 most)
  rwa [point, show ((more + 1 : Nat) - 340 - 1 : Int) = more - (340 : Nat) by omega]

private theorem neighbours_eq (tie : TieRule) (units : Nat) (exponent : Int) : ∃ num den : Nat, 0 < den ∧
    (num : ℚ) / den = units / Rounding.one / 10 ^ exponent ∧ neighbours tie units exponent =
      [⟨tie.nearest num den, exponent⟩, ⟨2 * (num / den) + 1 - tie.nearest num den, exponent⟩] := by
  refine ⟨_, _, ?_, ?_, rfl⟩
  · split
    · exact Rounding.one_pos
    · exact Nat.mul_pos Rounding.one_pos (Nat.pow_pos (by decide))
  · split
    · next down =>
      obtain ⟨places, rfl⟩ : ∃ places : Nat, exponent = -places := ⟨exponent.natAbs, by omega⟩
      rw [zpow_neg, zpow_natCast, div_inv_eq_mul, Int.natAbs_neg, Int.natAbs_natCast, Nat.pow_eq, Nat.cast_mul, Nat.cast_pow,
        Nat.cast_ofNat, mul_div_right_comm]
    · next up =>
      obtain ⟨places, rfl⟩ : ∃ places : Nat, exponent = places := ⟨exponent.natAbs, by omega⟩
      rw [zpow_natCast, div_div, Int.natAbs_natCast, Nat.pow_eq, Nat.cast_mul, Nat.cast_pow, Nat.cast_ofNat]

private theorem toEven_near {den : Nat} (positive : 0 < den) (num : Nat) :
    (Rounding.toEven num den : ℚ) ≤ num / den + 1 / 2 ∧ (num : ℚ) / den ≤ Rounding.toEven num den + 1 / 2 := by
  obtain ⟨above, below⟩ := Rounding.toEven_within positive num
  have den_pos : (0 : ℚ) < den := Nat.cast_pos.2 positive
  have most : (2 * (Rounding.toEven num den * den) : ℚ) ≤ 2 * num + den := by exact_mod_cast above
  have least : (2 * num : ℚ) ≤ 2 * (Rounding.toEven num den * den) + den := by exact_mod_cast below
  rw [div_add_div _ _ den_pos.ne' two_ne_zero, le_div_iff₀ (by positivity), div_le_iff₀ den_pos]
  constructor <;> linarith

/-- A decimal that stands for a magnitude: it is not zero, its significand has at most seventeen digits or is the next power of
ten, and it is hardly greater than the magnitude, unless it is a moderate one. -/
structure StandsFor (decimal : Decimal) (units : Nat) : Prop where
  nonzero : decimal.significand ≠ 0
  few : decimal.significand ≤ Nat.pow 10 17
  close : decimal.value * (2 ^ 53 - 1) ≤ units / Rounding.one * 2 ^ 53 ∨ decimal.value ≤ 10 ^ 17

private theorem close_of_readsAs {decimal : Decimal} {units : Nat} (up : 0 ≤ decimal.exponent)
    (reads : decimal.readsAs units = true) : decimal.value * (2 ^ 53 - 1) ≤ units / Rounding.one * 2 ^ 53 := by
  obtain ⟨significand, exponent⟩ := decimal
  obtain ⟨places, rfl⟩ := Int.eq_ofNat_of_zero_le up
  simp only [readsAs, if_neg (Int.not_lt.2 up), Int.natAbs_natCast] at reads
  have close := (Rounding.nearest_close (significand * Nat.pow 10 places)).2
  rw [of_decide_eq_true reads] at close
  have scaled : (significand * 10 ^ places * Rounding.one * 2 ^ 53 : ℚ) ≤
      units * 2 ^ 53 + significand * 10 ^ places * Rounding.one := by
    rw [Nat.pow_eq, Nat.pow_eq] at close
    exact_mod_cast close
  rw [value, zpow_natCast, div_mul_eq_mul_div, le_div_iff₀ ones_pos]
  linarith

private theorem value_le_of_few {decimal : Decimal} (down : decimal.exponent < 0) (few : decimal.significand ≤ Nat.pow 10 17) :
    decimal.value ≤ 10 ^ 17 := by
  have power : (10 : ℚ) ^ decimal.exponent ≤ 1 := zpow_le_one_of_nonpos₀ (by norm_num) down.le
  have most : (decimal.significand : ℚ) ≤ 10 ^ 17 := by exact_mod_cast few
  calc (decimal.significand * 10 ^ decimal.exponent : ℚ)
    _ ≤ decimal.significand * 1 := mul_le_mul_of_nonneg_left power (Nat.cast_nonneg _)
    _ ≤ 10 ^ 17 := (mul_one (decimal.significand : ℚ)).symm ▸ most

section

variable {units : Nat} (nonzero : units ≠ 0)

include nonzero

private theorem quotient_bounds (count : Nat) : (10 : ℚ) ^ count ≤ 10 * (units / Rounding.one / 10 ^ (pointOf units - count)) ∧
    (units : ℚ) / Rounding.one / 10 ^ (pointOf units - count) < 10 ^ count := by
  obtain ⟨least, most⟩ := pointOf_bounds nonzero
  have power : (10 : ℚ) ^ count * 10 ^ (pointOf units - count) = 10 ^ pointOf units := by
    rw [← zpow_natCast, ← zpow_add₀ (by norm_num), add_sub_cancel]
  have tenth : (10 : ℚ) ^ pointOf units = 10 * 10 ^ (pointOf units - 1) := by
    rw [← zpow_one_add₀ (by norm_num), add_sub_cancel]
  have positive : (0 : ℚ) < 10 ^ (pointOf units - count) := by positivity
  rw [← mul_div_assoc, le_div_iff₀ positive, div_lt_iff₀ positive, power]
  refine ⟨?_, most⟩
  rw [tenth]
  linarith

private theorem few_of_neighbour {count : Nat} (short : count ≤ 17) {decimal : Decimal}
    (mem : decimal ∈ neighbours .toEven units (pointOf units - count)) : decimal.significand ≤ Nat.pow 10 17 := by
  obtain ⟨num, den, positive, quotient, same⟩ := neighbours_eq .toEven units (pointOf units - count)
  have less : num / den < Nat.pow 10 count := by
    have bound := (quotient_bounds nonzero count).2
    rw [← quotient, div_lt_iff₀ (Nat.cast_pos.2 positive)] at bound
    rw [Nat.div_lt_iff_lt_mul positive, Nat.pow_eq]
    exact_mod_cast bound
  have power : Nat.pow 10 count ≤ Nat.pow 10 17 := Nat.pow_le_pow_right (by decide) short
  have least := Rounding.toEven_ge num den
  have most := Rounding.toEven_le_succ num den
  rw [same] at mem
  simp only [TieRule.nearest, List.mem_cons, List.not_mem_nil, or_false] at mem
  rcases mem with rfl | rfl <;> dsimp only <;> omega

private theorem standsFor_nearer :
    StandsFor ((neighbours .toEven units (pointOf units - (17 : Nat))).headD ⟨0, 0⟩) units := by
  obtain ⟨num, den, positive, quotient, same⟩ := neighbours_eq .toEven units (pointOf units - (17 : Nat))
  have few := few_of_neighbour nonzero (Nat.le_refl 17) (same ▸ List.mem_cons_self)
  obtain ⟨above, below⟩ := toEven_near positive num
  have least := (quotient_bounds nonzero 17).1
  rw [← quotient] at least
  have unit : (0 : ℚ) < 10 ^ (pointOf units - (17 : Nat)) := by positivity
  rw [same]
  refine ⟨fun zero => ?_, few, .inl ?_⟩
  · have rounded : Rounding.toEven num den = 0 := zero
    rw [rounded] at below
    norm_num at below least
    linarith
  · -- A half is hardly anything beside sixteen digits.
    have scaled : (Rounding.toEven num den : ℚ) * (2 ^ 53 - 1) ≤ num / den * 2 ^ 53 := by
      norm_num at least ⊢
      linarith
    rw [eq_div_iff unit.ne'] at quotient
    calc (Rounding.toEven num den * 10 ^ (pointOf units - (17 : Nat)) : ℚ) * (2 ^ 53 - 1)
      _ = Rounding.toEven num den * (2 ^ 53 - 1) * 10 ^ (pointOf units - (17 : Nat)) := mul_right_comm _ _ _
      _ ≤ num / den * 2 ^ 53 * 10 ^ (pointOf units - (17 : Nat)) := mul_le_mul_of_nonneg_right scaled unit.le
      _ = units / Rounding.one * 2 ^ 53 := by rw [← quotient, mul_right_comm]

private theorem nonzero_of_readsAs {decimal : Decimal} (reads : decimal.readsAs units = true) : decimal.significand ≠ 0 := by
  intro zero
  have vanishes (den : Nat) (positive : 0 < den) : Rounding.nearest 0 den ≤ 0 :=
    Rounding.nearest_le_of_le positive (Nat.dvd_zero _) (Nat.zero_le _)
  refine nonzero (Nat.le_zero.1 ?_)
  simp only [readsAs, zero, Nat.zero_mul] at reads
  split at reads
  · exact of_decide_eq_true reads ▸ vanishes _ (Nat.pow_pos (by decide))
  · exact of_decide_eq_true reads ▸ vanishes 1 Nat.one_pos

private theorem standsFor_of_readsAs {decimal : Decimal} (few : decimal.significand ≤ Nat.pow 10 17)
    (reads : decimal.readsAs units = true) : decimal.StandsFor units where
  nonzero := nonzero_of_readsAs nonzero reads
  few := few
  close := (Int.lt_or_le decimal.exponent 0).elim (fun down => .inr (value_le_of_few down few))
    fun up => .inl (close_of_readsAs up reads)

end

private theorem standsFor_search {units : Nat} (nonzero : units ≠ 0) {count more : Nat} (total : count + more = 17) :
    (search .toEven units (pointOf units) count more).StandsFor units := by
  induction more generalizing count with
  | zero =>
    cases total
    exact standsFor_nearer nonzero
  | succ more ih =>
    rw [search]
    split
    · next decimal found =>
      have mem := List.mem_of_find?_eq_some found
      have reads := List.find?_some found
      exact standsFor_of_readsAs nonzero (few_of_neighbour nonzero (by omega) mem) reads
    · exact ih (by omega)

private theorem StandsFor.trimFrom {units : Nat} (steps : Nat) {decimal : Decimal} (stands : decimal.StandsFor units) :
    (Decimal.trimFrom steps decimal.significand decimal.exponent).StandsFor units := by
  obtain ⟨significand, exponent⟩ := decimal
  induction steps generalizing significand exponent with
  | zero => exact stands
  | succ steps ih =>
    rw [Decimal.trimFrom]
    split
    · next whole =>
      obtain ⟨filled, zero⟩ : significand ≠ 0 ∧ significand % 10 = 0 := by simpa using whole
      have parts : significand = significand / 10 * 10 := by omega
      have same : value ⟨significand / 10, exponent + 1⟩ = value ⟨significand, exponent⟩ := by
        calc ((significand / 10 : Nat) * 10 ^ (exponent + 1) : ℚ)
          _ = (significand / 10 : Nat) * (10 * 10 ^ exponent) := by
            rw [zpow_add_one₀ (by norm_num), mul_comm ((10 : ℚ) ^ exponent)]
          _ = (significand / 10 * 10 : Nat) * 10 ^ exponent := by rw [Nat.cast_mul, Nat.cast_ofNat, mul_assoc]
          _ = significand * 10 ^ exponent := by rw [← parts]
      have few := stands.few
      have close := stands.close
      refine ih _ _ ⟨?_, ?_, ?_⟩
      · dsimp only
        omega
      · dsimp only at few ⊢
        omega
      · rw [same]
        exact close
    · exact stands

/-- How close a whole decimal is to the magnitude that it stands for, in whole numbers. -/
theorem StandsFor.whole {decimal : Decimal} {units : Nat} (stands : decimal.StandsFor units) {places : Nat}
    (up : decimal.exponent = places) :
    decimal.significand * Nat.pow 10 places * Rounding.one * (Nat.pow 2 53 - 1) ≤ units * Nat.pow 2 53 ∨
      decimal.significand * Nat.pow 10 places ≤ Nat.pow 10 17 := by
  have value : decimal.value = (decimal.significand * Nat.pow 10 places : Nat) := by
    rw [Decimal.value, up, zpow_natCast, Nat.pow_eq, Nat.cast_mul, Nat.cast_pow, Nat.cast_ofNat]
  have less : ((Nat.pow 2 53 - 1 : Nat) : ℚ) = 2 ^ 53 - 1 := by norm_num
  have full : ((Nat.pow 2 53 : Nat) : ℚ) = 2 ^ 53 := by norm_num
  have power : ((Nat.pow 10 17 : Nat) : ℚ) = 10 ^ 17 := by norm_num
  have close := stands.close
  rw [value, ← less, ← full, ← power, div_mul_eq_mul_div, le_div_iff₀ ones_pos] at close
  refine close.imp (fun close => ?_) fun moderate => ?_
  · rw [Nat.mul_right_comm]
    exact_mod_cast close
  · exact_mod_cast moderate

/-- The shortest decimal of a magnitude other than zero stands for it. -/
theorem standsFor_shortest {units : Nat} (nonzero : units ≠ 0) : (shortest .toEven units).StandsFor units := by
  have stands := standsFor_search nonzero (rfl : 1 + 16 = 17)
  rw [shortest, if_neg nonzero]
  exact stands.trimFrom 17

end Decimal

end IntentBus
