import IntentBus.Duration
import IntentBus.Number.Binary64

/-! Magnitudes in double precision: rounding keeps their order, and whole numbers of a reasonable size keep their
sign. -/

namespace IntentBus

namespace Rounding

/-- The neighbours of a magnitude are some way off. -/
theorem gap_pos (units : Nat) : 0 < gap units := Nat.pow_pos (by decide)

/-- The magnitude of one is not zero. -/
theorem one_pos : 0 < one := by decide +kernel

/-- Of larger magnitudes the neighbours are no nearer. -/
theorem gap_dvd_gap {small large : Nat} (le : small ≤ large) : gap small ∣ gap large := by
  have order : small.log2 ≤ large.log2 := by
    by_cases zero : small = 0
    · subst zero
      exact Nat.zero_le _
    · exact (Nat.le_log2 (by omega)).2 (Nat.le_trans (Nat.log2_self_le zero) le)
  exact Nat.pow_dvd_pow 2 (by omega)

/-- From a magnitude of the format up to what is no less there is a step of the gap that belongs there. -/
theorem exists_steps_between {units most : Nat} (exact : gap units ∣ units) (le : units ≤ most) :
    ∃ steps, units ≤ steps * gap most ∧ steps * gap most ≤ most := by
  by_cases fits : gap most ∣ units
  · obtain ⟨steps, same⟩ := fits
    rw [Nat.mul_comm] at same
    exact ⟨steps, Nat.le_of_eq same, same ▸ le⟩
  · -- In a lower binade the gap may not divide the magnitude, but it divides the power of two between them.
    have whole : most ≠ 0 := by
      rintro rfl
      rw [Nat.le_zero.1 le] at fits
      exact fits (Nat.dvd_zero _)
    have lower : units.log2 < most.log2 :=
      Nat.lt_of_not_le fun order => fits (Nat.dvd_trans (Nat.pow_dvd_pow 2 (by omega)) exact)
    have between : units ≤ Nat.pow 2 most.log2 :=
      Nat.le_trans (Nat.le_of_lt (lt_two_pow_log2 units)) (Nat.pow_le_pow_right (by decide) lower)
    obtain ⟨steps, same⟩ : gap most ∣ Nat.pow 2 most.log2 := Nat.pow_dvd_pow 2 (by omega)
    rw [Nat.mul_comm] at same
    exact ⟨steps, same ▸ between, same ▸ Nat.log2_self_le whole⟩

/-- Rounding goes to the multiple of the gap below, or to the next one. -/
theorem nearest_le (num den : Nat) : nearest num den ≤ (num / den / gap (num / den) + 1) * gap (num / den) := by
  have step := toEven_le_succ num (den * gap (num / den))
  rw [← Nat.div_div_eq_div_mul] at step
  exact Nat.mul_le_mul_right _ step

/-- Rounding to a whole number does not pass another one. -/
theorem toEven_le {num den bound : Nat} (positive : 0 < den) (le : num ≤ bound * den) : toEven num den ≤ bound := by
  rcases Nat.lt_or_eq_of_le le with less | rfl
  · have floor : num / den < bound := (Nat.div_lt_iff_lt_mul positive).2 less
    have step := toEven_le_succ num den
    omega
  · simp [toEven, Nat.mul_div_cancel bound positive, positive]

private theorem le_toEven {num den bound : Nat} (positive : 0 < den) (le : bound * den ≤ num) : bound ≤ toEven num den :=
  Nat.le_trans ((Nat.le_div_iff_mul_le positive).2 le) (toEven_ge num den)

section

variable {units num den : Nat} (positive : 0 < den)

include positive

/-- Rounding does not go above a magnitude of the format that was not exceeded. -/
theorem nearest_le_of_le (exact : gap units ∣ units) (le : num ≤ units * den) : nearest num den ≤ units := by
  have below : num / den ≤ units := Nat.div_le_of_le_mul (Nat.mul_comm units den ▸ le)
  obtain ⟨steps, same⟩ := Nat.dvd_trans (gap_dvd_gap below) exact
  have few : toEven num (den * gap (num / den)) ≤ steps := by
    refine toEven_le (Nat.mul_pos positive (gap_pos _)) (Nat.le_trans le (Nat.le_of_eq ?_))
    rw [same, Nat.mul_comm den, ← Nat.mul_assoc, Nat.mul_comm steps]
  calc nearest num den
    _ ≤ steps * gap (num / den) := Nat.mul_le_mul_right _ few
    _ = units := by rw [Nat.mul_comm, ← same]

private theorem le_nearest_of_dvd (steps : gap (num / den) ∣ units) (le : units * den ≤ num) :
    units ≤ nearest num den := by
  obtain ⟨steps, rfl⟩ := steps
  have many : steps ≤ toEven num (den * gap (num / den)) := by
    refine le_toEven (Nat.mul_pos positive (gap_pos _)) (Nat.le_trans (Nat.le_of_eq ?_) le)
    rw [Nat.mul_comm den, ← Nat.mul_assoc, Nat.mul_comm steps]
  calc gap (num / den) * steps
    _ = steps * gap (num / den) := Nat.mul_comm _ _
    _ ≤ nearest num den := Nat.mul_le_mul_right _ many

/-- Nor does it go below one that was reached. -/
theorem le_nearest_of_le (exact : gap units ∣ units) (le : units * den ≤ num) : units ≤ nearest num den := by
  obtain ⟨steps, above, below⟩ := exists_steps_between exact ((Nat.le_div_iff_mul_le positive).2 le)
  refine Nat.le_trans above (le_nearest_of_dvd positive (Nat.dvd_mul_left _ _) ?_)
  exact (Nat.le_div_iff_mul_le positive).1 below

/-- A magnitude of the format is rounded to itself. -/
theorem nearest_of_exact (exact : gap units ∣ units) : nearest (units * den) den = units :=
  Nat.le_antisymm (nearest_le_of_le positive exact (Nat.le_refl _)) (le_nearest_of_le positive exact (Nat.le_refl _))

end

/-- A magnitude of the format that is less than a rounded one is no more than what was rounded. -/
theorem le_of_lt_nearest {units num : Nat} (exact : gap units ∣ units) (less : units < nearest num 1) : units ≤ num := by
  apply Nat.le_of_not_lt
  intro more
  have rounded := nearest_le_of_le Nat.one_pos exact (Nat.le_trans (Nat.le_of_lt more) (Nat.le_of_eq (Nat.mul_one units).symm))
  omega

/-- The neighbours of a magnitude other than zero are no farther than zero is. -/
theorem gap_le {units : Nat} (nonzero : units ≠ 0) : gap units ≤ units :=
  Nat.le_trans (Nat.pow_le_pow_right (by decide) (by omega)) (Nat.log2_self_le nonzero)

/-- Rounding at most doubles a magnitude. -/
theorem nearest_le_double (num : Nat) : nearest num 1 ≤ 2 * num := by
  by_cases zero : num = 0
  · subst zero
    decide
  · have bound := nearest_le num 1
    rw [Nat.div_one, Nat.add_mul, Nat.one_mul] at bound
    have floor := Nat.div_mul_le_self num (gap num)
    have narrow := gap_le zero
    omega

/-- No whole magnitude is rounded to zero but zero itself. -/
theorem nearest_eq_zero_iff {num : Nat} : nearest num 1 = 0 ↔ num = 0 := by
  refine ⟨fun rounded => Classical.byContradiction fun nonzero => ?_, ?_⟩
  · have floor : 0 < num / (1 * gap (num / 1)) := by
      rw [Nat.one_mul, Nat.div_one]
      exact Nat.div_pos (gap_le nonzero) (gap_pos num)
    have kept := Nat.lt_of_lt_of_le floor (toEven_ge num (1 * gap (num / 1)))
    exact Nat.ne_of_gt (Nat.mul_pos kept (gap_pos (num / 1))) rounded
  · rintro rfl
    decide

/-- Half a unit or more goes up to the next whole number, but not past one that is above. -/
theorem half_up_le {units n : Nat} (le : units ≤ n * one) : (2 * units + one) / (2 * one) ≤ n := by
  have unit := one_pos
  have less : (2 * units + one) / (2 * one) < n + 1 := by
    rw [Nat.div_lt_iff_lt_mul (by omega), Nat.add_mul, Nat.mul_left_comm]
    omega
  exact Nat.le_of_lt_succ less

private theorem one_eq_two_pow : ∃ exponent, one = Nat.pow 2 exponent := by
  unfold one
  exact ⟨_, Eq.refl _⟩

/-- Exponents of two add up. -/
theorem two_pow_mul (first second : Nat) : Nat.pow 2 first * Nat.pow 2 second = Nat.pow 2 (first + second) :=
  (Nat.pow_add 2 first second).symm

def Short (n : Nat) : Prop := gap (n * one) ∣ n * one

/-- At most 53 significant bits are few enough. -/
theorem short_of_few {steps : Nat} (few : steps ≤ Nat.pow 2 53) (exponent : Nat) : Short (steps * Nat.pow 2 exponent) := by
  obtain ⟨unit, same⟩ := one_eq_two_pow
  rw [Short, same, Nat.mul_assoc, two_pow_mul]
  exact gap_dvd_mul_two_pow _ few

/-- A power of two has a place. -/
theorem short_two_pow (exponent : Nat) : Short (Nat.pow 2 exponent) :=
  Nat.one_mul (Nat.pow 2 exponent) ▸ short_of_few (by decide) exponent

/-- Whole numbers up to `2 ^ 53` have a place. -/
theorem short_of_le {n : Nat} (few : n ≤ Nat.pow 2 53) : Short n := Nat.mul_one n ▸ short_of_few few 0

/-- A whole number with a place, and not beyond the largest one, is a number of the format. -/
theorem Short.exact {n : Nat} (short : Short n) (fits : n * one ≤ largest) : Exact (n * one) := ⟨fits, short⟩

end Rounding

namespace Binary64

/-- Numbers without a sign are in the order of their magnitudes. -/
theorem finite_le_finite {first second : Nat} {exact : Rounding.Exact first} {other : Rounding.Exact second} :
    finite false first exact ≤ finite false second other ↔ first ≤ second :=
  decide_eq_true_iff.trans Int.ofNat_le

/-- What needs no rounding is not changed by it, unless it is beyond the largest number. -/
theorem round_of_exact (negative : Bool) {units den : Nat} (positive : 0 < den) (exact : Rounding.gap units ∣ units) :
    round negative (units * den) den =
      if fits : units ≤ Rounding.largest then finite negative units ⟨fits, exact⟩ else infinity negative := by
  unfold round
  simp only [Rounding.nearest_of_exact positive exact]

/-- A whole number that has a place is not rounded, unless it is beyond the largest number. -/
theorem ofNat_of_short {n : Nat} (short : Rounding.Short n) :
    ofNat n = if fits : n * Rounding.one ≤ Rounding.largest then finite false (n * Rounding.one) (short.exact fits)
      else infinity false := by
  have rounded := round_of_exact false Nat.one_pos short
  rwa [Nat.mul_one] at rounded

private theorem double_fits {n : Nat} (small : n ≤ Duration.limit) : 2 * (n * Rounding.one) ≤ Rounding.largest := by
  have most : 2 * (Duration.limit * Rounding.one) ≤ Rounding.largest := by decide +kernel
  have less := Nat.mul_le_mul_right Rounding.one small
  omega

/-- A length of time is not beyond the largest number. -/
theorem fits_of_le {n : Nat} (small : n ≤ Duration.limit) : n * Rounding.one ≤ Rounding.largest := by
  have double := double_fits small
  omega

/-- Whole numbers that need no rounding keep their order, if the smaller is not beyond the largest number. -/
theorem ofNat_le_ofNat {first second : Nat} (short : Rounding.Short first) (other : Rounding.Short second)
    (small : first ≤ Duration.limit) : ofNat first ≤ ofNat second ↔ first ≤ second := by
  have fits := fits_of_le small
  rw [ofNat_of_short short, ofNat_of_short other, dif_pos fits]
  split
  · exact finite_le_finite.trans (Nat.mul_le_mul_right_iff Rounding.one_pos)
  · next beyond =>
    have less := Nat.lt_of_mul_lt_mul_right (Nat.lt_of_le_of_lt fits (Nat.lt_of_not_le beyond))
    exact iff_of_true rfl (Nat.le_of_lt less)

/-- A whole number is rounded to itself. -/
theorem toNatCapped_ofNat {n : Nat} (short : Rounding.Short n) (small : n ≤ Duration.limit) (limit : Nat) :
    (ofNat n).isFinite = true ∧ (ofNat n).toNatCapped limit = min limit n := by
  have unit := Rounding.one_pos
  have rounded : (2 * (n * Rounding.one) + Rounding.one) / (2 * Rounding.one) = n := by
    refine Nat.le_antisymm (Rounding.half_up_le (Nat.le_refl _)) ((Nat.le_div_iff_mul_le (by omega)).2 ?_)
    rw [Nat.mul_left_comm]
    omega
  rw [ofNat_of_short short, dif_pos (fits_of_le small)]
  refine ⟨rfl, ?_⟩
  simp only [toNatCapped, Bool.false_eq_true, if_false, rounded]

/-- A whole number that is no more than a length of time can be is not beyond the largest number. -/
theorem ofRatio_whole (negative : Bool) {n : Nat} (small : n ≤ Duration.limit) : ∃ exact, ofRatio negative n 1 =
    finite negative (Rounding.nearest (n * Rounding.one) 1) exact := by
  have fits := Nat.le_trans (Rounding.nearest_le_double (n * Rounding.one)) (double_fits small)
  exact ⟨Rounding.exact_nearest fits, dif_pos fits⟩

/-- A length of time becomes the nearest number. -/
theorem ofNat_whole {n : Nat} (small : n ≤ Duration.limit) : ∃ exact, ofNat n =
    finite false (Rounding.nearest (n * Rounding.one) 1) exact :=
  ofRatio_whole false small

/-- Zero is the number of magnitude zero without a sign. -/
theorem zero_eq : ∃ exact, (0 : Binary64) = finite false 0 exact := by
  have rounded : Rounding.nearest (0 * Rounding.one) 1 = 0 := Rounding.nearest_eq_zero_iff.2 (Nat.zero_mul _)
  have whole := ofNat_whole (Nat.zero_le Duration.limit)
  rw [rounded] at whole
  exact whole

/-- Of the whole numbers only zero is no more than a zero, which may have either sign. -/
theorem eq_zero_of_ofNat_le {n : Nat} (small : n ≤ Duration.limit) {negative : Bool} {exact : Rounding.Exact 0}
    (le : ofNat n ≤ finite negative 0 exact) : n = 0 := by
  obtain ⟨_, same⟩ := ofNat_whole small
  rw [same] at le
  have order : signed false (Rounding.nearest (n * Rounding.one) 1) ≤ signed negative 0 := of_decide_eq_true le
  have zero : signed negative 0 = 0 := by cases negative <;> rfl
  rw [zero, signed, if_neg (by decide), Int.natCast_nonpos_iff, Rounding.nearest_eq_zero_iff] at order
  exact (Nat.mul_eq_zero.1 order).resolve_right (Nat.ne_of_gt Rounding.one_pos)

/-- A zero of either sign is cut to zero. -/
theorem toNatCapped_zero (negative : Bool) (exact : Rounding.Exact 0) (limit : Nat) :
    (finite negative 0 exact).toNatCapped limit = 0 := by
  have rounded : (2 * 0 + Rounding.one) / (2 * Rounding.one) = 0 := Nat.le_zero.1 (Rounding.half_up_le (Nat.zero_le _))
  simp only [toNatCapped, rounded, Nat.min_zero, ite_self]

private theorem ofInt_eq {n : Int} (small : n.natAbs ≤ Duration.limit) :
    ∃ units exact, ofInt n = finite (n < 0) units exact ∧ (units = 0 ↔ n = 0) := by
  obtain ⟨exact, same⟩ := ofRatio_whole (n < 0) small
  refine ⟨_, exact, same, Rounding.nearest_eq_zero_iff.trans ?_⟩
  rw [Nat.mul_eq_zero, or_iff_left (Nat.ne_of_gt Rounding.one_pos), Int.natAbs_eq_zero]

/-- Rounding keeps the sign of what is not negative. -/
theorem ofInt_nonneg_iff {n : Int} (small : n.natAbs ≤ Duration.limit) : 0 ≤ ofInt n ↔ 0 ≤ n := by
  obtain ⟨units, exact, same, zero⟩ := ofInt_eq small
  obtain ⟨_, exact⟩ := zero_eq
  rw [same, exact]
  change decide (signed false 0 ≤ signed (decide (n < 0)) units) = true ↔ 0 ≤ n
  unfold signed
  by_cases negative : n < 0
  · simp [negative]
    omega
  · simp [negative]
    omega

/-- Rounding keeps the sign of what is positive. -/
theorem ofInt_pos_iff {n : Int} (small : n.natAbs ≤ Duration.limit) : 0 < ofInt n ↔ 0 < n := by
  obtain ⟨units, exact, same, zero⟩ := ofInt_eq small
  obtain ⟨_, exact⟩ := zero_eq
  rw [same, exact]
  change (decide (signed false 0 ≤ signed (decide (n < 0)) units) &&
    !decide (signed (decide (n < 0)) units ≤ signed false 0)) = true ↔ 0 < n
  unfold signed
  by_cases negative : n < 0
  · simp [negative]
    omega
  · simp [negative]
    omega

end Binary64

end IntentBus
