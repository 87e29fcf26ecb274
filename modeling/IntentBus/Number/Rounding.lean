/-! Rounding of magnitudes to 53 significant bits. A magnitude counts units of `2 ^ -1074`, so rounding,
order and arithmetic are statements about natural numbers. -/

namespace IntentBus.Rounding

/-- How many units make one. -/
def one : Nat := Nat.pow 2 1074

/-- The whole number nearest to `num / den`; a half goes to the even neighbour. -/
def toEven (num den : Nat) : Nat :=
  let floor := num / den
  let rest := num % den
  if 2 * rest < den then floor
  else if den < 2 * rest then floor + 1
  else floor + floor % 2

/-- The distance between neighbouring magnitudes in the binade of `units`; it never falls below one unit. -/
def gap (units : Nat) : Nat := Nat.pow 2 (units.log2 + 1 - 53)

/-- The magnitude nearest to `num / den` units, with no upper bound on its size. -/
def nearest (num den : Nat) : Nat :=
  toEven num (den * gap (num / den)) * gap (num / den)

/-- The largest magnitude of the format. -/
def largest : Nat := (Nat.pow 2 53 - 1) * Nat.pow 2 2045

/-- The magnitudes of the format: at most 53 significant bits, and none beyond the largest. -/
def Exact (units : Nat) : Prop := units ≤ largest ∧ gap units ∣ units

instance (units : Nat) : Decidable (Exact units) := inferInstanceAs (Decidable (_ ∧ _))

theorem exact_zero : Exact 0 := ⟨Nat.zero_le _, Nat.dvd_zero _⟩

/-- Rounding goes to the floor or to its successor. -/
theorem toEven_le_succ (num den : Nat) : toEven num den ≤ num / den + 1 := by
  unfold toEven
  dsimp only
  split
  · omega
  · split <;> omega

theorem toEven_ge (num den : Nat) : num / den ≤ toEven num den := by
  unfold toEven
  dsimp only
  split
  · omega
  · split <;> omega

theorem lt_two_pow_log2 (units : Nat) : units < Nat.pow 2 (units.log2 + 1) := by
  by_cases h : units = 0
  · subst h; decide
  · exact (Nat.log2_lt h).1 (by omega)

/-- A floor below `2 ^ 53` gaps is what 53 bits can hold. -/
theorem div_gap_lt (units : Nat) : units / gap units < Nat.pow 2 53 := by
  have bound := lt_two_pow_log2 units
  unfold gap
  simp only [Nat.pow_eq] at bound ⊢
  by_cases small : units.log2 + 1 ≤ 53
  · rw [Nat.sub_eq_zero_of_le small, Nat.pow_zero, Nat.div_one]
    exact Nat.lt_of_lt_of_le bound (Nat.pow_le_pow_right (by decide) small)
  · rw [Nat.div_lt_iff_lt_mul (Nat.pow_pos (by decide)), ← Nat.pow_add]
    exact Nat.lt_of_lt_of_le bound (Nat.pow_le_pow_right (by decide) (by omega))

/-- At most `2 ^ 53` steps of a power of two fit the format's precision. -/
theorem gap_dvd_mul_two_pow {steps : Nat} (exponent : Nat) (few : steps ≤ Nat.pow 2 53) :
    gap (steps * Nat.pow 2 exponent) ∣ steps * Nat.pow 2 exponent := by
  by_cases zero : steps = 0
  · subst zero; simp
  have positive : 0 < Nat.pow 2 exponent := Nat.pow_pos (by decide)
  have nonzero : steps * Nat.pow 2 exponent ≠ 0 := Nat.mul_ne_zero zero (by omega)
  unfold gap
  by_cases full : steps = Nat.pow 2 53
  · subst full
    simp only [Nat.pow_eq]
    rw [← Nat.pow_add, Nat.log2_two_pow]
    exact Nat.pow_dvd_pow 2 (by omega)
  · have below : steps * Nat.pow 2 exponent < Nat.pow 2 (53 + exponent) := by
      have split : Nat.pow 2 (53 + exponent) = Nat.pow 2 53 * Nat.pow 2 exponent := Nat.pow_add 2 53 exponent
      rw [split]
      exact Nat.mul_lt_mul_of_pos_right (by omega) positive
    have order := (Nat.log2_lt nonzero).2 below
    exact Nat.dvd_trans (Nat.pow_dvd_pow 2 (by omega)) (Nat.dvd_mul_left _ _)

/-- A rounded magnitude has at most 53 significant bits. -/
theorem gap_dvd_nearest (num den : Nat) : gap (nearest num den) ∣ nearest num den := by
  unfold nearest
  refine gap_dvd_mul_two_pow _ ?_
  refine Nat.le_trans (toEven_le_succ _ _) ?_
  rw [← Nat.div_div_eq_div_mul]
  exact div_gap_lt _

theorem exact_nearest {num den : Nat} (fits : nearest num den ≤ largest) : Exact (nearest num den) :=
  ⟨fits, gap_dvd_nearest num den⟩

end IntentBus.Rounding
