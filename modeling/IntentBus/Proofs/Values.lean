import IntentBus.Proofs.Magnitudes
import Mathlib.Algebra.Order.Field.Basic
import Mathlib.Algebra.Order.Field.Rat
import Mathlib.Algebra.Order.Ring.Abs
import Mathlib.Data.Rat.Cast.Order
import Mathlib.Tactic.Linarith

/-! Exact values of numbers in double precision. Their order is that of the values, and a whole number is taken for the
nearest of them; so rounding passes no number of the format, and keeps the order of whole numbers. -/

namespace IntentBus

namespace Rounding

private theorem toEven_cases (num den : Nat) : (toEven num den = num / den ∧ 2 * (num % den) ≤ den) ∨
    (toEven num den = num / den + 1 ∧ den ≤ 2 * (num % den)) := by
  unfold toEven
  dsimp only
  split
  · exact .inl ⟨rfl, by omega⟩
  · split
    · exact .inr ⟨rfl, by omega⟩
    · rcases Nat.mod_two_eq_zero_or_one (num / den) with even | odd
      · exact .inl ⟨by omega, by omega⟩
      · exact .inr ⟨by omega, by omega⟩

/-- Rounding to a whole number goes no farther than a half. -/
theorem toEven_within {den : Nat} (positive : 0 < den) (num : Nat) :
    2 * (toEven num den * den) ≤ 2 * num + den ∧ 2 * num ≤ 2 * (toEven num den * den) + den := by
  have parts := Nat.div_add_mod' num den
  have rest := Nat.mod_lt num positive
  rcases toEven_cases num den with ⟨floor, half⟩ | ⟨next, half⟩
  · rw [floor]
    omega
  · rw [next, Nat.add_mul, Nat.one_mul]
    omega

/-- Rounding a whole magnitude goes no farther than half the way to a neighbour. -/
theorem nearest_within (num : Nat) : 2 * nearest num 1 ≤ 2 * num + gap num ∧ 2 * num ≤ 2 * nearest num 1 + gap num := by
  rw [nearest, Nat.div_one, Nat.one_mul]
  exact toEven_within (gap_pos num) num

private theorem gap_mul_le {n : Nat} (nonzero : n ≠ 0) : gap (n * one) * Nat.pow 2 52 ≤ n * one := by
  have filled : n * one ≠ 0 := Nat.mul_ne_zero nonzero (Nat.ne_of_gt one_pos)
  have large : 52 ≤ (n * one).log2 := by
    have least : Nat.pow 2 52 ≤ one := by decide +kernel
    exact (Nat.le_log2 filled).2 (Nat.le_trans least (Nat.le_mul_of_pos_left one (Nat.pos_of_ne_zero nonzero)))
  rw [gap, two_pow_mul, show (n * one).log2 + 1 - 53 + 52 = (n * one).log2 by omega]
  exact Nat.log2_self_le filled

/-- Rounding a whole number changes it by no more than one part in `2 ^ 53`. -/
theorem nearest_close (n : Nat) : nearest (n * one) 1 * Nat.pow 2 53 ≤ n * one * Nat.pow 2 53 + n * one ∧
    n * one * Nat.pow 2 53 ≤ nearest (n * one) 1 * Nat.pow 2 53 + n * one := by
  by_cases zero : n = 0
  · subst zero
    rw [Nat.zero_mul]
    decide
  · have narrow := gap_mul_le zero
    have within := nearest_within (n * one)
    norm_num at narrow ⊢
    omega

private theorem toEven_closest {den : Nat} (positive : 0 < den) (num steps : Nat) :
    ((toEven num den * den : Nat) - num : Int).natAbs ≤ ((steps * den : Nat) - num : Int).natAbs := by
  have parts := Nat.div_add_mod' num den
  have rest := Nat.mod_lt num positive
  have sides : steps * den ≤ num / den * den ∨ num / den * den + den ≤ steps * den := by
    rcases Nat.lt_or_ge (num / den) steps with more | less
    · exact .inr (Nat.succ_mul _ den ▸ Nat.mul_le_mul_right den more)
    · exact .inl (Nat.mul_le_mul_right den less)
  rcases toEven_cases num den with ⟨floor, half⟩ | ⟨next, half⟩
  · rw [floor]
    omega
  · rw [next, Nat.succ_mul]
    omega

/-- No magnitude of the format is closer than the one that is rounded to. -/
theorem nearest_closest {units : Nat} (exact : gap units ∣ units) (num : Nat) :
    ((nearest num 1 : Nat) - num : Int).natAbs ≤ ((units : Nat) - num : Int).natAbs := by
  have closest := toEven_closest (gap_pos num) num
  rw [nearest, Nat.div_one, Nat.one_mul]
  by_cases le : units ≤ num
  · obtain ⟨steps, above, below⟩ := exists_steps_between exact le
    have near := closest steps
    omega
  · obtain ⟨steps, same⟩ := Nat.dvd_trans (gap_dvd_gap (Nat.le_of_not_le le)) exact
    rw [Nat.mul_comm] at same
    rw [same]
    exact closest steps

end Rounding

namespace Binary64

def value? : Binary64 → Option ℚ
  | finite negative units _ => some (signed negative units / Rounding.one)
  | _ => none

/-- A number is nearest to an exact one if no other is closer. -/
def IsNearest (x : Binary64) (exact : ℚ) : Prop :=
  ∃ value, x.value? = some value ∧ ∀ (other : Binary64) (rival : ℚ), other.value? = some rival →
    |value - exact| ≤ |rival - exact|

private theorem unit_pos : (0 : ℚ) < Rounding.one := Nat.cast_pos.2 Rounding.one_pos

private theorem value?_eq_some {x : Binary64} {value : ℚ} (held : x.value? = some value) :
    ∃ negative units exact, x = finite negative units exact ∧ value = signed negative units / Rounding.one := by
  cases x with
  | nan | infinity => nomatch held
  | finite negative units exact => exact ⟨negative, units, exact, rfl, (Option.some.inj held).symm⟩

section

variable {x y : Binary64} {value other : ℚ} (held : x.value? = some value) (beside : y.value? = some other)

include held beside

/-- Numbers are ordered as their values are. -/
theorem le_iff_of_values : x ≤ y ↔ value ≤ other := by
  obtain ⟨s, a, _, rfl, rfl⟩ := value?_eq_some held
  obtain ⟨t, b, _, rfl, rfl⟩ := value?_eq_some beside
  rw [div_le_div_iff_of_pos_right unit_pos, Int.cast_le]
  exact decide_eq_true_iff

variable {bound : Binary64}

/-- A lower bound, which may be infinite, is one of greater numbers, too. -/
theorem bound_le_of_le (below : bound ≤ x) (order : value ≤ other) : bound ≤ y := by
  cases bound with
  | nan => exact below
  | infinity negative =>
    obtain ⟨s, a, _, rfl, -⟩ := value?_eq_some held
    obtain ⟨t, b, _, rfl, -⟩ := value?_eq_some beside
    cases negative with
    | false => exact below
    | true => rfl
  | finite =>
    exact (le_iff_of_values rfl beside).2 (((le_iff_of_values rfl held).1 below).trans order)

/-- A number whose exact value is no more than that of one below a bound is below the bound as well. -/
theorem le_bound_of_le (above : y ≤ bound) (order : value ≤ other) : x ≤ bound := by
  obtain ⟨s, a, _, rfl, -⟩ := value?_eq_some held
  obtain ⟨t, b, _, rfl, -⟩ := value?_eq_some beside
  cases bound with
  | nan => exact above
  | infinity negative =>
    cases negative with
    | false => rfl
    | true => exact above
  | finite =>
    exact (le_iff_of_values held rfl).2 (order.trans ((le_iff_of_values beside rfl).1 above))

end

private theorem signed_closest {units : Nat} (exact : Rounding.gap units ∣ units) (negative other : Bool) (num : Nat) :
    (signed negative (Rounding.nearest num 1) - signed negative num).natAbs ≤
      (signed other units - signed negative num).natAbs := by
  have near := Rounding.nearest_closest exact num
  have nearer := Rounding.nearest_closest (Nat.dvd_zero (Rounding.gap 0)) num
  cases negative <;> cases other <;> simp only [signed, Bool.false_eq_true, if_true, if_false] <;> omega

private theorem signed_natAbs_mul (n : Int) (count : Nat) : signed (n < 0) (n.natAbs * count) = n * count := by
  unfold signed
  rw [Int.natCast_mul]
  split
  · next negative =>
    have magnitude : (n.natAbs : Int) = -n := Int.ofNat_natAbs_of_nonpos (Int.le_of_lt (of_decide_eq_true negative))
    rw [magnitude, Int.neg_mul, Int.neg_neg]
  · next positive =>
    have magnitude : (n.natAbs : Int) = n := Int.natAbs_of_nonneg (Int.not_lt.1 fun less => positive (decide_eq_true less))
    rw [magnitude]

private theorem signed_natAbs_div_one (n : Int) : (signed (n < 0) (n.natAbs * Rounding.one) : ℚ) / Rounding.one = n := by
  rw [signed_natAbs_mul, Int.cast_mul, Int.cast_natCast, mul_div_assoc, div_self unit_pos.ne', mul_one]

/-- A whole number is taken for the nearest one. -/
theorem ofInt_isNearest {n : Int} (small : n.natAbs ≤ Duration.limit) : (ofInt n).IsNearest n := by
  obtain ⟨exact, same⟩ := ofRatio_whole (n < 0) small
  refine ⟨_, congrArg value? same, fun other rival held => ?_⟩
  obtain ⟨sign, units, exact, rfl, rfl⟩ := value?_eq_some held
  have closest := signed_closest exact.2 (n < 0) sign (n.natAbs * Rounding.one)
  rw [← signed_natAbs_div_one n, ← sub_div, ← sub_div, abs_div, abs_div,
    div_le_div_iff_of_pos_right (abs_pos.2 unit_pos.ne'), ← Int.cast_sub, ← Int.cast_sub, ← Int.cast_abs, ← Int.cast_abs,
    Int.cast_le, Int.abs_eq_natAbs, Int.abs_eq_natAbs]
  exact Int.ofNat_le.2 closest

section

variable {x y : Binary64} {first second value other : ℚ}

/-- What is nearest is no less than a number of the format that was reached. -/
theorem IsNearest.le_of_le (near : x.IsNearest first) (held : x.value? = some value) (beside : y.value? = some other)
    (reached : other ≤ first) : other ≤ value := by
  obtain ⟨_, same, closest⟩ := near
  cases held.symm.trans same
  have distance := closest y other beside
  rw [abs_of_nonpos (sub_nonpos.2 reached)] at distance
  have least := neg_le_abs (value - first)
  linarith

/-- Nor is it greater than one that was not exceeded. -/
theorem IsNearest.ge_of_ge (near : x.IsNearest first) (held : x.value? = some value) (beside : y.value? = some other)
    (reached : first ≤ other) : value ≤ other := by
  obtain ⟨_, same, closest⟩ := near
  cases held.symm.trans same
  have distance := closest y other beside
  rw [abs_of_nonneg (sub_nonneg.2 reached)] at distance
  have most := le_abs_self (value - first)
  linarith

private theorem mul_beyond_nonpos {near far exact : ℚ} (closer : |near - exact| ≤ |far - exact|) :
    (near - far) * (near + far - 2 * exact) ≤ 0 := by
  have squares := sq_le_sq.2 closer
  linarith

/-- What is nearest to the greater of two exact numbers is no less. -/
theorem IsNearest.mono (near : x.IsNearest first) (held : x.value? = some value) (nearer : y.IsNearest second)
    (beside : y.value? = some other) (less : first < second) : value ≤ other := by
  obtain ⟨_, same, closest⟩ := near
  cases held.symm.trans same
  obtain ⟨_, same, closer⟩ := nearer
  cases beside.symm.trans same
  by_contra more
  have below := mul_beyond_nonpos (closest y other beside)
  have above := mul_beyond_nonpos (closer x value held)
  have apart := mul_pos (sub_pos.2 (not_le.1 more)) (sub_pos.2 less)
  linarith

end

section

variable {n : Int} (small : n.natAbs ≤ Duration.limit)

include small

/-- A whole number becomes one with an exact value. -/
theorem exists_value_ofInt : ∃ value, (ofInt n).value? = some value := by
  obtain ⟨value, held, _⟩ := ofInt_isNearest small
  exact ⟨value, held⟩

/-- A whole number that needs no rounding keeps its value. -/
theorem value?_ofInt_of_short (short : Rounding.Short n.natAbs) : (ofInt n).value? = some (n : ℚ) := by
  obtain ⟨exact, same⟩ := ofRatio_whole (n < 0) small
  have kept := Rounding.nearest_of_exact Nat.one_pos short
  rw [Nat.mul_one] at kept
  rw [ofInt, same, value?, kept, signed_natAbs_div_one]

/-- Whole numbers keep their order. -/
theorem value_ofInt_mono {m : Int} (lower : m.natAbs ≤ Duration.limit) (le : m ≤ n) {value other : ℚ}
    (held : (ofInt m).value? = some value) (beside : (ofInt n).value? = some other) : value ≤ other := by
  rcases Int.lt_or_eq_of_le le with less | rfl
  · exact (ofInt_isNearest lower).mono held (ofInt_isNearest small) beside (Int.cast_lt.2 less)
  · exact (Option.some.inj (held.symm.trans beside)).le

end

end Binary64

end IntentBus
