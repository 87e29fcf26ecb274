import IntentBus.Proofs.Magnitudes

/-! Powers by repeated squaring: whatever products keep, powers keep. Powers of two are exact until they are beyond the
largest number, what is no larger than one stays so, and what is at least two grows as powers of two do. -/

namespace IntentBus

namespace Binary64

section

variable {holds : Nat → Binary64 → Prop} {number : Binary64}
  (mul : ∀ {first second : Nat} {left right : Binary64}, holds first left → holds second right →
    holds (first + second) (left * right))

include mul

private theorem powFrom_of_mul (exponent : Nat) {done step : Nat} {product square : Binary64} (kept : holds done product)
    (squared : holds step square) : holds (done + step * exponent) (powFrom product square exponent) := by
  induction exponent using Nat.strongRecOn generalizing done step product square with
  | ind exponent ih =>
    have lowest : holds (done + step * (exponent % 2)) (if exponent % 2 = 1 then product * square else product) := by
      split
      · next odd =>
        rw [odd, Nat.mul_one]
        exact mul kept squared
      · next even =>
        rw [show exponent % 2 = 0 by omega]
        exact kept
    rw [powFrom]
    split
    · next last =>
      have same : done + step * (exponent % 2) = done + step * exponent := by rw [show exponent % 2 = exponent by omega]
      rwa [same] at lowest
    · next more =>
      have rest := ih (exponent / 2) (by omega) lowest (mul squared squared)
      have same : done + step * (exponent % 2) + (step + step) * (exponent / 2) = done + step * exponent := by
        have halves : exponent = exponent % 2 + 2 * (exponent / 2) := by omega
        calc done + step * (exponent % 2) + (step + step) * (exponent / 2)
          _ = done + step * (exponent % 2 + 2 * (exponent / 2)) := by
            rw [Nat.mul_add, ← Nat.mul_assoc, Nat.mul_two, Nat.add_assoc]
          _ = done + step * exponent := by rw [← halves]
      rwa [same] at rest

/-- What holds of one, of a number and of products holds of the powers of the number. -/
theorem pow_of_mul (start : holds 0 1) (base : holds 1 number) (exponent : Nat) : holds exponent (number.pow exponent) := by
  have power := powFrom_of_mul mul exponent start base
  rwa [Nat.zero_add, Nat.one_mul] at power

end

private theorem finite_mul_finite (negative other : Bool) {first second : Nat} (exact : Rounding.Exact first)
    (kept : Rounding.Exact second) : finite negative first exact * finite other second kept =
      round (negative != other) (first * second) Rounding.one := by
  change mul _ _ = _
  rw [mul]

private theorem infinity_mul_finite (negative other : Bool) {units : Nat} (exact : Rounding.Exact units)
    (nonzero : units ≠ 0) :
    infinity negative * finite other units exact = infinity (negative != other) := by
  change mul _ _ = _
  rw [mul, if_neg nonzero]

private theorem finite_mul_infinity (negative other : Bool) {units : Nat} (exact : Rounding.Exact units)
    (nonzero : units ≠ 0) :
    finite negative units exact * infinity other = infinity (negative != other) := by
  change mul _ _ = _
  rw [mul, if_neg nonzero]

/-- Zero times a finite number is zero. -/
theorem zero_mul_of_isFinite {number : Binary64} (ends : number.isFinite = true) :
    ∃ negative exact, 0 * number = finite negative 0 exact := by
  obtain ⟨exact, same⟩ := zero_eq
  cases number with
  | nan => nomatch ends
  | infinity negative => nomatch ends
  | finite negative units exact =>
    have rounded := round_of_exact (false != negative) Rounding.one_pos Rounding.exact_zero.2
    rw [Nat.zero_mul, dif_pos (Nat.zero_le _)] at rounded
    rw [same, finite_mul_finite, Nat.zero_mul]
    exact ⟨_, _, rounded⟩

/-- Zero times any other is not a number. -/
theorem zero_mul_of_not_isFinite {number : Binary64} (endless : number.isFinite = false) : 0 * number = nan := by
  obtain ⟨exact, same⟩ := zero_eq
  rw [same]
  cases number with
  | nan => rfl
  | infinity negative => rfl
  | finite negative units exact => nomatch endless

/-- The product of whole numbers is exact if none of the three needs rounding, or all is beyond the largest number. -/
theorem ofNat_mul {first second : Nat} (positive : 0 < first) (other : 0 < second) (short : Rounding.Short first)
    (shorter : Rounding.Short second) (both : Rounding.Short (first * second)) :
    ofNat first * ofNat second = ofNat (first * second) := by
  have unit := Rounding.one_pos
  have left : first * Rounding.one ≤ first * second * Rounding.one :=
    Nat.mul_le_mul_right _ (Nat.le_mul_of_pos_right first other)
  have right : second * Rounding.one ≤ first * second * Rounding.one :=
    Nat.mul_le_mul_right _ (Nat.le_mul_of_pos_left second positive)
  rw [ofNat_of_short short, ofNat_of_short shorter, ofNat_of_short both]
  by_cases fits : first * Rounding.one ≤ Rounding.largest
  · by_cases also : second * Rounding.one ≤ Rounding.largest
    · rw [dif_pos fits, dif_pos also, finite_mul_finite, Nat.mul_mul_mul_comm, ← Nat.mul_assoc]
      exact round_of_exact false unit both
    · rw [dif_pos fits, dif_neg also, dif_neg fun whole => also (Nat.le_trans right whole)]
      exact finite_mul_infinity false false _ (Nat.ne_of_gt (Nat.mul_pos positive unit))
  · rw [dif_neg fits, dif_neg fun whole => fits (Nat.le_trans left whole)]
    split
    · exact infinity_mul_finite false false _ (Nat.ne_of_gt (Nat.mul_pos other unit))
    · rfl

/-- Powers of two are exact, unless they are beyond the largest number. -/
theorem two_pow (exponent : Nat) : (2 : Binary64).pow exponent = ofNat (Nat.pow 2 exponent) := by
  refine @pow_of_mul (fun exponent power => power = ofNat (Nat.pow 2 exponent)) 2 ?_ rfl rfl exponent
  rintro first second _ _ rfl rfl
  have short := Rounding.short_two_pow (first + second)
  rw [← Rounding.two_pow_mul] at short ⊢
  exact ofNat_mul (Nat.pow_pos (by decide)) (Nat.pow_pos (by decide)) (Rounding.short_two_pow first)
    (Rounding.short_two_pow second) short

def Small : Binary64 → Prop
  | finite _ units _ => units ≤ Rounding.one
  | _ => False

def Reaches (exponent : Nat) : Binary64 → Prop
  | nan => False
  | infinity _ => True
  | finite _ units _ => Nat.pow 2 exponent * Rounding.one ≤ units

instance : (number : Binary64) → Decidable number.Small
  | finite _ units _ => inferInstanceAs (Decidable (units ≤ Rounding.one))
  | nan => inferInstanceAs (Decidable False)
  | infinity _ => inferInstanceAs (Decidable False)

instance (exponent : Nat) : (number : Binary64) → Decidable (number.Reaches exponent)
  | nan => inferInstanceAs (Decidable False)
  | infinity _ => inferInstanceAs (Decidable True)
  | finite _ units _ => inferInstanceAs (Decidable (Nat.pow 2 exponent * Rounding.one ≤ units))

/-- A number no larger than one is finite. -/
theorem isFinite_of_small {number : Binary64} (small : number.Small) : number.isFinite = true := by
  cases number with
  | finite negative units exact => rfl
  | _ => exact small.elim

private theorem two_pow_le {first second : Nat} (le : first ≤ second) : Nat.pow 2 first ≤ Nat.pow 2 second :=
  Nat.pow_le_pow_right (by decide) le

private theorem largest_lt {exponent : Nat} (beyond : 1024 ≤ exponent) :
    Rounding.largest < Nat.pow 2 exponent * Rounding.one := by
  -- The exponent is given a name, for the power is too large to be written out.
  obtain ⟨first, same, less⟩ : ∃ first, 1024 = first ∧ Rounding.largest < Nat.pow 2 first * Rounding.one :=
    ⟨1024, rfl, by decide +kernel⟩
  rw [same] at beyond
  exact Nat.lt_of_lt_of_le less (Nat.mul_le_mul_right _ (two_pow_le beyond))

/-- From `2 ^ 1024` on all numbers are infinite. -/
theorem isFinite_of_reaches {exponent : Nat} (beyond : 1024 ≤ exponent) {number : Binary64}
    (reaches : number.Reaches exponent) : number.isFinite = false := by
  cases number with
  | nan => exact reaches.elim
  | infinity negative => rfl
  | finite negative units exact => exact absurd (Nat.le_trans reaches exact.1) (Nat.not_le_of_lt (largest_lt beyond))

private theorem Small.mul {first second : Binary64} (small : first.Small) (other : second.Small) : (first * second).Small := by
  cases first with
  | finite negative units exact =>
    cases second with
    | finite other factor kept =>
      have gap : Rounding.gap Rounding.one ∣ Rounding.one := by
        have short : Rounding.Short 1 := Rounding.short_of_le (by decide)
        rwa [Rounding.Short, Nat.one_mul] at short
      have small : Rounding.nearest (units * factor) Rounding.one ≤ Rounding.one :=
        Rounding.nearest_le_of_le Rounding.one_pos gap (Nat.mul_le_mul small other)
      have fits : Rounding.one ≤ Rounding.largest := by decide +kernel
      rw [finite_mul_finite, round, dif_pos (Nat.le_trans small fits)]
      exact small
    | _ => exact other.elim
  | _ => exact small.elim

private theorem Reaches.mul {first second : Nat} {one two : Binary64} (left : one.Reaches first) (right : two.Reaches second) :
    (one * two).Reaches (first + second) := by
  have unit := Rounding.one_pos
  have nonzero {exponent units : Nat} (reached : Nat.pow 2 exponent * Rounding.one ≤ units) : units ≠ 0 :=
    Nat.ne_of_gt (Nat.lt_of_lt_of_le (Nat.mul_pos (Nat.pow_pos (by decide)) unit) reached)
  cases one with
  | nan => exact left.elim
  | infinity negative =>
    cases two with
    | nan => exact right.elim
    | infinity other => trivial
    | finite other factor kept =>
      rw [infinity_mul_finite _ _ _ (nonzero right)]
      trivial
  | finite negative units exact =>
    cases two with
    | nan => exact right.elim
    | infinity other =>
      rw [finite_mul_infinity _ _ _ (nonzero left)]
      trivial
    | finite other factor kept =>
      have product : Nat.pow 2 (first + second) * Rounding.one * Rounding.one ≤ units * factor := by
        rw [← Rounding.two_pow_mul, Nat.mul_assoc, Nat.mul_mul_mul_comm]
        exact Nat.mul_le_mul left right
      have reached := Rounding.le_nearest_of_le unit (Rounding.short_two_pow (first + second)) product
      rw [finite_mul_finite, round]
      split
      · exact reached
      · trivial

/-- The powers of what is no larger than one are no larger. -/
theorem small_pow {number : Binary64} (small : number.Small) (exponent : Nat) : (number.pow exponent).Small :=
  @pow_of_mul (fun _ => Small) number Small.mul (by decide +kernel) small exponent

/-- The powers of what is at least two are at least those of two. -/
theorem reaches_pow {number : Binary64} (reaches : number.Reaches 1) (exponent : Nat) :
    (number.pow exponent).Reaches exponent :=
  @pow_of_mul Reaches number Reaches.mul (by decide +kernel) reaches exponent

end Binary64

end IntentBus
