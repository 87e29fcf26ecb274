import IntentBus.Proofs.Evaluation
import IntentBus.Proofs.Values

/-! Rules about numbers, for whole numbers. Signs are told exactly and whatever lies between admitted numbers is admitted.
Ranges are exact, too, but for whole numbers that are rounded to the very bound beyond which they lie. -/

namespace IntentBus

namespace Rule

/-- Evaluating the rule alone for a value reports nothing, whatever the field is called. -/
def Admits (rule : Rule) (value : FieldValue) : Prop :=
  ∀ field, (ConstraintSet.empty.rule field value rule).evaluate.violations = []

/-- A rule admits a value exactly if the value does not violate it. -/
theorem admits_iff {rule : Rule} {value : FieldValue} : rule.Admits value ↔ rule.violation? value = none := by
  unfold Admits ConstraintSet.evaluate ConstraintSet.rule
  cases found : rule.violation? value <;> simp [ConstraintSet.empty, Constraint.violation?, found]

/-- A value of a kind that the rule is about is admitted unless it fails the test of the rule. -/
theorem admits_iff_not_fails {rule : Rule} {value : FieldValue} (applies : rule.AppliesTo value) :
    rule.Admits value ↔ ¬rule.Fails value := by
  rw [admits_iff, Option.eq_none_iff_forall_ne_some]
  simp only [ne_eq, violation?_eq_some_iff]
  refine ⟨fun sound fails => sound _ (.fails fails), fun passes code broken => ?_⟩
  cases broken with
  | fails fails => exact passes fails
  | foreign _ other => exact other applies

variable {n : Int64} {min max : Binary64}

/-- Whole numbers are positive to the rule exactly if they are. -/
theorem admits_positive_iff : positive.Admits (.int n) ↔ 0 < n.toInt := by
  have applies : positive.AppliesTo (.int n) := ⟨_, rfl⟩
  rw [admits_iff_not_fails applies, fails_int_iff.1, not_not]

/-- Whole numbers are not negative to the rule exactly if they are not. -/
theorem admits_nonNegative_iff : nonNegative.Admits (.int n) ↔ 0 ≤ n.toInt := by
  have applies : nonNegative.AppliesTo (.int n) := ⟨_, rfl⟩
  rw [admits_iff_not_fails applies, fails_int_iff.2, not_not]

/-- A whole number is in a range exactly if what it is rounded to lies between the bounds. -/
theorem admits_range_iff :
    (range min max).Admits (.int n) ↔ min ≤ Binary64.ofInt n.toInt ∧ Binary64.ofInt n.toInt ≤ max := by
  have applies : (range min max).AppliesTo (.int n) := ⟨_, rfl⟩
  rw [admits_iff_not_fails applies]
  refine ⟨fun passes => by_contra fun outside => passes (.outside rfl outside), fun inside fails => ?_⟩
  cases fails with
  | outside number outside =>
    cases number
    exact outside inside

/-- Signs of whole numbers are told exactly, though what is looked at is the nearest number in double precision; and if two
of them are within a range, whatever its bounds, so is what lies between. -/
theorem signs_and_order_kept :
    (∀ n : Int64, (positive.Admits (.int n) ↔ 0 < n.toInt) ∧ (nonNegative.Admits (.int n) ↔ 0 ≤ n.toInt) ∧
      ∃ x, FieldValue.number? (.int n) = some x ∧ x.IsNearest n.toInt) ∧
      ∀ {min max : Binary64} {first last : Int64}, (range min max).Admits (.int first) →
        (range min max).Admits (.int last) → ∀ n, first ≤ n → n ≤ last → (range min max).Admits (.int n) := by
  refine ⟨fun n => ?_, fun {min max first last} least most n above below => ?_⟩
  · have small := natAbs_toInt_le n
    exact ⟨admits_positive_iff, admits_nonNegative_iff, _, rfl, Binary64.ofInt_isNearest small⟩
  · rw [admits_range_iff] at least most ⊢
    have small := natAbs_toInt_le n
    have firstSmall := natAbs_toInt_le first
    have lastSmall := natAbs_toInt_le last
    obtain ⟨value, held⟩ := Binary64.exists_value_ofInt small
    obtain ⟨low, lowest⟩ := Binary64.exists_value_ofInt firstSmall
    obtain ⟨high, highest⟩ := Binary64.exists_value_ofInt lastSmall
    have behind := Binary64.value_ofInt_mono small firstSmall (Int64.le_iff_toInt_le.1 above) lowest held
    have ahead := Binary64.value_ofInt_mono lastSmall small (Int64.le_iff_toInt_le.1 below) held highest
    exact ⟨Binary64.bound_le_of_le lowest held least.1 behind, Binary64.le_bound_of_le held highest most.2 ahead⟩

/-- At the end of 64 bits the neighbours are `1024` apart: half of that below `2 ^ 63`, whole numbers are within the range of
this number alone. -/
theorem signs_and_order_kept_at_end :
    let edge := Binary64.ofInt 9223372036854775808
    (range edge edge).Admits (.int 9223372036854775296) ∧ (range edge edge).Admits (.int 9223372036854775807) ∧
      (range edge edge).Admits (.int 9223372036854775500) := by
  intro edge
  have first : (range edge edge).Admits (.int 9223372036854775296) := admits_range_iff.2 (by decide +kernel)
  have last : (range edge edge).Admits (.int 9223372036854775807) := admits_range_iff.2 (by decide +kernel)
  exact ⟨first, last, signs_and_order_kept.2 first last 9223372036854775500 (by decide) (by decide)⟩

private theorem few_of_rounded {bound : ℚ} (rounded : (Binary64.ofInt n.toInt).value? = some bound)
    (near : |bound| < 2 ^ 53) : n.toInt.natAbs ≤ 2 ^ 53 := by
  have small := natAbs_toInt_le n
  have kept {edge : Int} (magnitude : edge.natAbs = 2 ^ 53) : (Binary64.ofInt edge).value? = some (edge : ℚ) :=
    Binary64.value?_ofInt_of_short (magnitude ▸ by decide) (Rounding.short_of_le (Nat.le_of_eq magnitude))
  obtain ⟨above, below⟩ := abs_lt.1 near
  by_contra many
  rcases Int.lt_or_le n.toInt 0 with negative | positive
  · have edge : (Binary64.ofInt (-2 ^ 53)).value? = some ((-2 ^ 53 : Int) : ℚ) := kept (by decide)
    have order := Binary64.value_ofInt_mono (by decide) small (by omega) rounded edge
    push_cast at order
    linarith
  · have edge : (Binary64.ofInt (2 ^ 53)).value? = some ((2 ^ 53 : Int) : ℚ) := kept (by decide)
    have order := Binary64.value_ofInt_mono small (by decide) (by omega) edge rounded
    push_cast at order
    linarith

private theorem eq_of_rounded {bound : ℚ} (rounded : (Binary64.ofInt n.toInt).value? = some bound)
    (few : n.toInt.natAbs ≤ 2 ^ 53) : bound = n.toInt := by
  have kept := Binary64.value?_ofInt_of_short (natAbs_toInt_le n) (Rounding.short_of_le few)
  exact Option.some.inj (rounded.symm.trans kept)

section

variable {low high : ℚ} (least : min.value? = some low) (most : max.value? = some high)

include least in
private theorem bound_le_iff :
    min ≤ Binary64.ofInt n.toInt ↔ low ≤ n.toInt ∨ (Binary64.ofInt n.toInt).value? = some low := by
  have near := Binary64.ofInt_isNearest (natAbs_toInt_le n)
  obtain ⟨value, held⟩ := Binary64.exists_value_ofInt (natAbs_toInt_le n)
  rw [Binary64.le_iff_of_values least held, held, Option.some.injEq]
  constructor
  · intro le
    refine or_iff_not_imp_left.2 fun beyond => ?_
    exact le_antisymm (near.ge_of_ge held least (not_le.1 beyond).le) le
  · rintro (reached | rfl)
    · exact near.le_of_le held least reached
    · exact le_refl value

include most in
private theorem le_bound_iff :
    Binary64.ofInt n.toInt ≤ max ↔ n.toInt ≤ high ∨ (Binary64.ofInt n.toInt).value? = some high := by
  have near := Binary64.ofInt_isNearest (natAbs_toInt_le n)
  obtain ⟨value, held⟩ := Binary64.exists_value_ofInt (natAbs_toInt_le n)
  rw [Binary64.le_iff_of_values held most, held, Option.some.injEq]
  constructor
  · intro le
    refine or_iff_not_imp_left.2 fun beyond => ?_
    exact le_antisymm le (near.le_of_le held most (not_le.1 beyond).le)
  · rintro (reached | rfl)
    · exact near.ge_of_ge held most reached
    · exact le_refl value

include least most

/-- A whole number is within a range exactly if it does not lie beyond a bound, other than one that it is rounded to. So none
within the bounds is reported; and nothing else is admitted if the number is no more than `2 ^ 53` either way, or if the bounds
are less than that. -/
theorem range_exact_but_for_rounding :
    (Binary64.ofInt n.toInt).IsNearest n.toInt ∧
      ((range min max).Admits (.int n) ↔
        (low ≤ n.toInt ∨ (Binary64.ofInt n.toInt).value? = some low) ∧
          (n.toInt ≤ high ∨ (Binary64.ofInt n.toInt).value? = some high)) ∧
        (n.toInt.natAbs ≤ 2 ^ 53 ∨ |low| < 2 ^ 53 ∧ |high| < 2 ^ 53 →
          ((range min max).Admits (.int n) ↔ low ≤ n.toInt ∧ n.toInt ≤ high)) := by
  have exact : (range min max).Admits (.int n) ↔ _ :=
    admits_range_iff.trans (and_congr (bound_le_iff least) (le_bound_iff most))
  refine ⟨Binary64.ofInt_isNearest (natAbs_toInt_le n), exact, fun moderate => exact.trans ?_⟩
  have met {bound : ℚ} (near : n.toInt.natAbs ≤ 2 ^ 53 ∨ |bound| < 2 ^ 53)
      (rounded : (Binary64.ofInt n.toInt).value? = some bound) : bound = n.toInt :=
    eq_of_rounded rounded (near.elim id (few_of_rounded rounded))
  refine and_congr (or_iff_left_of_imp fun rounded => ?_) (or_iff_left_of_imp fun rounded => ?_)
  · exact (met (moderate.imp_right And.left) rounded).le
  · exact (met (moderate.imp_right And.right) rounded).ge

end

private theorem value?_even : (Binary64.ofInt 9007199254740996).value? = some 9007199254740996 := by
  have short : Rounding.Short (2251799813685249 * Nat.pow 2 2) := Rounding.short_of_few (by decide) 2
  have kept : (Binary64.ofInt 9007199254740996).value? = some ((9007199254740996 : Int) : ℚ) :=
    Binary64.value?_ofInt_of_short (by decide) short
  rw [kept, Int.cast_ofNat]

/-- The neighbours of `2 ^ 53 + 3` are as near as each other, and `2 ^ 53 + 4` is the even one: a range that begins there admits
what is less. -/
theorem range_exact_but_for_rounding_up :
    (Binary64.ofInt 9007199254740996).value? = some 9007199254740996 ∧
      (range (.ofInt 9007199254740996) (.ofInt 9007199254740996)).Admits (.int 9007199254740995) := by
  have rounded : Binary64.ofInt (9007199254740995 : Int64).toInt = Binary64.ofInt 9007199254740996 := by decide +kernel
  have same := (congrArg Binary64.value? rounded).trans value?_even
  exact ⟨value?_even, (range_exact_but_for_rounding value?_even value?_even).2.1.2 ⟨.inr same, .inr same⟩⟩

/-- A whole number beyond the range is admitted because it is rounded to a bound. -/
theorem admits_beyond_range :
    (Binary64.ofInt 0).value? = some 0 ∧ (Binary64.ofInt 9007199254740992).value? = some 9007199254740992 ∧
      (range (.ofInt 0) (.ofInt 9007199254740992)).Admits (.int 9007199254740993) ∧
        ¬(((9007199254740993 : Int64).toInt : ℚ) ≤ 9007199254740992) := by
  have whole : (9007199254740993 : Int64).toInt = 9007199254740993 := by decide
  refine ⟨by decide +kernel, by decide +kernel, admits_range_iff.2 (by decide +kernel), ?_⟩
  rw [whole]
  norm_num

end Rule

end IntentBus
