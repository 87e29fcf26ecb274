import IntentBus.Policy
import IntentBus.Proofs.Magnitudes

/-! The waits of a policy: none is longer than the longest that the policy allows, although they are computed and
compared in double precision. -/

namespace IntentBus

namespace Binary64

/-- A number that is not at least as large as a length of time is no longer when it is rounded to nanoseconds. -/
theorem toNatCapped_le {number : Binary64} {span : Duration} (finite : number.isFinite = true)
    (less : ¬ofNat span.nanos ≤ number) (limit : Nat) : number.toNatCapped limit ≤ span.nanos := by
  obtain ⟨_, same⟩ := ofNat_whole (Nat.le_of_lt span.bounded)
  cases number with
  | nan => nomatch finite
  | infinity negative => nomatch finite
  | finite negative units exact =>
    cases negative with
    | true => exact Nat.zero_le _
    | false =>
      rw [same] at less
      have below : units < Rounding.nearest (span.nanos * Rounding.one) 1 :=
        Nat.lt_of_not_le fun more => less (finite_le_finite.2 more)
      have units_le := Rounding.le_of_lt_nearest exact.2 below
      simp only [toNatCapped, Bool.false_eq_true, if_false]
      exact Nat.le_trans (Nat.min_le_right _ _) (Rounding.half_up_le units_le)

end Binary64

namespace Duration

/-- A duration that is not cut has the nanoseconds that it was made of. -/
theorem nanos_ofNanos {nanos : Nat} (bounded : nanos < limit) : (ofNanos nanos).nanos = nanos := by
  unfold ofNanos
  rw [dif_pos bounded]

/-- Durations with the same nanoseconds are the same. -/
theorem eq_of_nanos {first second : Duration} (same : first.nanos = second.nanos) : first = second := by
  cases first
  cases second
  cases same
  rfl

private theorem capped_le (span : Duration) (number : Binary64) (limit : Nat) :
    (if !number.isFinite || Binary64.ofNat span.nanos ≤ number then span
      else ofNanos (number.toNatCapped limit)).nanos ≤ span.nanos := by
  split
  · exact Nat.le_refl _
  · next within =>
    simp only [Bool.or_eq_true, Bool.not_eq_true', decide_eq_true_eq, not_or, Bool.not_eq_false] at within
    obtain ⟨finite, less⟩ := within
    have short := Binary64.toNatCapped_le finite less limit
    rw [nanos_ofNanos (Nat.lt_of_le_of_lt short span.bounded)]
    exact short

end Duration

namespace RetryPolicy

/-- No wait is longer than the longest that the policy allows. -/
theorem backoff_le_maxBackoff (policy : RetryPolicy) (attempt : Nat) :
    (policy.backoff attempt).nanos ≤ policy.maxBackoff.nanos := by
  rw [backoff]
  exact Duration.capped_le _ _ _

end RetryPolicy

end IntentBus
