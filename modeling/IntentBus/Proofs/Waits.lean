import IntentBus.Proofs.Powers
import IntentBus.Proofs.Retries
import Mathlib.Algebra.Order.Ring.Nat

/-! How the waits of a policy grow from one attempt to the next. None is longer than the cap, doubling is exact for waits of
ordinary length, and a wait of zero stays zero as long as the power of the multiplier is finite. -/

namespace IntentBus

namespace RetryPolicy

variable (policy : RetryPolicy)

/-- No wait is longer than the cap of the policy, with jitter or without. -/
theorem waits_within_cap (attempt : UInt32) : (policy.backoff attempt.toNat).nanos ≤ policy.maxBackoff.nanos ∧
    ∀ {σ ι α : Type} (draw : Nat → Nat) (time : Nat) (state : BusState σ ι α), ∃ length after,
      (ExecutionService.delayBefore policy draw attempt).run time state = .still length time after [] ∧
        length.nanos ≤ policy.maxBackoff.nanos := by
  have capped := policy.backoff_le_maxBackoff attempt.toNat
  refine ⟨capped, fun draw time state => ?_⟩
  obtain ⟨length, after, waits, wait⟩ := ExecutionService.run_delayBefore policy draw attempt time state
  exact ⟨length, after, waits, wait.atMost.trans capped⟩

variable {policy}

private theorem nanos_backoff_of_short {attempt n : Nat} (short : Rounding.Short n)
    (scaled : Binary64.ofNat policy.initialBackoff.nanos * policy.multiplier.pow (exponent attempt) = Binary64.ofNat n)
    (few : policy.maxBackoff.nanos ≤ 2 ^ 53) : (policy.backoff attempt).nanos = min n policy.maxBackoff.nanos := by
  have bounded := Nat.le_of_lt policy.maxBackoff.bounded
  have order := Binary64.ofNat_le_ofNat (Rounding.short_of_le few) short bounded
  rw [backoff, scaled]
  by_cases reached : policy.maxBackoff.nanos ≤ n
  · rw [decide_eq_true (order.2 reached), Bool.or_true, if_pos rfl, Nat.min_eq_right reached]
  · have below : n < policy.maxBackoff.nanos := Nat.lt_of_not_le reached
    obtain ⟨finite, rounded⟩ := Binary64.toNatCapped_ofNat short (by omega) (UInt64.size - 1)
    have small : n ≤ UInt64.size - 1 := Nat.le_trans (Nat.le_of_lt (Nat.lt_of_lt_of_le below few)) (by decide)
    rw [finite, decide_eq_false (mt order.1 reached), rounded, Nat.min_eq_right small, Nat.min_eq_left (Nat.le_of_lt below)]
    exact Duration.nanos_ofNanos (by omega)

private theorem min_exponent {initial cap : Nat} (positive : 0 < initial) (few : cap ≤ 2 ^ 53) (attempt : Nat) :
    min (initial * 2 ^ exponent attempt) cap = min (initial * 2 ^ (attempt - 2)) cap := by
  by_cases within : attempt - 2 ≤ largestExponent
  · rw [exponent, Nat.min_eq_left within]
  · have passed {power : Nat} (many : 53 ≤ power) : cap ≤ initial * 2 ^ power :=
      calc cap
        _ ≤ 2 ^ 53 := few
        _ ≤ 2 ^ power := Nat.pow_le_pow_right (by decide) many
        _ ≤ initial * 2 ^ power := Nat.le_mul_of_pos_left _ positive
    have large : 53 ≤ largestExponent := by decide
    rw [Nat.min_eq_right (passed _), Nat.min_eq_right (passed _)]
    · omega
    · rw [exponent]
      omega

section

variable (doubles : policy.multiplier = 2) (positive : 0 < policy.initialBackoff.nanos)
  (initial : policy.initialBackoff.nanos < 2 ^ 53) (cap : policy.maxBackoff.nanos < 2 ^ 53)

include doubles positive initial cap

private theorem nanos_backoff_of_two (attempt : Nat) : (policy.backoff attempt).nanos =
    min (policy.initialBackoff.nanos * 2 ^ (attempt - 2)) policy.maxBackoff.nanos := by
  have few := Nat.le_of_lt initial
  have short := Rounding.short_of_few few (exponent attempt)
  rw [← min_exponent positive (Nat.le_of_lt cap)]
  refine nanos_backoff_of_short short ?_ (Nat.le_of_lt cap)
  rw [doubles, Binary64.two_pow]
  exact Binary64.ofNat_mul positive (Nat.pow_pos (by decide)) (Rounding.short_of_le few) (Rounding.short_two_pow _) short

/-- With two as the multiplier, waits double from the initial one to the cap, exactly: they never decrease, and stay at the
cap once it is reached. -/
theorem backoff_doubles :
    (∀ attempt, (policy.backoff attempt).nanos =
      min (policy.initialBackoff.nanos * 2 ^ (attempt - 2)) policy.maxBackoff.nanos) ∧
      ∀ attempt later, attempt ≤ later → (policy.backoff attempt).nanos ≤ (policy.backoff later).nanos ∧
        (policy.backoff attempt = policy.maxBackoff → policy.backoff later = policy.maxBackoff) := by
  have exact := nanos_backoff_of_two doubles positive initial cap
  have ordered {attempt later : Nat} (le : attempt ≤ later) :
      (policy.backoff attempt).nanos ≤ (policy.backoff later).nanos := by
    rw [exact, exact]
    exact min_le_min_right _ (Nat.mul_le_mul_left _ (Nat.pow_le_pow_right (by decide) (by omega)))
  refine ⟨exact, fun attempt later le => ⟨ordered le, fun reached => ?_⟩⟩
  have most := policy.backoff_le_maxBackoff later
  have least := ordered le
  rw [reached] at least
  exact Duration.eq_of_nanos (Nat.le_antisymm most least)

end

def doubling : RetryPolicy := ⟨5, .ofMillis 100, .ofMillis 300, 2, false⟩

/-- A policy with a cap of 300 ms doubles once and then stays at the cap. -/
theorem backoff_doubles_up_to_cap : doubling.backoff 3 = .ofMillis 200 ∧
    ∀ later ≥ 4, doubling.backoff later = .ofMillis 300 := by
  obtain ⟨exact, course⟩ := @backoff_doubles doubling rfl (by decide) (by decide) (by decide)
  have third : (doubling.backoff 3).nanos = (Duration.ofMillis 200).nanos := (exact 3).trans (by decide)
  have fourth : (doubling.backoff 4).nanos = doubling.maxBackoff.nanos := (exact 4).trans (by decide)
  exact ⟨Duration.eq_of_nanos third, fun later le => (course 4 later le).2 (Duration.eq_of_nanos fourth)⟩

section

variable (immediate : policy.initialBackoff = .zero)

include immediate

private theorem backoff_of_zero (attempt : Nat) : policy.backoff attempt =
    if (policy.multiplier.pow (exponent attempt)).isFinite then .zero else policy.maxBackoff := by
  have start : Binary64.ofNat policy.initialBackoff.nanos = 0 := by
    rw [immediate]
    rfl
  rw [backoff, start]
  cases ends : (policy.multiplier.pow (exponent attempt)).isFinite with
  | true =>
    obtain ⟨negative, exact, product⟩ := Binary64.zero_mul_of_isFinite ends
    rw [product, if_pos rfl]
    split
    · next reached =>
      rw [Bool.or_eq_true, decide_eq_true_eq] at reached
      obtain endless | le := reached
      · exact Bool.noConfusion endless
      · exact Duration.eq_of_nanos (Binary64.eq_zero_of_ofNat_le (Nat.le_of_lt policy.maxBackoff.bounded) le)
    · rw [Binary64.toNatCapped_zero]
      rfl
  | false =>
    rw [Binary64.zero_mul_of_not_isFinite ends]
    rfl

private theorem backoff_of_reaches (grows : policy.multiplier.Reaches 1) {attempt : Nat} (late : 1026 ≤ attempt) :
    policy.backoff attempt = policy.maxBackoff := by
  have beyond : 1024 ≤ exponent attempt := by
    have large : 1024 ≤ largestExponent := by decide
    rw [exponent]
    omega
  have endless := Binary64.isFinite_of_reaches beyond (Binary64.reaches_pow grows (exponent attempt))
  rw [backoff_of_zero immediate, endless]
  rfl

/-- A policy without an initial wait has no wait before an attempt if the power of its multiplier is finite, and else the
longest. So there never is one if the multiplier is no larger than one; if it is two or more there is from attempt 1026 on. -/
theorem backoff_of_no_initial :
    (∀ attempt, policy.backoff attempt =
      if (policy.multiplier.pow (exponent attempt)).isFinite then .zero else policy.maxBackoff) ∧
      (policy.multiplier.Small → ∀ attempt, policy.backoff attempt = .zero) ∧
        (policy.multiplier.Reaches 1 → ∀ attempt ≥ 1026, policy.backoff attempt = policy.maxBackoff) := by
  refine ⟨backoff_of_zero immediate, fun small attempt => ?_, fun grows attempt late => backoff_of_reaches immediate grows late⟩
  rw [backoff_of_zero immediate, Binary64.isFinite_of_small (Binary64.small_pow small (exponent attempt))]
  rfl

end

def idle : RetryPolicy := ⟨2000, .zero, .ofMillis 2000, 2, false⟩

/-- From attempt 1026 on the policy without an initial wait asks for its longest wait. -/
theorem backoff_of_no_initial_of_idle : idle.initialBackoff = .zero ∧ idle.multiplier.Reaches 1 ∧
    ∀ attempt ≥ 1026, idle.backoff attempt = .ofMillis 2000 :=
  ⟨rfl, by decide +kernel, (backoff_of_no_initial rfl).2.2 (by decide +kernel)⟩

/-- Doubling zero does not stay at zero: the power of two is infinite in the end. -/
theorem idle_waits : idle.initialBackoff = .zero ∧ idle.multiplier.isFinite = true ∧ idle.backoff 1026 ≠ .zero := by
  refine ⟨rfl, by decide +kernel, ?_⟩
  rw [backoff_of_reaches rfl (by decide +kernel) (Nat.le_refl 1026)]
  decide

end RetryPolicy

end IntentBus
