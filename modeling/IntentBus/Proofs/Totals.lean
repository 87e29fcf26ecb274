import IntentBus.Proofs.Recombination

/-! Sums of durations from one observation to the next. They grow, and are no less than the longest duration, for as long as
64 bits hold them; an observation that goes beyond makes the sum smaller. -/

namespace IntentBus

namespace Observation

def nanos (observation : Observation) : Nat :=
  match observation.length? with
  | some length => min length.nanos (UInt64.size - 1)
  | none => 0

def spent (observations : List Observation) : Nat :=
  observations.foldr (fun observation rest => observation.nanos + rest) 0

def concerns (observation : Observation) : Option String → Bool
  | some name => observation.intent = name
  | none => true

private theorem nanos_lt (observation : Observation) : observation.nanos < UInt64.size := by
  unfold nanos
  split
  · exact Nat.lt_of_le_of_lt (Nat.min_le_right _ _) (by decide)
  · decide

end Observation

namespace Counters

private theorem nanos_of (observation : Observation) :
    (of observation).totalNanos.toNat = observation.nanos ∧ (of observation).maxNanos.toNat = observation.nanos := by
  cases observation with
  | success _ length | failure _ _ length => exact ⟨toNat_sampled length, toNat_sampled length⟩
  | validationFailure => exact ⟨rfl, rfl⟩

/-- The sum of the durations wraps around at 64 bits. -/
theorem totalNanos_after (observations : List Observation) :
    (after observations).totalNanos.toNat = Observation.spent observations % UInt64.size := by
  induction observations with
  | nil => rfl
  | cons observation rest ih =>
    rw [after_cons, sum_add (.head _), UInt64.toNat_add, ih, (nanos_of _).1]
    exact Nat.add_mod_mod _ _ _

/-- No duration is longer than all of them together. -/
theorem maxNanos_after_le (observations : List Observation) :
    (after observations).maxNanos.toNat ≤ Observation.spent observations := by
  induction observations with
  | nil => exact Nat.le_refl 0
  | cons observation rest ih =>
    rw [after_cons, maxNanos_add, (nanos_of _).2]
    have both : Observation.spent (observation :: rest) = observation.nanos + Observation.spent rest := rfl
    omega

/-- One more observation makes the sum smaller exactly if 64 bits do not hold what it comes to. -/
theorem totalNanos_record_lt_iff (counters : Counters) (observation : Observation) :
    (counters.record observation).totalNanos.toNat < counters.totalNanos.toNat ↔
      UInt64.size ≤ counters.totalNanos.toNat + observation.nanos := by
  have before := counters.totalNanos.toNat_lt
  have added := observation.nanos_lt
  rw [record_eq_add, sum_add (.head _), UInt64.toNat_add, (nanos_of _).1]
  unfold UInt64.size at *
  omega

end Counters

namespace MetricsCollector

def read (collector : MetricsCollector) : Option String → MetricsSnapshot
  | some name => collector.snapshot name
  | none => collector.totals

/-- What is read after observations comes from those that concern it. -/
theorem read_after (observations : List Observation) (which : Option String) :
    (empty.recordAll observations).read which = (Counters.after (observations.filter (·.concerns which))).snapshot := by
  cases which with
  | some name => exact congrArg Counters.snapshot (counters_after observations name)
  | none =>
    have concerned : observations.filter (·.concerns none) = observations := List.filter_eq_self.2 fun _ _ => rfl
    rw [concerned]
    exact congrArg Counters.snapshot (all_after observations)

/-- An observation is recorded in the counters of its name and in those of all, and in no others. -/
theorem read_record (observations : List Observation) (observation : Observation) (which : Option String) :
    ((empty.recordAll observations).record observation).read which =
      let counters := Counters.after (observations.filter (·.concerns which))
      (if observation.concerns which then counters.record observation else counters).snapshot := by
  have grown : (empty.recordAll observations).record observation = empty.recordAll (observations ++ [observation]) :=
    (List.foldl_concat ..).symm
  rw [grown, read_after, List.filter_append, List.filter_singleton]
  cases observation.concerns which with
  | true => exact congrArg Counters.snapshot (List.foldl_concat ..)
  | false =>
    rw [cond_false, List.append_nil]
    rfl

/-- Whatever has been recorded, what is read of one name or of all says this of the durations: their sum is that of the
observations as far as 64 bits go, so if they hold it no duration is longer; and one more observation makes it smaller exactly
if it is counted there and 64 bits do not hold what the sum comes to. -/
theorem forward_until_wrapped (observations : List Observation) (which : Option String) :
    let collector := empty.recordAll observations
    let spent := Observation.spent (observations.filter (·.concerns which))
    let total := (collector.read which).totalDuration.nanos
    total = spent % UInt64.size ∧
      (spent < UInt64.size → (collector.read which).maxDuration.nanos ≤ total) ∧
        ∀ observation, ((collector.record observation).read which).totalDuration.nanos < total ↔
          observation.concerns which = true ∧ UInt64.size ≤ total + observation.nanos := by
  dsimp only
  simp only [read_record, read_after, Counters.nanos_totalDuration, Counters.nanos_maxDuration]
  refine ⟨Counters.totalNanos_after _, fun holds => ?_, fun observation => ?_⟩
  · rw [Counters.totalNanos_after, Nat.mod_eq_of_lt holds]
    exact Counters.maxNanos_after_le _
  · cases observation.concerns which with
    | true =>
      simp only [if_true, true_and]
      exact Counters.totalNanos_record_lt_iff _ observation
    | false => simp

/-- A success and a failure fill 64 bits to the last nanosecond. -/
theorem forward_until_wrapped_when_full :
    let observations : List Observation :=
      [.success "Lookup" (.ofNanos (UInt64.size - 2)), .failure "Lookup" .execution (.ofNanos 1)]
    let totals := (empty.recordAll observations).totals
    Observation.spent observations = UInt64.size - 1 ∧ totals.maxDuration.nanos ≤ totals.totalDuration.nanos := by
  intro observations totals
  have filled : Observation.spent observations = UInt64.size - 1 := by decide +kernel
  have holds : Observation.spent (observations.filter (·.concerns none)) < UInt64.size := by decide +kernel
  exact ⟨filled, (forward_until_wrapped observations none).2.1 holds⟩

/-- The second of two durations takes the sum back to nothing, below the longest. -/
theorem total_runs_backwards :
    let earlier := empty.record (.success "Lookup" (.ofNanos (UInt64.size - 1)))
    let later := earlier.record (.success "Lookup" (.ofNanos 1))
    earlier.totals.totalDuration.nanos = UInt64.size - 1 ∧ later.totals.totalDuration.nanos = 0 ∧
      later.totals.maxDuration.nanos = UInt64.size - 1 ∧ later.snapshot "Lookup" = later.totals := by
  decide +kernel

end MetricsCollector

end IntentBus
