import IntentBus.Proofs.Accounting
import IntentBus.Proofs.Backoff
import Mathlib.Algebra.BigOperators.Group.Finset.Piecewise
import Mathlib.Algebra.BigOperators.Group.List.Lemmas
import Mathlib.Algebra.Order.BigOperators.Group.Finset
import Mathlib.Algebra.Order.Ring.Nat
import Mathlib.Data.Finset.Lattice.Fold
import Mathlib.Order.Lattice.Nat

/-! Counters can be added up: the counters of many observations are the sum of what each counts for, in whatever order they
were made. So the counters of all are the sum of those of the names, and a mean is no longer than the longest duration. -/

namespace IntentBus

namespace Observation

def length? : Observation → Option Duration
  | success _ length | failure _ _ length => some length
  | validationFailure .. => none

def longest (observations : List Observation) : Nat :=
  (observations.filterMap length?).foldr (fun length most => max length.nanos most) 0

end Observation

namespace Counters

variable {first second : Counters} {field : Counters → UInt64} {observations : List Observation}

def counts : List (Counters → UInt64) := [processed, succeeded, failed, validationFailed, samples]

def sums : List (Counters → UInt64) := totalNanos :: counts

private theorem eq_of_sums (same : ∀ field ∈ sums, field first = field second)
    (longest : first.maxNanos.toNat = second.maxNanos.toNat) : first = second := by
  simp only [sums, counts, List.forall_mem_cons] at same
  obtain ⟨totalNanos, processed, succeeded, failed, validationFailed, samples, _⟩ := same
  cases first
  cases second
  simp only [Counters.mk.injEq]
  exact ⟨processed, succeeded, failed, validationFailed, samples, totalNanos, UInt64.toNat_inj.1 longest⟩

instance : Zero Counters := ⟨zero⟩

instance : Add Counters where
  add first second :=
    ⟨first.processed + second.processed, first.succeeded + second.succeeded, first.failed + second.failed,
      first.validationFailed + second.validationFailed, first.samples + second.samples,
      first.totalNanos + second.totalNanos,
      if first.maxNanos < second.maxNanos then second.maxNanos else first.maxNanos⟩

/-- Counters start at zero. -/
theorem sum_zero (mem : field ∈ sums) : field 0 = 0 := by
  simp only [sums, counts, List.mem_cons, List.not_mem_nil, or_false] at mem
  rcases mem with rfl | rfl | rfl | rfl | rfl | rfl <;> rfl

/-- Sums are added in 64 bits. -/
theorem sum_add (mem : field ∈ sums) (first second : Counters) : field (first + second) = field first + field second := by
  simp only [sums, counts, List.mem_cons, List.not_mem_nil, or_false] at mem
  rcases mem with rfl | rfl | rfl | rfl | rfl | rfl <;> rfl

private theorem toNat_longer (first second : UInt64) :
    (if first < second then second else first).toNat = max first.toNat second.toNat := by
  split
  · next less => exact (Nat.max_eq_right (Nat.le_of_lt (UInt64.lt_iff_toNat_lt.1 less))).symm
  · next less => exact (Nat.max_eq_left (UInt64.le_iff_toNat_le.1 (UInt64.not_lt.1 less))).symm

private theorem maxNanos_zero : (0 : Counters).maxNanos.toNat = 0 := rfl

/-- Of two longest durations the longer one stays. -/
theorem maxNanos_add (first second : Counters) :
    (first + second).maxNanos.toNat = max first.maxNanos.toNat second.maxNanos.toNat :=
  toNat_longer first.maxNanos second.maxNanos

instance : AddCommMonoid Counters where
  add_assoc first second third := by
    refine eq_of_sums (fun field mem => ?_) ?_
    · simp only [sum_add mem, UInt64.add_assoc]
    · simp only [maxNanos_add, Nat.max_assoc]
  zero_add counters := by
    refine eq_of_sums (fun field mem => ?_) ?_
    · rw [sum_add mem, sum_zero mem, UInt64.zero_add]
    · rw [maxNanos_add, maxNanos_zero, Nat.zero_max]
  add_zero counters := by
    refine eq_of_sums (fun field mem => ?_) ?_
    · rw [sum_add mem, sum_zero mem, UInt64.add_zero]
    · rw [maxNanos_add, maxNanos_zero, Nat.max_zero]
  add_comm first second := by
    refine eq_of_sums (fun field mem => ?_) ?_
    · rw [sum_add mem, sum_add mem, UInt64.add_comm]
    · rw [maxNanos_add, maxNanos_add, Nat.max_comm]
  nsmul := nsmulRec

def sampled (length : Duration) : UInt64 := .ofNat (min length.nanos (UInt64.size - 1))

/-- A duration is cut at 64 bits. -/
theorem toNat_sampled (length : Duration) : (sampled length).toNat = min length.nanos (UInt64.size - 1) :=
  UInt64.toNat_ofNat_of_lt' (Nat.lt_of_le_of_lt (Nat.min_le_right _ _) (by decide))

def of : Observation → Counters
  | .success _ length => ⟨1, 1, 0, 0, 1, sampled length, sampled length⟩
  | .failure _ _ length => ⟨1, 0, 1, 0, 1, sampled length, sampled length⟩
  | .validationFailure .. => ⟨0, 0, 0, 1, 0, 0, 0⟩

/-- To record an observation is to add what it counts for. -/
theorem record_eq_add (counters : Counters) (observation : Observation) :
    counters.record observation = counters + of observation := by
  refine eq_of_sums (fun field mem => ?_) ?_
  · rw [sum_add mem]
    simp only [sums, counts, List.mem_cons, List.not_mem_nil, or_false] at mem
    rcases mem with rfl | rfl | rfl | rfl | rfl | rfl <;> cases observation <;> simp [record, observe, of, sampled]
  · rw [maxNanos_add]
    cases observation with
    | success _ length | failure _ _ length => exact toNat_longer counters.maxNanos (sampled length)
    | validationFailure intent phase => exact (Nat.max_zero _).symm

def after (observations : List Observation) : Counters := observations.foldl record zero

private theorem foldl_record (counters : Counters) :
    observations.foldl record counters = counters + (observations.map of).sum := by
  induction observations generalizing counters with
  | nil => exact (add_zero counters).symm
  | cons observation rest ih =>
    rw [List.foldl_cons, ih, record_eq_add, List.map_cons, List.sum_cons, add_assoc]

/-- The counters after observations are the sum of what each of them counts for. -/
theorem after_eq_sum (observations : List Observation) : after observations = (observations.map of).sum :=
  (foldl_record zero).trans (zero_add _)

/-- The first observation is added to what comes of the others. -/
theorem after_cons (observation : Observation) (rest : List Observation) :
    after (observation :: rest) = of observation + after rest := by
  rw [after_eq_sum, after_eq_sum, List.map_cons, List.sum_cons]

/-- It makes no difference in which order observations are made. -/
theorem after_perm {others : List Observation} (same : others.Perm observations) : after others = after observations := by
  rw [after_eq_sum, after_eq_sum]
  exact (same.map of).sum_eq

/-- The longest duration is that of the observations, cut at 64 bits. -/
theorem maxNanos_after (observations : List Observation) :
    (after observations).maxNanos.toNat = min (Observation.longest observations) (UInt64.size - 1) := by
  induction observations with
  | nil => rfl
  | cons observation rest ih =>
    rw [after_cons, maxNanos_add, ih]
    cases observation with
    | success _ length | failure _ _ length =>
      change max (sampled length).toNat _ = min (max length.nanos (Observation.longest rest)) _
      rw [toNat_sampled, Nat.min_max_distrib_right]
    | validationFailure intent phase => exact Nat.zero_max _

private def Moderate (counters : Counters) : Prop :=
  counters.totalNanos.toNat ≤ counters.samples.toNat * counters.maxNanos.toNat

private theorem moderate_of (observation : Observation) : Moderate (of observation) := by
  cases observation with
  | validationFailure intent phase => exact Nat.le_refl 0
  | _ => exact Nat.le_of_eq (Nat.one_mul _).symm

private theorem Moderate.add (former : Moderate first) (latter : Moderate second)
    (few : first.samples.toNat + second.samples.toNat < UInt64.size) : Moderate (first + second) := by
  have samples : (first + second).samples.toNat = first.samples.toNat + second.samples.toNat := by
    exact (UInt64.toNat_add _ _).trans (Nat.mod_eq_of_lt few)
  have total : (first + second).totalNanos.toNat ≤ first.totalNanos.toNat + second.totalNanos.toNat :=
    (UInt64.toNat_add _ _).trans_le (Nat.mod_le _ _)
  unfold Moderate at former latter ⊢
  rw [samples, maxNanos_add, Nat.add_mul]
  have left := Nat.mul_le_mul_left first.samples.toNat (Nat.le_max_left first.maxNanos.toNat second.maxNanos.toNat)
  have right := Nat.mul_le_mul_left second.samples.toNat (Nat.le_max_right first.maxNanos.toNat second.maxNanos.toNat)
  omega

private theorem count_of_le (mem : field ∈ counts) (observation : Observation) : (field (of observation)).toNat ≤ 1 := by
  simp only [counts, List.mem_cons, List.not_mem_nil, or_false] at mem
  rcases mem with rfl | rfl | rfl | rfl | rfl <;> cases observation <;> simp [of]

/-- No more events are counted than there were. -/
theorem count_after_le (mem : field ∈ counts) (observations : List Observation) :
    (field (after observations)).toNat ≤ observations.length := by
  induction observations with
  | nil => exact Nat.le_of_eq (congrArg UInt64.toNat (sum_zero (.tail _ mem)))
  | cons observation rest ih =>
    rw [after_cons, sum_add (.tail _ mem), UInt64.toNat_add, List.length_cons]
    have most := count_of_le mem observation
    have bound := Nat.mod_le ((field (of observation)).toNat + (field (after rest)).toNat) (2 ^ 64)
    omega

private theorem moderate_after (few : observations.length < UInt64.size) : Moderate (after observations) := by
  induction observations with
  | nil => exact Nat.le_refl 0
  | cons observation rest ih =>
    rw [List.length_cons] at few
    have mem : samples ∈ counts := by simp [counts]
    have most := count_of_le mem observation
    have others := count_after_le mem rest
    rw [after_cons]
    exact (moderate_of observation).add (ih (by omega)) (by omega)

/-- A sum over names, read as a number, is the sum of the numbers as far as 64 bits go. -/
theorem toNat_sum (mem : field ∈ sums) (names : Finset String) (each : String → Counters) :
    (field (∑ name ∈ names, each name)).toNat = (∑ name ∈ names, (field (each name)).toNat) % UInt64.size := by
  induction names using Finset.induction_on with
  | empty => rw [Finset.sum_empty, Finset.sum_empty, sum_zero mem]; rfl
  | insert name names new ih =>
    rw [Finset.sum_insert new, Finset.sum_insert new, sum_add mem, UInt64.toNat_add, ih]
    exact Nat.add_mod_mod _ _ _

/-- The longest duration of many counters is the longest of theirs. -/
theorem maxNanos_sum (names : Finset String) (each : String → Counters) :
    (∑ name ∈ names, each name).maxNanos.toNat = names.sup fun name => (each name).maxNanos.toNat := by
  induction names using Finset.induction_on with
  | empty => rfl
  | insert name names new ih => rw [Finset.sum_insert new, Finset.sup_insert, maxNanos_add, ih]

section

variable {names : Finset String} (named : ∀ observation ∈ observations, observation.intent ∈ names)

include named

/-- The counters of all observations are the sum of those of the names. -/
theorem after_eq_sum_names :
    after observations = ∑ name ∈ names, after (observations.filter (·.intent = name)) := by
  rw [after_eq_sum, sum_eq_sum_filter fun observation mem _ => named observation mem]
  exact Finset.sum_congr rfl fun name _ => (after_eq_sum _).symm

private theorem sum_counts_le (mem : field ∈ counts) :
    ∑ name ∈ names, (field (after (observations.filter (·.intent = name)))).toNat ≤ observations.length := by
  have weighed (items : List Observation) : items.length = (items.map fun _ => 1).sum := by simp
  calc ∑ name ∈ names, (field (after (observations.filter (·.intent = name)))).toNat
    _ ≤ ∑ name ∈ names, (observations.filter (·.intent = name)).length :=
      Finset.sum_le_sum fun name _ => count_after_le mem _
    _ = ∑ name ∈ names, ((observations.filter (·.intent = name)).map fun _ => 1).sum :=
      Finset.sum_congr rfl fun name _ => weighed _
    _ = observations.length := by
      rw [weighed, sum_eq_sum_filter fun observation mem _ => named observation mem]

/-- The numbers of events add up exactly as long as 64 bits hold them. -/
theorem count_after_eq_sum (mem : field ∈ counts) (few : observations.length < UInt64.size) :
    (field (after observations)).toNat =
      ∑ name ∈ names, (field (after (observations.filter (·.intent = name)))).toNat := by
  rw [after_eq_sum_names named, toNat_sum (.tail _ mem)]
  exact Nat.mod_eq_of_lt ((sum_counts_le named mem).trans_lt few)

end

/-- The total duration is that of the counter. -/
theorem nanos_totalDuration (counters : Counters) : counters.snapshot.totalDuration.nanos = counters.totalNanos.toNat :=
  Duration.nanos_ofNanos (counters.totalNanos.toNat_lt.trans_le (by decide))

/-- The longest duration is that of the counter. -/
theorem nanos_maxDuration (counters : Counters) : counters.snapshot.maxDuration.nanos = counters.maxNanos.toNat :=
  Duration.nanos_ofNanos (counters.maxNanos.toNat_lt.trans_le (by decide))

private theorem Moderate.mean_le {counters : Counters} (moderate : Moderate counters) :
    counters.snapshot.mean.nanos ≤ counters.snapshot.maxDuration.nanos := by
  unfold MetricsSnapshot.mean
  split
  · exact Nat.zero_le _
  · have quotient : counters.totalNanos.toNat / counters.samples.toNat ≤ counters.maxNanos.toNat :=
      Nat.div_le_of_le_mul moderate
    have short := (Nat.min_le_left _ (UInt64.size - 1)).trans quotient
    rw [nanos_maxDuration, nanos_totalDuration]
    change (Duration.ofNanos (min (counters.totalNanos.toNat / counters.samples.toNat) _)).nanos ≤ _
    rw [Duration.nanos_ofNanos (short.trans_lt (counters.maxNanos.toNat_lt.trans_le (by decide)))]
    exact short

end Counters

namespace MetricsCollector

variable {observations : List Observation}

/-- The counters of all take in all observations. -/
theorem all_after (observations : List Observation) : (empty.recordAll observations).all = Counters.after observations :=
  all_recordAll

/-- The counters of a name take in the observations of this name. -/
theorem counters_after (observations : List Observation) (name : String) :
    (empty.recordAll observations).counters name = Counters.after (observations.filter (·.intent = name)) :=
  counters_recordAll name

/-- What was collected does not depend on the order of the observations, and the counters of all recombine from those of
the names, whichever names are looked at beside the observed ones. -/
structure Recombines (collector : MetricsCollector) (observations : List Observation) : Prop where
  reordered : ∀ others, others.Perm observations →
    (∀ name, (empty.recordAll others).snapshot name = collector.snapshot name) ∧
      (empty.recordAll others).totals = collector.totals
  counts : ∀ names : Finset String, (∀ observation ∈ observations, observation.intent ∈ names) →
    ∀ count ∈ [MetricsSnapshot.processed, MetricsSnapshot.succeeded, MetricsSnapshot.failed,
        MetricsSnapshot.validationFailed, MetricsSnapshot.durationSamples],
      (count collector.totals).toNat = ∑ name ∈ names, (count (collector.snapshot name)).toNat
  total : ∀ names : Finset String, (∀ observation ∈ observations, observation.intent ∈ names) →
    collector.totals.totalDuration.nanos =
      (∑ name ∈ names, (collector.snapshot name).totalDuration.nanos) % UInt64.size
  longest : ∀ names : Finset String, (∀ observation ∈ observations, observation.intent ∈ names) →
    collector.totals.maxDuration.nanos = names.sup fun name => (collector.snapshot name).maxDuration.nanos
  capped : collector.totals.maxDuration.nanos = min (Observation.longest observations) (UInt64.size - 1)
  cappedOf : ∀ name, (collector.snapshot name).maxDuration.nanos =
    min (Observation.longest (observations.filter (·.intent = name))) (UInt64.size - 1)
  mean : collector.totals.mean.nanos ≤ collector.totals.maxDuration.nanos
  meanOf : ∀ name, (collector.snapshot name).mean.nanos ≤ (collector.snapshot name).maxDuration.nanos

/-- As long as 64 bits hold the number of observations, what was collected recombines. -/
theorem recombines_of_few (few : observations.length < UInt64.size) :
    (empty.recordAll observations).Recombines observations where
  reordered others same := by
    refine ⟨fun name => ?_, ?_⟩
    · rw [snapshot, snapshot, counters_after, counters_after, Counters.after_perm (same.filter _)]
    · rw [totals, totals, all_after, all_after, Counters.after_perm same]
  counts names named := by
    have recombined (field : Counters → UInt64) (mem : field ∈ Counters.counts) :=
      Counters.count_after_eq_sum named mem few
    simp only [Counters.counts, List.forall_mem_cons] at recombined
    obtain ⟨processed, succeeded, failed, validationFailed, samples, _⟩ := recombined
    simp only [totals, snapshot, all_after, counters_after, List.forall_mem_cons]
    exact ⟨processed, succeeded, failed, validationFailed, samples, List.forall_mem_nil _⟩
  total names named := by
    simp only [totals, snapshot, all_after, counters_after, Counters.nanos_totalDuration]
    rw [Counters.after_eq_sum_names named, Counters.toNat_sum (.head _)]
  longest names named := by
    simp only [totals, snapshot, all_after, counters_after, Counters.nanos_maxDuration]
    rw [Counters.after_eq_sum_names named, Counters.maxNanos_sum]
  capped := by
    rw [totals, all_after, Counters.nanos_maxDuration, Counters.maxNanos_after]
  cappedOf name := by
    rw [snapshot, counters_after, Counters.nanos_maxDuration, Counters.maxNanos_after]
  mean := by
    rw [totals, all_after]
    exact (Counters.moderate_after few).mean_le
  meanOf name := by
    rw [snapshot, counters_after]
    exact (Counters.moderate_after ((List.length_filter_le _ _).trans_lt few)).mean_le

/-- Two names are observed, one of them with a duration that 64 bits do not hold; the sum of the durations wraps around. -/
theorem recombines_of_wrapped_total :
    let observations : List Observation :=
      [.success "Lookup" .longest, .failure "Report" .timeout ⟨5, by decide⟩, .validationFailure "Report" .custom,
        .success "Report" ⟨7, by decide⟩]
    let collector := empty.recordAll observations
    observations.length < UInt64.size ∧ (collector.snapshot "Lookup").maxDuration.nanos = UInt64.size - 1 ∧
      collector.totals.totalDuration.nanos = 11 ∧ collector.Recombines observations := by
  intro observations collector
  have few : observations.length < UInt64.size := by decide
  have longest : (collector.snapshot "Lookup").maxDuration.nanos = UInt64.size - 1 := by decide +kernel
  have wrapped : collector.totals.totalDuration.nanos = 11 := by decide +kernel
  exact ⟨few, longest, wrapped, recombines_of_few few⟩

end MetricsCollector

end IntentBus
