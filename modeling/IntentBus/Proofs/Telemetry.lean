import IntentBus.Proofs.Accounting
import IntentBus.Proofs.Signals
import Mathlib.Algebra.Order.Ring.Nat

/-! The counters of a bus and what telemetry was told: two sets of books that are kept by different means, and in whatever
order things happen they agree. So do the counters that are exported from what telemetry is told. -/

namespace IntentBus

variable {σ ι α κ : Type}

namespace TelemetrySignal

def increments (signals : List TelemetrySignal) (intent outcome : String) : Nat := signals.count (.increment intent outcome)

def samples (signals : List TelemetrySignal) (intent outcome : String) : Nat :=
  signals.countP fun
    | .duration name label _ => name = intent && label = outcome
    | _ => false

def failures (signals : List TelemetrySignal) (intent phase : String) : Nat := signals.count (.validationFailed intent phase)

def failureLabels : List String := ["validation", "authorization", "execution", "timeout"]

def phaseLabels : List String := ["structural", "custom"]

end TelemetrySignal

open TelemetrySignal

def MetricUpdate.countsUnder (update : MetricUpdate) (name : String) (labels : List (String × String)) : Bool :=
  match update with
  | count own ownLabels => own = name && ownLabels = labels
  | observe .. => false

/-- Something that keeps exported metrics: it starts afresh, takes updates, and counters can be read by their name and
labels. -/
structure Exporter (κ : Type) where
  fresh : κ
  update : κ → MetricUpdate → κ
  counter : κ → String → List (String × String) → Nat

namespace Exporter

/-- Counters start at zero, and each update of a counter adds one to that of its name and labels. -/
structure Adds (exporter : Exporter κ) : Prop where
  fresh : ∀ name labels, exporter.counter exporter.fresh name labels = 0
  count : ∀ kept name labels own ownLabels, exporter.counter (exporter.update kept (.count own ownLabels)) name labels =
    exporter.counter kept name labels + if own = name ∧ ownLabels = labels then 1 else 0
  observe : ∀ kept name labels own ownLabels seconds,
    exporter.counter (exporter.update kept (.observe own ownLabels seconds)) name labels = exporter.counter kept name labels

def after (exporter : Exporter κ) (signals : List TelemetrySignal) : κ :=
  signals.foldl (fun kept signal => exporter.update kept (.ofSignal signal)) exporter.fresh

def dispatches (exporter : Exporter κ) (kept : κ) (intent outcome : String) : Nat :=
  exporter.counter kept "relay_dispatch_total" [("intent", intent), ("outcome", outcome)]

def validationFailures (exporter : Exporter κ) (kept : κ) (intent phase : String) : Nat :=
  exporter.counter kept "relay_validation_failures_total" [("intent", intent), ("phase", phase)]

section

variable {exporter : Exporter κ} (adds : exporter.Adds) (signals : List TelemetrySignal)

include adds

private theorem counter_after (name : String) (labels : List (String × String)) :
    exporter.counter (exporter.after signals) name labels =
      signals.countP fun signal => (MetricUpdate.ofSignal signal).countsUnder name labels := by
  induction signals using List.reverseRecOn with
  | nil => exact adds.fresh name labels
  | append_singleton signals signal ih =>
    rw [after] at ih ⊢
    rw [List.foldl_append, List.foldl_cons, List.foldl_nil, List.countP_append, ← ih, List.countP_singleton]
    cases MetricUpdate.ofSignal signal with
    | count own ownLabels => simp [adds.count, MetricUpdate.countsUnder]
    | observe own ownLabels seconds => simp [adds.observe, MetricUpdate.countsUnder]

variable (intent label : String)

/-- What is exported of dispatches is what telemetry was told of them. -/
theorem dispatches_after : exporter.dispatches (exporter.after signals) intent label = increments signals intent label := by
  refine (counter_after adds signals _ _).trans (List.countP_congr fun signal _ => ?_)
  cases signal <;> simp [MetricUpdate.ofSignal, MetricUpdate.countsUnder]

private theorem validationFailures_after :
    exporter.validationFailures (exporter.after signals) intent label = failures signals intent label := by
  refine (counter_after adds signals _ _).trans (List.countP_congr fun signal _ => ?_)
  cases signal <;> simp [MetricUpdate.ofSignal, MetricUpdate.countsUnder]

end

end Exporter

/-- The counters of a bus agree with other books of the increments and of the failed validations, after so many
invocations; as numbers of 64 bits always, and exactly as long as 64 bits hold so many. -/
structure MetricsCollector.Agrees (metrics : MetricsCollector) (invocations : Nat)
    (increments failures : String → String → Nat) : Prop where
  succeeded : ∀ name, (metrics.snapshot name).succeeded = .ofNat (increments name "success")
  failed : ∀ name, (metrics.snapshot name).failed = .ofNat (failureLabels.map (increments name)).sum
  validationFailed : ∀ name, (metrics.snapshot name).validationFailed = .ofNat (phaseLabels.map (failures name)).sum
  rejected : ∀ name, (phaseLabels.map (failures name)).sum = increments name "validation"
  outcomes : ∀ name outcome, increments name outcome ≠ 0 → outcome = "success" ∨ outcome ∈ failureLabels
  phases : ∀ name phase, failures name phase ≠ 0 → phase ∈ phaseLabels
  exact : invocations < UInt64.size → ∀ name,
    (metrics.snapshot name).succeeded.toNat = increments name "success" ∧
      (metrics.snapshot name).failed.toNat = (failureLabels.map (increments name)).sum ∧
        (metrics.snapshot name).validationFailed.toNat = (phaseLabels.map (failures name)).sum

private structure Invocation.Reported (invocation : Invocation α) (signals : List TelemetrySignal) : Prop where
  succeeded : ∀ name, increments signals name "success" = if invocation.intent = name && invocation.succeeded then 1 else 0
  failed : ∀ name, (failureLabels.map (increments signals name)).sum =
    if invocation.intent = name && invocation.failed then 1 else 0
  invalid : ∀ name, (phaseLabels.map (failures signals name)).sum =
    if invocation.intent = name && invocation.failedAs [.validation] then 1 else 0
  rejected : ∀ name, increments signals name "validation" =
    if invocation.intent = name && invocation.failedAs [.validation] then 1 else 0
  sampled : ∀ name outcome, samples signals name outcome = increments signals name outcome
  outcomes : ∀ name outcome, increments signals name outcome ≠ 0 → outcome = "success" ∨ outcome ∈ failureLabels
  phases : ∀ name phase, failures signals name phase ≠ 0 → phase ∈ phaseLabels

namespace Invocation

variable {invocation : Invocation α}

private theorem reported_nothing (notSucceeded : invocation.succeeded = false) (notFailed : invocation.failed = false) :
    invocation.Reported [] := by
  have valid := valid_of_not_failed notFailed
  constructor <;> simp [notSucceeded, notFailed, valid, increments, failures, samples, failureLabels, phaseLabels]

private theorem reported_success (length : Duration) (succeeded : invocation.succeeded = true)
    (notFailed : invocation.failed = false) :
    invocation.Reported [.increment invocation.intent "success", .duration invocation.intent "success" length] := by
  have valid := valid_of_not_failed notFailed
  constructor <;> simp [succeeded, notFailed, valid, increments, failures, samples, failureLabels, phaseLabels,
    List.count_cons]

private theorem reported_rejection (phase : ValidationPhase) (length : Duration)
    (notSucceeded : invocation.succeeded = false) (invalid : invocation.failedAs [.validation] = true) :
    invocation.Reported [.validationFailed invocation.intent phase.label, .increment invocation.intent "validation",
      .duration invocation.intent "validation" length] := by
  have failed := failed_of_invalid invalid
  cases phase <;> constructor <;> simp [notSucceeded, failed, invalid, increments, failures, samples, failureLabels,
    phaseLabels, List.count_cons, ValidationPhase.label]

private theorem reported_failure {label : String} (late : label ∈ ["authorization", "execution", "timeout"])
    (length : Duration) (notSucceeded : invocation.succeeded = false) (failed : invocation.failed = true)
    (valid : invocation.failedAs [.validation] = false) :
    invocation.Reported [.increment invocation.intent label, .duration invocation.intent label length] := by
  simp only [List.mem_cons, List.not_mem_nil, or_false] at late
  rcases late with rfl | rfl | rfl <;> constructor <;> simp [notSucceeded, failed, valid, increments, failures, samples,
    failureLabels, phaseLabels, List.count_cons]

private theorem reported_of_observed {result : Except DispatchError α} {observations : List Observation}
    (ends : invocation.result = some result)
    (observed : Observed invocation.intent invocation.consulted result observations) :
    invocation.Reported (observations.flatMap (·.signals)) := by
  have counts := counts_of_observed ends observed
  generalize invocation.consulted = consulted at observed
  cases observed with
  | kept output | lookup stage =>
    cases counts with
    | nothing notSucceeded notFailed => exact reported_nothing notSucceeded notFailed
  | success output length =>
    cases counts with
    | success _ succeeded notFailed => exact reported_success length succeeded notFailed
  | invalid phase violations trace length =>
    cases counts with
    | rejection _ _ notSucceeded invalid => exact reported_rejection phase length notSucceeded invalid
  | @failure error stage length =>
    cases counts with
    | failure _ _ notSucceeded failed valid =>
      refine reported_failure ?_ length notSucceeded failed valid
      cases error with
      | authorization violations trace => exact .head _
      | execution handler attempts failure trace => exact .tail _ (.head _)
      | timeout handler bound attempts trace => exact .tail _ (.tail _ (.head _))
      | _ => simp [DispatchError.stage] at stage

end Invocation

private structure AddsUp (reading : List TelemetrySignal → Nat) : Prop where
  nil : reading [] = 0
  append : ∀ signals others, reading (signals ++ others) = reading signals + reading others

namespace AddsUp

variable {reading other : List TelemetrySignal → Nat} {finished : List (Invocation α)}

private theorem increments (name outcome : String) : AddsUp (increments · name outcome) :=
  ⟨rfl, fun _ _ => List.count_append⟩

private theorem failures (name phase : String) : AddsUp (failures · name phase) := ⟨rfl, fun _ _ => List.count_append⟩

private theorem samples (name outcome : String) : AddsUp (samples · name outcome) := ⟨rfl, fun _ _ => List.countP_append⟩

private theorem sum {readings : String → List TelemetrySignal → Nat} (each : ∀ label, AddsUp (readings label))
    (labels : List String) : AddsUp fun signals => (labels.map (readings · signals)).sum where
  nil := by simp [(each _).nil]
  append signals others := by
    induction labels with
    | nil => rfl
    | cons label rest ih =>
      simp only [List.map_cons, List.sum_cons, (each label).append] at ih ⊢
      omega

private theorem eq_countP (adds : AddsUp reading) {counts : Invocation α → Bool}
    (each : ∀ own ∈ finished, reading (signalsOf own.events) = if counts own then 1 else 0) :
    reading (finished.flatMap (signalsOf ·.events)) = finished.countP counts := by
  induction finished with
  | nil => exact adds.nil
  | cons own rest ih =>
    obtain ⟨head, tail⟩ := List.forall_mem_cons.1 each
    rw [List.flatMap_cons, adds.append, head, ih tail, List.countP_cons, Nat.add_comm]

private theorem congr (adds : AddsUp reading) (also : AddsUp other)
    (each : ∀ own ∈ finished, reading (signalsOf own.events) = other (signalsOf own.events)) :
    reading (finished.flatMap (signalsOf ·.events)) = other (finished.flatMap (signalsOf ·.events)) := by
  induction finished with
  | nil => exact adds.nil.trans also.nil.symm
  | cons own rest ih =>
    obtain ⟨head, tail⟩ := List.forall_mem_cons.1 each
    rw [List.flatMap_cons, adds.append, also.append, head, ih tail]

end AddsUp

namespace Traffic

variable {bus : Bus σ ι α} {traffic : Traffic σ ι α}

def signals (traffic : Traffic σ ι α) : List TelemetrySignal :=
  traffic.pending.flatMap (signalsOf ·.events) ++ traffic.finished.flatMap (signalsOf ·.events)

private theorem reported_of_tells (told : traffic.Tells Reports) :
    ∀ own ∈ traffic.finished, own.Reported (signalsOf own.events) := by
  intro own mem
  have reports := told.finished own mem
  cases ends : own.result with
  | none =>
    rw [ends] at reports
    have notSucceeded : own.succeeded = false := by simp only [Invocation.succeeded, ends]
    have notFailed : own.failed = false := by simp only [Invocation.failed, Invocation.failedAs, ends]
    rw [show signalsOf own.events = [] from reports]
    exact Invocation.reported_nothing notSucceeded notFailed
  | some result =>
    rw [ends] at reports
    obtain ⟨observations, observed, same⟩ := reports
    rw [same]
    exact Invocation.reported_of_observed ends observed

private theorem signals_of_tells (told : traffic.Tells Reports) :
    traffic.signals = traffic.finished.flatMap (signalsOf ·.events) := by
  have untold : traffic.pending.flatMap (signalsOf ·.events) = [] :=
    List.flatMap_eq_nil_iff.2 fun own mem => (told.pending own mem).1
  rw [signals, untold, List.nil_append]

private theorem agrees_of_balanced (balanced : traffic.Balanced) (told : traffic.Tells Reports) :
    traffic.state.metrics.Agrees traffic.finished.length (increments traffic.signals) (failures traffic.signals) := by
  have reported := reported_of_tells told
  rw [signals_of_tells told]
  have succeeded (name : String) := (AddsUp.increments name "success").eq_countP fun own mem => (reported own mem).succeeded name
  have failed (name : String) := (AddsUp.sum (AddsUp.increments name) failureLabels).eq_countP
    fun own mem => (reported own mem).failed name
  have invalid (name : String) := (AddsUp.sum (AddsUp.failures name) phaseLabels).eq_countP
    fun own mem => (reported own mem).invalid name
  have rejected (name : String) := (AddsUp.increments name "validation").eq_countP
    fun own mem => (reported own mem).rejected name
  have exact_of {count : UInt64} {number : Nat} {counts : Invocation α → Bool} (same : count = .ofNat number)
      (counted : number = traffic.finished.countP counts) (few : traffic.finished.length < UInt64.size) :
      count.toNat = number := by
    rw [same, UInt64.toNat_ofNat_of_lt' (counted ▸ List.countP_le_length.trans_lt few)]
  have first (name : String) : (traffic.state.metrics.snapshot name).succeeded =
      .ofNat (increments (traffic.finished.flatMap (signalsOf ·.events)) name "success") := by
    rw [succeeded, ← countP_named]
    exact (balanced.each name).succeeded
  have second (name : String) : (traffic.state.metrics.snapshot name).failed =
      .ofNat (failureLabels.map (increments (traffic.finished.flatMap (signalsOf ·.events)) name)).sum := by
    rw [failed, ← countP_named]
    exact (balanced.each name).failed
  have third (name : String) : (traffic.state.metrics.snapshot name).validationFailed =
      .ofNat (phaseLabels.map (failures (traffic.finished.flatMap (signalsOf ·.events)) name)).sum := by
    rw [invalid, ← countP_named]
    exact (balanced.each name).validationFailed
  exact
    { succeeded := first
      failed := second
      validationFailed := third
      rejected := fun name => (invalid name).trans (rejected name).symm
      outcomes := fun name outcome positive => by
        obtain ⟨own, mem, told⟩ := List.mem_flatMap.1 (List.count_pos_iff.1 (Nat.pos_of_ne_zero positive))
        exact (reported own mem).outcomes name outcome (Nat.ne_of_gt (List.count_pos_iff.2 told))
      phases := fun name phase positive => by
        obtain ⟨own, mem, told⟩ := List.mem_flatMap.1 (List.count_pos_iff.1 (Nat.pos_of_ne_zero positive))
        exact (reported own mem).phases name phase (Nat.ne_of_gt (List.count_pos_iff.2 told))
      exact := fun few name => ⟨exact_of (first name) (succeeded name) few, exact_of (second name) (failed name) few,
        exact_of (third name) (invalid name) few⟩ }

/-- The counters of a bus agree with what telemetry was told, and with the counters that are exported from that, in
whatever order it was told; and as many durations were sent under each label as dispatches were counted. -/
structure Telemetered (exporter : Exporter κ) (traffic : Traffic σ ι α) : Prop where
  sink : traffic.state.metrics.Agrees traffic.finished.length (increments traffic.signals) (failures traffic.signals)
  sampled : ∀ name outcome, samples traffic.signals name outcome = increments traffic.signals name outcome
  exported : ∀ sent, sent.Perm traffic.signals → traffic.state.metrics.Agrees traffic.finished.length
    (exporter.dispatches (exporter.after sent)) (exporter.validationFailures (exporter.after sent))

/-- Whatever happens to a bus that counts, and in whatever order, its counters agree with what telemetry was told. -/
theorem telemetered_of_steps (collecting : bus.collecting = true) {handlers : List (Handler σ ι α)} {application : σ}
    {state : BusState σ ι α} (built : (bus.build handlers application).2 = .ok state)
    (steps : Steps bus (opening state) traffic) {exporter : Exporter κ} (adds : exporter.Adds) :
    traffic.Telemetered exporter := by
  have told : traffic.Tells Reports := tells_of_steps (fun intent context => bus.reports_dispatch intent collecting context)
    (fun intent context => bus.reports_dispatchCached intent collecting context) steps
  have sink := agrees_of_balanced (balanced_of_steps collecting built steps) told
  refine ⟨sink, fun name outcome => ?_, fun sent same => ?_⟩
  · rw [signals_of_tells told]
    exact (AddsUp.samples name outcome).congr (.increments name outcome) fun own mem =>
      (reported_of_tells told own mem).sampled name outcome
  · have dispatches : exporter.dispatches (exporter.after sent) = increments traffic.signals := by
      funext name outcome
      rw [exporter.dispatches_after adds, increments, same.count_eq, increments]
    have failed : exporter.validationFailures (exporter.after sent) = failures traffic.signals := by
      funext name phase
      rw [exporter.validationFailures_after adds, failures, same.count_eq, failures]
    rw [dispatches, failed]
    exact sink

end Traffic

def Exporter.journal : Exporter (List MetricUpdate) where
  fresh := []
  update kept update := update :: kept
  counter kept name labels := kept.countP (·.countsUnder name labels)

/-- The journal adds one for each update. -/
theorem Exporter.adds_journal : journal.Adds where
  fresh _ _ := rfl
  count kept name labels own ownLabels := by simp [journal, List.countP_cons, MetricUpdate.countsUnder]
  observe kept name labels own ownLabels seconds := by simp [journal, MetricUpdate.countsUnder]

/-- Two accounts are asked for: one without holder, which is refused, and one that is opened. -/
theorem Traffic.telemetered_of_two_accounts :
    let handlers := [Bank.handler (Bank.openType "")]
    let refused := (Bank.Request.open "" (-5)).intent "" (.fresh .nil 0)
    let granted := (Bank.Request.open "ada" 5).intent "" (.fresh .nil 0)
    let first := (opening countingState).turn refused.name []
      ((countingBus.dispatch refused .empty).advance 0 countingState)
    let traffic := first.turn granted.name [] ((countingBus.dispatch granted .empty).advance 0 first.state)
    countingBus.collecting = true ∧ (countingBus.build handlers .empty).2 = .ok countingState ∧
      Steps countingBus (opening countingState) traffic ∧ Exporter.journal.Adds ∧
        increments traffic.signals refused.name "validation" = 1 ∧ increments traffic.signals granted.name "success" = 1 ∧
          traffic.Telemetered Exporter.journal := by
  intro handlers refused granted first traffic
  have built : (countingBus.build handlers .empty).2 = .ok countingState := rfl
  have steps : Steps countingBus (opening countingState) traffic :=
    .tail (.single (.dispatch refused .empty 0)) (.dispatch granted .empty 0)
  have invalid : increments traffic.signals refused.name "validation" = 1 := by decide +kernel
  have succeeded : increments traffic.signals granted.name "success" = 1 := by decide +kernel
  exact ⟨rfl, built, steps, Exporter.adds_journal, invalid, succeeded, telemetered_of_steps rfl built steps Exporter.adds_journal⟩

end IntentBus
