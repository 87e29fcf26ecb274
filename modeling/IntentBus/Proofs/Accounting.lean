import IntentBus.Proofs.Recording
import IntentBus.Proofs.Traffic
import Mathlib.Algebra.BigOperators.Group.Finset.Piecewise

/-! The counters of a bus at work: whatever happens in whatever order, they say how many invocations have ended
how. -/

namespace IntentBus

variable {σ ι α : Type}

/-- What is added up over all items is added up over their keys, and for each key over its items. -/
theorem sum_eq_sum_filter {β μ : Type} [AddCommMonoid μ] {items : List β} {key : β → String} {worth : β → μ}
    {names : Finset String} (named : ∀ item ∈ items, worth item ≠ 0 → key item ∈ names) :
    (items.map worth).sum = ∑ name ∈ names, ((items.filter (key · = name)).map worth).sum := by
  induction items with
  | nil => simp
  | cons item rest ih =>
    have later := ih fun other mem => named other (.tail item mem)
    have own : worth item = ∑ name ∈ names, if key item = name then worth item else 0 := by
      rw [Finset.sum_ite_eq]
      by_cases worthless : worth item = 0
      · simp [worthless]
      · rw [if_pos (named item (.head rest) worthless)]
    rw [List.map_cons, List.sum_cons, later, own, ← Finset.sum_add_distrib]
    apply Finset.sum_congr rfl
    intro name _
    rw [List.filter_cons]
    by_cases same : key item = name
    · simp [same]
    · simp [same]

namespace Invocation

def consulted (invocation : Invocation α) : Bool := invocation.events.any BusEvent.consults

def succeeded (invocation : Invocation α) : Bool :=
  match invocation.result with
  | some (.ok _) => invocation.consulted
  | _ => false

def failedAs (kinds : List FailureKind) (invocation : Invocation α) : Bool :=
  match invocation.result with
  | some (.error error) => kinds.contains error.kind
  | _ => false

def failed (invocation : Invocation α) : Bool :=
  invocation.failedAs [.validation, .authorization, .execution, .timeout]

/-- An invocation that is invalid has failed. -/
theorem failed_of_invalid {invocation : Invocation α}
    (invalid : invocation.failedAs [.validation] = true) :
    invocation.failed = true := by
  unfold failed failedAs at *
  cases ends : invocation.result with
  | none => simp [ends] at invalid
  | some result =>
    cases result with
    | ok output => simp [ends] at invalid
    | error error =>
      have kind : error.kind = .validation := by simpa [ends] using invalid
      simp [kind]

/-- An invocation that has not failed was not invalid. -/
theorem valid_of_not_failed {invocation : Invocation α} (notFailed : invocation.failed = false) :
    invocation.failedAs [.validation] = false :=
  Bool.eq_false_iff.2 fun invalid => ne_true_of_eq_false notFailed (failed_of_invalid invalid)

/-- What is observed of an invocation that is over is what it counts for. -/
inductive Counts (invocation : Invocation α) : List Observation → Prop
  | nothing (notSucceeded : invocation.succeeded = false) (notFailed : invocation.failed = false) :
    Counts invocation []
  | success (length : Duration) (succeeded : invocation.succeeded = true)
    (notFailed : invocation.failed = false) : Counts invocation [.success invocation.intent length]
  | rejection (phase : ValidationPhase) (length : Duration) (notSucceeded : invocation.succeeded = false)
    (invalid : invocation.failedAs [.validation] = true) :
    Counts invocation
      [.validationFailure invocation.intent phase, .failure invocation.intent .validation length]
  | failure (kind : FailureKind) (length : Duration) (notSucceeded : invocation.succeeded = false)
    (failed : invocation.failed = true) (valid : invocation.failedAs [.validation] = false) :
    Counts invocation [.failure invocation.intent kind length]

/-- An invocation that is over counts for what is observed of its intent. -/
theorem counts_of_observed {invocation : Invocation α} {result : Except DispatchError α}
    {observations : List Observation} (ends : invocation.result = some result)
    (observed : Observed invocation.intent invocation.consulted result observations) :
    invocation.Counts observations := by
  generalize went : invocation.consulted = consulted at observed
  cases observed with
  | kept output =>
    refine .nothing ?_ ?_
    · simp only [succeeded, ends, went]
    · simp only [failed, failedAs, ends]
  | @lookup error stage =>
    refine .nothing ?_ ?_
    · simp only [succeeded, ends]
    · simp only [failed, failedAs, ends]
      cases error with
      | handlerNotFound intent registered trace => rfl
      | configuration error => rfl
      | _ => nomatch stage
  | success output length =>
    refine .success length ?_ ?_
    · simp only [succeeded, ends, went]
    · simp only [failed, failedAs, ends]
  | invalid phase violations trace length =>
    refine .rejection phase length ?_ ?_
    · simp only [succeeded, ends]
    · simp only [failedAs, ends]
      rfl
  | @failure error stage length =>
    refine .failure error.kind length ?_ ?_ ?_
    · simp only [succeeded, ends]
    · simp only [failed, failedAs, ends]
      cases error with
      | authorization violations trace => rfl
      | execution handler attempts failure trace => rfl
      | timeout handler bound attempts trace => rfl
      | _ => simp [DispatchError.stage] at stage
    · simp only [failedAs, ends]
      cases error with
      | validation phase violations trace => simp [DispatchError.stage] at stage
      | _ => rfl

end Invocation

/-- Counters, as far as 64 bits go, of how invocations ended. -/
structure Counters.Tallies (counters : Counters) (finished : List (Invocation α)) : Prop where
  succeeded : counters.succeeded = .ofNat (finished.countP (·.succeeded))
  failed : counters.failed = .ofNat (finished.countP (·.failed))
  validationFailed : counters.validationFailed = .ofNat (finished.countP (·.failedAs [.validation]))
  processed : counters.processed = counters.succeeded + counters.failed
  samples : counters.samples = counters.processed

namespace Counters.Tallies

variable {counters : Counters} {finished : List (Invocation α)} {invocation : Invocation α}

private theorem of_nil : Counters.zero.Tallies ([] : List (Invocation α)) :=
  ⟨rfl, rfl, rfl, rfl, rfl⟩

private theorem ofNat_countP_cons (p : Invocation α → Bool) :
    UInt64.ofNat ((invocation :: finished).countP p) =
      .ofNat (finished.countP p) + if p invocation then 1 else 0 := by
  rw [List.countP_cons, UInt64.ofNat_add]
  split
  · rfl
  · rfl

private theorem cons (tallies : counters.Tallies finished) {next : Counters}
    (succeeded : next.succeeded = counters.succeeded + if invocation.succeeded then 1 else 0)
    (failed : next.failed = counters.failed + if invocation.failed then 1 else 0)
    (validationFailed : next.validationFailed =
      counters.validationFailed + if invocation.failedAs [.validation] then 1 else 0)
    (processed : next.processed = next.succeeded + next.failed) (samples : next.samples = next.processed) :
    next.Tallies (invocation :: finished) where
  succeeded := by rw [succeeded, tallies.succeeded, ofNat_countP_cons]
  failed := by rw [failed, tallies.failed, ofNat_countP_cons]
  validationFailed := by rw [validationFailed, tallies.validationFailed, ofNat_countP_cons]
  processed := processed
  samples := samples

private theorem uncounted (tallies : counters.Tallies finished)
    (notSucceeded : invocation.succeeded = false) (notFailed : invocation.failed = false) :
    counters.Tallies (invocation :: finished) := by
  have valid := Invocation.valid_of_not_failed notFailed
  refine tallies.cons ?_ ?_ ?_ tallies.processed tallies.samples
  · rw [notSucceeded]; exact (UInt64.add_zero _).symm
  · rw [notFailed]; exact (UInt64.add_zero _).symm
  · rw [valid]; exact (UInt64.add_zero _).symm

private theorem ended {observations : List Observation} (tallies : counters.Tallies finished)
    (counts : invocation.Counts observations) :
    (observations.foldl Counters.record counters).Tallies (invocation :: finished) := by
  have processed := tallies.processed
  have samples := tallies.samples
  cases counts with
  | nothing notSucceeded notFailed => exact tallies.uncounted notSucceeded notFailed
  | success length succeeded notFailed =>
    have valid := Invocation.valid_of_not_failed notFailed
    apply tallies.cons <;> simp [succeeded, notFailed, valid, Counters.record, Counters.observe] <;> grind
  | rejection phase length notSucceeded invalid =>
    have failed := Invocation.failed_of_invalid invalid
    apply tallies.cons <;> simp [notSucceeded, failed, invalid, Counters.record, Counters.observe] <;> grind
  | failure kind length notSucceeded failed valid =>
    apply tallies.cons <;> simp [notSucceeded, failed, valid, Counters.record, Counters.observe] <;> grind

section

variable (tallies : counters.Tallies finished) (few : finished.length < UInt64.size)

include tallies few

end

end Counters.Tallies

namespace MetricsCollector

variable {collector : MetricsCollector} {observations : List Observation} {intent : String}

private theorem counters_record (observation : Observation) (name : String) :
    (collector.record observation).counters name =
      if name = observation.intent then (collector.counters name).record observation
      else collector.counters name := by
  unfold counters record
  rw [Dictionary.find?_insert]
  split
  · next same => rw [same]; rfl
  · rfl

/-- The counters of a name take in the observations of that name. -/
theorem counters_recordAll (name : String) : (collector.recordAll observations).counters name =
    (observations.filter (·.intent = name)).foldl Counters.record (collector.counters name) := by
  induction observations generalizing collector with
  | nil => rfl
  | cons observation rest ih =>
    have later := @ih (collector.record observation)
    rw [counters_record] at later
    refine later.trans ?_
    by_cases own : observation.intent = name
    · rw [if_pos own.symm, List.filter_cons, if_pos (decide_eq_true own)]
      rfl
    · rw [if_neg (Ne.symm own), List.filter_cons, if_neg (fun same => own (of_decide_eq_true same))]

private theorem counters_recordAll_of_own (own : ∀ observation ∈ observations, observation.intent = intent)
    (name : String) : (collector.recordAll observations).counters name =
      if name = intent then observations.foldl Counters.record (collector.counters name)
      else collector.counters name := by
  rw [counters_recordAll]
  split
  · next same =>
    rw [List.filter_eq_self.2 fun observation mem => decide_eq_true ((own observation mem).trans same.symm)]
  · next other =>
    have untouched : observations.filter (·.intent = name) = [] :=
      List.filter_eq_nil_iff.2 fun observation mem same => other ((of_decide_eq_true same).symm.trans (own observation mem))
    rw [untouched, List.foldl_nil]

/-- The counters of all take in one observation after the other. -/
theorem all_recordAll :
    (collector.recordAll observations).all = observations.foldl Counters.record collector.all := by
  induction observations generalizing collector with
  | nil => rfl
  | cons observation rest ih => exact ih

end MetricsCollector

private theorem Observed.intent_eq {intent : String} {consulted : Bool}
    {result : Except DispatchError α} {observations : List Observation}
    (observed : Observed intent consulted result observations) :
    ∀ observation ∈ observations, observation.intent = intent := by
  cases observed <;> simp [Observation.intent]

def Pending.Ready (pending : Pending σ ι α) : Prop :=
  (∀ state, (pending.release state).metrics = state.metrics) ∧ ∀ state, Settles pending.intent pending.next
    (pending.events.any BusEvent.consults) state.metrics state

namespace Traffic

variable {bus : Bus σ ι α} {traffic next : Traffic σ ι α}

/-- What a step does to the books of a bus, which are the counters and the invocations that are over: nothing,
or one more invocation is over, and if it was not dropped the counters are settled. -/
inductive Booked (metrics : MetricsCollector) (finished : List (Invocation α)) (next : Traffic σ ι α) : Prop
  | same (unchanged : next.state.metrics = metrics) (unended : next.finished = finished)
  | dropped (invocation : Invocation α) (unchanged : next.state.metrics = metrics)
    (adds : next.finished = invocation :: finished) (withdrawn : invocation.result = none)
  | ended (invocation : Invocation α) (result : Except DispatchError α)
    (adds : next.finished = invocation :: finished) (ends : invocation.result = some result)
    (settled : Settled invocation.intent invocation.consulted result metrics next.state.metrics)

private theorem booked_turn {intent : String} {seen : List (BusEvent α)}
    {task : BusTask σ ι α (Except DispatchError α)} (ready : ∀ pending ∈ traffic.pending, pending.Ready)
    (settles : Settles intent task (seen.any BusEvent.consults) traffic.state.metrics traffic.state)
    (time : Nat) :
    Booked traffic.state.metrics traffic.finished (traffic.turn intent seen (task.advance time traffic.state)) ∧
      ∀ pending ∈ (traffic.turn intent seen (task.advance time traffic.state)).pending, pending.Ready := by
  have pays := settles.advance time
  generalize task.advance time traffic.state = ran at pays
  have events : (seen.any BusEvent.consults || ran.trace.any (·.event.consults)) =
      (seen ++ ran.trace.map (·.event)).any BusEvent.consults := by
    rw [List.any_append, List.any_map]
    rfl
  rw [events] at pays
  unfold turn
  cases pause : ran.pause with
  | ended result =>
    rw [pause] at pays
    exact ⟨.ended _ result rfl rfl pays, ready⟩
  | waiting millis age release next =>
    rw [pause] at pays
    obtain ⟨same, released, later⟩ := pays
    exact ⟨.same same rfl, List.forall_mem_cons.2 ⟨⟨released, later⟩, ready⟩⟩
  | stuck release =>
    rw [pause] at pays
    obtain ⟨same, released⟩ := pays
    exact ⟨.same same rfl, List.forall_mem_cons.2 ⟨⟨released, fun state => ⟨rfl, released⟩⟩, ready⟩⟩

private theorem booked_step (collecting : bus.collecting = true)
    (ready : ∀ pending ∈ traffic.pending, pending.Ready) (step : Step bus traffic next) :
    Booked traffic.state.metrics traffic.finished next ∧ ∀ pending ∈ next.pending, pending.Ready := by
  cases step with
  | dispatch intent context time => exact booked_turn ready (settles_dispatch collecting context) time
  | dispatchCached intent context time =>
    exact booked_turn ready (settles_dispatchCached collecting context) time
  | @resume earlier later invocation time waits =>
    rw [waits, List.forall_mem_append, List.forall_mem_cons] at ready
    obtain ⟨before, own, after⟩ := ready
    let others : Traffic σ ι α := { traffic with pending := earlier ++ later }
    have stillReady : ∀ pending ∈ others.pending, pending.Ready := List.forall_mem_append.2 ⟨before, after⟩
    exact booked_turn stillReady (own.2 traffic.state) time
  | @drop earlier later invocation waits =>
    rw [waits, List.forall_mem_append, List.forall_mem_cons] at ready
    obtain ⟨before, own, after⟩ := ready
    exact ⟨.dropped _ (own.1 traffic.state) rfl rfl, List.forall_mem_append.2 ⟨before, after⟩⟩
  | register handler succeeds =>
    obtain ⟨registry, rfl⟩ := Bus.eq_of_register succeeds
    exact ⟨.same rfl rfl, ready⟩
  | unregister type => exact ⟨.same rfl rfl, ready⟩
  | outside application cache => exact ⟨.same rfl rfl, ready⟩

/-- The books are in balance: the counters of each name tally with the invocations of that name that are over,
and the counters of all with all of them. -/
structure Balanced (traffic : Traffic σ ι α) : Prop where
  each : ∀ name, (traffic.state.metrics.counters name).Tallies (traffic.finished.filter (·.intent = name))
  overall : traffic.state.metrics.all.Tallies traffic.finished
  ready : ∀ pending ∈ traffic.pending, pending.Ready

private theorem balanced_step (collecting : bus.collecting = true) (balanced : traffic.Balanced)
    (step : Step bus traffic next) : next.Balanced := by
  obtain ⟨booked, ready⟩ := booked_step collecting balanced.ready step
  cases booked with
  | same unchanged unended =>
    refine ⟨fun name => ?_, ?_, ready⟩
    · rw [unchanged, unended]
      exact balanced.each name
    · rw [unchanged, unended]
      exact balanced.overall
  | dropped invocation unchanged adds withdrawn =>
    have notSucceeded : invocation.succeeded = false := by simp only [Invocation.succeeded, withdrawn]
    have notFailed : invocation.failed = false := by simp only [Invocation.failed, Invocation.failedAs, withdrawn]
    refine ⟨fun name => ?_, ?_, ready⟩
    · rw [unchanged, adds, List.filter_cons]
      split
      · exact (balanced.each name).uncounted notSucceeded notFailed
      · exact balanced.each name
    · rw [unchanged, adds]
      exact balanced.overall.uncounted notSucceeded notFailed
  | ended invocation result adds ends settled =>
    obtain ⟨observations, observed, same⟩ := settled
    refine ⟨fun name => ?_, ?_, ready⟩
    · rw [same, adds, MetricsCollector.counters_recordAll_of_own observed.intent_eq, List.filter_cons]
      by_cases own : invocation.intent = name
      · rw [if_pos own.symm, if_pos (decide_eq_true own)]
        exact (balanced.each name).ended (Invocation.counts_of_observed ends observed)
      · rw [if_neg (Ne.symm own), if_neg (fun same => own (of_decide_eq_true same))]
        exact balanced.each name
    · rw [same, adds, MetricsCollector.all_recordAll]
      exact balanced.overall.ended (Invocation.counts_of_observed ends observed)

private theorem balanced_opening {state : BusState σ ι α} (fresh : state.metrics = .empty) :
    (opening state).Balanced where
  each name := by
    rw [opening, fresh]
    exact Counters.Tallies.of_nil
  overall := by
    rw [opening, fresh]
    exact Counters.Tallies.of_nil
  ready := List.forall_mem_nil _

private theorem metrics_of_build {handlers : List (Handler σ ι α)} {application : σ}
    {state : BusState σ ι α} (built : (bus.build handlers application).2 = .ok state) :
    state.metrics = .empty := by
  simp only [Bus.build] at built
  split at built
  · nomatch built
  · cases built
    rfl

/-- Whatever happens to a bus that counts, its books stay in balance. -/
theorem balanced_of_steps (collecting : bus.collecting = true) {handlers : List (Handler σ ι α)}
    {application : σ} {state : BusState σ ι α}
    (built : (bus.build handlers application).2 = .ok state)
    (steps : Steps bus (opening state) traffic) : traffic.Balanced := by
  induction steps with
  | refl => exact balanced_opening (metrics_of_build built)
  | tail _ step ih => exact balanced_step collecting ih step

section

variable (balanced : traffic.Balanced) (few : traffic.finished.length < UInt64.size)

include few

private theorem fewer (name : String) :
    (traffic.finished.filter (·.intent = name)).length < UInt64.size :=
  (List.length_filter_le _ _).trans_lt few

include balanced

end

/-- To count among the invocations of a name is to count those that have the name as well. -/
theorem countP_named {finished : List (Invocation α)} {name : String}
    (p : Invocation α → Bool) :
    (finished.filter (·.intent = name)).countP p =
      finished.countP fun invocation => invocation.intent = name && p invocation := by
  rw [List.countP_filter]
  exact congrArg (List.countP · _) (funext fun invocation => Bool.and_comm _ _)

def countingBus : Bus Bank.Ledger Bank.Request Bank.Reply :=
  { Bus.ofConfig .standard toString id with collecting := true }

def countingState : BusState Bank.Ledger Bank.Request Bank.Reply :=
  let handler := Bank.handler (Bank.openType "")
  ⟨⟨.permissive, Table.empty.insert handler.type (.of ⟨handler.type, handler.name⟩ handler)⟩, .empty, .empty,
    .empty, .empty, 0, 0⟩

end Traffic

end IntentBus
