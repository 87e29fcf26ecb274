import IntentBus.Proofs.Backstage
import IntentBus.Proofs.Correlations
import IntentBus.Proofs.Histories

/-! Side effects are published once, after everything else, and nothing but the log tells how their publication
went. -/

namespace IntentBus

variable {σ ι α : Type}

def Unpublished (events : List (BusEvent α)) : Prop := ∀ event ∈ events, event.callsOn .publication = false

private structure Asked (events : List (BusEvent α)) : Prop where
  engine : events.any (·.callsOn .engine) = true
  unpublished : Unpublished events

def Closed (correlation : Correlation) (events : List (BusEvent α)) : Prop :=
  (events.filter BusEvent.isCall).getLast? = some (.onSuccess correlation)

private theorem Unpublished.concat {events : List (BusEvent α)} (unpublished : Unpublished events) {event : BusEvent α}
    (other : event.callsOn .publication = false) : Unpublished (events ++ [event]) := by
  intro own mem
  rcases List.mem_append.1 mem with mem | mem
  · exact unpublished own mem
  · rw [List.mem_singleton.1 mem]
    exact other

private theorem Asked.concat {events : List (BusEvent α)} (asked : Asked events) {event : BusEvent α}
    (other : event.callsOn .publication = false) : Asked (events ++ [event]) :=
  ⟨by rw [List.any_append, asked.engine, Bool.true_or], asked.unpublished.concat other⟩

private theorem isCall_and_callsOn (stage : Stage) (event : BusEvent α) :
    (event.isCall && event.callsOn stage) = event.callsOn stage := by
  cases called : event.isCall with
  | false => exact (BusEvent.callsOn_of_quiet called stage).symm
  | true => exact Bool.true_and _

private theorem filter_calls (stage : Stage) (events : List (BusEvent α)) :
    (events.filter BusEvent.isCall).filter (·.callsOn stage) = events.filter (·.callsOn stage) := by
  simp only [List.filter_filter, Bool.and_comm _ (BusEvent.isCall _), isCall_and_callsOn]

private theorem any_calls (stage : Stage) (events : List (BusEvent α)) :
    (events.filter BusEvent.isCall).any (·.callsOn stage) = events.any (·.callsOn stage) := by
  simp only [List.any_filter, isCall_and_callsOn]

namespace ExecutionService

variable (handler : Handler σ ι α) (request : ExecutionRequest σ ι α)

end ExecutionService

namespace Bus

variable (bus : Bus σ ι α) (intent : Intent σ ι α)

/-- What the events of a call and its result, if it has one, say of publication: there is none, or the last call of all
follows upon the last attempt and publishes the effect of what is then the output, for a correlation of which all who
were called have been told. -/
structure Publishes (events : List (BusEvent α)) (result : Option (Except DispatchError α)) : Prop where
  atMostOnce : (events.filter (·.callsOn .publication)).length ≤ 1
  exactlyOnce : ∀ answer, result = some answer → ((events.filter (·.callsOn .publication)).length = 1 ↔
    bus.publisher.isSome ∧ events.any (·.callsOn .engine) = true ∧
      ∃ output effect, answer = .ok output ∧ intent.sideEffect output = some effect)
  published : ∀ origin effect, .publish origin effect ∈ events → ∃ output correlation before,
    intent.sideEffect output = some effect ∧
      origin = ⟨intent.name, intent.provenance.id, correlation.id, intent.provenance.initiatorId⟩ ∧
      events.filter BusEvent.isCall = before ++ [.onSuccess correlation, .publish origin effect] ∧
      (∀ told ∈ events.filterMap BusEvent.correlationId?, told = correlation.id) ∧
        ∀ answer, result = some answer → answer = .ok output

private inductive Issues (correlation : Correlation) (seen : List (BusEvent α))
    (result : Option (Except DispatchError α)) : Prop
  | without (unpublished : Unpublished seen) (fails : ∀ output, result ≠ some (.ok output))
  | output (output : α) (before : List (BusEvent α)) (engine : before.any (·.callsOn .engine) = true)
    (others : Unpublished before)
    (calls : seen.filter BusEvent.isCall = before ++ .onSuccess correlation :: bus.publishCalls intent correlation output)
    (ends : ∀ answer, result = some answer → answer = .ok output)

section

variable {bus intent} {bound : BoundHandler σ ι α} {correlation : Correlation} {context : ExecutionContext} {started : Nat}
  {seen : List (BusEvent α)}

private theorem publishCalls_ne_nil {output : α} : bus.publishCalls intent correlation output ≠ [] ↔
    bus.publisher.isSome ∧ ∃ effect, intent.sideEffect output = some effect := by
  unfold publishCalls
  cases bus.publisher with
  | none => simp
  | some publisher => cases intent.sideEffect output <;> simp

private theorem publishCalls_length (output : α) : (bus.publishCalls intent correlation output).length ≤ 1 ∧
    ((bus.publishCalls intent correlation output).length = 1 ↔ bus.publishCalls intent correlation output ≠ []) := by
  unfold publishCalls
  split
  · exact ⟨Nat.le_refl 1, iff_of_true rfl (List.cons_ne_nil _ _)⟩
  · exact ⟨Nat.zero_le 1, iff_of_false Nat.zero_ne_one (not_not_intro rfl)⟩

private theorem filter_publication {output : α} {before : List (BusEvent α)} (others : Unpublished before)
    (calls : seen.filter BusEvent.isCall = before ++ .onSuccess correlation :: bus.publishCalls intent correlation output) :
    seen.filter (·.callsOn .publication) = bus.publishCalls intent correlation output := by
  have unpublished : before.filter (·.callsOn .publication) = [] :=
    List.filter_eq_nil_iff.2 fun call mem => ne_true_of_eq_false (others call mem)
  have published : (bus.publishCalls intent correlation output).filter (·.callsOn .publication) =
      bus.publishCalls intent correlation output :=
    List.filter_eq_self.2 fun call mem => decide_eq_true (stage?_of_mem_publishCalls mem)
  have closing : ¬(BusEvent.onSuccess correlation : BusEvent α).callsOn .publication := Bool.false_ne_true
  rw [← filter_calls, calls, List.filter_append, unpublished, List.nil_append, List.filter_cons_of_neg closing, published]

private theorem Issues.publishes {result : Option (Except DispatchError α)}
    (issues : bus.Issues intent correlation seen result)
    (told : ∀ told ∈ seen.filterMap BusEvent.correlationId?, told = correlation.id) : bus.Publishes intent seen result := by
  cases issues with
  | without unpublished fails =>
    have never : seen.filter (·.callsOn .publication) = [] :=
      List.filter_eq_nil_iff.2 fun call mem => ne_true_of_eq_false (unpublished call mem)
    refine ⟨?_, fun answer ends => ?_, fun origin effect mem => nomatch unpublished _ mem⟩
    · rw [never]
      exact Nat.zero_le 1
    · rw [never]
      refine iff_of_false Nat.zero_ne_one ?_
      rintro ⟨_, _, output, _, rfl, _⟩
      exact fails output ends
  | output output before engine others calls ends =>
    have publication := filter_publication others calls
    refine ⟨?_, fun answer answers => ?_, fun origin effect mem => ?_⟩
    · rw [publication]
      exact (publishCalls_length output).1
    · have asked : seen.any (·.callsOn .engine) = true := by rw [← any_calls, calls, List.any_append, engine, Bool.true_or]
      rw [publication, (publishCalls_length output).2, publishCalls_ne_nil, ends answer answers]
      refine and_congr_right fun _ => ⟨fun ⟨effect, has⟩ => ⟨asked, output, effect, rfl, has⟩, ?_⟩
      rintro ⟨_, _, effect, ⟨⟩, has⟩
      exact ⟨effect, has⟩
    · have own : .publish origin effect ∈ bus.publishCalls intent correlation output := by
        rw [← publication]
        exact List.mem_filter.2 ⟨mem, rfl⟩
      obtain ⟨_, has, only⟩ := eq_of_publishCalls (List.ne_nil_of_mem own)
      rw [only] at own calls
      cases List.mem_singleton.1 own
      exact ⟨output, correlation, before, has, rfl, calls, told, ends⟩

private theorem Publishes.of_same {result : Option (Except DispatchError α)} {other : List (BusEvent α)}
    (publishes : bus.Publishes intent seen result) (calls : other.filter BusEvent.isCall = seen.filter BusEvent.isCall)
    (told : other.filterMap BusEvent.correlationId? = seen.filterMap BusEvent.correlationId?) :
    bus.Publishes intent other result := by
  have publication : other.filter (·.callsOn .publication) = seen.filter (·.callsOn .publication) := by
    rw [← filter_calls, calls, filter_calls]
  have engine : other.any (·.callsOn .engine) = seen.any (·.callsOn .engine) := by rw [← any_calls, calls, any_calls]
  refine ⟨?_, fun answer ends => ?_, fun origin effect mem => ?_⟩
  · rw [publication]
    exact publishes.atMostOnce
  · rw [publication, engine]
    exact publishes.exactlyOnce answer ends
  · have own : .publish origin effect ∈ seen.filter BusEvent.isCall := by
      rw [← calls]
      exact List.mem_filter.2 ⟨mem, rfl⟩
    rw [calls, told]
    exact publishes.published origin effect (List.mem_filter.1 own).1

end

section

variable {seen : List (BusEvent α)} (context : ExecutionContext)

end

end Bus

namespace Session

end Session

end IntentBus
