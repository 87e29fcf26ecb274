import IntentBus.Proofs.Courses
import IntentBus.Proofs.Paths

/-! The hooks of a handler, that is, the calls of its steps and of its two closing steps: in which order they come within an
attempt, by what comes of the steps on the path of the attempt, and how the attempts at a request follow each other. -/

namespace IntentBus

variable {σ ι α : Type}

namespace BusEvent

def hooks (events : List (BusEvent α)) : List (BusEvent α) := events.filter (callsOn .execution)

@[simp] theorem hooks_nil : hooks ([] : List (BusEvent α)) = [] := rfl

/-- The calls of a handler among events in two parts are those of the first part and those of the second. -/
@[simp] theorem hooks_append (first second : List (BusEvent α)) : hooks (first ++ second) = hooks first ++ hooks second :=
  List.filter_append ..

private theorem hooks_concat_log (events : List (BusEvent α)) (entry : LogEntry) :
    hooks (events ++ [.log entry]) = hooks events :=
  (hooks_append events [.log entry]).trans (List.append_nil _)

/-- Among events that are no calls of a handler there are no calls of it. -/
theorem hooks_of_aside {events : List (BusEvent α)} (aside : ∀ event ∈ events, event.Aside) : hooks events = [] :=
  List.filter_eq_nil_iff.2 fun event mem => ne_true_of_eq_false (aside event mem)

/-- A span makes no difference to the calls of a handler. -/
theorem hooks_inside (span : LogSpan) (events : List (BusEvent α)) : hooks (events.map (.inside span)) = hooks events := by
  have same : callsOn .execution ∘ inside span = (callsOn .execution : BusEvent α → Bool) :=
    funext (callsOn_inside .execution span)
  rw [hooks, List.filter_map, same]
  refine (List.map_congr_left fun event mem => ?_).trans (List.map_id _)
  have calls : event.stage? = some .execution := of_decide_eq_true (List.mem_filter.1 mem).2
  exact inside_of_isCall (Option.isSome_iff_exists.2 ⟨_, calls⟩) span

end BusEvent

namespace Handler

section

variable (handler : Handler σ ι α) (request : ExecutionRequest σ ι α)

def Readies (path : List (Encounter (BusState σ ι α))) (result : Option (Except Failure Unit)) : Prop :=
  ∃ events, (BusTask.ofHandler request.correlation (handler.preProcess request.intent request.correlation) :
    BusTask σ ι α _).Goes path events result

def Executes (path : List (Encounter (BusState σ ι α))) (result : Option (Except Failure α)) : Prop :=
  ∃ events, (BusTask.ofHandler request.correlation (request.execution handler) : BusTask σ ι α _).Goes path events result

def Completes (output : α) (path : List (Encounter (BusState σ ι α))) (result : Option (Except Failure Unit)) : Prop :=
  ∃ events, (BusTask.ofHandler request.correlation (handler.postProcess request.intent output request.correlation) :
    BusTask σ ι α _).Goes path events result

/-- The call of the execution in a context, which is that of plain execution too where the handler has no other. -/
def executionHooks : List (BusEvent α) :=
  match handler.executeInContext with
  | some _ => [.executeInContext request.correlation]
  | none => [.executeInContext request.correlation, .execute request.correlation]

/-- The calls of the steps of an attempt on its path. Each step is called after the one before has succeeded, the last one
with the output of the execution, and the attempt has come to its end when a step fails or all have succeeded. -/
inductive Steps : List (Encounter (BusState σ ι α)) → List (BusEvent α) → Option (Except Failure α) → Prop
  | readying {path : List (Encounter (BusState σ ι α))} (ready : handler.Readies request path none) :
    Steps path [.preProcess request.correlation] none
  | refusal {path : List (Encounter (BusState σ ι α))} {failure : Failure}
    (ready : handler.Readies request path (some (.error failure))) :
    Steps path [.preProcess request.correlation] (some (.error failure))
  | executing {path path' : List (Encounter (BusState σ ι α))} (ready : handler.Readies request path (some (.ok ())))
    (execute : handler.Executes request path' none) :
    Steps (path ++ path') (.preProcess request.correlation :: handler.executionHooks request) none
  | failure {path path' : List (Encounter (BusState σ ι α))} {failure : Failure}
    (ready : handler.Readies request path (some (.ok ())))
    (execute : handler.Executes request path' (some (.error failure))) :
    Steps (path ++ path') (.preProcess request.correlation :: handler.executionHooks request) (some (.error failure))
  | completing {path path' path'' : List (Encounter (BusState σ ι α))} {output : α} {result : Option (Except Failure Unit)}
    (ready : handler.Readies request path (some (.ok ()))) (execute : handler.Executes request path' (some (.ok output)))
    (complete : handler.Completes request output path'' result) :
    Steps (path ++ (path' ++ path''))
      (.preProcess request.correlation :: (handler.executionHooks request ++ [.postProcess request.correlation output]))
      (result.map (·.map fun () => output))

end

variable {handler : Handler σ ι α} {request : ExecutionRequest σ ι α} {path : List (Encounter (BusState σ ι α))}
  {events : List (BusEvent α)}

private theorem hooks_ofHandler {β : Type} {step : HandlerTask σ β} {result : Option (Except Failure β)}
    (goes : (BusTask.ofHandler request.correlation step : BusTask σ ι α _).Goes path events result) :
    BusEvent.hooks events = [] := by
  have aside (event : HandlerEvent) : (.handler request.correlation event : BusEvent α).Aside := rfl
  have emits : (BusTask.ofHandler request.correlation step : BusTask σ ι α _).Emits BusEvent.Aside :=
    Task.emits_focus aside step
  exact BusEvent.hooks_of_aside (emits.goes goes)

private theorem executes_of_goes {result : Option (Except Failure α)}
    (goes : (handler.executeFor request).Goes path events result) :
    BusEvent.hooks events = handler.executionHooks request ∧ handler.Executes request path result := by
  obtain ⟨later, rfl, went⟩ := Task.Goes.of_signal goes
  unfold executionHooks Executes ExecutionRequest.execution
  cases own : handler.executeInContext with
  | some step =>
    simp only [own] at went
    exact ⟨congrArg (_ :: ·) (hooks_ofHandler went), _, went⟩
  | none =>
    simp only [own] at went
    obtain ⟨later, rfl, executes⟩ := Task.Goes.of_signal went
    exact ⟨congrArg (_ :: _ :: ·) (hooks_ofHandler executes), _, executes⟩

private theorem steps_of_goes {result : Option (Except Failure α)} (goes : (handler.steps request).Goes path events result) :
    handler.Steps request path (BusEvent.hooks events) result := by
  obtain ⟨later, rfl, went⟩ := Task.Goes.of_signal goes
  change handler.Steps request path (.preProcess request.correlation :: BusEvent.hooks later) result
  cases Task.Goes.follows went with
  | first ready =>
    rw [hooks_ofHandler ready]
    exact .readying ⟨_, ready⟩
  | @second path path' _ _ value _ ready went =>
    rw [BusEvent.hooks_append, hooks_ofHandler ready, List.nil_append]
    cases value with
    | error failure =>
      obtain ⟨rfl, rfl, rfl⟩ := Task.Goes.of_done went
      rw [List.append_nil]
      exact .refusal ⟨_, ready⟩
    | ok =>
      cases Task.Goes.follows went with
      | first execute =>
        obtain ⟨hooks, execute⟩ := executes_of_goes execute
        rw [hooks]
        exact .executing ⟨_, ready⟩ execute
      | @second path' path'' _ _ value _ execute went =>
        obtain ⟨hooks, execute⟩ := executes_of_goes execute
        rw [BusEvent.hooks_append, hooks]
        cases value with
        | error failure =>
          obtain ⟨rfl, rfl, rfl⟩ := Task.Goes.of_done went
          rw [List.append_nil, BusEvent.hooks_nil, List.append_nil]
          exact .failure ⟨_, ready⟩ execute
        | ok output =>
          obtain ⟨later, rfl, completes⟩ := Task.Goes.of_signal went
          obtain ⟨closed, complete, rfl⟩ := Task.Goes.of_bind_done completes
          have last : BusEvent.hooks (.postProcess request.correlation output :: later) =
              [.postProcess request.correlation output] :=
            congrArg (_ :: ·) (hooks_ofHandler complete)
          rw [last]
          exact .completing ⟨_, ready⟩ execute ⟨_, complete⟩

/-- When the handler is told how its attempt went, the application becomes what the handler makes of it, and with that the
attempt is over. -/
def ClosesWith (handler : Handler σ ι α) (request : ExecutionRequest σ ι α) (path : List (Encounter (BusState σ ι α)))
    (hooks : List (BusEvent α)) (result : Except Failure α) (state : BusState σ ι α) : Prop :=
  ∃ events application, BusEvent.hooks events = hooks ∧ handler.Told request result state.application application ∧
    (handler.attempt request).Reaches path events (.set (state.withApplication application) (.done result))

/-- The calls of an attempt on its path: those of its steps and, when these have come to an end, one more, by which the
handler is told how they went. -/
inductive Calls (handler : Handler σ ι α) (request : ExecutionRequest σ ι α) :
    List (Encounter (BusState σ ι α)) → List (BusEvent α) → Option (Except Failure α) → Prop
  | stepping {path : List (Encounter (BusState σ ι α))} {hooks : List (BusEvent α)}
    (steps : handler.Steps request path hooks none) : Calls handler request path hooks none
  | closed {path : List (Encounter (BusState σ ι α))} {hooks : List (BusEvent α)} {result : Except Failure α}
    (steps : handler.Steps request path hooks (some result)) (time : Nat) (state : BusState σ ι α)
    (closes : handler.ClosesWith request (path ++ [.look time state]) (hooks ++ [closing request result]) result state) :
    Calls handler request (path ++ [.look time state]) (hooks ++ [closing request result]) (some result)

private theorem hooks_closing (result : Except Failure α) :
    BusEvent.hooks [closing request result] = [closing request result] := by
  cases result <;> rfl

/-- An attempt whose steps have come to an end tells its handler of it, whatever the state is by then. -/
theorem closesWith_of_goes {result : Except Failure α} (goes : (handler.steps request).Goes path events (some result))
    (time : Nat) (state : BusState σ ι α) :
    handler.ClosesWith request (path ++ [.look time state]) (BusEvent.hooks events ++ [closing request result]) result
      state := by
  refine ⟨events ++ [closing request result], _, ?_, (told_iff handler request).2 rfl, ?_⟩
  · rw [BusEvent.hooks_append, hooks_closing]
  · exact Task.Reaches.trans (Task.Goes.reaches goes) (.emit (.get (.here _)))

private theorem calls_of_goes {result : Option (Except Failure α)}
    (goes : (handler.attempt request).Goes path events result) :
    handler.Calls request path (BusEvent.hooks events) result := by
  cases Task.Goes.follows goes with
  | first steps => exact .stepping (steps_of_goes steps)
  | @second path path' events _ result _ steps went =>
    have closes : ((Task.signal (closing request result)).bind fun _ =>
        (BusTask.modifyApplication (handler.onClosing request result)).bind fun _ => .done result).Goes path' _ _ := went
    obtain ⟨_, rfl, told⟩ := closes.of_signal
    obtain ⟨time, state, _, rfl, ended⟩ := told.of_modify
    obtain ⟨rfl, rfl, rfl⟩ := ended.of_done
    rw [BusEvent.hooks_append, hooks_closing]
    exact .closed (steps_of_goes steps) time state (closesWith_of_goes steps time state)

end Handler

def ExecutionRequest.Allows (request : ExecutionRequest σ ι α) (path : List (Encounter (BusState σ ι α))) : Prop :=
  ∀ timeout ∈ request.timeout, Encounter.spent path ≤ timeout.toMillisUp

/-- The calls of an attempt that is bounded in time, and what comes of it: it is still within its bound, it has ended within
it, or it is cut off. This happens only where it would not have ended within its bound however it had gone on; and whatever
else there is on the path of an attempt that is over, there are no more calls. -/
inductive Handler.Block (handler : Handler σ ι α) (request : ExecutionRequest σ ι α) :
    List (Encounter (BusState σ ι α)) → List (BusEvent α) → Option (Except ExecutionFault α) → Prop
  | unfinished (time : Nat) (state : BusState σ ι α) {path : List (Encounter (BusState σ ι α))} {hooks : List (BusEvent α)}
    (calls : handler.Calls request path hooks none) (early : request.Allows path) :
    Block handler request (.look time state :: path) hooks none
  | ended (time : Nat) (state : BusState σ ι α) {path : List (Encounter (BusState σ ι α))} {hooks : List (BusEvent α)}
    {result : Except Failure α} (calls : handler.Calls request path hooks (some result)) (early : request.Allows path)
    (rest : List (Encounter (BusState σ ι α))) :
    Block handler request (.look time state :: (path ++ rest)) hooks
      (some (result.mapError (.failed · request.attempt.toNat)))
  | cut (time : Nat) (state : BusState σ ι α) {path : List (Encounter (BusState σ ι α))} {hooks : List (BusEvent α)}
    {timeout : Duration} (calls : handler.Calls request path hooks none) (bound : request.timeout = some timeout)
    (late : ∀ more events result, (handler.attempt request).Goes (path ++ more) events (some result) →
      timeout.toMillisUp < Encounter.spent (path ++ more))
    (rest : List (Encounter (BusState σ ι α))) :
    Block handler request (.look time state :: (path ++ rest)) hooks
      (some (.error (.timedOut timeout request.attempt.toNat)))

namespace ExecutionService

variable {handler : Handler σ ι α} {request : ExecutionRequest σ ι α} {path : List (Encounter (BusState σ ι α))}
  {events : List (BusEvent α)}

private inductive Timed (handler : Handler σ ι α) (request : ExecutionRequest σ ι α) :
    List (Encounter (BusState σ ι α)) → List (BusEvent α) → Option (Except ExecutionFault α) → Prop
  | unfinished (time : Nat) (state : BusState σ ι α) {path : List (Encounter (BusState σ ι α))} {hooks : List (BusEvent α)}
    (calls : handler.Calls request path hooks none) : Timed handler request (.look time state :: path) hooks none
  | ended (time : Nat) (state : BusState σ ι α) {path : List (Encounter (BusState σ ι α))} {hooks : List (BusEvent α)}
    {result : Except Failure α} (calls : handler.Calls request path hooks (some result))
    (rest : List (Encounter (BusState σ ι α))) :
    Timed handler request (.look time state :: (path ++ rest)) hooks
      (some (result.mapError (.failed · request.attempt.toNat)))

private theorem timed_of_traced {result : Option (Except ExecutionFault α)}
    (goes : (traced handler.service request).Goes path events result) :
    Timed handler request path (BusEvent.hooks events) result := by
  obtain ⟨seen, rfl, inner⟩ := goes.of_mapEvents
  obtain ⟨time, state, own, rfl, went⟩ := inner.of_get
  have rows : ((handler.service request).bind fun value => (BusTask.elapsedSince time).bind fun elapsed =>
      (Task.signal (.log (completionLog request value elapsed))).bind fun _ => .done value).Goes own seen result := went
  rw [BusEvent.hooks_inside]
  cases rows.follows with
  | first serves =>
    obtain ⟨ended, attempt, unended⟩ := serves.of_bind_done
    obtain rfl := Option.map_eq_none_iff.1 unended.symm
    exact .unfinished time state (Handler.calls_of_goes attempt)
  | second serves later =>
    obtain ⟨ended, attempt, same⟩ := serves.of_bind_done
    obtain ⟨result, rfl, rfl⟩ := Option.map_eq_some_iff.1 same.symm
    obtain ⟨now, after, _, rfl, logs⟩ := later.of_get
    obtain ⟨_, rfl, ends⟩ := Task.Goes.of_signal logs
    obtain ⟨rfl, rfl, rfl⟩ := ends.of_done
    rw [BusEvent.hooks_concat_log]
    exact .ended time state (Handler.calls_of_goes attempt) [.look now after]

private theorem traced_of_attempt {result : Except Failure α}
    (goes : (handler.attempt request).Goes path events (some result))
    (time : Nat) (state : BusState σ ι α) : ∃ seen value,
      (traced handler.service request).Goes (.look time state :: (path ++ [.look time state])) seen (some value) := by
  have serves : (handler.service request).Goes (path ++ []) (events ++ []) _ := goes.bind (.done _)
  rw [List.append_nil] at serves
  exact ⟨_, _, (Task.Goes.get (serves.bind (.get (.emit (.done _))))).mapEvents _⟩

private theorem block_of_timed {result : Option (Except ExecutionFault α)} (unbounded : request.timeout = none)
    (timed : Timed handler request path (BusEvent.hooks events) result) :
    handler.Block request path (BusEvent.hooks events) result := by
  have allowed (path : List (Encounter (BusState σ ι α))) : request.Allows path := by
    intro timeout mem
    cases unbounded.symm.trans mem
  cases timed with
  | unfinished time state calls => exact .unfinished time state calls (allowed _)
  | ended time state calls rest => exact .ended time state calls (allowed _) rest

private theorem block_of_within {timeout : Duration} (bound : request.timeout = some timeout)
    {outcome : Option (Option (Except ExecutionFault α))}
    (within : (traced handler.service request).Within timeout.toMillisUp path events outcome) :
    handler.Block request path (BusEvent.hooks events)
      (outcome.map (·.getD (.error (.timedOut timeout request.attempt.toNat)))) := by
  have allowed {path : List (Encounter (BusState σ ι α))} (early : Encounter.spent path ≤ timeout.toMillisUp) :
      request.Allows path := by
    intro other mem
    cases bound.symm.trans mem
    exact early
  cases within with
  | unfinished goes early =>
    cases timed_of_traced goes with
    | unfinished time state calls => exact .unfinished time state calls (allowed early)
  | ended goes early =>
    cases timed_of_traced goes with
    | ended time state calls rest =>
      rw [Encounter.spent, Encounter.spent_append] at early
      exact .ended time state calls (allowed (Nat.le_trans (Nat.le_add_right _ _) early)) rest
  | dropped goes early late rest =>
    cases timed_of_traced goes with
    | unfinished time state calls =>
      -- It is the attempt in its span that is cut off; the attempt alone would be as late, since the span takes no time.
      refine .cut time state calls bound (fun more events result goes => ?_) rest
      obtain ⟨seen, value, longer⟩ := traced_of_attempt goes time state
      rw [List.append_assoc] at longer
      have spent := late (more ++ [.look time state]) seen value longer
      simpa [Encounter.spent] using spent

private theorem block_of_single {result : Option (Except ExecutionFault α)}
    (goes : (single handler request).Goes path events result) :
    handler.Block request path (BusEvent.hooks events) result := by
  unfold single bounded at goes
  cases bound : request.timeout with
  | none =>
    simp only [bound] at goes
    exact block_of_timed bound (timed_of_traced goes)
  | some timeout =>
    simp only [bound] at goes
    cases Task.Goes.follows goes with
    | first within => exact block_of_within bound (Task.Goes.of_bounded within)
    | @second path rest events more value result within later =>
      have block := block_of_within bound (Task.Goes.of_bounded within)
      cases value with
      | none | some =>
        obtain ⟨rfl, rfl, rfl⟩ := later.of_done
        rwa [List.append_nil, List.append_nil]

end ExecutionService

/-- An attempt on its path up to the next one, with the calls of the handler and with what came of it, if it is over. -/
structure AttemptPath (σ ι α : Type) where
  number : UInt32
  path : List (Encounter (BusState σ ι α))
  hooks : List (BusEvent α)
  outcome : Option (Except ExecutionFault α)

/-- Attempts at a request, from a number on, one after the other: the calls of each are a block of their own, all but the
last have failed, and the last one has the result. -/
structure Handler.Blocks (handler : Handler σ ι α) (request : ExecutionRequest σ ι α) (first : Nat)
    (attempts : List (AttemptPath σ ι α)) (path : List (Encounter (BusState σ ι α))) (hooks : List (BusEvent α))
    (result : Option (Except ExecutionFault α)) : Prop where
  path : path = attempts.flatMap (·.path)
  hooks : hooks = attempts.flatMap (·.hooks)
  numbered : attempts.map (·.number.toNat) = List.range' first attempts.length
  blocks : ∀ attempt ∈ attempts,
    handler.Block (request.withAttempt attempt.number) attempt.path attempt.hooks attempt.outcome
  repeated : ∀ attempt ∈ attempts.dropLast, ∃ fault, attempt.outcome = some (.error fault)
  ends : ∃ last ∈ attempts.getLast?, ∀ value, result = some value → last.outcome = some value

namespace Handler

variable {handler : Handler σ ι α} {request : ExecutionRequest σ ι α} {path rest : List (Encounter (BusState σ ι α))}
  {hooks more : List (BusEvent α)} {number : UInt32} {result : Option (Except ExecutionFault α)}

private theorem Block.append {outcome : Except ExecutionFault α} (block : handler.Block request path hooks (some outcome))
    (rest : List (Encounter (BusState σ ι α))) : handler.Block request (path ++ rest) hooks (some outcome) := by
  generalize ended : some outcome = own at block
  cases block with
  | unfinished => nomatch ended
  | ended time state calls early between =>
    rw [List.cons_append, List.append_assoc]
    exact .ended time state calls early (between ++ rest)
  | cut time state calls bound late between =>
    rw [List.cons_append, List.append_assoc]
    exact .cut time state calls bound late (between ++ rest)

private theorem blocks_single {outcome : Option (Except ExecutionFault α)}
    (block : handler.Block (request.withAttempt number) path hooks outcome)
    (ends : ∀ value, result = some value → outcome = some value) :
    handler.Blocks request number.toNat [⟨number, path, hooks, outcome⟩] path hooks result where
  path := by rw [List.flatMap_singleton]
  hooks := by rw [List.flatMap_singleton]
  numbered := rfl
  blocks := List.forall_mem_singleton.2 block
  repeated := List.forall_mem_nil _
  ends := ⟨_, rfl, ends⟩

private theorem blocks_unfinished {outcome : Option (Except ExecutionFault α)}
    (block : handler.Block (request.withAttempt number) path hooks outcome) :
    handler.Blocks request number.toNat [⟨number, path, hooks, outcome⟩] path hooks none :=
  blocks_single block fun _ ends => absurd ends.symm (Option.some_ne_none _)

private theorem Blocks.cons {fault : ExecutionFault} {attempts : List (AttemptPath σ ι α)}
    (block : handler.Block (request.withAttempt number) path hooks (some (.error fault)))
    (others : handler.Blocks request (number.toNat + 1) attempts rest more result) :
    handler.Blocks request number.toNat (⟨number, path, hooks, some (.error fault)⟩ :: attempts) (path ++ rest)
      (hooks ++ more) result := by
  obtain ⟨last, mem, ends⟩ := others.ends
  have made : attempts ≠ [] := by
    rintro rfl
    nomatch mem
  constructor
  case path => rw [others.path, List.flatMap_cons]
  case hooks => rw [others.hooks, List.flatMap_cons]
  case numbered => rw [List.map_cons, others.numbered, List.length_cons, List.range'_succ]
  case blocks => exact List.forall_mem_cons.2 ⟨block, others.blocks⟩
  case repeated =>
    rw [List.dropLast_cons_of_ne_nil made]
    exact List.forall_mem_cons.2 ⟨⟨fault, rfl⟩, others.repeated⟩
  case ends =>
    refine ⟨last, ?_, ends⟩
    rw [Option.mem_def, List.getLast?_cons, Option.mem_def.1 mem]
    rfl

end Handler

namespace ExecutionService

variable (handler : Handler σ ι α) (request : ExecutionRequest σ ι α)

private theorem aside_between (policy : RetryPolicy) (draw : Nat → Nat) (number : UInt32) (fault : ExecutionFault) :
    ((delayBefore policy draw (number + 1)).bind fun delay =>
      (Task.signal (.log (retryLog policy request number delay fault))).bind fun _ =>
        Task.sleep delay.toMillisUp : BusTask σ ι α Unit).Emits BusEvent.Aside := by
  refine ((silent_delayBefore policy draw (number + 1)).mono fun _ silent => silent.elim).bind fun delay => ?_
  have logged : (BusEvent.log (retryLog policy request number delay fault) : BusEvent α).Aside := rfl
  exact (Task.emits_signal logged).bind fun _ => Task.emits_sleep delay.toMillisUp

private theorem blocks_of_attemptsFrom (policy : RetryPolicy) (draw : Nat → Nat) (number : UInt32)
    {path : List (Encounter (BusState σ ι α))} {events : List (BusEvent α)} {result : Option (Except ExecutionFault α)}
    (goes : (attemptsFrom policy draw (single handler) request number).Goes path events result) :
    ∃ attempts, handler.Blocks request number.toNat attempts path (BusEvent.hooks events) result := by
  induction number using attemptsFrom.induct policy generalizing path events with
  | case1 number ih =>
    rw [attemptsFrom] at goes
    cases Task.Goes.follows goes with
    | first own => exact ⟨_, Handler.blocks_unfinished (block_of_single own)⟩
    | @second path rest events more outcome _ own later =>
      have block := block_of_single own
      cases outcome with
      | ok output =>
        obtain ⟨rfl, rfl, rfl⟩ := later.of_done
        rw [List.append_nil, List.append_nil]
        exact ⟨_, Handler.blocks_single block fun _ same => same⟩
      | error fault =>
        simp only at later
        split at later
        · obtain ⟨rfl, rfl, rfl⟩ := later.of_done
          rw [List.append_nil, List.append_nil]
          exact ⟨_, Handler.blocks_single block fun _ same => same⟩
        · next again =>
          have between : (((delayBefore policy draw (number + 1)).bind fun delay =>
              (Task.signal (.log (retryLog policy request number delay fault))).bind fun _ =>
                Task.sleep delay.toMillisUp).bind fun _ =>
                  attemptsFrom policy draw (single handler) request (number + 1)).Goes rest more result := by
            simp only [Task.bind_assoc]
            exact later
          -- The delay before the next attempt is counted to the path of the one that has failed; no handler is called in it.
          have silent := aside_between request policy draw number fault
          cases between.follows with
          | first waits =>
            rw [BusEvent.hooks_append, BusEvent.hooks_of_aside (silent.goes waits), List.append_nil]
            exact ⟨_, Handler.blocks_unfinished (block.append rest)⟩
          | @second gap rest _ more _ _ waits further =>
            obtain ⟨attempts, others⟩ := ih again further
            rw [toNat_next again] at others
            rw [BusEvent.hooks_append, BusEvent.hooks_append, BusEvent.hooks_of_aside (silent.goes waits), List.nil_append,
              ← List.append_assoc]
            exact ⟨_, Handler.Blocks.cons (block.append gap) others⟩

/-- The layers of a handler's service make attempts from the first on, each with a block of calls of its own. -/
theorem blocks_of_stack (policy : RetryPolicy) (draw : Nat → Nat) (fresh : request.attempt = 1)
    {path : List (Encounter (BusState σ ι α))} {events : List (BusEvent α)} {result : Option (Except ExecutionFault α)}
    (goes : (stack policy draw handler request).Goes path events result) :
    ∃ attempts, handler.Blocks request 1 attempts path (BusEvent.hooks events) result := by
  have start : (if request.attempt = 0 then 1 else request.attempt) = 1 := by rw [fresh]; rfl
  rw [stack, retried, start] at goes
  exact blocks_of_attemptsFrom handler request policy draw 1 goes

end ExecutionService

end IntentBus
