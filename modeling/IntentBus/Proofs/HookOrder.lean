import IntentBus.Proofs.Hooks

/-! The order of the hooks in a call of a bus, whichever path it goes: one block of calls of the handler for each attempt, in
the order of the attempts, and the handler is told of a success at the very end of them, where the call returns an output. -/

namespace IntentBus

variable {σ ι α : Type}

namespace BusEvent

def succeeds : BusEvent α → Bool
  | onSuccess _ => true
  | _ => false

end BusEvent

/-- The calls of the handler in a call of the bus that goes a path: they are the blocks of its attempts, whose parts of the
path follow each other; all attempts but the last have failed, and the call ends as the last one did. The handler is told of
a success once at most and last of all, namely if the call returns an output for which there were attempts; an output without
any is one that was kept in the cache. -/
structure Call.Ordered (bus : Bus σ ι α) (call : Call σ ι α) (attempts : List (AttemptPath σ ι α))
    (path : List (Encounter (BusState σ ι α))) (events : List (BusEvent α)) (result : Option (Except DispatchError α)) :
    Prop where
  hooks : BusEvent.hooks events = attempts.flatMap (·.hooks)
  along : ∃ before after, path = before ++ (attempts.flatMap (·.path) ++ after)
  numbered : attempts.map (·.number.toNat) = List.range' 1 attempts.length
  blocks : attempts ≠ [] → ∃ time state bound id, .look time state ∈ path ∧
    state.registry.tryFind call.intent.type = .ok (some bound) ∧
    (∀ attempt ∈ attempts, bound.handler.Block
      ((bus.request call.intent bound (call.intent.correlation id) call.context).withAttempt attempt.number)
      attempt.path attempt.hooks attempt.outcome) ∧
    ∀ last ∈ attempts.getLast?, ∀ value, result = some value →
      Concludes bound.binding.handler (call.intent.correlation id) last.outcome (some value)
  repeated : ∀ attempt ∈ attempts.dropLast, ∃ fault, attempt.outcome = some (.error fault)
  once : (BusEvent.hooks events).countP BusEvent.succeeds ≤ 1
  last : ∀ before event after, BusEvent.hooks events = before ++ event :: after → event.succeeds = true → after = []
  told : ∀ value, result = some value →
    ((∃ event ∈ BusEvent.hooks events, event.succeeds = true) ↔ attempts ≠ [] ∧ ∃ output, value = .ok output)
  kept : attempts = [] → ∀ output, result = some (.ok output) →
    ∃ key entry, events = [.cacheGet call.intent.name key true, .log entry]

private def yields {ε : Type} : Option (Except ε α) → Bool
  | some (.ok _) => true
  | _ => false

private inductive Telling : List (BusEvent α) → Bool → Prop
  | success {hooks : List (BusEvent α)} (untold : ∀ event ∈ hooks, event.succeeds = false) (correlation : Correlation) :
    Telling (hooks ++ [.onSuccess correlation]) true
  | otherwise {hooks : List (BusEvent α)} (untold : ∀ event ∈ hooks, event.succeeds = false) : Telling hooks false

private theorem Concludes.yields_iff {handler : String} {correlation : Correlation}
    {execution : Option (Except ExecutionFault α)} {value : Except DispatchError α}
    (concludes : Concludes handler correlation execution (some value)) :
    yields execution = true ↔ ∃ output, value = .ok output := by
  cases concludes with
  | failed fault elapsed => exact iff_of_false Bool.false_ne_true nofun
  | succeeded output => exact iff_of_true rfl ⟨output, rfl⟩

private theorem Concludes.of_ends {handler : String} {correlation : Correlation}
    {execution outcome : Option (Except ExecutionFault α)} {value : Except DispatchError α}
    (concludes : Concludes handler correlation execution (some value))
    (ends : ∀ result, execution = some result → outcome = some result) :
    Concludes handler correlation outcome (some value) := by
  cases concludes with
  | failed fault elapsed =>
    rw [ends _ rfl]
    exact .failed fault elapsed
  | succeeded output =>
    rw [ends _ rfl]
    exact .succeeded output

namespace Telling

variable {hooks : List (BusEvent α)} {succeeds : Bool}

private theorem behind {early : List (BusEvent α)} (untold : ∀ event ∈ early, event.succeeds = false)
    (telling : Telling hooks succeeds) : Telling (early ++ hooks) succeeds := by
  cases telling with
  | success own correlation =>
    rw [← List.append_assoc]
    exact .success (List.forall_mem_append.2 ⟨untold, own⟩) correlation
  | otherwise own => exact .otherwise (List.forall_mem_append.2 ⟨untold, own⟩)

private theorem none_of_false (telling : Telling hooks false) : ∀ event ∈ hooks, event.succeeds = false := by
  cases telling with
  | otherwise own => exact own

private theorem once (telling : Telling hooks succeeds) : hooks.countP BusEvent.succeeds ≤ 1 := by
  cases telling with
  | success own correlation =>
    rw [List.countP_append, List.countP_eq_zero.2 fun event mem => ne_true_of_eq_false (own event mem), Nat.zero_add]
    exact List.countP_le_length
  | otherwise own =>
    rw [List.countP_eq_zero.2 fun event mem => ne_true_of_eq_false (own event mem)]
    exact Nat.zero_le 1

private theorem last (telling : Telling hooks succeeds) {before after : List (BusEvent α)} {event : BusEvent α}
    (split : hooks = before ++ event :: after) (told : event.succeeds = true) : after = [] := by
  cases telling with
  | success own correlation =>
    rcases List.eq_nil_or_concat after with nothing | ⟨middle, final, rfl⟩
    · exact nothing
    · rw [List.concat_eq_append, ← List.cons_append, ← List.append_assoc] at split
      have mem : event ∈ before ++ event :: middle := by simp
      rw [← (List.append_inj' split rfl).1] at mem
      exact absurd told (ne_true_of_eq_false (own event mem))
  | otherwise own =>
    have mem : event ∈ hooks := split ▸ by simp
    exact absurd told (ne_true_of_eq_false (own event mem))

private theorem told_iff (telling : Telling hooks succeeds) :
    (∃ event ∈ hooks, event.succeeds = true) ↔ succeeds = true := by
  cases telling with
  | success own correlation => exact iff_of_true ⟨.onSuccess correlation, by simp, rfl⟩ rfl
  | otherwise own =>
    refine iff_of_false ?_ Bool.false_ne_true
    rintro ⟨event, mem, told⟩
    exact absurd told (ne_true_of_eq_false (own event mem))

end Telling

namespace Handler

variable {handler : Handler σ ι α} {request : ExecutionRequest σ ι α} {path : List (Encounter (BusState σ ι α))}
  {hooks : List (BusEvent α)}

private theorem Steps.not_succeeds {result : Option (Except Failure α)} (steps : handler.Steps request path hooks result) :
    ∀ event ∈ hooks, event.succeeds = false := by
  have execution : ∀ event ∈ handler.executionHooks request, event.succeeds = false := by
    unfold executionHooks
    cases handler.executeInContext with
    | some step => exact List.forall_mem_singleton.2 rfl
    | none => exact List.forall_mem_cons.2 ⟨rfl, List.forall_mem_singleton.2 rfl⟩
  cases steps with
  | readying | refusal => exact List.forall_mem_singleton.2 rfl
  | executing | failure => exact List.forall_mem_cons.2 ⟨rfl, execution⟩
  | completing =>
    exact List.forall_mem_cons.2 ⟨rfl, List.forall_mem_append.2 ⟨execution, List.forall_mem_singleton.2 rfl⟩⟩

private theorem Calls.telling {result : Option (Except Failure α)} (calls : handler.Calls request path hooks result) :
    Telling hooks (yields result) := by
  cases calls with
  | stepping steps => exact .otherwise steps.not_succeeds
  | @closed path hooks result steps time state =>
    cases result with
    | ok output => exact .success steps.not_succeeds request.correlation
    | error failure =>
      exact .otherwise (List.forall_mem_append.2 ⟨steps.not_succeeds, List.forall_mem_singleton.2 rfl⟩)

private theorem Block.telling {outcome : Option (Except ExecutionFault α)}
    (block : handler.Block request path hooks outcome) : Telling hooks (yields outcome) := by
  cases block with
  | unfinished time state calls early => exact calls.telling
  | @ended time state path hooks result calls early rest =>
    cases result with
    | ok output => exact calls.telling
    | error failure => exact calls.telling
  | cut time state calls bound late rest => exact calls.telling

private theorem Blocks.telling {first : Nat} {attempts : List (AttemptPath σ ι α)}
    {result : Option (Except ExecutionFault α)} (blocks : handler.Blocks request first attempts path hooks result) :
    ∃ last ∈ attempts.getLast?, (∀ value, result = some value → last.outcome = some value) ∧
      Telling hooks (yields last.outcome) := by
  obtain ⟨last, mem, ends⟩ := blocks.ends
  obtain ⟨earlier, rfl⟩ := List.getLast?_eq_some_iff.1 mem
  have own := (blocks.blocks last (by simp)).telling
  refine ⟨last, mem, ends, ?_⟩
  rw [blocks.hooks, List.flatMap_append, List.flatMap_singleton]
  refine own.behind fun event mem => ?_
  obtain ⟨attempt, mem, called⟩ := List.mem_flatMap.1 mem
  obtain ⟨fault, failed⟩ := blocks.repeated attempt (by rwa [List.dropLast_concat])
  have telling := (blocks.blocks attempt (List.mem_append_left _ mem)).telling
  rw [failed] at telling
  exact telling.none_of_false event called

end Handler

namespace Bus

private inductive Along (bus : Bus σ ι α) (intent : Intent σ ι α) (bound : BoundHandler σ ι α) (correlation : Correlation)
    (context : ExecutionContext) :
    List (Encounter (BusState σ ι α)) → List (BusEvent α) → Option (Except DispatchError α) → Prop
  | refused (path : List (Encounter (BusState σ ι α))) {result : Option (Except DispatchError α)}
    (fails : ∀ output, result ≠ some (.ok output)) : Along bus intent bound correlation context path [] result
  | executed (before after : List (Encounter (BusState σ ι α))) {path : List (Encounter (BusState σ ι α))}
    {hooks : List (BusEvent α)} {attempts : List (AttemptPath σ ι α)} {execution : Option (Except ExecutionFault α)}
    {result : Option (Except DispatchError α)}
    (blocks : bound.handler.Blocks (bus.request intent bound correlation context) 1 attempts path hooks execution)
    (concludes : Concludes bound.binding.handler correlation execution result) :
    Along bus intent bound correlation context (before ++ (path ++ after)) hooks result

variable {bus : Bus σ ι α} {intent : Intent σ ι α} {bound : BoundHandler σ ι α} {correlation : Correlation}
  {context : ExecutionContext} {path : List (Encounter (BusState σ ι α))} {events hooks : List (BusEvent α)}
  {result : Option (Except DispatchError α)} {started : Nat}

private theorem Along.behind (along : bus.Along intent bound correlation context path hooks result)
    (earlier : List (Encounter (BusState σ ι α))) :
    bus.Along intent bound correlation context (earlier ++ path) hooks result := by
  cases along with
  | refused path fails => exact .refused _ fails
  | executed before after blocks concludes =>
    rw [← List.append_assoc]
    exact .executed (earlier ++ before) after blocks concludes

private theorem Along.append (along : bus.Along intent bound correlation context path hooks result)
    (later : List (Encounter (BusState σ ι α))) :
    bus.Along intent bound correlation context (path ++ later) hooks result := by
  cases along with
  | refused path fails => exact .refused _ fails
  | executed before after blocks concludes =>
    rw [List.append_assoc, List.append_assoc]
    exact .executed before (after ++ later) blocks concludes

private theorem along_of_execute
    (goes : (bus.execute intent bound correlation context started).Goes path events result) :
    bus.Along intent bound correlation context path (BusEvent.hooks events) result := by
  rw [execute_eq_conclusion] at goes
  cases goes.follows with
  | first attempts =>
    obtain ⟨attempts, blocks⟩ := ExecutionService.blocks_of_stack bound.handler _ bus.config.retry bus.draw rfl attempts
    rw [← List.append_nil path]
    exact .executed [] [] blocks (.unfinished none)
  | @second path rest events more execution result attempts later =>
    obtain ⟨attempts, blocks⟩ := ExecutionService.blocks_of_stack bound.handler _ bus.config.retry bus.draw rfl attempts
    have aside := (aside_conclusion bus intent correlation started bound execution).goes later
    rw [BusEvent.hooks_append, BusEvent.hooks_of_aside aside, List.append_nil]
    refine .executed [] rest blocks ?_
    cases result with
    | none => exact .unfinished _
    | some result => exact (concludes_conclusion bus intent correlation started bound execution).goes later

private theorem along_of_refusal {task : BusTask σ ι α (Except DispatchError α)} {error : DispatchError}
    (reports : task.Emits BusEvent.OfReport) (returns : task.Returns (· = .error error))
    (goes : task.Goes path events result) :
    bus.Along intent bound correlation context path (BusEvent.hooks events) result := by
  rw [BusEvent.hooks_of_aside ((reports.mono fun _ own => BusEvent.aside_of_quiet own.quiet).goes goes)]
  refine .refused path fun output same => ?_
  subst same
  cases returns.goes goes

private theorem along_of_bind {β : Type} {task : BusTask σ ι α β} {f : β → BusTask σ ι α (Except DispatchError α)}
    (aside : task.Emits BusEvent.Aside)
    (later : ∀ value path events result, (f value).Goes path events result →
      bus.Along intent bound correlation context path (BusEvent.hooks events) result)
    (goes : (task.bind f).Goes path events result) :
    bus.Along intent bound correlation context path (BusEvent.hooks events) result := by
  cases goes.follows with
  | first own =>
    rw [BusEvent.hooks_of_aside (aside.goes own)]
    exact .refused path fun _ => (Option.some_ne_none _).symm
  | @second path rest events more value result own further =>
    rw [BusEvent.hooks_append, BusEvent.hooks_of_aside (aside.goes own), List.nil_append]
    exact (later value rest more result further).behind path

private theorem along_of_stages
    (goes : (bus.stages intent bound correlation context started).Goes path events result) :
    bus.Along intent bound correlation context path (BusEvent.hooks events) result := by
  have validates := (bus.emits_validate intent correlation started).mono fun _ own => BusEvent.OfValidation.aside own
  have authorizes := (bus.emits_authorize intent correlation context started).mono fun _ own =>
    BusEvent.OfAuthorization.aside own.2
  refine along_of_bind validates (fun valid path events result judged => ?_) goes
  cases valid with
  | error error =>
    exact along_of_refusal (bus.emits_reject intent started error) (returns_reject bus intent started error) judged
  | ok =>
    refine along_of_bind authorizes (fun allowed path events result judged => ?_) judged
    cases allowed with
    | error error =>
      exact along_of_refusal (bus.emits_fail intent started error) (returns_fail bus intent started error) judged
    | ok => exact along_of_execute judged

private inductive Dispatched (bus : Bus σ ι α) (intent : Intent σ ι α) (context : ExecutionContext) :
    List (Encounter (BusState σ ι α)) → List (BusEvent α) → Option (Except DispatchError α) → Prop
  | unbound {path : List (Encounter (BusState σ ι α))} {result : Option (Except DispatchError α)}
    (fails : ∀ output, result ≠ some (.ok output)) : Dispatched bus intent context path [] result
  | bound {path : List (Encounter (BusState σ ι α))} {hooks : List (BusEvent α)}
    {result : Option (Except DispatchError α)} {time : Nat} {state : BusState σ ι α} {bound : BoundHandler σ ι α}
    {id : String} (seen : .look time state ∈ path) (found : state.registry.tryFind intent.type = .ok (some bound))
    (along : bus.Along intent bound (intent.correlation id) context path hooks result) :
    Dispatched bus intent context path hooks result

private theorem Dispatched.behind (dispatched : bus.Dispatched intent context path hooks result)
    (earlier : List (Encounter (BusState σ ι α))) : bus.Dispatched intent context (earlier ++ path) hooks result := by
  cases dispatched with
  | unbound fails => exact .unbound fails
  | bound seen found along => exact .bound (List.mem_append_right earlier seen) found (along.behind earlier)

private theorem Dispatched.append (dispatched : bus.Dispatched intent context path hooks result)
    (later : List (Encounter (BusState σ ι α))) : bus.Dispatched intent context (path ++ later) hooks result := by
  cases dispatched with
  | unbound fails => exact .unbound fails
  | bound seen found along => exact .bound (List.mem_append_left later seen) found (along.append later)

private theorem along_of_dispatchTo (goes : (bus.dispatchTo intent bound context started).Goes path events result) :
    ∃ id, bus.Along intent bound (intent.correlation id) context path (BusEvent.hooks events) result := by
  obtain ⟨time, state, path, rfl, enters⟩ := Task.Goes.of_update goes
  obtain ⟨time', state', path, rfl, spans⟩ := enters.of_update
  obtain ⟨own, rest, rfl, inner⟩ := spans.of_releasing
  obtain ⟨events, rfl, went⟩ := inner.of_mapEvents
  rw [BusEvent.hooks_inside]
  exact ⟨_, ((along_of_stages went).append rest).behind [.look time state, .look time' state']⟩

private theorem dispatched_of_dispatch (goes : (bus.dispatch intent context).Goes path events result) :
    bus.Dispatched intent context path (BusEvent.hooks events) result := by
  obtain ⟨time, state, path, rfl, reads⟩ := goes.of_get
  obtain ⟨time', state', path, rfl, looks⟩ := reads.of_get
  simp only [Task.bind] at looks
  cases found : state'.registry.tryFind intent.type with
  | error error =>
    simp only [found] at looks
    obtain ⟨rfl, rfl, rfl⟩ := looks.of_done
    exact .unbound fun output same => by cases same
  | ok bound =>
    cases bound with
    | none =>
      simp only [found] at looks
      obtain ⟨_, rfl, times⟩ := Task.Goes.of_signal looks
      obtain ⟨_, _, _, rfl, ends⟩ := times.of_get
      obtain ⟨rfl, rfl, rfl⟩ := ends.of_done
      exact .unbound fun output same => by cases same
    | some bound =>
      simp only [found] at looks
      obtain ⟨id, along⟩ := along_of_dispatchTo looks
      have seen : .look time' state' ∈ .look time state :: .look time' state' :: path :=
        List.mem_cons_of_mem _ List.mem_cons_self
      exact .bound seen found (along.behind [.look time state, .look time' state'])

private theorem dispatched_of_dispatchAndKeep {key : String}
    (goes : (bus.dispatchAndKeep intent key context).Goes path events result) :
    bus.Dispatched intent context path (BusEvent.hooks events) result := by
  cases Task.Goes.follows goes with
  | first own => exact dispatched_of_dispatch own
  | @second path rest events more value result own later =>
    have dispatched := (dispatched_of_dispatch own).append rest
    cases value with
    | error error =>
      obtain ⟨rfl, rfl, rfl⟩ := later.of_done
      rwa [List.append_nil events]
    | ok output =>
      obtain ⟨more, rfl, keeps⟩ := Task.Goes.of_signal later
      obtain ⟨_, _, _, rfl, ends⟩ := keeps.of_modify
      obtain ⟨rfl, rfl, rfl⟩ := ends.of_done
      have kept : BusEvent.hooks [.cachePut intent.name key] = ([] : List (BusEvent α)) := rfl
      rwa [BusEvent.hooks_append, kept, List.append_nil]

private theorem dispatched_of_dispatchCached (goes : (bus.dispatchCached intent context).Goes path events result) :
    bus.Dispatched intent context path (BusEvent.hooks events) result ∨
      ∃ key entry, events = [.cacheGet intent.name key true, .log entry] := by
  unfold dispatchCached at goes
  split at goes
  · exact .inl (dispatched_of_dispatch goes)
  · next key _ =>
    obtain ⟨time, state, path, rfl, reads⟩ := Task.Goes.of_get goes
    obtain ⟨events, rfl, asked⟩ := Task.Goes.of_signal reads
    split at asked
    · exact .inl ((dispatched_of_dispatchAndKeep asked).behind [.look time state])
    · next kept found =>
      split at asked
      · obtain ⟨_, rfl, ends⟩ := Task.Goes.of_signal asked
        obtain ⟨_, rfl, _⟩ := ends.of_done
        exact .inr ⟨key, _, by rw [found]; rfl⟩
      · obtain ⟨events, rfl, dispatches⟩ := Task.Goes.of_signal asked
        exact .inl ((dispatched_of_dispatchAndKeep dispatches).behind [.look time state])

end Bus

namespace Call

variable {bus : Bus σ ι α} {call : Call σ ι α} {path : List (Encounter (BusState σ ι α))} {events : List (BusEvent α)}
  {result : Option (Except DispatchError α)}

private theorem ordered_of_no_attempts (hookless : BusEvent.hooks events = [])
    (kept : ∀ output, result = some (.ok output) → ∃ key entry, events = [.cacheGet call.intent.name key true, .log entry]) :
    call.Ordered bus [] path events result where
  hooks := hookless
  along := ⟨path, [], (List.append_nil path).symm⟩
  numbered := rfl
  blocks made := absurd rfl made
  repeated := List.forall_mem_nil _
  once := by rw [hookless]; exact Nat.zero_le 1
  last before event after split := by simp [hookless] at split
  told value _ := by simp [hookless]
  kept _ := kept

private theorem ordered_of_dispatched
    (dispatched : bus.Dispatched call.intent call.context path (BusEvent.hooks events) result) :
    ∃ attempts, call.Ordered bus attempts path events result := by
  generalize same : BusEvent.hooks events = hooks at dispatched
  cases dispatched with
  | unbound fails => exact ⟨[], ordered_of_no_attempts same fun output ends => absurd ends (fails output)⟩
  | @bound hooks result time state bound id seen found along =>
    cases along with
    | refused path fails => exact ⟨[], ordered_of_no_attempts same fun output ends => absurd ends (fails output)⟩
    | @executed before after path hooks attempts execution _ blocks concludes =>
      obtain ⟨last, mem, ends, telling⟩ := blocks.telling
      have made : attempts ≠ [] := by
        rintro rfl
        nomatch mem
      have concluded (value : Except DispatchError α) (returned : result = some value) :
          Concludes bound.binding.handler (call.intent.correlation id) last.outcome (some value) := by
        subst returned
        exact concludes.of_ends ends
      refine ⟨attempts, ?_⟩
      constructor
      case hooks => rw [same, blocks.hooks]
      case along => exact ⟨before, after, by rw [blocks.path]⟩
      case numbered => exact blocks.numbered
      case blocks =>
        refine fun _ => ⟨time, state, bound, id, seen, found, blocks.blocks, fun other own => ?_⟩
        cases Option.mem_unique own mem
        exact concluded
      case repeated => exact blocks.repeated
      case once => rw [same]; exact telling.once
      case last => rw [same]; exact fun _ _ _ split told => telling.last split told
      case told =>
        intro value returned
        rw [same, telling.told_iff, (concluded value returned).yields_iff]
        exact ⟨fun succeeded => ⟨made, succeeded⟩, And.right⟩
      case kept => exact fun hookless => absurd hookless made

private theorem ordered_of_goes (goes : (call.task bus).Goes path events result) :
    ∃ attempts, call.Ordered bus attempts path events result := by
  unfold Call.task at goes
  split at goes
  · rcases Bus.dispatched_of_dispatchCached goes with dispatched | ⟨key, entry, rfl⟩
    · exact ordered_of_dispatched dispatched
    · exact ⟨[], ordered_of_no_attempts rfl fun _ _ => ⟨key, entry, rfl⟩⟩
  · exact ordered_of_dispatched (Bus.dispatched_of_dispatch goes)

end Call

/-- Whatever happens to a bus, each of its calls goes a path, and whichever path it goes with what is seen of it, its hooks
are in order. -/
theorem Session.hooks_in_order (bus : Bus σ ι α) (start : BusState σ ι α) (moves : List (Move σ ι α)) :
    ((opening start).after bus moves).Tells fun call events result =>
      (∃ path, (call.task bus).Goes path events result) ∧
        ∀ path, (call.task bus).Goes path events result → ∃ attempts, call.Ordered bus attempts path events result :=
  tells_after (fun _ => Task.tells_of_goes fun path _ _ goes => ⟨⟨path, goes⟩, fun _ => Call.ordered_of_goes⟩) start moves

end IntentBus
