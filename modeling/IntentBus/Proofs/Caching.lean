import IntentBus.Proofs.Keeping
import IntentBus.Proofs.Results
import IntentBus.Proofs.Session
import IntentBus.Proofs.Stages
import IntentBus.Proofs.Turns

/-! What the cache of a bus holds after any moves, and what a call through the cache makes of it. -/

namespace IntentBus

variable {σ ι α β : Type}

def Passed (stage : Stage) (rank : Nat) (late : Bool) (result : Except DispatchError β)
    (before after : ResultCache α) : Prop :=
  ((∃ value, result = .ok value) → stage.rank ≤ rank → late = true) ∧ after = before

abbrev Passes (stage : Stage) (rank : Nat) (task : BusTask σ ι α (Except DispatchError β)) (seen : Bool)
    (state : BusState σ ι α) : Prop :=
  task.Commits (BusEvent.callsOn stage) BusState.cache (Passed stage rank) seen state.cache state

private theorem passed_error {stage : Stage} {rank : Nat} {late : Bool} {error : DispatchError}
    {before after : ResultCache α} (same : after = before) :
    Passed stage rank late (.error error : Except DispatchError β) before after := by
  refine ⟨?_, same⟩
  rintro ⟨_, other⟩
  nomatch other

private theorem apart_cache : BusState.Apart (BusState.cache : BusState σ ι α → ResultCache α) where
  application := fun _ _ => rfl
  drawn := fun _ _ => rfl
  metrics := fun _ _ => rfl

private theorem passes_error {stage : Stage} {rank : Nat} {seen : Bool} {state : BusState σ ι α}
    {error : DispatchError} {task : BusTask σ ι α (Except DispatchError β)} (keeps : task.Keeps BusState.cache state)
    (returns : task.Returns (· = .error error)) : Passes stage rank task seen state := by
  refine ((keeps.commits False.elim rfl).and_returns returns).mono ?_
  rintro late _ before after ⟨⟨_, same⟩, rfl⟩
  exact passed_error same

private theorem passes_of_shown {stage : Stage} {rank : Nat} {seen : Bool} {before : ResultCache α}
    {state : BusState σ ι α} {task : BusTask σ ι α (Except DispatchError β)}
    (commits : task.Commits (BusEvent.callsOn stage) BusState.cache
      (fun late _ before after => (stage.rank ≤ rank → late = true) ∧ after = before) seen before state) :
    task.Commits (BusEvent.callsOn stage) BusState.cache (Passed stage rank) seen before state := by
  apply commits.mono
  rintro late result before after ⟨called, same⟩
  exact ⟨fun _ => called, same⟩

namespace Bus

variable (bus : Bus σ ι α) (intent : Intent σ ι α) (correlation : Correlation) (context : ExecutionContext)
  (started : Nat) {stage : Stage} {seen : Bool} (state : BusState σ ι α)

private theorem passes_validate : Passes stage 1 (bus.validate intent correlation started) seen state := by
  have first : stage.rank ≤ 0 →
      ((seen || false) || BusEvent.callsOn stage (.engine intent.name intent.constraints.size : BusEvent α)) = true := by
    cases stage <;> simp [Stage.rank, BusEvent.callsOn, BusEvent.stage?]
  refine ((keeps_judged apart_cache.toAside correlation started state .structural (bus.engine intent)).commits
    first rfl).bind ?_
  rintro result late _ after ⟨engine, rfl⟩
  cases result with
  | error error => exact passed_error rfl
  | ok =>
    have second : stage.rank ≤ 1 → (late || BusEvent.callsOn stage (.validate correlation : BusEvent α)) = true := by
      cases stage <;> simp_all [Stage.rank, BusEvent.callsOn, BusEvent.stage?]
    exact passes_of_shown ((keeps_judged apart_cache.toAside correlation started after .custom
      (intent.validate correlation)).commits second rfl)

section

variable {state} (member : stage ∈ bus.passage)

include member

private theorem passes_authorize (given : stage.rank ≤ 1 → seen = true) :
    Passes stage 2 (bus.authorize intent correlation context started) seen state := by
  have keeps := keeps_authorize apart_cache.toAside bus intent correlation context started state
  apply passes_of_shown
  by_cases enabled : bus.config.authorizationEnabled = true
  · refine (opens_authorize enabled).commits keeps ?_ rfl
    cases stage <;> simp_all [Stage.rank, BusEvent.callsOn, BusEvent.stage?]
  · refine keeps.commits ?_ rfl
    cases stage <;> simp_all [Stage.rank, passage]

private theorem passes_execute (bound : BoundHandler σ ι α) (given : stage.rank ≤ 2 → seen = true) :
    Passes stage 3 (bus.execute intent bound correlation context started) seen state := by
  have keeps := ExecutionService.keeps_stack apart_cache.toAside bound.handler bus.config.retry bus.draw
    (bus.request intent bound correlation context) state
  have opens := ExecutionService.opens_stack bound.handler (bus.request intent bound correlation context)
    bus.config.retry bus.draw
  have executed : stage.rank ≤ 3 → (seen || BusEvent.callsOn stage
      (.preProcess (bus.request intent bound correlation context).correlation : BusEvent α)) = true := by
    cases stage <;> simp_all [Stage.rank, BusEvent.callsOn, BusEvent.stage?]
  refine (opens.commits keeps executed rfl).bind ?_
  rintro result late _ after ⟨called, rfl⟩
  cases result with
  | error fault =>
    exact fun _ => passes_error (keeps_fail apart_cache bus intent started after _) (returns_fail bus intent started _)
  | ok output =>
    refine ((keeps_publish apart_cache.toAside bus intent correlation after output).commits called rfl).bind ?_
    rintro _ late _ after ⟨called, rfl⟩
    exact passes_of_shown ((keeps_succeed apart_cache bus intent started after output).commits called rfl)

private theorem passes_stages (bound : BoundHandler σ ι α) :
    Passes stage 3 (bus.stages intent bound correlation context started) seen state := by
  apply (passes_validate bus intent correlation started state).bind
  rintro result late _ after ⟨validated, rfl⟩
  cases result with
  | error error =>
    exact passes_error (keeps_reject apart_cache bus intent started after error) (returns_reject bus intent started error)
  | ok =>
    refine (passes_authorize bus intent correlation context started member (validated ⟨(), rfl⟩)).bind ?_
    rintro result late _ after ⟨authorized, rfl⟩
    cases result with
    | error error =>
      exact passes_error (keeps_fail apart_cache bus intent started after error) (returns_fail bus intent started error)
    | ok => exact passes_execute bus intent correlation context started member bound (authorized ⟨(), rfl⟩)

private theorem passes_dispatchTo (bound : BoundHandler σ ι α) :
    Passes stage 3 (bus.dispatchTo intent bound context started) seen state := by
  have correlates : (bus.correlate intent).Keeps BusState.cache state := by
    refine fun _ => ⟨?_, trivial⟩
    split
    · rfl
    · rfl
  refine (correlates.commits False.elim rfl).bind ?_
  rintro correlation late _ state ⟨_, rfl⟩
  have enters : (enterScope correlation).Keeps BusState.cache state := fun _ => ⟨rfl, trivial⟩
  refine (enters.commits False.elim rfl).bind ?_
  rintro slot late _ state ⟨_, rfl⟩
  have leaves (state : BusState σ ι α) : (leaveScope slot state).cache = state.cache := rfl
  exact ((passes_stages bus intent correlation context started member bound).mapEvents
    (BusEvent.callsOn_inside stage _)).releasing leaves

private theorem passes_dispatch : Passes stage 3 (bus.dispatch intent context) seen state := by
  intro started _
  simp only [Task.bind]
  split
  · exact passed_error rfl
  · exact fun _ => passed_error rfl
  · next bound _ => exact passes_dispatchTo bus intent context started member bound

end

end Bus

namespace Call

def key? (bus : Bus σ ι α) (call : Call σ ι α) : Option String := if call.cached then bus.cacheKey? call.intent else none

def write (bus : Bus σ ι α) (call : Call σ ι α) (complete : Bool) (result : Option (Except DispatchError α))
    (cache : ResultCache α) : ResultCache α :=
  match call.key? bus, result with
  | some key, some (.ok output) =>
    if complete then cache.put call.intent.name key ⟨call.intent.type.resultType, output⟩ else cache
  | _, _ => cache

variable {bus : Bus σ ι α} {call : Call σ ι α} {complete : Bool} {result : Option (Except DispatchError α)}
  {cache : ResultCache α}

/-- The output of a call is kept under a key exactly if a query with this key is dispatched through a cache. -/
theorem key?_eq_some {key : String} : call.key? bus = some key ↔
    call.cached ∧ bus.caching ∧ call.intent.type.kind = .query ∧ call.intent.cacheKey = some key := by
  simp [key?, Bus.cacheKey?, and_assoc]

private theorem write_of_none (unkeyed : call.key? bus = none) : call.write bus complete result cache = cache := by
  unfold write
  rw [unkeyed]

private theorem write_error {error : DispatchError} :
    call.write bus complete (some (.error error)) cache = cache := by
  unfold write
  split
  · next same => nomatch same
  · rfl

private theorem kept?_of_ok {ended : Ended σ ι α} {output : α} (ends : ended.result = some (.ok output))
    (name key : String) : ended.kept? bus name key =
      if ended.call.key? bus = some key ∧ ended.call.intent.name = name ∧ ended.complete bus = true then
        some ⟨ended.call.intent.type.resultType, output⟩
      else none := by
  simp only [Ended.kept?, ends, key?_eq_some, and_assoc]

private theorem kept?_of_not_ok {ended : Ended σ ι α} (fails : ∀ output, ended.result ≠ some (.ok output))
    (name key : String) : ended.kept? bus name key = none := by
  unfold Ended.kept?
  split
  · next output ends => exact absurd ends (fails output)
  · rfl

private theorem get?_write (ended : Ended σ ι α) (name key : String) :
    (ended.call.write bus (ended.complete bus) ended.result cache).get? name key =
      (ended.kept? bus name key).or (cache.get? name key) := by
  by_cases succeeds : ∃ output, ended.result = some (.ok output)
  · obtain ⟨output, ends⟩ := succeeds
    rw [kept?_of_ok ends, ends]
    unfold write
    cases keeps : ended.call.key? bus with
    | none => simp
    | some own =>
      by_cases complete : ended.complete bus = true
      · simp only [complete, if_true, ResultCache.get?_put, Option.some.injEq, and_true]
        by_cases place : name = ended.call.intent.name ∧ key = own
        · rw [if_pos place, if_pos ⟨place.2.symm, place.1.symm⟩, Option.some_or]
        · rw [if_neg place, if_neg fun other => place ⟨other.2.symm, other.1.symm⟩, Option.none_or]
      · simp [complete]
  · have fails (output : α) : ended.result ≠ some (.ok output) := fun ends => succeeds ⟨output, ends⟩
    rw [kept?_of_not_ok fails, Option.none_or]
    unfold write
    split
    · next output _ ends => exact absurd ends (fails output)
    · rfl

end Call

/-- The task leaves the cache alone until its last turn, in which it writes to it as a call does. -/
abbrev Writes (bus : Bus σ ι α) (call : Call σ ι α) (stage : Stage) (task : BusTask σ ι α (Except DispatchError α))
    (seen : Bool) (state : BusState σ ι α) : Prop :=
  task.Commits (BusEvent.callsOn stage) BusState.cache
    (fun late result before after => after = call.write bus late (some result) before) seen state.cache state

namespace Call

variable (bus : Bus σ ι α) (call : Call σ ι α) {stage : Stage} (member : stage ∈ bus.passage) {state : BusState σ ι α}

include member

private theorem writes_dispatch (unkeyed : call.key? bus = none) :
    Writes bus call stage (bus.dispatch call.intent call.context) false state := by
  apply (Bus.passes_dispatch bus call.intent call.context member).mono
  rintro late result before after ⟨_, same⟩
  rw [write_of_none unkeyed]
  exact same

private theorem writes_dispatchAndKeep {key : String} (own : call.key? bus = some key) :
    Writes bus call stage (bus.dispatchAndKeep call.intent key call.context) false state := by
  apply (Bus.passes_dispatch bus call.intent call.context member).bind
  rintro result late before after ⟨called, same⟩
  cases result with
  | error error => exact same.trans write_error.symm
  | ok output =>
    have complete : late = true := by
      apply called ⟨output, rfl⟩
      cases stage <;> simp_all [Stage.rank, Bus.passage]
    refine Task.commits_signal_bind (by rfl) fun _ => ?_
    change ResultCache.put after.cache _ _ _ = _
    simp only [write, own, complete, same, if_true]

/-- A call leaves the cache alone until its last turn; what it writes then depends on its result, and on whether the
stages were called. -/
theorem writes_task : Writes bus call stage (call.task bus) false state := by
  unfold task
  by_cases cached : call.cached = true
  · rw [if_pos cached]
    have same : call.key? bus = bus.cacheKey? call.intent := if_pos cached
    unfold Bus.dispatchCached
    split
    · next unkeyed => exact writes_dispatch bus call member (same.trans unkeyed)
    · next key own =>
      have own := same.trans own
      intro _
      refine Task.commits_signal_bind (by rfl) ?_
      split
      · exact writes_dispatchAndKeep bus call member own
      · split
        · refine Task.commits_signal_bind (by rfl) ?_
          change state.cache = _
          simp [write, own]
        · exact Task.commits_signal_bind (by rfl) (writes_dispatchAndKeep bus call member own)
  · rw [if_neg cached]
    exact writes_dispatch bus call member (if_neg cached)

end Call

def Ongoing.Ready (bus : Bus σ ι α) (ongoing : Ongoing σ ι α) : Prop :=
  (∀ state, (ongoing.release state).cache = state.cache) ∧ ∀ stage ∈ bus.passage, ∀ state,
    Writes bus ongoing.call stage ongoing.next (ongoing.events.any (·.callsOn stage)) state

namespace Session

variable {bus : Bus σ ι α} {session : Session σ ι α}

/-- What a move does to the cache: nothing, or a call is over and has written to it. -/
inductive Written (bus : Bus σ ι α) (session next : Session σ ι α) : Prop
  | same (unchanged : next.state.cache = session.state.cache) (unended : next.ended = session.ended)
  | finished (ended : Ended σ ι α) (adds : next.ended = ended :: session.ended)
    (written : next.state.cache = ended.call.write bus (ended.complete bus) ended.result session.state.cache)

private theorem written_of_each {call : Call σ ι α} {events : List (BusEvent α)}
    {result : Option (Except DispatchError α)} {before after : ResultCache α}
    (each : ∀ stage ∈ bus.passage, after = call.write bus (events.any (·.callsOn stage)) result before) :
    after = call.write bus ((⟨call, events, result⟩ : Ended σ ι α).complete bus) result before := by
  cases complete : (⟨call, events, result⟩ : Ended σ ι α).complete bus with
  | true =>
    have engine : Stage.engine ∈ bus.passage := by simp [Bus.passage]
    rw [each .engine engine, List.all_eq_true.1 complete .engine engine]
  | false =>
    obtain ⟨stage, member, missing⟩ := List.all_eq_false.1 complete
    rw [each stage member, Bool.eq_false_iff.2 missing]

private theorem written_turn {call : Call σ ι α} {seen : List (BusEvent α)}
    {task : BusTask σ ι α (Except DispatchError α)} (ready : ∀ ongoing ∈ session.ongoing, ongoing.Ready bus)
    (writes : ∀ stage ∈ bus.passage, Writes bus call stage task (seen.any (·.callsOn stage)) session.state)
    (time : Nat) :
    Written bus session (session.turn call seen (task.advance time session.state)) ∧
      ∀ ongoing ∈ (session.turn call seen (task.advance time session.state)).ongoing, ongoing.Ready bus := by
  have pays (stage : Stage) (member : stage ∈ bus.passage) := (writes stage member).advance time
  generalize task.advance time session.state = ran at pays
  have engine : Stage.engine ∈ bus.passage := by simp [Bus.passage]
  have events (stage : Stage) : (seen.any (·.callsOn stage) || ran.trace.any (·.event.callsOn stage)) =
      (seen ++ ran.trace.map (·.event)).any (·.callsOn stage) := by
    rw [List.any_append, List.any_map]
    rfl
  simp only [events] at pays
  unfold turn
  cases pause : ran.pause with
  | ended result =>
    simp only [pause] at pays
    exact ⟨.finished _ rfl (written_of_each pays), ready⟩
  | waiting millis age release next =>
    simp only [pause] at pays
    obtain ⟨same, released, _⟩ := pays .engine engine
    refine ⟨.same same rfl, List.forall_mem_cons.2 ⟨⟨released, ?_⟩, ready⟩⟩
    exact fun stage member => (pays stage member).2.2
  | stuck release =>
    simp only [pause] at pays
    obtain ⟨same, released⟩ := pays .engine engine
    refine ⟨.same same rfl, List.forall_mem_cons.2 ⟨⟨released, ?_⟩, ready⟩⟩
    exact fun _ _ state => ⟨rfl, released⟩

private theorem written_step (ready : ∀ ongoing ∈ session.ongoing, ongoing.Ready bus) (move : Move σ ι α) :
    Written bus session (session.step bus move) ∧ ∀ ongoing ∈ (session.step bus move).ongoing, ongoing.Ready bus := by
  have others (place : Nat) : ∀ ongoing ∈ session.ongoing.eraseIdx place, ongoing.Ready bus :=
    fun ongoing mem => ready ongoing (List.mem_of_mem_eraseIdx mem)
  cases move with
  | begin call time => exact written_turn ready (fun stage member => call.writes_task bus member) time
  | resume place time =>
    simp only [step]
    cases found : session.ongoing[place]? with
    | none => exact ⟨.same rfl rfl, ready⟩
    | some own =>
      have still : ∀ ongoing ∈ ({ session with ongoing := session.ongoing.eraseIdx place } : Session σ ι α).ongoing,
          ongoing.Ready bus := others place
      obtain ⟨written, later⟩ := written_turn still
        (fun stage member => (ready own (List.mem_of_getElem? found)).2 stage member session.state) time
      refine ⟨?_, later⟩
      cases written with
      | same unchanged unended => exact .same unchanged unended
      | finished ended adds written => exact .finished ended adds written
  | drop place =>
    simp only [step]
    cases found : session.ongoing[place]? with
    | none => exact ⟨.same rfl rfl, ready⟩
    | some own =>
      refine ⟨.finished _ rfl ?_, others place⟩
      rw [(ready own (List.mem_of_getElem? found)).1 session.state]
      unfold Call.write
      cases own.call.key? bus <;> rfl
  | register handler =>
    simp only [step]
    split
    · exact ⟨.same rfl rfl, ready⟩
    · next registered =>
      obtain ⟨registry, rfl⟩ := Bus.eq_of_register registered
      exact ⟨.same rfl rfl, ready⟩
  | unregister type => exact ⟨.same rfl rfl, ready⟩
  | outside application => exact ⟨.same rfl rfl, ready⟩

/-- What is found in the cache is what the calls that are over kept there, the last one before all others, or else
what was there at the start. -/
structure Recalls (bus : Bus σ ι α) (start : ResultCache α) (session : Session σ ι α) : Prop where
  get? : ∀ name key, session.state.cache.get? name key =
    (session.ended.findSome? (·.kept? bus name key)).or (start.get? name key)
  ready : ∀ ongoing ∈ session.ongoing, ongoing.Ready bus

private theorem recalls_step {start : ResultCache α} (recalls : session.Recalls bus start) (move : Move σ ι α) :
    (session.step bus move).Recalls bus start := by
  obtain ⟨written, ready⟩ := written_step recalls.ready move
  refine ⟨fun name key => ?_, ready⟩
  cases written with
  | same unchanged unended =>
    rw [unchanged, unended]
    exact recalls.get? name key
  | finished ended adds written =>
    rw [written, Call.get?_write, adds, recalls.get?, List.findSome?_cons]
    cases ended.kept? bus name key <;> simp

/-- Whatever happens to a bus, its cache recalls what was kept last. -/
theorem recalls_after {start : ResultCache α} (recalls : session.Recalls bus start)
    (moves : List (Move σ ι α)) : (session.after bus moves).Recalls bus start := by
  induction moves generalizing session with
  | nil => exact recalls
  | cons move rest ih => exact ih (recalls_step recalls move)

end Session

namespace Bus

/-- A call through the cache that finds nothing to answer it with, compared with the same call past the cache: it
differs from it in nothing but that its output, if it has one, is kept. -/
structure FallsThrough (intent : Intent σ ι α) (key : String) (state : BusState σ ι α)
    (plain cached : Run (BusState σ ι α) (BusEvent α) (Except DispatchError α)) : Prop where
  result : cached.result = plain.result
  time : cached.time = plain.time
  calls : cached.calls = plain.calls
  untouched : plain.state.cache = state.cache
  succeeds : ∀ output, plain.result = some (.ok output) → cached.state = { plain.state with
    cache := state.cache.put intent.name key ⟨intent.type.resultType, output⟩ }
  fails : (∀ output, plain.result ≠ some (.ok output)) → cached.state = plain.state

def entryLog (level : LogLevel) (message : String) (intent : Intent σ ι α) (key : String) : LogEntry :=
  ⟨level, .dispatch, message, [("intent", .string intent.name), ("key", .string key)], []⟩

variable {bus : Bus σ ι α} {intent : Intent σ ι α} (context : ExecutionContext) (time : Nat) {state : BusState σ ι α}
  {key : String}

/-- A call through the cache that finds an entry of its own type is answered by it at once. -/
theorem run_dispatchCached_of_hit (own : bus.cacheKey? intent = some key) {kept : CachedResult α}
    (found : state.cache.get? intent.name key = some kept) (typed : kept.type = intent.type.resultType) :
    (bus.dispatchCached intent context).run time state = .still (.ok kept.value) time state
      [.cacheGet intent.name key true, .log (entryLog .debug "query served from cache" intent key)] := by
  simp only [dispatchCached, own, Task.bind_eq, Task.run_bind, Task.run_read, Run.still_andThen, Task.run_signal, found,
    typed, if_true]
  rfl

def missEvents (intent : Intent σ ι α) (key : String) : Option (CachedResult α) → List (BusEvent α)
  | none => [.cacheGet intent.name key false]
  | some _ => [.cacheGet intent.name key true, .log (entryLog .warn "cached value has an unexpected type" intent key)]

/-- Where no entry answers it, a call through the cache goes on as one past the cache. -/
theorem run_dispatchCached_of_miss (own : bus.cacheKey? intent = some key)
    (misses : ∀ kept, state.cache.get? intent.name key = some kept → kept.type ≠ intent.type.resultType) :
    (bus.dispatchCached intent context).run time state =
      ((bus.dispatchAndKeep intent key context).run time state).after
        ((missEvents intent key (state.cache.get? intent.name key)).map fun event => ⟨time, state, event⟩) := by
  cases found : state.cache.get? intent.name key with
  | none =>
    simp only [dispatchCached, own, Task.bind_eq, Task.run_bind, Task.run_read, Run.still_andThen, Task.run_signal, found]
    rfl
  | some kept =>
    simp only [dispatchCached, own, Task.bind_eq, Task.run_bind, Task.run_read, Run.still_andThen, Task.run_signal, found,
      misses kept found, if_false]
    rfl

/-- A dispatch that keeps its output does nothing more than that once it has one. -/
theorem run_dispatchAndKeep :
    (bus.dispatchAndKeep intent key context).run time state =
      ((bus.dispatch intent context).run time state).andThen fun result time state => match result with
        | .error error => .still (.error error) time state []
        | .ok output => (Run.still (.ok output) time { state with
            cache := state.cache.put intent.name key ⟨intent.type.resultType, output⟩ } []).after
          [⟨time, state, .cachePut intent.name key⟩] := by
  simp only [dispatchAndKeep, Task.bind_eq, Task.run_bind]
  congr 1
  funext result time state
  cases result with
  | error error => rfl
  | ok output => rfl

/-- A dispatch past the cache leaves it alone. -/
theorem dispatch_cache : ((bus.dispatch intent context).run time state).state.cache = state.cache := by
  have engine : Stage.engine ∈ bus.passage := by simp [passage]
  have passes : Passes .engine 3 (bus.dispatch intent context) false state :=
    passes_dispatch bus intent context engine
  have paid := passes.run time
  split at paid
  · exact paid.2
  · exact paid

/-- A call through the cache that finds no entry of its own type goes as it would go past the cache. -/
theorem fallsThrough_of_miss (own : bus.cacheKey? intent = some key)
    (misses : ∀ kept, state.cache.get? intent.name key = some kept → kept.type ≠ intent.type.resultType) :
    FallsThrough intent key state ((bus.dispatch intent context).run time state)
      ((bus.dispatchCached intent context).run time state) := by
  have untouched : ((bus.dispatch intent context).run time state).state.cache = state.cache :=
    dispatch_cache context time
  have silent : (((missEvents intent key (state.cache.get? intent.name key)).map fun event =>
      (⟨time, state, event⟩ : Moment _ _)).map (·.event)).filter BusEvent.isCall = [] := by
    cases state.cache.get? intent.name key <;> rfl
  rw [run_dispatchCached_of_miss context time own misses, run_dispatchAndKeep]
  generalize (bus.dispatch intent context).run time state = plain at untouched ⊢
  cases ends : plain.result with
  | none =>
    rw [Run.andThen_of_none ends]
    exact
      { result := ends.symm
        time := rfl
        calls := by rw [Run.calls_after, silent]; rfl
        untouched := untouched
        succeeds := fun _ other => nomatch ends.symm.trans other
        fails := fun _ => rfl }
  | some result =>
    rw [Run.andThen_of_some ends]
    cases result with
    | error error =>
      exact
        { result := ends.symm
          time := rfl
          calls := by rw [Run.calls_after, silent, Run.calls_after_trace, Run.calls_still]; exact List.append_nil _
          untouched := untouched
          succeeds := fun _ other => nomatch ends.symm.trans other
          fails := fun _ => rfl }
    | ok output =>
      exact
        { result := ends.symm
          time := rfl
          calls := by
            rw [Run.calls_after, silent, Run.calls_after_trace, Run.calls_after, Run.calls_still]
            exact List.append_nil _
          untouched := untouched
          succeeds := fun other same => by
            cases ends.symm.trans same
            rw [← untouched]
            rfl
          fails := fun others => absurd ends (others output) }

end Bus

namespace Call

def hit? (bus : Bus σ ι α) (state : BusState σ ι α) (call : Call σ ι α) : Option (CachedResult α) :=
  (call.key? bus).bind fun key =>
    (state.cache.get? call.intent.name key).filter (·.type = call.intent.type.resultType)

variable {bus : Bus σ ι α} {state : BusState σ ι α} {call : Call σ ι α}

/-- A call is not through the cache, or what it finds there is of another type, or it is answered from there. -/
inductive Asks (bus : Bus σ ι α) (state : BusState σ ι α) (call : Call σ ι α) : Prop
  | nothing (task : call.task bus = bus.dispatch call.intent call.context) (misses : call.hit? bus state = none)
  | miss {key : String} (task : call.task bus = bus.dispatchCached call.intent call.context)
    (own : bus.cacheKey? call.intent = some key)
    (others : ∀ kept, state.cache.get? call.intent.name key = some kept → kept.type ≠ call.intent.type.resultType)
    (misses : call.hit? bus state = none)
  | hit {key : String} {kept : CachedResult α} (task : call.task bus = bus.dispatchCached call.intent call.context)
    (own : bus.cacheKey? call.intent = some key) (found : state.cache.get? call.intent.name key = some kept)
    (typed : kept.type = call.intent.type.resultType) (answers : call.hit? bus state = some kept)

/-- Every call asks the cache in one of these ways. -/
theorem asks : call.Asks bus state := by
  by_cases cached : call.cached = true
  · have task : call.task bus = bus.dispatchCached call.intent call.context := by rw [Call.task, if_pos cached]
    cases own : bus.cacheKey? call.intent with
    | none =>
      have plain : bus.dispatchCached call.intent call.context = bus.dispatch call.intent call.context := by
        unfold Bus.dispatchCached
        rw [own]
      exact .nothing (task.trans plain) (by simp [hit?, key?, cached, own])
    | some key =>
      cases found : state.cache.get? call.intent.name key with
      | none => exact .miss task own (by simp [found]) (by simp [hit?, key?, cached, own, found])
      | some kept =>
        by_cases typed : kept.type = call.intent.type.resultType
        · exact .hit task own found typed (by simp [hit?, key?, cached, own, found, typed])
        · refine .miss task own ?_ (by simp [hit?, key?, cached, own, found, typed])
          rw [found]
          rintro _ ⟨⟩
          exact typed
  · exact .nothing (by rw [Call.task, if_neg cached]) (by simp [hit?, key?, cached])

end Call

namespace Session

end Session

end IntentBus
