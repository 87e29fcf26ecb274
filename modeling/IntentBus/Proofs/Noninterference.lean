import IntentBus.Proofs.Courses
import IntentBus.Proofs.Lookups

/-! Where authorization is disabled, access has no say: nobody is asked for it, nobody is denied, and two runs that differ in
nothing but the gate and the intents' own rules of access cannot be told apart. -/

namespace IntentBus

variable {σ ι α : Type}

namespace Handler

/-- A handler does the same for both intents. -/
structure Same (handler : Handler σ ι α) (first second : Intent σ ι α) : Prop where
  preProcess : handler.preProcess second = handler.preProcess first
  execute : handler.execute second = handler.execute first
  executeInContext : handler.executeInContext.map (· second) = handler.executeInContext.map (· first)
  postProcess : handler.postProcess second = handler.postProcess first
  onSuccess : handler.onSuccess second = handler.onSuccess first
  onError : handler.onError second = handler.onError first

variable {handler : Handler σ ι α} {request : ExecutionRequest σ ι α} {intent : Intent σ ι α}
  (same : handler.Same request.intent intent)

include same

private theorem executeFor_eq : handler.executeFor { request with intent := intent } = handler.executeFor request := by
  have inContext := same.executeInContext
  unfold executeFor
  cases own : handler.executeInContext with
  | none => simp only [same.execute]
  | some step =>
    rw [own] at inContext
    simp only [Option.some.inj inContext]

private theorem attempt_eq : handler.attempt { request with intent := intent } = handler.attempt request := by
  have steps : handler.steps { request with intent := intent } = handler.steps request := by
    unfold steps
    simp only [executeFor_eq same, same.preProcess, same.postProcess]
  have closes (result : Except Failure α) :
      handler.close { request with intent := intent } result = handler.close request result := by
    cases result with
    | ok output => simp only [close, closing, onClosing, same.onSuccess]
    | error failure => simp only [close, closing, onClosing, same.onError]
  simp only [attempt, steps, closes]

end Handler

namespace ExecutionService

variable {handler : Handler σ ι α} {request : ExecutionRequest σ ι α} {intent : Intent σ ι α}

private theorem single_eq (same : handler.Same request.intent intent) (named : intent.name = request.intent.name) :
    single handler { request with intent := intent } = single handler request := by
  have traces : traced handler.service { request with intent := intent } = traced handler.service request := by
    simp only [traced, Handler.service, Handler.attempt_eq same, ExecutionRequest.span, completionLog, named]
  simp only [single, bounded, traces]

private theorem attemptsFrom_eq (policy : RetryPolicy) (draw : Nat → Nat) (number : UInt32)
    (same : handler.Same request.intent intent) (named : intent.name = request.intent.name) :
    attemptsFrom policy draw (single handler) { request with intent := intent } number =
      attemptsFrom policy draw (single handler) request number := by
  have own (number : UInt32) : single handler (({ request with intent := intent } : ExecutionRequest σ ι α).withAttempt number) =
      single handler (request.withAttempt number) := by
    have alike : handler.Same (request.withAttempt number).intent intent := same
    have named : intent.name = (request.withAttempt number).intent.name := named
    exact (single_eq alike named :)
  have logs (number : UInt32) (delay : Duration) (fault : ExecutionFault) :
      retryLog policy { request with intent := intent } number delay fault = retryLog policy request number delay fault := by
    simp only [retryLog, named]
  induction number using attemptsFrom.induct policy with
  | case1 number ih =>
    conv_lhs => rw [attemptsFrom, own]
    conv_rhs => rw [attemptsFrom]
    refine congrArg (_ >>= ·) (funext fun result => ?_)
    cases result with
    | ok output => rfl
    | error fault =>
      simp only
      split
      · rfl
      · next more => simp only [logs, ih more]

private theorem stack_eq (policy : RetryPolicy) (draw : Nat → Nat) (same : handler.Same request.intent intent)
    (named : intent.name = request.intent.name) :
    stack policy draw handler { request with intent := intent } = stack policy draw handler request :=
  attemptsFrom_eq policy draw _ same named

end ExecutionService

def Intent.withAccess (intent : Intent σ ι α) (rule : Correlation → ApplicationTask σ AuthorizationOutcome)
    (inContext : Option (Correlation → ExecutionContext → ApplicationTask σ AuthorizationOutcome)) : Intent σ ι α :=
  { intent with authorize := rule, authorizeInContext := inContext }

@[simp] theorem Intent.withAccess_type (intent : Intent σ ι α) (rule : Correlation → ApplicationTask σ AuthorizationOutcome)
    (inContext : Option (Correlation → ExecutionContext → ApplicationTask σ AuthorizationOutcome)) :
    (intent.withAccess rule inContext).type = intent.type :=
  rfl

@[simp] theorem Intent.withAccess_name (intent : Intent σ ι α) (rule : Correlation → ApplicationTask σ AuthorizationOutcome)
    (inContext : Option (Correlation → ExecutionContext → ApplicationTask σ AuthorizationOutcome)) :
    (intent.withAccess rule inContext).name = intent.name :=
  rfl

def Bus.withGate (bus : Bus σ ι α) (gate : AuthorizationGate σ) : Bus σ ι α := { bus with gate := gate }

/-- Two intents that a bus with these handlers tells apart by nothing but their rules of access. -/
structure Intent.SameButAccess (bus : Bus σ ι α) (used : List (Handler σ ι α)) (intent other : Intent σ ι α) : Prop where
  fields : ∃ rule inContext, other = intent.withAccess rule inContext
  engine : bus.engine other = bus.engine intent
  handlers : ∀ handler ∈ used, handler.type = intent.type → handler.Same intent other

namespace Bus

section

variable {bus : Bus σ ι α} {used : List (Handler σ ι α)} {intent other : Intent σ ι α}
  (same : intent.SameButAccess bus used other) (disabled : bus.config.authorizationEnabled = false)
  (gate : AuthorizationGate σ) (correlation : Correlation) (context : ExecutionContext) (started : Nat)

include same

private theorem validate_eq :
    (bus.withGate gate).validate other correlation started = bus.validate intent correlation started := by
  obtain ⟨⟨rule, inContext, rfl⟩, engine, _⟩ := same
  have engine : (bus.withGate gate).engine (intent.withAccess rule inContext) = bus.engine intent := engine
  unfold validate
  rw [engine]
  rfl

omit same in
include disabled in
private theorem authorize_eq (intent : Intent σ ι α) :
    bus.authorize intent correlation context started = .done (.ok ()) := by
  unfold authorize
  rw [disabled]
  rfl

variable {bound : BoundHandler σ ι α} (mem : bound.handler ∈ used) (typed : bound.handler.type = intent.type)

include mem typed in
private theorem execute_eq : (bus.withGate gate).execute other bound correlation context started =
    bus.execute intent bound correlation context started := by
  obtain ⟨⟨rule, inContext, rfl⟩, _, handlers⟩ := same
  have attempts : ExecutionService.stack (bus.withGate gate).config.retry (bus.withGate gate).draw bound.handler
        ((bus.withGate gate).request (intent.withAccess rule inContext) bound correlation context) =
      ExecutionService.stack bus.config.retry bus.draw bound.handler (bus.request intent bound correlation context) :=
    @ExecutionService.stack_eq _ _ _ _ (bus.request intent bound correlation context) _ _ _ (handlers _ mem typed) rfl
  unfold execute
  rw [attempts]
  rfl

include disabled mem typed in
private theorem dispatchTo_eq : (bus.withGate gate).dispatchTo other bound context started =
    bus.dispatchTo intent bound context started := by
  have stages (correlation : Correlation) : (bus.withGate gate).stages other bound correlation context started =
      bus.stages intent bound correlation context started := by
    have off : (bus.withGate gate).config.authorizationEnabled = false := disabled
    unfold stages
    rw [validate_eq same, authorize_eq disabled, authorize_eq off, execute_eq same gate correlation context started mem typed]
    obtain ⟨⟨rule, inContext, rfl⟩, _, _⟩ := same
    rfl
  unfold dispatchTo
  simp only [stages]
  obtain ⟨⟨rule, inContext, rfl⟩, _, _⟩ := same
  rfl

end

end Bus

def Registry.FindsAmong (registry : Registry σ ι α) (used : List (Handler σ ι α)) : Prop :=
  ∀ type bound, registry.tryFind type = .ok (some bound) → bound.handler.type = type ∧ bound.handler ∈ used

namespace Task

variable {ε β : Type}

private theorem advance_bind (task : Task σ ε α) (f : α → Task σ ε β) (time : Nat) (state : σ) :
    (task.bind f).advance time state =
      match (task.advance time state).pause with
      | .ended result =>
        let rest := (f result).advance time (task.advance time state).state
        { rest with trace := (task.advance time state).trace ++ rest.trace }
      | .waiting millis age release next =>
        ⟨.waiting millis age release (next.bind f), (task.advance time state).state, (task.advance time state).trace⟩
      | .stuck release => ⟨.stuck release, (task.advance time state).state, (task.advance time state).trace⟩ := by
  induction task generalizing state with
  | done result => rfl
  | get next ih => exact ih time state state
  | set value next ih => exact ih value
  | emit event next ih =>
    simp only [bind, advance]
    rw [ih state]
    cases (next.advance time state).pause <;> rfl
  | wait millis age release next ih => rfl
  | never release => rfl

private theorem advance_signal_congr (event : ε) {f g : Unit → Task σ ε α} {time : Nat} {state : σ}
    (same : (f ()).advance time state = (g ()).advance time state) :
    ((signal event).bind f).advance time state = ((signal event).bind g).advance time state :=
  congrArg (fun rest : Advance σ ε α => { rest with trace := ⟨time, state, event⟩ :: rest.trace }) same

end Task

namespace Bus

variable {bus : Bus σ ι α} {used : List (Handler σ ι α)} {state : BusState σ ι α}
  (disabled : bus.config.authorizationEnabled = false) (within : state.registry.FindsAmong used)
  {intent other : Intent σ ι α} (same : intent.SameButAccess bus used other) (gate : AuthorizationGate σ)
  (context : ExecutionContext) (time : Nat)

include disabled within same

private theorem advance_dispatch : ((bus.withGate gate).dispatch other context).advance time state =
    (bus.dispatch intent context).advance time state := by
  have typed : other.type = intent.type := by
    obtain ⟨⟨rule, inContext, rfl⟩, _, _⟩ := same
    rfl
  rw [advance_lookup, advance_lookup, typed]
  cases found : state.registry.tryFind intent.type with
  | error error => rfl
  | ok bound =>
    cases bound with
    | none =>
      obtain ⟨⟨rule, inContext, rfl⟩, _, _⟩ := same
      rfl
    | some bound =>
      obtain ⟨serves, mem⟩ := within _ _ found
      exact congrArg (Task.advance · time state) (dispatchTo_eq same disabled gate context time mem serves)

private theorem advance_dispatchAndKeep (key : String) :
    ((bus.withGate gate).dispatchAndKeep other key context).advance time state =
      (bus.dispatchAndKeep intent key context).advance time state := by
  unfold dispatchAndKeep
  have own := advance_dispatch disabled within same gate context time
  obtain ⟨⟨rule, inContext, rfl⟩, _, _⟩ := same
  refine (Task.advance_bind _ _ time state).trans ?_
  rw [own]
  exact (Task.advance_bind _ _ time state).symm

private theorem advance_dispatchCached : ((bus.withGate gate).dispatchCached other context).advance time state =
    (bus.dispatchCached intent context).advance time state := by
  have own := advance_dispatch disabled within same gate context time
  have keeping := advance_dispatchAndKeep disabled within same gate context time
  obtain ⟨⟨rule, inContext, rfl⟩, _, _⟩ := same
  have keyed : (bus.withGate gate).cacheKey? (intent.withAccess rule inContext) = bus.cacheKey? intent := rfl
  unfold dispatchCached
  rw [keyed]
  cases bus.cacheKey? intent with
  | none => exact own
  | some key =>
    refine Task.advance_signal_congr (BusEvent.cacheGet intent.name key (state.cache.get? intent.name key).isSome) ?_
    rw [Intent.withAccess_name]
    cases state.cache.get? intent.name key with
    | none => exact keeping key
    | some result =>
      have typed := intent.withAccess_type rule inContext
      simp only
      by_cases own : result.type = intent.type.resultType
      · rw [if_pos own, if_pos (typed ▸ own)]
      · rw [if_neg own, if_neg (typed ▸ own)]
        exact Task.advance_signal_congr _ (keeping key)

end Bus

/-- Two moves that differ in nothing but the rules of access of an intent; all handlers are among these. -/
inductive Move.SameButAccess (bus : Bus σ ι α) (used : List (Handler σ ι α)) : Move σ ι α → Move σ ι α → Prop
  | begin {call : Call σ ι α} {intent : Intent σ ι α} (same : call.intent.SameButAccess bus used intent) (time : Nat) :
    SameButAccess bus used (.begin call time) (.begin { call with intent := intent } time)
  | resume (place time : Nat) : SameButAccess bus used (.resume place time) (.resume place time)
  | drop (place : Nat) : SameButAccess bus used (.drop place) (.drop place)
  | register {handler : Handler σ ι α} (mem : handler ∈ used) : SameButAccess bus used (.register handler) (.register handler)
  | unregister (type : IntentType) : SameButAccess bus used (.unregister type) (.unregister type)
  | outside (application : σ) : SameButAccess bus used (.outside application) (.outside application)

def Ongoing.SameButAccess (bus : Bus σ ι α) (used : List (Handler σ ι α)) (own other : Ongoing σ ι α) : Prop :=
  ∃ intent, own.call.intent.SameButAccess bus used intent ∧ other = { own with call := { own.call with intent := intent } }

def Ended.SameButAccess (bus : Bus σ ι α) (used : List (Handler σ ι α)) (own other : Ended σ ι α) : Prop :=
  ∃ intent, own.call.intent.SameButAccess bus used intent ∧ other = { own with call := { own.call with intent := intent } }

/-- Two buses in use that are told apart by nothing but the rules of access of the intents they were asked to dispatch. -/
structure Session.SameButAccess (bus : Bus σ ι α) (used : List (Handler σ ι α)) (session other : Session σ ι α) : Prop where
  state : other.state = session.state
  ongoing : List.Forall₂ (Ongoing.SameButAccess bus used) session.ongoing other.ongoing
  ended : List.Forall₂ (Ended.SameButAccess bus used) session.ended other.ended

section

variable {β γ : Type} {related : β → γ → Prop} {first : List β} {second : List γ}

private theorem forall₂_eraseIdx (pairwise : List.Forall₂ related first second) (place : Nat) :
    List.Forall₂ related (first.eraseIdx place) (second.eraseIdx place) := by
  induction pairwise generalizing place with
  | nil => exact .nil
  | cons head tail ih =>
    cases place with
    | zero => exact tail
    | succ place => exact .cons head (ih place)

private theorem forall₂_getElem? (pairwise : List.Forall₂ related first second) (place : Nat) :
    Option.Rel related first[place]? second[place]? := by
  induction pairwise generalizing place with
  | nil => exact .none
  | cons head tail ih =>
    cases place with
    | zero => exact .some head
    | succ place =>
      rw [List.getElem?_cons_succ, List.getElem?_cons_succ]
      exact ih place

end

private theorem Call.advance_task {bus : Bus σ ι α} {used : List (Handler σ ι α)} {state : BusState σ ι α}
    (disabled : bus.config.authorizationEnabled = false) (within : state.registry.FindsAmong used)
    {call : Call σ ι α} {intent : Intent σ ι α} (same : call.intent.SameButAccess bus used intent)
    (gate : AuthorizationGate σ) (time : Nat) :
    (Call.task (bus.withGate gate) { call with intent := intent }).advance time state =
      (call.task bus).advance time state := by
  unfold Call.task
  simp only
  split
  · exact Bus.advance_dispatchCached disabled within same gate call.context time
  · exact Bus.advance_dispatch disabled within same gate call.context time

namespace Session

variable {bus : Bus σ ι α} {used : List (Handler σ ι α)} {session other : Session σ ι α}

private theorem SameButAccess.turn (same : session.SameButAccess bus used other) {call : Call σ ι α} {intent : Intent σ ι α}
    (alike : call.intent.SameButAccess bus used intent) (seen : List (BusEvent α))
    (ran : Advance (BusState σ ι α) (BusEvent α) (Except DispatchError α)) :
    (session.turn call seen ran).SameButAccess bus used (other.turn { call with intent := intent } seen ran) := by
  obtain ⟨pause, after, trace⟩ := ran
  cases pause with
  | ended result => exact ⟨rfl, same.ongoing, .cons ⟨intent, alike, rfl⟩ same.ended⟩
  | waiting millis age release next => exact ⟨rfl, .cons ⟨intent, alike, rfl⟩ same.ongoing, same.ended⟩
  | stuck release => exact ⟨rfl, .cons ⟨intent, alike, rfl⟩ same.ongoing, same.ended⟩

private theorem SameButAccess.step (same : session.SameButAccess bus used other)
    (disabled : bus.config.authorizationEnabled = false) (within : session.state.registry.FindsAmong used)
    (gate : AuthorizationGate σ) {move next : Move σ ι α}
    (alike : move.SameButAccess bus used next) :
    (session.step bus move).SameButAccess bus used (other.step (bus.withGate gate) next) := by
  obtain ⟨states, ongoing, ended⟩ := same
  have rest (place : Nat) := forall₂_eraseIdx ongoing place
  cases alike with
  | begin alike time =>
    simp only [Session.step, states, Call.advance_task disabled within alike gate time]
    exact SameButAccess.turn ⟨states, ongoing, ended⟩ alike [] _
  | resume place time =>
    have found := forall₂_getElem? ongoing place
    simp only [Session.step, states]
    generalize session.ongoing[place]? = own, other.ongoing[place]? = counterpart at found ⊢
    cases found with
    | none => exact ⟨states, ongoing, ended⟩
    | @some own counterpart alike =>
      obtain ⟨intent, alike, rfl⟩ := alike
      have others : Session.SameButAccess bus used { session with ongoing := session.ongoing.eraseIdx place }
          { other with ongoing := other.ongoing.eraseIdx place } := ⟨states, rest place, ended⟩
      exact others.turn alike _ _
  | drop place =>
    have found := forall₂_getElem? ongoing place
    simp only [Session.step, states]
    generalize session.ongoing[place]? = own, other.ongoing[place]? = counterpart at found ⊢
    cases found with
    | none => exact ⟨states, ongoing, ended⟩
    | some alike =>
      obtain ⟨intent, alike, rfl⟩ := alike
      exact ⟨rfl, rest place, .cons ⟨intent, alike, rfl⟩ ended⟩
  | @register handler mem =>
    simp only [Session.step, states]
    cases Bus.register session.state handler with
    | error error => exact ⟨states, ongoing, ended⟩
    | ok registered => exact ⟨rfl, ongoing, ended⟩
  | unregister type =>
    simp only [Session.step, states]
    exact ⟨rfl, ongoing, ended⟩
  | outside application =>
    simp only [Session.step, states]
    exact ⟨rfl, ongoing, ended⟩

variable {start : BusState σ ι α} {handlers : List (Handler σ ι α)} {application : σ}

private theorem sameButAccess_after (built : (bus.build handlers application).2 = .ok start)
    (disabled : bus.config.authorizationEnabled = false) (known : ∀ handler ∈ handlers, handler ∈ used)
    (gate : AuthorizationGate σ) {moves others : List (Move σ ι α)}
    (alike : List.Forall₂ (Move.SameButAccess bus used) moves others) :
    ((opening start).after bus moves).SameButAccess bus used ((opening start).after (bus.withGate gate) others) := by
  -- Any moves may have been made before; what is bound by then was built in or registered by them.
  suffices since : ∀ earlier : List (Move σ ι α), (∀ handler, .register handler ∈ earlier → handler ∈ used) →
      ∀ other, ((opening start).after bus earlier).SameButAccess bus used other →
        (((opening start).after bus earlier).after bus moves).SameButAccess bus used (other.after (bus.withGate gate) others) from
    since [] (fun _ mem => nomatch mem) _ ⟨rfl, .nil, .nil⟩
  induction alike with
  | nil => exact fun _ _ _ same => same
  | @cons move next moves others head tail ih =>
    intro earlier registered other same
    have within : ((opening start).after bus earlier).state.registry.FindsAmong used := by
      intro type bound found
      obtain ⟨serves, mem⟩ := registered_of_bound built found
      exact ⟨serves, mem.elim (known _) (registered _)⟩
    have later := ih (earlier ++ [move]) (fun handler mem => ?_) (other.step (bus.withGate gate) next)
    · rw [after_concat] at later
      exact later (same.step disabled within gate head)
    · rcases List.mem_append.1 mem with mem | mem
      · exact registered handler mem
      · cases List.mem_singleton.1 mem
        cases head with
        | register mem => exact mem

end Session

namespace BusEvent

def AsksForAccess (event : BusEvent α) : Prop :=
  match event with
  | gate .. | authorizeInContext _ | authorize _ => True
  | _ => False

private theorem not_asksForAccess_inside {event : BusEvent α} (other : ¬event.AsksForAccess) (span : LogSpan) :
    ¬(event.inside span).AsksForAccess := by
  cases event with
  | handler correlation event => cases event <;> exact not_false
  | _ => exact other

private theorem not_asksForAccess_of_execution {correlation : Correlation} {event : BusEvent α}
    (own : event.OfExecution correlation) : ¬event.AsksForAccess := by
  rcases own with rfl | own
  · exact not_false
  · cases own <;> exact not_false

end BusEvent

namespace Bus

variable {bus : Bus σ ι α} (disabled : bus.config.authorizationEnabled = false) (intent : Intent σ ι α)
  (context : ExecutionContext)

include disabled

private theorem unasked_stages (bound : BoundHandler σ ι α) (correlation : Correlation) (started : Nat) :
    (bus.stages intent bound correlation context started).Emits (¬BusEvent.AsksForAccess ·) := by
  refine emits_stages_of_each context started ?_ ?_ (fun _ => BusEvent.not_asksForAccess_of_execution) ?_ ?_ bound
  · intro _ own
    cases own <;> exact not_false
  · intro _ enabled _
    exact absurd enabled (ne_true_of_eq_false disabled)
  · intro _ own
    cases own <;> exact not_false
  · intro _ own
    cases own <;> exact not_false

private theorem unasked_dispatch : (bus.dispatch intent context).Emits (¬BusEvent.AsksForAccess ·) := by
  intro started _ _ state
  simp only [Task.bind]
  split
  · trivial
  · exact ⟨not_false, fun _ _ => trivial⟩
  · next bound _ =>
    intro _ _ _ _
    apply Task.Emits.releasing
    apply (unasked_stages disabled intent context bound _ started).mapEvents
    exact fun _ own => BusEvent.not_asksForAccess_inside own _

private theorem unasked_dispatchAndKeep (key : String) :
    (bus.dispatchAndKeep intent key context).Emits (¬BusEvent.AsksForAccess ·) := by
  apply (unasked_dispatch disabled intent context).bind
  intro result
  cases result with
  | error error => trivial
  | ok output => exact ⟨not_false, fun _ _ => trivial⟩

private theorem unasked_task (call : Call σ ι α) : (call.task bus).Emits (¬BusEvent.AsksForAccess ·) := by
  unfold Call.task
  split
  · unfold dispatchCached
    split
    · exact unasked_dispatch disabled call.intent call.context
    · next key _ =>
      intro _ _
      simp only [Task.bind]
      refine ⟨not_false, ?_⟩
      split
      · exact unasked_dispatchAndKeep disabled call.intent call.context key
      · split
        · exact ⟨not_false, trivial⟩
        · exact ⟨not_false, unasked_dispatchAndKeep disabled call.intent call.context key⟩
  · exact unasked_dispatch disabled call.intent call.context

end Bus

private theorem Call.Course.granted {bus : Bus σ ι α} (disabled : bus.config.authorizationEnabled = false) {call : Call σ ι α}
    {state : BusState σ ι α} {events : List (BusEvent α)} {result : Option (Except DispatchError α)}
    (course : call.Course bus state events result) (violations : List Violation) (trace : IntentTrace) :
    result ≠ some (.error (.authorization violations trace)) := by
  generalize same : some (Except.error (DispatchError.authorization violations trace) : Except DispatchError α) = denial
  rintro rfl
  cases course with
  | kept | misbound | unbound => nomatch same
  | dispatched found course told =>
    cases course with
    | judging => nomatch same
    | refused aside refuses =>
      cases same
      cases refuses with
      | denied elapsed reason enabled => exact ne_true_of_eq_false disabled enabled
    | executed early rows late concludes =>
      cases concludes with
      | unfinished | succeeded => nomatch same
      | failed fault elapsed => cases fault <;> nomatch same

def Unasked (events : List (BusEvent α)) (result : Option (Except DispatchError α)) : Prop :=
  (∀ event ∈ events, ¬event.AsksForAccess) ∧ ∀ violations trace, result ≠ some (.error (.authorization violations trace))

namespace Session

variable {bus : Bus σ ι α}

private theorem unasked_after (disabled : bus.config.authorizationEnabled = false) (start : BusState σ ι α)
    (moves : List (Move σ ι α)) : ((opening start).after bus moves).Tells fun _ => Unasked := by
  have asks (call : Call σ ι α) : (call.task bus).Tells (fun events _ => ∀ event ∈ events, ¬event.AsksForAccess) [] :=
    (Bus.unasked_task disabled call).tells
      (fun _ _ before own => List.forall_mem_append.2 ⟨before, List.forall_mem_singleton.2 own⟩) (List.forall_mem_nil _)
  exact (tells_after asks start moves).and ((courses_after bus start moves).tells fun _ _ _ _ => Call.Course.granted disabled)

/-- Where authorization is disabled, it makes no difference which gate a bus has and which rules of access the intents
have: it is built alike, two runs that differ in nothing else end in the same state, and their calls are seen to do the
same and end in the same way. Nobody is asked for access in either of them, and nobody is denied it. -/
theorem access_has_no_say (disabled : bus.config.authorizationEnabled = false) {handlers used : List (Handler σ ι α)}
    (known : ∀ handler ∈ handlers, handler ∈ used) {application : σ} {start : BusState σ ι α}
    (built : (bus.build handlers application).2 = .ok start) (gate : AuthorizationGate σ) {moves others : List (Move σ ι α)}
    (alike : List.Forall₂ (Move.SameButAccess bus used) moves others) :
    (bus.withGate gate).build handlers application = bus.build handlers application ∧
      ((opening start).after bus moves).SameButAccess bus used ((opening start).after (bus.withGate gate) others) ∧
      ((opening start).after bus moves).Tells (fun _ => Unasked) ∧
      ((opening start).after (bus.withGate gate) others).Tells (fun _ => Unasked) := by
  have off : (bus.withGate gate).config.authorizationEnabled = false := disabled
  refine ⟨?_, sameButAccess_after built disabled known gate alike, unasked_after disabled start moves,
    unasked_after off start others⟩
  have untold (count : Nat) : (bus.withGate gate).readyLog count = bus.readyLog count := by
    simp only [Bus.readyLog, Bus.authorizationEnabled, off, disabled, Bool.false_and]
    rfl
  simp only [Bus.build, untold]
  rfl

/-- A report for everybody, and one for nobody behind a gate for nobody: both are given. -/
theorem access_has_no_say_for_report :
    let bus := { Traffic.publishingBus with config := { BusConfig.standard with authorizationEnabled := false } }
    let gate : AuthorizationGate Unit := ⟨true, fun _ _ _ _ => .done (.denied ⟨"report", "closed", "CLOSED"⟩)⟩
    let used := [Traffic.slowHandler]
    let start : BusState Unit Unit String :=
      ⟨⟨.permissive, Table.empty.insert Traffic.slowReport
        (.of ⟨Traffic.slowReport, Traffic.slowHandler.name⟩ Traffic.slowHandler)⟩, .empty, .empty, .empty, (), 0, 0⟩
    let granted : Call Unit Unit String := ⟨.plain Traffic.slowReport (.fresh .nil 0) (), .empty, false⟩
    let closed : Call Unit Unit String :=
      { granted with intent := granted.intent.withAccess (fun _ => .done (.denied ⟨"report", "secret", "SECRET"⟩)) none }
    let moves := [Move.begin granted 0, .resume 0 40]
    let others := [Move.begin closed 0, .resume 0 40]
    let session := (opening start).after bus moves
    let other := (opening start).after (bus.withGate gate) others
    bus.config.authorizationEnabled = false ∧ (∀ handler ∈ used, handler ∈ used) ∧
      (bus.build used ()).2 = .ok start ∧ List.Forall₂ (Move.SameButAccess bus used) moves others ∧
      session.ended.map (·.result) = [some (.ok "report")] ∧
      (bus.withGate gate).build used () = bus.build used () ∧ session.SameButAccess bus used other ∧
      session.Tells (fun _ => Unasked) ∧ other.Tells (fun _ => Unasked) := by
  intro bus gate used start call closed moves others session other
  have built : (bus.build used ()).2 = .ok start := rfl
  have same : call.intent.SameButAccess bus used closed.intent := by
    refine ⟨⟨_, _, rfl⟩, rfl, fun handler mem _ => ?_⟩
    cases List.mem_singleton.1 mem
    exact ⟨rfl, rfl, rfl, rfl, rfl, rfl⟩
  have alike : List.Forall₂ (Move.SameButAccess bus used) moves others := .cons (.begin same 0) (.cons (.resume 0 40) .nil)
  have ends : session.ended.map (·.result) = [some (.ok "report")] := by decide +kernel
  exact ⟨rfl, fun _ mem => mem, built, alike, ends, access_has_no_say rfl (fun _ mem => mem) built gate alike⟩

end Session

end IntentBus
