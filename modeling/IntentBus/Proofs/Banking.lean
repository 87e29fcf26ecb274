import IntentBus.Proofs.Building
import IntentBus.Proofs.Session
import IntentBus.Proofs.Settlements

/-! The bank in use. Its customers come in any order and do not wait for each other, and still the books are in order
after every turn of every call. -/

namespace IntentBus.Bank

/-- What happens at the counter: a request is made, through the cache or past it, or a call that was made before goes
on or is dropped. -/
inductive Visit
  | ask (request : Request) (provenance : Provenance) (context : ExecutionContext) (cached : Bool) (time : Nat)
  | resume (place time : Nat)
  | drop (place : Nat)

def Visit.move (scope : String) : Visit → Move Ledger Request Reply
  | ask request provenance context cached time => .begin ⟨request.intent scope provenance, context, cached⟩ time
  | resume place time => .resume place time
  | drop place => .drop place

def receipt? (ended : Ended Ledger Request Reply) : Option Receipt :=
  match ended.result with
  | some (.ok reply) => some ⟨ended.call.intent.content, ended.call.context, reply⟩
  | _ => none

def receipts (session : Session Ledger Request Reply) : List Receipt := (session.ended.filterMap receipt?).reverse

/-- The state of the bank at any time: the books are in order, all handlers are at their places, and the ledger is
touched by nothing but a call that ends with a reply. -/
structure Solvent (options : Options) (bus : Bus Ledger Request Reply) (scope : String)
    (session : Session Ledger Request Reply) : Prop where
  books : Books (!options.disableAuthorization) session.state.application (receipts session)
  staffed : ∀ handler ∈ handlers scope, session.state.registry.tryFind handler.type =
    .ok (some ⟨⟨handler.type, handler.name⟩, handler, handler.timeout⟩)
  turns : ∀ visit : Visit, let next := session.step bus (visit.move scope)
    receipts next = receipts session ∧ next.state.application = session.state.application ∨
      ∃ receipt, receipts next = receipts session ++ [receipt]
  refused : ∀ (request : Request) (provenance : Provenance) (context : ExecutionContext) (cached : Bool) (time : Nat),
    let call : Call Ledger Request Reply := ⟨request.intent scope provenance, context, cached⟩
    let run := (call.task bus).run time session.state
    (∀ reply, run.result ≠ some (.ok reply)) → run.state.application = session.state.application

section

variable {limited : Bool} {session next : Session Ledger Request Reply}

private def Pending (limited : Bool) (own : Ongoing Ledger Request Reply) : Prop :=
  (∀ state, holdings (own.release state) = holdings state) ∧
    ∀ state, Settles limited own.call.intent.content own.call.context own.next false state

private inductive Moved (limited : Bool) (session next : Session Ledger Request Reply) : Prop
  | still (unserved : receipts next = receipts session) (same : holdings next.state = holdings session.state)
  | served (receipt : Receipt) (adds : receipts next = receipts session ++ [receipt])
    (same : next.state.registry = session.state.registry)
    (serves : session.state.application.serve receipt.request = (.ok receipt.reply, next.state.application))
    (sound : receipt.request.Sound) (allowed : limited = true → receipt.request.Allowed receipt.context)

private theorem Moved.registry (moved : Moved limited session next) :
    next.state.registry = session.state.registry := by
  cases moved with
  | still _ same => exact congrArg Prod.fst same
  | served _ _ same => exact same

private theorem Moved.books (moved : Moved limited session next)
    (books : Books limited session.state.application (receipts session)) :
    Books limited next.state.application (receipts next) := by
  cases moved with
  | still unserved same =>
    have ledger : next.state.application = session.state.application := congrArg Prod.snd same
    rw [unserved, ledger]
    exact books
  | served receipt adds _ serves sound allowed =>
    rw [adds]
    exact books_serve books sound allowed serves

private theorem moved_turn {call : Call Ledger Request Reply} (seen : List (BusEvent Reply))
    {task : BusTask Ledger Request Reply (Except DispatchError Reply)}
    (pending : ∀ own ∈ session.ongoing, Pending limited own)
    (settles : Settles limited call.intent.content call.context task false session.state) (time : Nat) :
    Moved limited session (session.turn call seen (task.advance time session.state)) ∧
      ∀ own ∈ (session.turn call seen (task.advance time session.state)).ongoing, Pending limited own := by
  have pays := settles.advance time
  generalize task.advance time session.state = ran at pays
  have silent : (false || ran.trace.any fun _ => false) = false := by simp
  rw [silent] at pays
  unfold Session.turn
  cases pause : ran.pause with
  | ended result =>
    rw [pause] at pays
    obtain ⟨served, checked⟩ := pays
    refine ⟨?_, pending⟩
    cases result with
    | error error => exact .still rfl served
    | ok reply =>
      obtain ⟨sound, allowed⟩ := checked ⟨reply, rfl⟩
      exact .served ⟨call.intent.content, call.context, reply⟩ List.reverse_cons served.1 served.2 sound allowed
  | waiting millis age release next =>
    rw [pause] at pays
    obtain ⟨same, released, later⟩ := pays
    exact ⟨.still rfl same, List.forall_mem_cons.2 ⟨⟨released, later⟩, pending⟩⟩
  | stuck release =>
    rw [pause] at pays
    obtain ⟨same, released⟩ := pays
    exact ⟨.still rfl same, List.forall_mem_cons.2 ⟨⟨released, fun _ => ⟨rfl, released⟩⟩, pending⟩⟩

variable (options : Options) (freshId : Nat → String) (draw : Nat → Nat) (scope : String)

private structure Running (registry : Registry Ledger Request Reply) (session : Session Ledger Request Reply) :
    Prop where
  registry : session.state.registry = registry
  pending : ∀ own ∈ session.ongoing, Pending (!options.disableAuthorization) own
  books : Books (!options.disableAuthorization) session.state.application (receipts session)

variable {options} {registry : Registry Ledger Request Reply} (staffed : Staffed registry)

include staffed

private theorem moved_step (running : Running options registry session) (visit : Visit) :
    let next := session.step (bus options freshId draw) (visit.move scope)
    Moved (!options.disableAuthorization) session next ∧
      ∀ own ∈ next.ongoing, Pending (!options.disableAuthorization) own := by
  have others (place : Nat) : ∀ own ∈ session.ongoing.eraseIdx place, Pending (!options.disableAuthorization) own :=
    fun own mem => running.pending own (List.mem_of_mem_eraseIdx mem)
  cases visit with
  | ask request provenance context cached time =>
    refine moved_turn [] running.pending ?_ time
    exact settles_call options freshId draw scope request provenance context session.state
      (running.registry ▸ staffed) cached
  | resume place time =>
    simp only [Visit.move, Session.step]
    cases found : session.ongoing[place]? with
    | none => exact ⟨.still rfl rfl, running.pending⟩
    | some own =>
      have settles := (running.pending own (List.mem_of_getElem? found)).2 session.state
      let rest : Session Ledger Request Reply := { session with ongoing := session.ongoing.eraseIdx place }
      have still : ∀ own ∈ rest.ongoing, Pending (!options.disableAuthorization) own := others place
      obtain ⟨moved, later⟩ := moved_turn own.events still settles time
      refine ⟨?_, later⟩
      cases moved with
      | still unserved same => exact .still unserved same
      | served receipt adds same serves sound allowed => exact .served receipt adds same serves sound allowed
  | drop place =>
    simp only [Visit.move, Session.step]
    cases found : session.ongoing[place]? with
    | none => exact ⟨.still rfl rfl, running.pending⟩
    | some own =>
      have released := (running.pending own (List.mem_of_getElem? found)).1 session.state
      exact ⟨.still rfl released, others place⟩

private theorem running_step (running : Running options registry session) (visit : Visit) :
    Running options registry (session.step (bus options freshId draw) (visit.move scope)) := by
  obtain ⟨moved, pending⟩ := moved_step freshId draw scope staffed running visit
  exact ⟨moved.registry.trans running.registry, pending, moved.books running.books⟩

private theorem running_after (running : Running options registry session) (visits : List Visit) :
    Running options registry (session.after (bus options freshId draw) (visits.map (Visit.move scope))) := by
  induction visits generalizing session with
  | nil => exact running
  | cons visit rest ih => exact ih (running_step freshId draw scope staffed running visit)

private theorem solvent_of_running (running : Running options registry session)
    (found : ∀ handler ∈ handlers scope, registry.tryFind handler.type =
      .ok (some ⟨⟨handler.type, handler.name⟩, handler, handler.timeout⟩)) :
    Solvent options (bus options freshId draw) scope session := by
  refine ⟨running.books, running.registry ▸ found, fun visit => ?_, ?_⟩
  · cases (moved_step freshId draw scope staffed running visit).1 with
    | still unserved same => exact .inl ⟨unserved, congrArg Prod.snd same⟩
    | served receipt adds => exact .inr ⟨receipt, adds⟩
  · intro request provenance context cached time call run refused
    have settles : Settles (!options.disableAuthorization) request context (call.task (bus options freshId draw)) false
        session.state :=
      settles_call options freshId draw scope request provenance context session.state (running.registry ▸ staffed) cached
    have settled := settles.run time
    have same : holdings run.state = holdings session.state := by
      cases result : run.result with
      | none =>
        rw [result] at settled
        exact settled
      | some ended =>
        rw [result] at settled
        cases ended with
        | error error => exact settled.1
        | ok reply => exact absurd result (refused reply)
    exact congrArg Prod.snd same

end

private theorem opens (options : Options) (freshId : Nat → String) (draw : Nat → Nat) (scope : String) :
    ∃ state, ((bus options freshId draw).build (handlers scope) Ledger.empty).2 = .ok state ∧
      state.application = .empty ∧ Staffed state.registry ∧ ∀ handler ∈ handlers scope,
        state.registry.tryFind handler.type = .ok (some ⟨⟨handler.type, handler.name⟩, handler, handler.timeout⟩) := by
  have usable : ∀ handler ∈ handlers scope, ¬handler.type.Blank ∧ ¬handler.type.Spaced := by
    simp only [IntentType.blank_iff, IntentType.spaced_iff, handlers, List.forall_mem_cons, handler, Handler.plain,
      openType, withdrawType, balanceType]
    decide
  have distinct : (handlers scope).Pairwise (·.type.name ≠ ·.type.name) := by
    simp only [handlers, List.pairwise_cons, List.forall_mem_cons, handler, Handler.plain, openType, withdrawType,
      balanceType]
    decide
  have tellers : ∀ handler ∈ handlers scope, Teller handler :=
    List.forall_mem_cons.2 ⟨⟨_, none, rfl⟩, List.forall_mem_cons.2 ⟨⟨_, none, rfl⟩,
      List.forall_mem_cons.2 ⟨⟨_, some (.ofMillis 500), rfl⟩, List.forall_mem_nil _⟩⟩⟩
  obtain ⟨registry, succeeds, found, only⟩ := Registry.finds_of_distinct options.busConfig.registrationMode usable distinct
  exact ⟨_, Bus.build_eq_ok.2 ⟨registry, succeeds, rfl⟩, rfl, fun type bound held => tellers _ (only type bound held), found⟩

/-- The bank can be opened under any options. Whoever then asks for what, in whatever context and while whichever
other calls are under way, the books stay in order: accounts get the ids that come next, no withdrawal takes more than
there is or than is allowed, balances are what was paid in less what was taken, and a call without a reply has changed
nothing. -/
theorem solvent_after (options : Options) (freshId : Nat → String) (draw : Nat → Nat) (scope : String) :
    ∃ state, ((bus options freshId draw).build (handlers scope) Ledger.empty).2 = .ok state ∧
      ∀ visits : List Visit, Solvent options (bus options freshId draw) scope
        ((Session.opening state).after (bus options freshId draw) (visits.map (Visit.move scope))) := by
  obtain ⟨state, built, empty, staffed, found⟩ := opens options freshId draw scope
  refine ⟨state, built, fun visits => ?_⟩
  have books : Books (!options.disableAuthorization) (Session.opening state).state.application
      (receipts (Session.opening state)) := empty ▸ books_empty _
  have start : Running options state.registry (Session.opening state) := ⟨rfl, List.forall_mem_nil _, books⟩
  exact solvent_of_running freshId draw scope staffed (running_after freshId draw scope staffed start visits) found

/-- An account with a deposit of 42 is opened; of it 100 are asked for, which is more than allowed, then 45, which is
more than there is, and 10 while 45 are tried again. -/
theorem solvent_after_rash_withdrawals :
    let options : Options := ⟨false, true, 0, 3, 50, .text, ""⟩
    let bus := bus options (fun _ => "id") id
    let ask (request : Request) : Visit := .ask request (.fresh .nil 0) .empty false 0
    let visits := [ask (.open "Ada" 42), ask (.withdraw "A1" 100), ask (.withdraw "A1" 45), ask (.withdraw "A1" 10),
      .resume 0 25, .resume 0 75, ask (.balance "A1")]
    ∃ state, (bus.build (handlers "") Ledger.empty).2 = .ok state ∧
      let session := (Session.opening state).after bus (visits.map (Visit.move ""))
      Solvent options bus "" session ∧ session.ended.length = 5 ∧
        (receipts session).map (·.reply) = [.account "A1", .amount 32, .amount 32] := by
  intro options bus ask visits
  obtain ⟨state, built, solvent⟩ := solvent_after options (fun _ => "id") id ""
  have ends : (bus.build (handlers "") Ledger.empty).2.map (fun state =>
      let session := (Session.opening state).after bus (visits.map (Visit.move ""))
      (session.ended.length, (receipts session).map (·.reply))) =
        .ok (5, [.account "A1", .amount 32, .amount 32]) := by
    decide +kernel
  rw [built] at ends
  obtain ⟨five, replies⟩ := Prod.mk.inj (Except.ok.inj ends)
  exact ⟨state, built, solvent visits, five, replies⟩

end IntentBus.Bank
