import IntentBus.Proofs.Session
import IntentBus.Proofs.Scheduling
import IntentBus.Proofs.Traffic

/-! The schedule of many calls as moves of a session: calls that take turns by their timers, some of which are dropped after
a time, are calls that begin, go on and are dropped one move after the other. What holds of all sessions, or of all that can
happen to a bus, so holds of each schedule. -/

namespace IntentBus

variable {σ ι α β : Type}

/-- What a call asks for that is dropped after some time, or never. -/
def Call.limited (bus : Bus σ ι α) (call : Call σ ι α) (limit : Option Nat) :
    BusTask σ ι α (Option (Except DispatchError α)) :=
  match limit with
  | none => (call.task bus).map some
  | some limit => (call.task bus).within limit

namespace Session

/-- A session in which a call, of which something was seen before, has had a turn as one that may be dropped. -/
inductive Turned (session : Session σ ι α) (call : Call σ ι α) (seen : List (BusEvent α))
    (ran : Advance (BusState σ ι α) (BusEvent α) (Option (Except DispatchError α))) : Session σ ι α → Prop
  | ended {result : Option (Except DispatchError α)} (ends : ran.pause = .ended result) :
    Turned session call seen ran
      ⟨ran.state, session.ongoing, ⟨call, seen ++ ran.trace.map (·.event), result⟩ :: session.ended⟩
  | waiting {millis age : Nat} {released release : BusState σ ι α → BusState σ ι α}
    {limited : BusTask σ ι α (Option (Except DispatchError α))} {next : BusTask σ ι α (Except DispatchError α)}
    (waits : ran.pause = .waiting millis age released limited) (limits : Task.Limits release next limited) :
    Turned session call seen ran
      ⟨ran.state, ⟨call, seen ++ ran.trace.map (·.event), release, next⟩ :: session.ongoing, session.ended⟩
  | stuck {released release : BusState σ ι α → BusState σ ι α} {next : BusTask σ ι α (Except DispatchError α)}
    (stops : ran.pause = .stuck released) :
    Turned session call seen ran
      ⟨ran.state, ⟨call, seen ++ ran.trace.map (·.event), release, next⟩ :: session.ongoing, session.ended⟩

variable {bus : Bus σ ι α} {session : Session σ ι α}

section

variable {call : Call σ ι α} {seen : List (BusEvent α)}
  {ran : Advance (BusState σ ι α) (BusEvent α) (Option (Except DispatchError α))} {later : Session σ ι α}
  {release : BusState σ ι α → BusState σ ι α}

private theorem Turned.of_ended {result : Option (Except DispatchError α)} (turned : session.Turned call seen ran later)
    (ends : ran.pause = .ended result) :
    later = ⟨ran.state, session.ongoing, ⟨call, seen ++ ran.trace.map (·.event), result⟩ :: session.ended⟩ := by
  cases turned with
  | ended same =>
    cases ends.symm.trans same
    rfl
  | waiting waits => nomatch ends.symm.trans waits
  | stuck stops => nomatch ends.symm.trans stops

private theorem Turned.of_waiting {millis age : Nat} {limited : BusTask σ ι α (Option (Except DispatchError α))}
    (turned : session.Turned call seen ran later) (waits : ran.pause = .waiting millis age release limited) :
    ∃ own : Ongoing σ ι α, own.call = call ∧ own.events = seen ++ ran.trace.map (·.event) ∧
      Task.Limits own.release own.next limited ∧ later = ⟨ran.state, own :: session.ongoing, session.ended⟩ := by
  cases turned with
  | ended ends => nomatch waits.symm.trans ends
  | waiting same limits =>
    cases waits.symm.trans same
    exact ⟨_, rfl, rfl, limits, rfl⟩
  | stuck stops => nomatch waits.symm.trans stops

private theorem Turned.of_stuck (turned : session.Turned call seen ran later) (stops : ran.pause = .stuck release) :
    ∃ own : Ongoing σ ι α, own.call = call ∧ own.events = seen ++ ran.trace.map (·.event) ∧
      later = ⟨ran.state, own :: session.ongoing, session.ended⟩ := by
  cases turned with
  | ended ends => nomatch stops.symm.trans ends
  | waiting waits => nomatch stops.symm.trans waits
  | stuck => exact ⟨_, rfl, rfl, rfl⟩

end

/-- Moves in two parts are made one part after the other. -/
theorem after_append (first second : List (Move σ ι α)) :
    session.after bus (first ++ second) = (session.after bus first).after bus second :=
  List.foldl_append

private theorem turn_of_rest {call : Call σ ι α} {seen : List (BusEvent α)}
    {own : Advance (BusState σ ι α) (BusEvent α) (Except DispatchError α)} {release : BusState σ ι α → BusState σ ι α}
    {next : BusTask σ ι α (Except DispatchError α)} (stops : own.pause.rest? = some (release, next)) :
    session.turn call seen own =
      ⟨own.state, ⟨call, seen ++ own.trace.map (·.event), release, next⟩ :: session.ongoing, session.ended⟩ := by
  unfold turn
  cases pause : own.pause with
  | ended result => simp [pause, Pause.rest?] at stops
  | waiting millis age release next | stuck release =>
    rw [pause] at stops
    cases stops
    rfl

private theorem turned_of_accords (bus : Bus σ ι α) (session : Session σ ι α) (call : Call σ ι α)
    (seen : List (BusEvent α)) {own : Advance (BusState σ ι α) (BusEvent α) (Except DispatchError α)}
    {ran : Advance (BusState σ ι α) (BusEvent α) (Option (Except DispatchError α))} (accords : Task.Accords own ran) :
    ∃ moves, session.Turned call seen ran ((session.turn call seen own).after bus moves) := by
  cases accords with
  | @ended result ends =>
    refine ⟨[], ?_⟩
    have turned : session.turn call seen own =
        ⟨own.state, session.ongoing, ⟨call, seen ++ own.trace.map (·.event), some result⟩ :: session.ended⟩ := by
      unfold turn
      rw [ends]
    rw [turned]
    exact .ended rfl
  | waiting millis age stops limits =>
    refine ⟨[], ?_⟩
    rw [turn_of_rest stops]
    exact .waiting rfl limits
  | stuck stops =>
    refine ⟨[], ?_⟩
    rw [turn_of_rest stops]
    exact .stuck rfl
  | dropped stops =>
    refine ⟨[.drop 0], ?_⟩
    rw [turn_of_rest stops]
    exact .ended rfl

/-- How a task of a schedule stands to its call: the call has not begun, or the task is what is left of it. -/
inductive Fits (bus : Bus σ ι α) (call : Call σ ι α) :
    Option (Ongoing σ ι α) → BusTask σ ι α (Option (Except DispatchError α)) → Prop
  | fresh (limit : Option Nat) : Fits bus call none (call.limited bus limit)
  | ongoing {own : Ongoing σ ι α} {limited : BusTask σ ι α (Option (Except DispatchError α))} (same : own.call = call)
    (limits : Task.Limits own.release own.next limited) : Fits bus call (some own) limited

/-- A task of a schedule with its call, and with what has come of the call in a session. -/
structure Row (bus : Bus σ ι α) where
  entry : Schedule.Entry (BusState σ ι α) (BusEvent α) (Option (Except DispatchError α))
  call : Call σ ι α
  own : Option (Ongoing σ ι α)
  fits : Fits bus call own entry.task

def Row.seen (row : Row bus) : List (BusEvent α) := (row.own.map (·.events)).getD []

private theorem accords_limited (bus : Bus σ ι α) (call : Call σ ι α) (limit : Option Nat) (time : Nat)
    (state : BusState σ ι α) :
    Task.Accords ((call.task bus).advance time state) ((call.limited bus limit).advance time state) := by
  cases limit with
  | none => exact Task.accords_map _ time state
  | some limit => exact Task.accords_bounded _ 0 limit time state

private theorem perm_eraseIdx {list : List β} {place : Nat} {element : β} (found : list[place]? = some element) :
    list.Perm (element :: list.eraseIdx place) := by
  obtain ⟨within, rfl⟩ := List.getElem?_eq_some_iff.1 found
  exact (List.getElem_cons_eraseIdx_perm within).symm

private theorem turned_of_resume {own : Ongoing σ ι α} {place : Nat} (found : session.ongoing[place]? = some own)
    (due : Nat) {ran : Advance (BusState σ ι α) (BusEvent α) (Option (Except DispatchError α))}
    (accords : Task.Accords (own.next.advance due session.state) ran) :
    ∃ moves, Turned { session with ongoing := session.ongoing.eraseIdx place } own.call own.events ran
      (session.after bus moves) := by
  obtain ⟨moves, turned⟩ := turned_of_accords bus { session with ongoing := session.ongoing.eraseIdx place } own.call
    own.events accords
  refine ⟨.resume place due :: moves, ?_⟩
  rw [after, List.foldl_cons, step, found]
  exact turned

private theorem turned_of_fits {call : Call σ ι α} {own : Option (Ongoing σ ι α)}
    {task : BusTask σ ι α (Option (Except DispatchError α))} (fits : Fits bus call own task) (due : Nat)
    (session : Session σ ι α) {others : List (Ongoing σ ι α)} (ongoing : session.ongoing.Perm (own.toList ++ others)) :
    ∃ (moves : List (Move σ ι α)) (rest : Session σ ι α), rest.ongoing.Perm others ∧ rest.ended = session.ended ∧
      rest.Turned call ((own.map (·.events)).getD []) (task.advance due session.state) (session.after bus moves) := by
  cases fits with
  | fresh limit =>
    obtain ⟨moves, turned⟩ := turned_of_accords bus session call [] (accords_limited bus call limit due session.state)
    exact ⟨.begin call due :: moves, session, ongoing, rfl, turned⟩
  | @ongoing own _ same limits =>
    subst same
    obtain ⟨place, found⟩ := List.mem_iff_getElem?.1 (ongoing.mem_iff.2 List.mem_cons_self)
    have erased : (session.ongoing.eraseIdx place).Perm others := ((perm_eraseIdx found).symm.trans ongoing).cons_inv
    cases limits with
    | free =>
      obtain ⟨moves, turned⟩ := turned_of_resume found due (Task.accords_map own.next due session.state)
      exact ⟨moves, { session with ongoing := session.ongoing.eraseIdx place }, erased, rfl, turned⟩
    | bounded elapsed left =>
      obtain ⟨moves, turned⟩ :=
        turned_of_resume found due (Task.accords_bounded own.next elapsed left due session.state)
      exact ⟨moves, { session with ongoing := session.ongoing.eraseIdx place }, erased, rfl, turned⟩
    | drop =>
      refine ⟨[.drop place], { session with ongoing := session.ongoing.eraseIdx place }, erased, rfl, ?_⟩
      have dropped : session.after bus [.drop place] =
          ⟨own.release session.state, session.ongoing.eraseIdx place,
            ⟨own.call, own.events ++ [], none⟩ :: session.ended⟩ := by
        rw [List.append_nil, after, List.foldl_cons, step, found]
        rfl
      rw [dropped]
      exact .ended rfl

private theorem perm_pick {κ : Type} {f : β → κ} {element : κ} {list : List β} {others : List κ}
    (among : (list.map f).Perm (element :: others)) :
    ∃ first rest, list.Perm (first :: rest) ∧ f first = element ∧ (rest.map f).Perm others := by
  obtain ⟨first, mem, rfl⟩ := List.mem_map.1 (among.mem_iff.2 List.mem_cons_self)
  obtain ⟨earlier, later, rfl⟩ := List.append_of_mem mem
  have picked : (earlier ++ first :: later).Perm (first :: (earlier ++ later)) := List.perm_middle
  exact ⟨first, earlier ++ later, picked, rfl, ((picked.map f).symm.trans among).cons_inv⟩

def Told (rows : List (Row bus)) (outcome : Schedule.Outcome (BusState σ ι α) (BusEvent α) (Option (Except DispatchError α)))
    (name : Nat) (call : Call σ ι α) (events : List (BusEvent α)) : Prop :=
  ∃ row ∈ rows, row.entry.name = name ∧ row.call = call ∧ events = row.seen ++ outcome.eventsOf name

/-- What has become of a session by the calls of a schedule, beside the calls that were at a stop before. -/
structure Follows (rows : List (Row bus)) (idle : List (Ongoing σ ι α)) (session : Session σ ι α)
    (outcome : Schedule.Outcome (BusState σ ι α) (BusEvent α) (Option (Except DispatchError α)))
    (later : Session σ ι α) : Prop where
  state : later.state = outcome.state
  ended : ∃ added, later.ended = added ++ session.ended ∧
    List.Forall₂ (fun told ended => ended.result = told.2.1 ∧ Told rows outcome told.1 ended.call ended.events)
      outcome.results added.reverse
  ongoing : ∃ names stuck, later.ongoing.Perm (stuck ++ idle) ∧
    List.Forall₂ (fun name own => Told rows outcome name own.call own.events) names stuck ∧
    (names ++ outcome.results.map (·.1)).Perm (rows.map (·.entry.name))

section

variable {rows rest : List (Row bus)} {row : Row bus} {idle : List (Ongoing σ ι α)}
  {outcome later : Schedule.Outcome (BusState σ ι α) (BusEvent α) (Option (Except DispatchError α))}

private theorem names_of_picked (picked : rows.Perm (row :: rest)) :
    (row.entry.name :: rest.map (·.entry.name)).Perm (rows.map (·.entry.name)) :=
  (picked.map fun row : Row bus => row.entry.name).symm

private theorem apart_of_distinct (picked : rows.Perm (row :: rest))
    (distinct : (rows.map (·.entry.name)).Nodup) :
    (rest.map (·.entry.name)).Nodup ∧ ∀ entry ∈ rest.map (·.entry), entry.name ≠ row.entry.name := by
  have distinct := List.nodup_cons.1 ((names_of_picked picked).nodup_iff.2 distinct)
  refine ⟨distinct.2, fun entry mem same => distinct.1 ?_⟩
  obtain ⟨other, found, rfl⟩ := List.mem_map.1 mem
  exact List.mem_map.2 ⟨other, found, same⟩

private theorem Told.of_rest {trace : List (Moment (BusState σ ι α) (BusEvent α))}
    (picked : rows.Perm (row :: rest)) (distinct : (rows.map (·.entry.name)).Nodup) {name : Nat} {call : Call σ ι α}
    {events : List (BusEvent α)} (told : Told rest later name call events) :
    Told rows (later.after row.entry.name trace) name call events := by
  obtain ⟨other, mem, rfl, rfl, rfl⟩ := told
  have apart := (apart_of_distinct picked distinct).2 other.entry (List.mem_map.2 ⟨other, mem, rfl⟩)
  exact ⟨other, picked.mem_iff.2 (.tail _ mem), rfl, rfl, by rw [Schedule.eventsOf_after_other _ _ apart.symm]⟩

private theorem Told.of_again {again : Row bus} {trace : List (Moment (BusState σ ι α) (BusEvent α))}
    (picked : rows.Perm (row :: rest)) (distinct : (rows.map (·.entry.name)).Nodup)
    (named : again.entry.name = row.entry.name) (same : again.call = row.call)
    (seen : again.seen = row.seen ++ trace.map (·.event)) {name : Nat} {call : Call σ ι α}
    {events : List (BusEvent α)} (told : Told (again :: rest) later name call events) :
    Told rows (later.after row.entry.name trace) name call events := by
  obtain ⟨other, mem, rfl, rfl, rfl⟩ := told
  rcases List.mem_cons.1 mem with rfl | mem
  · refine ⟨row, picked.mem_iff.2 List.mem_cons_self, named.symm, same.symm, ?_⟩
    rw [named, Schedule.eventsOf_after, seen, List.append_assoc]
  · exact .of_rest picked distinct ⟨other, mem, rfl, rfl, rfl⟩

private theorem Told.of_end {trace : List (Moment (BusState σ ι α) (BusEvent α))} (picked : rows.Perm (row :: rest))
    (silent : later.eventsOf row.entry.name = []) :
    Told rows (later.after row.entry.name trace) row.entry.name row.call (row.seen ++ trace.map (·.event)) :=
  ⟨row, picked.mem_iff.2 List.mem_cons_self, rfl, rfl, by rw [Schedule.eventsOf_after, silent, List.append_nil]⟩

variable {session next final : Session σ ι α} {trace : List (Moment (BusState σ ι α) (BusEvent α))}

private theorem Follows.ended_before (picked : rows.Perm (row :: rest)) (distinct : (rows.map (·.entry.name)).Nodup)
    (silent : later.eventsOf row.entry.name = []) (follows : Follows rest idle next later final)
    {result : Option (Except DispatchError α)}
    (ends : next.ended = ⟨row.call, row.seen ++ trace.map (·.event), result⟩ :: session.ended) :
    Follows rows idle session
      { later.after row.entry.name trace with results := (row.entry.name, result, row.entry.due) :: later.results }
      final := by
  obtain ⟨state, ⟨added, ended, told⟩, ⟨names, stuck, ongoing, stays, named⟩⟩ := follows
  refine ⟨state, ⟨added ++ [⟨row.call, row.seen ++ trace.map (·.event), result⟩], ?_, ?_⟩,
    ⟨names, stuck, ongoing, stays.imp fun _ _ told => told.of_rest picked distinct, ?_⟩⟩
  · rw [ended, ends, List.append_assoc, List.singleton_append]
  · rw [List.reverse_append]
    exact .cons ⟨rfl, .of_end picked silent⟩ (told.imp fun _ _ told => ⟨told.1, told.2.of_rest picked distinct⟩)
  · have whole : (row.entry.name :: (names ++ later.results.map (·.1))).Perm (rows.map (·.entry.name)) :=
      (named.cons _).trans (names_of_picked picked)
    exact List.perm_middle.trans whole

private theorem Follows.stuck_before (picked : rows.Perm (row :: rest)) (distinct : (rows.map (·.entry.name)).Nodup)
    (silent : later.eventsOf row.entry.name = []) {own : Ongoing σ ι α} (same : own.call = row.call)
    (seen : own.events = row.seen ++ trace.map (·.event)) (follows : Follows rest (own :: idle) next later final)
    (ends : next.ended = session.ended) :
    Follows rows idle session (later.after row.entry.name trace) final := by
  obtain ⟨state, ⟨added, ended, told⟩, ⟨names, stuck, ongoing, stays, named⟩⟩ := follows
  refine ⟨state, ⟨added, ended.trans (by rw [ends]), told.imp fun _ _ told => ⟨told.1, told.2.of_rest picked distinct⟩⟩,
    ⟨row.entry.name :: names, own :: stuck, ongoing.trans List.perm_middle, ?_, ?_⟩⟩
  · refine .cons ?_ (stays.imp fun _ _ told => told.of_rest picked distinct)
    rw [same, seen]
    exact .of_end picked silent
  · exact (named.cons _).trans (names_of_picked picked)

private theorem Follows.waiting_before (picked : rows.Perm (row :: rest)) (distinct : (rows.map (·.entry.name)).Nodup)
    {again : Row bus} (named : again.entry.name = row.entry.name) (same : again.call = row.call)
    (seen : again.seen = row.seen ++ trace.map (·.event)) (follows : Follows (again :: rest) idle next later final)
    (ends : next.ended = session.ended) :
    Follows rows idle session (later.after row.entry.name trace) final := by
  obtain ⟨state, ⟨added, ended, told⟩, ⟨names, stuck, ongoing, stays, complete⟩⟩ := follows
  refine ⟨state, ⟨added, ended.trans (by rw [ends]),
      told.imp fun _ _ told => ⟨told.1, told.2.of_again picked distinct named same seen⟩⟩,
    ⟨names, stuck, ongoing, stays.imp fun _ _ told => told.of_again picked distinct named same seen, ?_⟩⟩
  rw [List.map_cons, named] at complete
  exact complete.trans (names_of_picked picked)

end

private theorem turned_of_row {rows rest : List (Row bus)} {row : Row bus} {idle : List (Ongoing σ ι α)}
    (session : Session σ ι α) (picked : rows.Perm (row :: rest))
    (ongoing : session.ongoing.Perm (rows.filterMap (·.own) ++ idle)) :
    ∃ (moves : List (Move σ ι α)) (others : Session σ ι α), others.ongoing.Perm (rest.filterMap (·.own) ++ idle) ∧
      others.ended = session.ended ∧
      others.Turned row.call row.seen (row.entry.task.advance row.entry.due session.state) (session.after bus moves) := by
  have apart : (rows.filterMap (·.own)).Perm (row.own.toList ++ rest.filterMap (·.own)) := by
    refine (picked.filterMap (·.own)).trans (.of_eq ?_)
    rw [List.filterMap_cons]
    cases row.own <;> rfl
  refine turned_of_fits row.fits row.entry.due session (ongoing.trans ?_)
  rw [← List.append_assoc]
  exact apart.append_right idle

private theorem follows_of_plays {time : Nat} {state : BusState σ ι α}
    {entries : List (Schedule.Entry (BusState σ ι α) (BusEvent α) (Option (Except DispatchError α)))}
    {outcome : Schedule.Outcome (BusState σ ι α) (BusEvent α) (Option (Except DispatchError α))}
    (plays : Schedule.Plays time state entries outcome) {rows : List (Row bus)} {idle : List (Ongoing σ ι α)}
    {session : Session σ ι α} (among : (rows.map (·.entry)).Perm entries)
    (distinct : (rows.map (·.entry.name)).Nodup) (current : session.state = state)
    (ongoing : session.ongoing.Perm (rows.filterMap (·.own) ++ idle)) :
    ∃ moves, Follows rows idle session outcome (session.after bus moves) := by
  induction plays generalizing rows idle session with
  | finished time state =>
    cases List.map_eq_nil_iff.1 among.eq_nil
    exact ⟨[], current, ⟨[], rfl, .nil⟩, ⟨[], [], ongoing, .nil, .nil⟩⟩
  | ended split ends later ih =>
    obtain ⟨row, rest, picked, rfl, others⟩ := perm_pick (among.trans split)
    obtain ⟨distinctRest, absent⟩ := apart_of_distinct picked distinct
    have silent := later.eventsOf fun entry mem => absent entry (others.mem_iff.2 mem)
    obtain ⟨first, before, stay, same, turned⟩ := turned_of_row session picked ongoing
    subst current
    obtain ⟨moves, follows⟩ := @ih rest idle ⟨_, before.ongoing, _ :: before.ended⟩ others distinctRest rfl stay
    refine ⟨first ++ moves, ?_⟩
    rw [after_append, turned.of_ended ends]
    exact .ended_before picked distinct silent follows (by rw [same])
  | @waiting _ _ _ _ _ entry again _ _ _ _ split waits named timed still later ih =>
    obtain ⟨row, rest, picked, rfl, others⟩ := perm_pick (among.trans split)
    obtain ⟨first, before, stay, same, turned⟩ := turned_of_row session picked ongoing
    subst current
    obtain ⟨own, called, seen, limits, turn⟩ := turned.of_waiting waits
    let fresh : Row bus := ⟨again, row.call, some own, .ongoing called limits⟩
    have whole : ((fresh :: rest).map (·.entry)).Perm _ := (others.cons again).trans still.symm
    have renamed : ((fresh :: rest).map (·.entry.name)).Nodup := by
      rw [List.map_cons, named]
      exact (names_of_picked picked).nodup_iff.2 distinct
    obtain ⟨moves, follows⟩ := @ih _ idle ⟨_, own :: before.ongoing, before.ended⟩ whole renamed rfl (stay.cons own)
    refine ⟨first ++ moves, ?_⟩
    rw [after_append, turn]
    have alike : fresh.entry.name = row.entry.name ∧ fresh.call = row.call := ⟨named, rfl⟩
    exact .waiting_before picked distinct alike.1 alike.2 seen follows same
  | stuck split stops later ih =>
    obtain ⟨row, rest, picked, rfl, others⟩ := perm_pick (among.trans split)
    obtain ⟨distinctRest, absent⟩ := apart_of_distinct picked distinct
    have silent := later.eventsOf fun entry mem => absent entry (others.mem_iff.2 mem)
    obtain ⟨first, before, stay, same, turned⟩ := turned_of_row session picked ongoing
    subst current
    obtain ⟨own, called, seen, turn⟩ := turned.of_stuck stops
    have stays := (stay.cons own).trans List.perm_middle.symm
    obtain ⟨moves, follows⟩ := @ih rest (own :: idle) ⟨_, own :: before.ongoing, before.ended⟩ others distinctRest rfl
      stays
    refine ⟨first ++ moves, ?_⟩
    rw [after_append, turn]
    exact .stuck_before picked distinct silent called seen follows same

/-- How a session has gone on by a schedule of calls: those that came to an end have done so in the order of the
schedule, with its results, all others wait for good, and the same was seen of each call. -/
structure Scheduled (calls : List (Call σ ι α))
    (outcome : Schedule.Outcome (BusState σ ι α) (BusEvent α) (Option (Except DispatchError α)))
    (session later : Session σ ι α) : Prop where
  state : later.state = outcome.state
  ended : ∃ added, later.ended = added ++ session.ended ∧
    List.Forall₂ (fun told ended => ended.result = told.2.1 ∧ calls[told.1]? = some ended.call ∧
      ended.events = outcome.eventsOf told.1) outcome.results added.reverse
  ongoing : ∃ names stuck, later.ongoing.Perm (stuck ++ session.ongoing) ∧
    List.Forall₂ (fun name own => calls[name]? = some own.call ∧ own.events = outcome.eventsOf name) names stuck ∧
    (names ++ outcome.results.map (·.1)).Perm (List.range calls.length)

def fresh (bus : Bus σ ι α) (calls : List (Call σ ι α × Option Nat)) (time : Nat) : List (Row bus) :=
  calls.mapIdx fun place bounded =>
    ⟨⟨place, time, place, [], bounded.1.limited bus bounded.2⟩, bounded.1, none, .fresh bounded.2⟩

private theorem told_of_fresh {calls : List (Call σ ι α × Option Nat)} {time name : Nat} {call : Call σ ι α}
    {events : List (BusEvent α)}
    {outcome : Schedule.Outcome (BusState σ ι α) (BusEvent α) (Option (Except DispatchError α))}
    (told : Told (fresh bus calls time) outcome name call events) :
    (calls.map (·.1))[name]? = some call ∧ events = outcome.eventsOf name := by
  obtain ⟨row, mem, rfl, rfl, rfl⟩ := told
  obtain ⟨place, within, rfl⟩ := List.mem_mapIdx.1 mem
  exact ⟨by simp [within], rfl⟩

/-- A schedule of calls, each of which may be dropped after a time of its own, is some moves of the session. -/
theorem scheduled_after (bus : Bus σ ι α) (calls : List (Call σ ι α × Option Nat)) (time : Nat) (session : Session σ ι α) :
    ∃ moves, Scheduled (calls.map (·.1))
      (Schedule.run (calls.map fun bounded => bounded.1.limited bus bounded.2) time session.state) session
      (session.after bus moves) := by
  have entries : (fresh bus calls time).map (·.entry) =
      (calls.map fun bounded => bounded.1.limited bus bounded.2).mapIdx
        fun place task => ⟨place, time, place, [], task⟩ :=
    List.ext_getElem (by simp [fresh]) fun place _ _ => by simp [fresh]
  have names : (fresh bus calls time).map (·.entry.name) = List.range calls.length :=
    List.ext_getElem (by simp [fresh]) fun place _ _ => by simp [fresh]
  have unbegun : (fresh bus calls time).filterMap (·.own) = [] :=
    List.filterMap_eq_nil_iff.2 fun row mem => by
      obtain ⟨place, within, rfl⟩ := List.mem_mapIdx.1 mem
      rfl
  obtain ⟨moves, state, ⟨added, ended, told⟩, ⟨stopped, stuck, ongoing, stays, complete⟩⟩ :=
    follows_of_plays (Schedule.plays_runFrom _ time session.state _) (.of_eq entries) (names ▸ List.nodup_range) rfl
      (.of_eq (by rw [unbegun, List.nil_append]))
  refine ⟨moves, state, ⟨added, ended, ?_⟩, ⟨stopped, stuck, ongoing, ?_, ?_⟩⟩
  · exact told.imp fun _ _ told => ⟨told.1, told_of_fresh told.2⟩
  · exact stays.imp fun _ _ told => told_of_fresh told
  · rw [List.length_map, ← names]
    exact complete

end Session

def Ongoing.pending (own : Ongoing σ ι α) : Pending σ ι α := ⟨own.call.intent.name, own.events, own.release, own.next⟩

def Ended.invocation (ended : Ended σ ι α) : Invocation α := ⟨ended.call.intent.name, ended.events, ended.result⟩

namespace Session

def traffic (session : Session σ ι α) : Traffic σ ι α :=
  ⟨session.state, session.ongoing.map (·.pending), session.ended.map (·.invocation)⟩

private theorem traffic_turn (session : Session σ ι α) (call : Call σ ι α) (seen : List (BusEvent α))
    (ran : Advance (BusState σ ι α) (BusEvent α) (Except DispatchError α)) :
    (session.turn call seen ran).traffic = session.traffic.turn call.intent.name seen ran := by
  unfold turn Traffic.turn
  cases ran.pause <;> rfl

private theorem pending_of_place {session : Session σ ι α} {place : Nat} {own : Ongoing σ ι α}
    (found : session.ongoing[place]? = some own) :
    ∃ earlier later, session.traffic.pending = earlier ++ own.pending :: later ∧
      (session.ongoing.eraseIdx place).map (·.pending) = earlier ++ later := by
  obtain ⟨within, rfl⟩ := List.getElem?_eq_some_iff.1 found
  refine ⟨(session.ongoing.take place).map (·.pending), (session.ongoing.drop (place + 1)).map (·.pending), ?_, ?_⟩
  · rw [← List.map_cons, ← List.map_append, List.getElem_cons_drop, List.take_append_drop]
    rfl
  · rw [← List.map_append, List.eraseIdx_eq_take_drop_succ]

/-- A move is a step of the traffic, or changes nothing. -/
theorem steps_of_move (bus : Bus σ ι α) (session : Session σ ι α) (move : Move σ ι α) :
    Traffic.Steps bus session.traffic (session.step bus move).traffic := by
  cases move with
  | begin call time =>
    rw [step, traffic_turn, Call.task]
    split
    · exact .single (.dispatchCached call.intent call.context time)
    · exact .single (.dispatch call.intent call.context time)
  | resume place time =>
    rw [step]
    split
    · exact .refl
    · next own found =>
      obtain ⟨earlier, later, waits, others⟩ := pending_of_place found
      have resumed : Traffic.Step bus session.traffic _ := Traffic.Step.resume own.pending time waits
      rw [← others] at resumed
      rw [traffic_turn]
      exact .single resumed
  | drop place =>
    rw [step]
    split
    · exact .refl
    · next own found =>
      obtain ⟨earlier, later, waits, others⟩ := pending_of_place found
      have dropped : Traffic.Step bus session.traffic _ := Traffic.Step.drop own.pending waits
      rw [← others] at dropped
      exact .single dropped
  | register handler =>
    rw [step]
    split
    · exact .refl
    · next succeeds => exact .single (.register handler succeeds)
  | unregister type => exact .single (.unregister type)
  | outside application => exact .single (.outside application session.state.cache)

/-- All moves of a session are steps of the traffic of its bus. -/
theorem steps_of_moves (bus : Bus σ ι α) (session : Session σ ι α) (moves : List (Move σ ι α)) :
    Traffic.Steps bus session.traffic (session.after bus moves).traffic := by
  induction moves generalizing session with
  | nil => exact .refl
  | cons move moves ih => exact (steps_of_move bus session move).trans (ih (session.step bus move))

end Session

/-- A schedule of calls is steps of the traffic of the bus, and each call that comes to an end is one of its
invocations, with the result and with all that was seen of it. -/
theorem Traffic.steps_of_schedule (bus : Bus σ ι α) (calls : List (Call σ ι α × Option Nat)) (time : Nat)
    (state : BusState σ ι α) :
    let outcome := Schedule.run (calls.map fun bounded => bounded.1.limited bus bounded.2) time state
    ∃ traffic, Traffic.Steps bus (Traffic.opening state) traffic ∧ traffic.state = outcome.state ∧
      List.Forall₂ (fun told invocation => invocation.result = told.2.1 ∧
        (∃ call limit, calls[told.1]? = some (call, limit) ∧ invocation.intent = call.intent.name) ∧
        invocation.events = outcome.eventsOf told.1) outcome.results traffic.finished.reverse := by
  obtain ⟨moves, state_eq, ⟨added, ended, told⟩, _⟩ := Session.scheduled_after bus calls time (Session.opening state)
  refine ⟨_, Session.steps_of_moves bus (Session.opening state) moves, state_eq, ?_⟩
  have finished : ((Session.opening state).after bus moves).traffic.finished.reverse =
      added.reverse.map (·.invocation) := by
    rw [Session.traffic, ended, Session.opening, List.append_nil, List.map_reverse]
  rw [finished, List.forall₂_map_right_iff]
  refine told.imp fun told ended same => ⟨same.1, ?_, same.2.2⟩
  obtain ⟨bounded, found, call⟩ := Option.map_eq_some_iff.1 ((List.getElem?_map ..).symm.trans same.2.1)
  exact ⟨bounded.1, bounded.2, found, congrArg (·.intent.name) call.symm⟩

end IntentBus
