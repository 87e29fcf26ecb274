import IntentBus.Proofs.Drops
import IntentBus.Proofs.Session
import IntentBus.Proofs.Traffic
import Mathlib.Data.List.Induction

/-! What a task tells: all that was seen of it by each of its waits and by its end. It is said of the task itself and
supposes nothing about the state, so it holds whatever others do between two turns of the task. -/

namespace IntentBus

namespace Task

variable {σ ε δ α β : Type}

/-- At each wait and at the end of the task, what was seen by then is as said; there is a result at the end only. -/
def Tells (fits : List ε → Option α → Prop) : Task σ ε α → List ε → Prop
  | done result, seen => fits seen (some result)
  | get next, seen => ∀ time state, (next time state).Tells fits seen
  | set _ next, seen => next.Tells fits seen
  | emit event next, seen => next.Tells fits (seen ++ [event])
  | wait _ _ _ next, seen => fits seen none ∧ next.Tells fits seen
  | never _, seen => fits seen none

section

variable {fits : List ε → Option α → Prop} {seen : List ε}

/-- What follows from what is told is told as well. -/
theorem Tells.mono {other : List ε → Option α → Prop} (widens : ∀ seen result, fits seen result → other seen result)
    {task : Task σ ε α} (tells : task.Tells fits seen) : task.Tells other seen := by
  induction task generalizing seen with
  | done result => exact widens seen _ tells
  | get next ih => exact fun time state => ih time state (tells time state)
  | set value next ih => exact ih tells
  | emit event next ih => exact ih tells
  | wait millis age release next ih => exact ⟨widens seen none tells.1, ih tells.2⟩
  | never release => exact widens seen none tells

/-- What is told of two tasks in a row is told behind each result of the first one. -/
theorem Tells.bind {other : List ε → Option β → Prop} {task : Task σ ε α} {f : α → Task σ ε β}
    (first : task.Tells fits seen) (early : ∀ seen, fits seen none → other seen none)
    (rest : ∀ seen result, fits seen (some result) → (f result).Tells other seen) : (task.bind f).Tells other seen := by
  induction task generalizing seen with
  | done result => exact rest seen result first
  | get next ih => exact fun time state => ih time state (first time state)
  | set value next ih => exact ih first
  | emit event next ih => exact ih first
  | wait millis age release next ih => exact ⟨early seen first.1, ih first.2⟩
  | never release => exact early seen first

/-- What is told behind an event is told of the task that emits it first. -/
theorem tells_signal {event : ε} {f : Unit → Task σ ε α} (rest : (f ()).Tells fits (seen ++ [event])) :
    ((signal event).bind f).Tells fits seen :=
  rest

/-- What is told of a task in two ways is told of it at once. -/
theorem Tells.and {other : List ε → Option α → Prop} {task : Task σ ε α} (tells : task.Tells fits seen)
    (also : task.Tells other seen) : task.Tells (fun seen result => fits seen result ∧ other seen result) seen := by
  induction task generalizing seen with
  | done result => exact ⟨tells, also⟩
  | get next ih => exact fun time state => ih time state (tells time state) (also time state)
  | set value next ih => exact ih tells also
  | emit event next ih => exact ih tells also
  | wait millis age release next ih => exact ⟨⟨tells.1, also.1⟩, ih tells.2 also.2⟩
  | never release => exact ⟨tells, also⟩

/-- What holds of the events before, and stays with each event that is allowed, holds throughout. -/
theorem Emits.tells {allowed : ε → Prop} {holds : List ε → Prop}
    (stays : ∀ seen event, holds seen → allowed event → holds (seen ++ [event])) {task : Task σ ε α}
    (emits : task.Emits allowed) (now : holds seen) : task.Tells (fun seen _ => holds seen) seen := by
  induction task generalizing seen with
  | done result => exact now
  | get next ih => exact fun time state => ih time state (emits time state) now
  | set value next ih => exact ih emits now
  | emit event next ih => exact ih emits.2 (stays seen event now emits.1)
  | wait millis age release next ih => exact ⟨now, ih emits now⟩
  | never release => exact now

/-- What was seen before stays, and all that comes after it is allowed. -/
theorem Emits.tells_behind {allowed : ε → Prop} {task : Task σ ε α} (emits : task.Emits allowed) :
    task.Tells (fun events _ => ∃ after, events = seen ++ after ∧ ∀ event ∈ after, allowed event) seen := by
  refine emits.tells (fun _ event before own => ?_) ⟨[], (List.append_nil _).symm, List.forall_mem_nil _⟩
  obtain ⟨after, rfl, others⟩ := before
  exact ⟨after ++ [event], List.append_assoc _ _ _,
    List.forall_mem_append.2 ⟨others, List.forall_mem_singleton.2 own⟩⟩

/-- A task of which nothing is seen changes nothing about what was seen. -/
theorem Emits.tells_bind {other : List ε → Option β → Prop} {task : Task σ ε α} {f : α → Task σ ε β}
    (silent : task.Emits fun _ => False) (now : other seen none) (rest : ∀ result, (f result).Tells other seen) :
    (task.bind f).Tells other seen := by
  induction task with
  | done result => exact rest result
  | get next ih => exact fun time state => ih time state (silent time state)
  | set value next ih => exact ih silent
  | emit event next ih => exact silent.1.elim
  | wait millis age release next ih => exact ⟨now, ih silent⟩
  | never release => exact now

/-- Before the event that opens a task there is neither a wait nor an end. -/
theorem Opens.tells {first : ε} {allowed : ε → Prop} {holds : List ε → Prop}
    (stays : ∀ seen event, holds seen → allowed event → holds (seen ++ [event])) {task : Task σ ε α}
    (opens : task.Opens first allowed) (now : holds (seen ++ [first])) : task.Tells (fun seen _ => holds seen) seen := by
  induction task with
  | done result => exact opens.elim
  | get next ih => exact fun time state => ih time state (opens time state)
  | set value next ih => exact ih opens
  | emit event next ih =>
    obtain ⟨rfl, later⟩ := opens
    exact later.tells stays now
  | wait millis age release next ih => exact opens.elim
  | never release => exact opens.elim

private theorem tells_append {before : List ε} {task : Task σ ε α}
    (tells : task.Tells (fun seen result => fits (before ++ seen) result) seen) : task.Tells fits (before ++ seen) := by
  induction task generalizing seen with
  | done result => exact tells
  | get next ih => exact fun time state => ih time state (tells time state)
  | set value next ih => exact ih tells
  | emit event next ih =>
    have later := ih tells
    rwa [← List.append_assoc] at later
  | wait millis age release next ih => exact ⟨tells.1, ih tells.2⟩
  | never release => exact tells

/-- What is seen of a task on its own comes after what was seen before. -/
theorem Tells.behind {task : Task σ ε α} (tells : task.Tells (fun more result => fits (seen ++ more) result) []) :
    task.Tells fits seen := by
  have told := tells_append tells
  rwa [List.append_nil] at told

/-- It is told of a task that it returns what is expected. -/
theorem Returns.tells {expected : α → Prop} {task : Task σ ε α} (returns : task.Returns expected) :
    task.Tells (fun _ result => ∀ value, result = some value → expected value) seen := by
  induction task generalizing seen with
  | done result =>
    rintro _ ⟨⟩
    exact returns
  | get next ih => exact fun time state => ih time state (returns time state)
  | set value next ih => exact ih returns
  | emit event next ih => exact ih returns
  | wait millis age release next ih => exact ⟨nofun, ih returns⟩
  | never release => exact nofun

/-- The events of a task may be seen as others. -/
theorem Tells.mapEvents {other : List δ → Option α → Prop} {f : ε → δ} {task : Task σ ε α}
    (tells : task.Tells (fun seen result => other (seen.map f) result) seen) :
    (task.mapEvents f).Tells other (seen.map f) := by
  induction task generalizing seen with
  | done result => exact tells
  | get next ih => exact fun time state => ih time state (tells time state)
  | set value next ih => exact ih tells
  | emit event next ih =>
    have later := ih tells
    rwa [List.map_append] at later
  | wait millis age release next ih => exact ⟨tells.1, ih tells.2⟩
  | never release => exact tells

/-- Nothing was seen yet of a task that has not begun. -/
theorem tells_mapEvents {other : List δ → Option α → Prop} {f : ε → δ} {task : Task σ ε α}
    (tells : task.Tells (fun seen result => other (seen.map f) result) []) : (task.mapEvents f).Tells other [] :=
  @Tells.mapEvents σ ε δ α [] other f task tells

/-- A release at the end changes nothing about what is told. -/
theorem Tells.releasing (release : σ → σ) {task : Task σ ε α} (tells : task.Tells fits seen) :
    (task.releasing release).Tells fits seen := by
  induction task generalizing seen with
  | done result => exact fun _ _ => tells
  | get next ih => exact fun time state => ih time state (tells time state)
  | set value next ih => exact ih tells
  | emit event next ih => exact ih tells
  | wait millis age inner next ih => exact ⟨tells.1, ih tells.2⟩
  | never inner => exact tells

/-- A task that begins after something was seen, whose events are seen as others and that is followed by a release. -/
theorem Tells.enclosed {other : List δ → Option α → Prop} {before : List δ} {f : ε → δ} (release : σ → σ) {task : Task σ ε α}
    (tells : task.Tells (fun seen result => other (before ++ seen.map f) result) []) :
    ((task.mapEvents f).releasing release).Tells other before := by
  have alone : (task.mapEvents f).Tells (fun seen result => other (before ++ seen) result) [] := tells_mapEvents tells
  exact alone.behind.releasing release

private theorem tells_dropAfter (now : fits seen none) (left age : Nat) (release : σ → σ) :
    (bounded.dropAfter left age release : Task σ ε (Option α)).Tells (fun seen result => fits seen result.join) seen := by
  unfold bounded.dropAfter
  split
  · exact fun _ _ => now
  · exact ⟨now, fun _ _ => now⟩

/-- A task that is dropped has no result. -/
theorem Tells.bounded {task : Task σ ε α} (tells : task.Tells fits seen) (elapsed left : Nat) :
    (task.bounded elapsed left).Tells (fun seen result => fits seen result.join) seen := by
  induction task generalizing seen elapsed left with
  | done result => exact tells
  | get next ih => exact fun time state => ih time state (tells time state) elapsed left
  | set value next ih => exact ih tells elapsed left
  | emit event next ih => exact ih tells elapsed left
  | wait millis age release next ih =>
    rw [Task.bounded]
    split
    · exact ⟨tells.1, ih tells.2 _ _⟩
    · exact tells_dropAfter tells.1 _ _ _
  | never release => exact tells_dropAfter tells _ _ _

end

end Task

/-- What is said of a task that has come to a pause. -/
def Pause.Tells {σ ε α : Type} (fits : List ε → Option α → Prop) : Pause σ ε α → List ε → Prop
  | ended result, seen => fits seen (some result)
  | waiting _ _ _ next, seen => fits seen none ∧ next.Tells fits seen
  | stuck _, seen => fits seen none

namespace Task

variable {σ ε α β : Type} {fits : List ε → Option α → Prop} {seen : List ε}

/-- What is told of a task whose first turn is at a time, in a state. -/
def TellsFrom (fits : List ε → Option α → Prop) (task : Task σ ε α) (time : Nat) (state : σ) (seen : List ε) : Prop :=
  (task.advance time state).pause.Tells fits (seen ++ (task.advance time state).trace.map (·.event))

/-- What a task tells it tells from each time and state. -/
theorem Tells.advance {task : Task σ ε α} (tells : task.Tells fits seen) (time : Nat) (state : σ) :
    task.TellsFrom fits time state seen := by
  unfold TellsFrom
  induction task generalizing seen state with
  | done result =>
    rw [Task.advance, List.map_nil, List.append_nil]
    exact tells
  | get next ih => exact ih time state (tells time state) state
  | set value next ih => exact ih tells value
  | emit event next ih =>
    have later := ih tells state
    rwa [List.append_assoc] at later
  | wait millis age release next ih =>
    rw [Task.advance, List.map_nil, List.append_nil]
    exact tells
  | never release =>
    rw [Task.advance, List.map_nil, List.append_nil]
    exact tells

/-- Of a task that ends at once the end is told. -/
theorem tellsFrom_done {result : α} {time : Nat} {state : σ} (ends : fits seen (some result)) :
    (done result : Task σ ε α).TellsFrom fits time state seen := by
  rwa [TellsFrom, Task.advance, List.map_nil, List.append_nil]

/-- A change of the state goes on with what it answers in the state at that time. -/
theorem tellsFrom_update {f : σ → β × σ} {g : β → Task σ ε α} {time : Nat} {state : σ}
    (rest : (g (f state).1).Tells fits seen) : ((update f).bind g).TellsFrom fits time state seen :=
  rest.advance time (f state).2

private theorem TellsFrom.emit {event : ε} {next : Task σ ε α} {time : Nat} {state : σ}
    (tells : next.TellsFrom fits time state (seen ++ [event])) : (emit event next).TellsFrom fits time state seen := by
  unfold TellsFrom at tells
  rwa [List.append_assoc] at tells

/-- What is told behind an event is told of a first turn that emits it. -/
theorem tellsFrom_signal {event : ε} {f : Unit → Task σ ε α} {time : Nat} {state : σ}
    (rest : (f ()).TellsFrom fits time state (seen ++ [event])) : ((signal event).bind f).TellsFrom fits time state seen :=
  rest.emit

/-- What is told from a state on of two tasks in a row is told behind each result of the first one. -/
theorem TellsFrom.bind {other : List ε → Option β → Prop} {task : Task σ ε α} {f : α → Task σ ε β} {time : Nat} {state : σ}
    (first : task.TellsFrom fits time state seen) (early : ∀ seen, fits seen none → other seen none)
    (rest : ∀ seen result, fits seen (some result) → (f result).Tells other seen) :
    (task.bind f).TellsFrom other time state seen := by
  induction task generalizing seen state with
  | done result =>
    rw [TellsFrom, Task.advance, List.map_nil, List.append_nil] at first
    exact (rest seen result first).advance time state
  | get next ih => exact ih time state first
  | set value next ih => exact ih first
  | emit event next ih =>
    have own : next.TellsFrom fits time state (seen ++ [event]) := by
      unfold TellsFrom
      rwa [List.append_assoc]
    exact (ih own).emit
  | wait millis age release next ih =>
    rw [TellsFrom, Task.advance, List.map_nil, List.append_nil] at first
    rw [Task.bind, TellsFrom, Task.advance, List.map_nil, List.append_nil]
    exact ⟨early seen first.1, first.2.bind early rest⟩
  | never release =>
    rw [TellsFrom, Task.advance, List.map_nil, List.append_nil] at first
    rw [Task.bind, TellsFrom, Task.advance, List.map_nil, List.append_nil]
    exact early seen first

end Task

namespace Session

variable {σ ι α : Type} {bus : Bus σ ι α} {session : Session σ ι α} {start : BusState σ ι α}
  {moves : List (Move σ ι α)}

/-- The last of some moves is made after all others. -/
theorem after_concat (moves : List (Move σ ι α)) (move : Move σ ι α) :
    session.after bus (moves ++ [move]) = (session.after bus moves).step bus move := by
  rw [after, List.foldl_append, List.foldl_cons, List.foldl_nil, ← after]

def Reaches (bus : Bus σ ι α) (start state : BusState σ ι α) : Prop :=
  ∃ moves, ((opening start).after bus moves).state = state

def Begins (bus : Bus σ ι α) (start : BusState σ ι α) (moves : List (Move σ ι α)) (call : Call σ ι α)
    (state : BusState σ ι α) : Prop :=
  ∃ earlier time later, moves = earlier ++ .begin call time :: later ∧ ((opening start).after bus earlier).state = state

private theorem Begins.concat {call : Call σ ι α} {state : BusState σ ι α} (begins : Begins bus start moves call state)
    (move : Move σ ι α) : Begins bus start (moves ++ [move]) call state := by
  obtain ⟨earlier, time, later, rfl, same⟩ := begins
  exact ⟨earlier, time, later ++ [move], by simp, same⟩

section

variable (bus start moves) in
/-- What was seen of all calls is as said of the state in which each was begun, and will be. -/
structure TellsSince (fits : Call σ ι α → BusState σ ι α → List (BusEvent α) → Option (Except DispatchError α) → Prop)
    (session : Session σ ι α) : Prop where
  ongoing : ∀ own ∈ session.ongoing, ∃ state, Begins bus start moves own.call state ∧
    fits own.call state own.events none ∧ own.next.Tells (fits own.call state) own.events
  ended : ∀ own ∈ session.ended, ∃ state, Begins bus start moves own.call state ∧
    fits own.call state own.events own.result

variable {fits : Call σ ι α → BusState σ ι α → List (BusEvent α) → Option (Except DispatchError α) → Prop}

private theorem TellsSince.concat (told : session.TellsSince bus start moves fits) (move : Move σ ι α) :
    session.TellsSince bus start (moves ++ [move]) fits := by
  refine ⟨fun own mem => ?_, fun own mem => ?_⟩
  · obtain ⟨state, begins, tells⟩ := told.ongoing own mem
    exact ⟨state, begins.concat move, tells⟩
  · obtain ⟨state, begins, tells⟩ := told.ended own mem
    exact ⟨state, begins.concat move, tells⟩

private theorem TellsSince.turn (told : session.TellsSince bus start moves fits) {call : Call σ ι α}
    {state : BusState σ ι α} (begins : Begins bus start moves call state) {seen : List (BusEvent α)}
    {task : BusTask σ ι α (Except DispatchError α)} {time : Nat}
    (own : task.TellsFrom (fits call state) time session.state seen) :
    (session.turn call seen (task.advance time session.state)).TellsSince bus start moves fits := by
  unfold Task.TellsFrom at own
  generalize task.advance time session.state = ran at own ⊢
  obtain ⟨pause, after, trace⟩ := ran
  cases pause with
  | ended result => exact ⟨told.ongoing, List.forall_mem_cons.2 ⟨⟨state, begins, own⟩, told.ended⟩⟩
  | waiting millis age release next => exact ⟨List.forall_mem_cons.2 ⟨⟨state, begins, own⟩, told.ongoing⟩, told.ended⟩
  | stuck release => exact ⟨List.forall_mem_cons.2 ⟨⟨state, begins, own, own⟩, told.ongoing⟩, told.ended⟩

private theorem TellsSince.step (told : session.TellsSince bus start moves fits) {move : Move σ ι α}
    (fresh : ∀ call time, move = .begin call time → Begins bus start moves call session.state ∧
      (call.task bus).TellsFrom (fits call session.state) time session.state []) :
    (session.step bus move).TellsSince bus start moves fits := by
  cases move with
  | begin call time =>
    obtain ⟨begins, tells⟩ := fresh call time rfl
    exact told.turn begins tells
  | resume place time =>
    simp only [Session.step]
    cases found : session.ongoing[place]? with
    | none => exact told
    | some own =>
      have rest : TellsSince bus start moves fits { session with ongoing := session.ongoing.eraseIdx place } :=
        ⟨fun other mem => told.ongoing other (List.mem_of_mem_eraseIdx mem), told.ended⟩
      obtain ⟨state, begins, _, tells⟩ := told.ongoing own (List.mem_of_getElem? found)
      exact rest.turn begins (tells.advance time session.state)
  | drop place =>
    simp only [Session.step]
    cases found : session.ongoing[place]? with
    | none => exact told
    | some own =>
      obtain ⟨state, begins, tells, _⟩ := told.ongoing own (List.mem_of_getElem? found)
      refine ⟨fun other mem => told.ongoing other (List.mem_of_mem_eraseIdx mem), ?_⟩
      exact List.forall_mem_cons.2 ⟨⟨state, begins, tells⟩, told.ended⟩
  | register handler =>
    simp only [Session.step]
    split
    · exact told
    · exact ⟨told.ongoing, told.ended⟩
  | unregister type => exact ⟨told.ongoing, told.ended⟩
  | outside application => exact ⟨told.ongoing, told.ended⟩

/-- What a call tells from the state in which it is begun holds of it to its end, in whatever company. -/
theorem tells_since_begin (tells : ∀ (call : Call σ ι α) (time : Nat) (state : BusState σ ι α),
      Reaches bus start state → (call.task bus).TellsFrom (fits call state) time state []) (moves : List (Move σ ι α)) :
    ((opening start).after bus moves).TellsSince bus start moves fits := by
  induction moves using List.reverseRecOn with
  | nil => exact ⟨List.forall_mem_nil _, List.forall_mem_nil _⟩
  | append_singleton moves move told =>
    rw [after_concat]
    refine (told.concat move).step fun call time same => ⟨⟨moves, time, [], same ▸ rfl, rfl⟩, ?_⟩
    exact tells call time _ ⟨moves, rfl⟩

end

/-- What was seen of all calls is as said, and will be. -/
structure Tells (fits : Call σ ι α → List (BusEvent α) → Option (Except DispatchError α) → Prop)
    (session : Session σ ι α) : Prop where
  ongoing : ∀ own ∈ session.ongoing, fits own.call own.events none ∧ own.next.Tells (fits own.call) own.events
  ended : ∀ own ∈ session.ended, fits own.call own.events own.result

/-- What is told of the state in which a call was begun may say something of the call itself. -/
theorem TellsSince.tells {fits : Call σ ι α → BusState σ ι α → List (BusEvent α) → Option (Except DispatchError α) → Prop}
    {other : Call σ ι α → List (BusEvent α) → Option (Except DispatchError α) → Prop}
    (implies : ∀ call state events result, fits call state events result → other call events result)
    (told : session.TellsSince bus start moves fits) : session.Tells other := by
  refine ⟨fun own mem => ?_, fun own mem => ?_⟩
  · obtain ⟨state, _, now, later⟩ := told.ongoing own mem
    exact ⟨implies _ _ _ _ now, later.mono fun _ _ => implies _ _ _ _⟩
  · obtain ⟨state, _, ends⟩ := told.ended own mem
    exact implies _ _ _ _ ends

/-- What is told of a session in two ways is told of it at once. -/
theorem Tells.and {fits other : Call σ ι α → List (BusEvent α) → Option (Except DispatchError α) → Prop}
    (told : session.Tells fits) (also : session.Tells other) :
    session.Tells fun call events result => fits call events result ∧ other call events result := by
  refine ⟨fun own mem => ?_, fun own mem => ⟨told.ended own mem, also.ended own mem⟩⟩
  obtain ⟨now, later⟩ := told.ongoing own mem
  obtain ⟨alsoNow, alsoLater⟩ := also.ongoing own mem
  exact ⟨⟨now, alsoNow⟩, later.and alsoLater⟩

/-- What each task of a call tells holds of each call that is over, in whatever company. -/
theorem tells_after {fits : Call σ ι α → List (BusEvent α) → Option (Except DispatchError α) → Prop}
    (tells : ∀ call : Call σ ι α, (call.task bus).Tells (fits call) []) (state : BusState σ ι α)
    (moves : List (Move σ ι α)) : ((opening state).after bus moves).Tells fits := by
  have told : ((opening state).after bus moves).TellsSince bus state moves fun call _ => fits call :=
    tells_since_begin (fun call time state _ => (tells call).advance time state) moves
  exact told.tells fun _ _ _ _ fits => fits

end Session

namespace Traffic

variable {σ ι α : Type} {bus : Bus σ ι α} {traffic next : Traffic σ ι α} {state : BusState σ ι α}
  {fits : String → List (BusEvent α) → Option (Except DispatchError α) → Prop}

/-- What was seen of all invocations is as said, and will be. -/
structure Tells (fits : String → List (BusEvent α) → Option (Except DispatchError α) → Prop) (traffic : Traffic σ ι α) :
    Prop where
  pending : ∀ own ∈ traffic.pending, fits own.intent own.events none ∧ own.next.Tells (fits own.intent) own.events
  finished : ∀ own ∈ traffic.finished, fits own.intent own.events own.result

private theorem Tells.turn (told : traffic.Tells fits) {intent : String} {seen : List (BusEvent α)}
    {task : BusTask σ ι α (Except DispatchError α)} (tells : task.Tells (fits intent) seen) (time : Nat)
    (state : BusState σ ι α) : (traffic.turn intent seen (task.advance time state)).Tells fits := by
  have own := tells.advance time state
  unfold Task.TellsFrom at own
  generalize task.advance time state = ran at own ⊢
  obtain ⟨pause, after, trace⟩ := ran
  cases pause with
  | ended result => exact ⟨told.pending, List.forall_mem_cons.2 ⟨own, told.finished⟩⟩
  | waiting millis age release next => exact ⟨List.forall_mem_cons.2 ⟨own, told.pending⟩, told.finished⟩
  | stuck release => exact ⟨List.forall_mem_cons.2 ⟨⟨own, own⟩, told.pending⟩, told.finished⟩

/-- What each dispatch tells holds of each invocation, whatever else happens to the bus. -/
theorem tells_of_steps
    (plain : ∀ (intent : Intent σ ι α) (context : ExecutionContext),
      (bus.dispatch intent context).Tells (fits intent.name) [])
    (cached : ∀ (intent : Intent σ ι α) (context : ExecutionContext),
      (bus.dispatchCached intent context).Tells (fits intent.name) [])
    (steps : Steps bus (opening state) traffic) : traffic.Tells fits := by
  induction steps with
  | refl => exact ⟨List.forall_mem_nil _, List.forall_mem_nil _⟩
  | @tail traffic _ _ step told =>
    cases step with
    | dispatch intent context time => exact told.turn (plain intent context) time traffic.state
    | dispatchCached intent context time => exact told.turn (cached intent context) time traffic.state
    | @resume earlier later own time waits =>
      have pending := told.pending
      rw [waits, List.forall_mem_append, List.forall_mem_cons] at pending
      obtain ⟨before, ⟨_, tells⟩, after⟩ := pending
      have others : Tells fits { traffic with pending := earlier ++ later } :=
        ⟨List.forall_mem_append.2 ⟨before, after⟩, told.finished⟩
      exact others.turn tells time traffic.state
    | @drop earlier later own waits =>
      have pending := told.pending
      rw [waits, List.forall_mem_append, List.forall_mem_cons] at pending
      obtain ⟨before, ⟨fits, _⟩, after⟩ := pending
      exact ⟨List.forall_mem_append.2 ⟨before, after⟩, List.forall_mem_cons.2 ⟨fits, told.finished⟩⟩
    | register handler succeeds => exact ⟨told.pending, told.finished⟩
    | unregister type => exact ⟨told.pending, told.finished⟩
    | outside application cache => exact ⟨told.pending, told.finished⟩

end Traffic

end IntentBus
