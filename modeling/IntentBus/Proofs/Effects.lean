import IntentBus.Proofs.Runs

/-! What a task can do at most: the events that it may emit, the results that it may have, and the part of the
state that it leaves alone. All are said of the task itself, so they hold of each of its runs, also of those
that are cut off. -/

namespace IntentBus.Task

variable {σ τ ε δ α β γ : Type}

/-- Every event that the task may emit is allowed. -/
def Emits (allowed : ε → Prop) : Task σ ε α → Prop
  | done _ => True
  | get next => ∀ time state, (next time state).Emits allowed
  | set _ next => next.Emits allowed
  | emit event next => allowed event ∧ next.Emits allowed
  | wait _ _ _ next => next.Emits allowed
  | never _ => True

/-- The task emits a given event before it waits or ends, and every event after that is allowed. -/
def Opens (first : ε) (allowed : ε → Prop) : Task σ ε α → Prop
  | done _ => False
  | get next => ∀ time state, (next time state).Opens first allowed
  | set _ next => next.Opens first allowed
  | emit event next => event = first ∧ next.Emits allowed
  | wait _ _ _ _ => False
  | never _ => False

/-- Every result of the task is expected. -/
def Returns (expected : α → Prop) : Task σ ε α → Prop
  | done result => expected result
  | get next => ∀ time state, (next time state).Returns expected
  | set _ next => next.Returns expected
  | emit _ next => next.Returns expected
  | wait _ _ _ next => next.Returns expected
  | never _ => True

/-- From a state on, the task does not change what is looked at; while it waits, others may change the state. -/
def Keeps (look : σ → γ) : Task σ ε α → σ → Prop
  | done _, _ => True
  | get next, state => ∀ time, (next time state).Keeps look state
  | set value next, state => look value = look state ∧ next.Keeps look value
  | emit _ next, state => next.Keeps look state
  | wait _ _ release next, _ => (∀ state, look (release state) = look state) ∧ ∀ state, next.Keeps look state
  | never release, _ => ∀ state, look (release state) = look state

section Emits

variable {allowed : ε → Prop}

/-- Where more is allowed, a task still emits only what is allowed. -/
theorem Emits.mono {wider : ε → Prop} (widens : ∀ event, allowed event → wider event)
    {task : Task σ ε α} (emits : task.Emits allowed) : task.Emits wider := by
  induction task with
  | done result => trivial
  | get next ih =>
    intro time state
    exact ih time state (emits time state)
  | set value next ih => exact ih emits
  | emit event next ih => exact ⟨widens event emits.1, ih emits.2⟩
  | wait millis age release next ih => exact ih emits
  | never release => trivial

/-- Two tasks in a row emit what each of them emits. -/
theorem Emits.bind {task : Task σ ε α} {f : α → Task σ ε β} (first : task.Emits allowed)
    (rest : ∀ result, (f result).Emits allowed) : (task.bind f).Emits allowed := by
  induction task with
  | done result => exact rest result
  | get next ih =>
    intro time state
    exact ih time state (first time state)
  | set value next ih => exact ih first
  | emit event next ih => exact ⟨first.1, ih first.2⟩
  | wait millis age release next ih => exact ih first
  | never release => trivial

/-- To emit an event is allowed if the event is. -/
theorem emits_signal {event : ε} (h : allowed event) :
    (signal event : Task σ ε Unit).Emits allowed :=
  ⟨h, trivial⟩

/-- To emit events is allowed if each of them is. -/
theorem emits_signals {events : List ε} (h : ∀ event ∈ events, allowed event) :
    (signals events : Task σ ε Unit).Emits allowed := by
  induction events with
  | nil => trivial
  | cons event rest ih =>
    exact ⟨h event (.head rest), ih fun other mem => h other (.tail event mem)⟩

/-- Sleeping emits nothing. -/
theorem emits_sleep (millis : Nat) : (sleep millis : Task σ ε Unit).Emits allowed := by
  unfold sleep
  split <;> trivial

/-- What a task emits may be seen as other events. -/
theorem Emits.mapEvents {seen : δ → Prop} {f : ε → δ} (h : ∀ event, allowed event → seen (f event))
    {task : Task σ ε α} (emits : task.Emits allowed) : (task.mapEvents f).Emits seen := by
  induction task with
  | done result => trivial
  | get next ih =>
    intro time state
    exact ih time state (emits time state)
  | set value next ih => exact ih emits
  | emit event next ih => exact ⟨h event emits.1, ih emits.2⟩
  | wait millis age release next ih => exact ih emits
  | never release => trivial

/-- Of a release nothing is seen. -/
theorem Emits.releasing (release : σ → σ) {task : Task σ ε α} (emits : task.Emits allowed) :
    (task.releasing release).Emits allowed := by
  induction task with
  | done result => exact fun _ _ => trivial
  | get next ih => exact fun time state => ih time state (emits time state)
  | set value next ih => exact ih emits
  | emit event next ih => exact ⟨emits.1, ih emits.2⟩
  | wait millis age inner next ih => exact ih emits
  | never inner => trivial

/-- Seen from the whole, a task on a part of the state emits what its events are seen as. -/
theorem emits_focus {view : τ → σ} {put : σ → τ → τ} {seen : δ → Prop} {f : ε → δ}
    (h : ∀ event, seen (f event)) (task : Task σ ε α) : (task.focus view put f).Emits seen := by
  induction task with
  | done result => trivial
  | get next ih =>
    intro time whole
    exact ih time (view whole)
  | set value next ih => exact fun _ _ => ih
  | emit event next ih => exact ⟨h event, ih⟩
  | wait millis age release next ih => exact ih
  | never release => trivial

private theorem emits_dropAfter (left age : Nat) (release : σ → σ) :
    (bounded.dropAfter left age release : Task σ ε (Option α)).Emits allowed := by
  unfold bounded.dropAfter
  split
  · exact fun _ _ => trivial
  · exact fun _ _ => trivial

/-- A task that may be dropped emits nothing else for that. -/
theorem Emits.bounded {task : Task σ ε α} (emits : task.Emits allowed) (elapsed left : Nat) :
    (task.bounded elapsed left).Emits allowed := by
  induction task generalizing elapsed left with
  | done result => trivial
  | get next ih =>
    intro time state
    exact ih time state (emits time state) elapsed left
  | set value next ih => exact ih emits elapsed left
  | emit event next ih => exact ⟨emits.1, ih emits.2 elapsed left⟩
  | wait millis age release next ih =>
    rw [Task.bounded]
    split
    · exact ih emits (elapsed + millis) (left - millis)
    · exact emits_dropAfter left elapsed release
  | never release => exact emits_dropAfter left elapsed release

/-- The events of a run are events that the task may emit. -/
theorem Emits.run {task : Task σ ε α} (emits : task.Emits allowed) (time : Nat) (state : σ) :
    ∀ event ∈ (task.run time state).events, allowed event := by
  induction task generalizing time state with
  | done result => simp
  | get next ih => exact ih time state (emits time state) time state
  | set value next ih => exact ih emits time value
  | emit event next ih =>
    simp only [run_emit, Run.after_events, List.map_cons, List.map_nil, List.singleton_append, List.mem_cons]
    rintro other (rfl | mem)
    · exact emits.1
    · exact ih emits.2 time state other mem
  | wait millis age release next ih => exact ih emits (time + millis) state
  | never release => simp [Run.events]

end Emits

section Opens

variable {first : ε} {allowed : ε → Prop}

/-- Where more is allowed later, a task still opens with the same event. -/
theorem Opens.mono {wider : ε → Prop} (widens : ∀ event, allowed event → wider event)
    {task : Task σ ε α} (opens : task.Opens first allowed) : task.Opens first wider := by
  induction task with
  | done result => exact opens.elim
  | get next ih =>
    intro time state
    exact ih time state (opens time state)
  | set value next ih => exact ih opens
  | emit event next ih => exact ⟨opens.1, opens.2.mono widens⟩
  | wait millis age release next ih => exact opens.elim
  | never release => exact opens.elim

/-- A task opens with an event whatever follows it, if that is allowed later. -/
theorem Opens.bind {task : Task σ ε α} {f : α → Task σ ε β} (opens : task.Opens first allowed)
    (rest : ∀ result, (f result).Emits allowed) : (task.bind f).Opens first allowed := by
  induction task with
  | done result => exact opens.elim
  | get next ih =>
    intro time state
    exact ih time state (opens time state)
  | set value next ih => exact ih opens
  | emit event next ih => exact ⟨opens.1, opens.2.bind rest⟩
  | wait millis age release next ih => exact opens.elim
  | never release => exact opens.elim

/-- A task opens with its first event also where events are seen as others. -/
theorem Opens.mapEvents {opening : δ} {seen : δ → Prop} {f : ε → δ} (same : f first = opening)
    (h : ∀ event, allowed event → seen (f event)) {task : Task σ ε α}
    (opens : task.Opens first allowed) :
    (task.mapEvents f).Opens opening seen := by
  induction task with
  | done result => exact opens.elim
  | get next ih =>
    intro time state
    exact ih time state (opens time state)
  | set value next ih => exact ih opens
  | emit event next ih => exact ⟨(congrArg f opens.1).trans same, opens.2.mapEvents h⟩
  | wait millis age release next ih => exact opens.elim
  | never release => exact opens.elim

/-- No bound is so short that a task is dropped before it begins. -/
theorem Opens.bounded {task : Task σ ε α} (opens : task.Opens first allowed) (elapsed left : Nat) :
    (task.bounded elapsed left).Opens first allowed := by
  induction task with
  | done result => exact opens.elim
  | get next ih =>
    intro time state
    exact ih time state (opens time state)
  | set value next ih => exact ih opens
  | emit event next ih => exact ⟨opens.1, opens.2.bounded elapsed left⟩
  | wait millis age release next ih => exact opens.elim
  | never release => exact opens.elim

/-- A task emits its first event and what is allowed later. -/
theorem Opens.emits {wider : ε → Prop} (head : wider first)
    (widens : ∀ event, allowed event → wider event) {task : Task σ ε α}
    (opens : task.Opens first allowed) : task.Emits wider := by
  induction task with
  | done result => exact opens.elim
  | get next ih =>
    intro time state
    exact ih time state (opens time state)
  | set value next ih => exact ih opens
  | emit event next ih => exact ⟨opens.1 ▸ head, opens.2.mono widens⟩
  | wait millis age release next ih => exact opens.elim
  | never release => exact opens.elim

/-- The events of a run start with the one the task opens with. -/
theorem Opens.run {task : Task σ ε α} (opens : task.Opens first allowed) (time : Nat) (state : σ) :
    ∃ rest, (task.run time state).events = first :: rest ∧ ∀ event ∈ rest, allowed event := by
  induction task generalizing time state with
  | done result => exact opens.elim
  | get next ih => exact ih time state (opens time state) time state
  | set value next ih => exact ih opens time value
  | emit event next ih =>
    obtain ⟨same, emits⟩ := opens
    refine ⟨(next.run time state).events, ?_, emits.run time state⟩
    rw [run_emit, Run.after_events, same]
    rfl
  | wait millis age release next ih => exact opens.elim
  | never release => exact opens.elim

end Opens

section Returns

variable {expected : α → Prop}

/-- Where every result is expected, all tasks return one. -/
theorem returns_of_forall (task : Task σ ε α) (holds : ∀ result, expected result) :
    task.Returns expected := by
  induction task with
  | done result => exact holds result
  | get next ih =>
    intro time state
    exact ih time state
  | set value next ih => exact ih
  | emit event next ih => exact ih
  | wait millis age release next ih => exact ih
  | never release => trivial

/-- Where more is expected, a task still returns what is expected. -/
theorem Returns.mono {wider : α → Prop} (widens : ∀ result, expected result → wider result)
    {task : Task σ ε α} (returns : task.Returns expected) : task.Returns wider := by
  induction task with
  | done result => exact widens result returns
  | get next ih =>
    intro time state
    exact ih time state (returns time state)
  | set value next ih => exact ih returns
  | emit event next ih => exact ih returns
  | wait millis age release next ih => exact ih returns
  | never release => trivial

/-- What a task returns last is expected if it is so behind every expected result. -/
theorem Returns.bind {task : Task σ ε α} {other : β → Prop} {f : α → Task σ ε β}
    (first : task.Returns expected)
    (rest : ∀ result, expected result → (f result).Returns other) :
    (task.bind f).Returns other := by
  induction task with
  | done result => exact rest result first
  | get next ih =>
    intro time state
    exact ih time state (first time state)
  | set value next ih => exact ih first
  | emit event next ih => exact ih first
  | wait millis age release next ih => exact ih first
  | never release => trivial

/-- What comes last decides about the results. -/
theorem returns_bind (task : Task σ ε β) {f : β → Task σ ε α}
    (rest : ∀ result, (f result).Returns expected) :
    (task.bind f).Returns expected :=
  (task.returns_of_forall fun _ => trivial).bind fun result _ => rest result

/-- A task returns the same however its events are seen. -/
theorem Returns.mapEvents (f : ε → δ) {task : Task σ ε α} (returns : task.Returns expected) :
    (task.mapEvents f).Returns expected := by
  induction task with
  | done result => exact returns
  | get next ih =>
    intro time state
    exact ih time state (returns time state)
  | set value next ih => exact ih returns
  | emit event next ih => exact ih returns
  | wait millis age release next ih => exact ih returns
  | never release => trivial

/-- A task returns the same on a part of a state. -/
theorem Returns.focus {view : τ → σ} {put : σ → τ → τ} (f : ε → δ) {task : Task σ ε α} (returns : task.Returns expected) :
    (task.focus view put f).Returns expected := by
  induction task with
  | done result => exact returns
  | get next ih =>
    intro time whole
    exact ih time (view whole) (returns time (view whole))
  | set value next ih => exact fun _ _ => ih returns
  | emit event next ih => exact ih returns
  | wait millis age release next ih => exact ih returns
  | never release => trivial

/-- A release at its end does not change what a task returns. -/
theorem Returns.releasing (release : σ → σ) {task : Task σ ε α} (returns : task.Returns expected) :
    (task.releasing release).Returns expected := by
  induction task with
  | done result => exact fun _ _ => returns
  | get next ih =>
    intro time state
    exact ih time state (returns time state)
  | set value next ih => exact ih returns
  | emit event next ih => exact ih returns
  | wait millis age inner next ih => exact ih returns
  | never inner => trivial

/-- The result of a run is one that is expected. -/
theorem Returns.run {task : Task σ ε α} (returns : task.Returns expected) {time : Nat} {state : σ}
    {result : α} (ends : (task.run time state).result = some result) : expected result := by
  induction task generalizing time state with
  | done value => exact Option.some.inj ends ▸ returns
  | get next ih => exact ih time state (returns time state) ends
  | set value next ih => exact ih returns ends
  | emit event next ih => exact ih returns ends
  | wait millis age release next ih => exact ih returns ends
  | never release => nomatch ends

end Returns

section Keeps

variable {look : σ → γ}

/-- A task that leaves the state as it is changes nothing of it. -/
theorem Keeps.of_id {task : Task σ ε α} {state : σ} (keeps : task.Keeps id state) : task.Keeps look state := by
  induction task generalizing state with
  | done result => trivial
  | get next ih => exact fun time => ih time state (keeps time)
  | set value next ih => exact ⟨congrArg look keeps.1, ih keeps.2⟩
  | emit event next ih => exact ih keeps
  | wait millis age release next ih =>
    exact ⟨fun state => congrArg look (keeps.1 state), fun state => ih (keeps.2 state)⟩
  | never release => exact fun state => congrArg look (keeps state)

/-- Two tasks in a row leave alone what each of them leaves alone. -/
theorem Keeps.bind {task : Task σ ε α} {f : α → Task σ ε β} {state : σ}
    (first : task.Keeps look state) (rest : ∀ result state, (f result).Keeps look state) :
    (task.bind f).Keeps look state := by
  induction task generalizing state with
  | done result => exact rest result state
  | get next ih =>
    intro time
    exact ih time state (first time)
  | set value next ih => exact ⟨first.1, ih first.2⟩
  | emit event next ih => exact ih first
  | wait millis age release next ih => exact ⟨first.1, fun state => ih (first.2 state)⟩
  | never release => exact first

/-- To emit an event changes no state. -/
theorem keeps_signal (event : ε) (state : σ) :
    (signal event : Task σ ε Unit).Keeps look state := trivial

/-- To emit events changes no state. -/
theorem keeps_signals (events : List ε) (state : σ) :
    (signals events : Task σ ε Unit).Keeps look state := by
  induction events with
  | nil => trivial
  | cons event rest ih => exact ih

/-- Sleeping changes no state. -/
theorem keeps_sleep (millis : Nat) (state : σ) :
    (sleep millis : Task σ ε Unit).Keeps look state := by
  unfold sleep
  split
  · trivial
  · exact ⟨fun _ => rfl, fun _ => trivial⟩

/-- A task leaves alone the same however its events are seen. -/
theorem Keeps.mapEvents (f : ε → δ) {task : Task σ ε α} {state : σ}
    (keeps : task.Keeps look state) :
    (task.mapEvents f).Keeps look state := by
  induction task generalizing state with
  | done result => trivial
  | get next ih =>
    intro time
    exact ih time state (keeps time)
  | set value next ih => exact ⟨keeps.1, ih keeps.2⟩
  | emit event next ih => exact ih keeps
  | wait millis age release next ih => exact ⟨keeps.1, fun state => ih (keeps.2 state)⟩
  | never release => exact keeps

/-- A task on a part of the state keeps everything that the part has no say in. -/
theorem keeps_focus {view : τ → σ} {put : σ → τ → τ} {look : τ → γ} (f : ε → δ)
    (h : ∀ part whole, look (put part whole) = look whole) (task : Task σ ε α) (whole : τ) :
    (task.focus view put f).Keeps look whole := by
  induction task generalizing whole with
  | done result => trivial
  | get next ih =>
    intro time
    exact ih time (view whole) whole
  | set value next ih => exact fun _ => ⟨h value whole, ih (put value whole)⟩
  | emit event next ih => exact ih whole
  | wait millis age release next ih => exact ⟨fun whole => h _ whole, fun whole => ih whole⟩
  | never release =>
    intro whole
    exact h _ whole

/-- A release that leaves something alone does so behind a task that does. -/
theorem Keeps.releasing {release : σ → σ} (idle : ∀ state, look (release state) = look state) {task : Task σ ε α}
    {state : σ} (keeps : task.Keeps look state) : (task.releasing release).Keeps look state := by
  induction task generalizing state with
  | done result => exact fun _ => ⟨idle state, trivial⟩
  | get next ih =>
    intro time
    exact ih time state (keeps time)
  | set value next ih => exact ⟨keeps.1, ih keeps.2⟩
  | emit event next ih => exact ih keeps
  | wait millis age inner next ih =>
    exact ⟨fun state => (idle _).trans (keeps.1 state), fun state => ih (keeps.2 state)⟩
  | never inner => exact fun state => (idle _).trans (keeps state)

private theorem keeps_dropAfter {release : σ → σ} (h : ∀ state, look (release state) = look state)
    (left age : Nat) (state : σ) :
    (bounded.dropAfter left age release : Task σ ε (Option α)).Keeps look state := by
  unfold bounded.dropAfter
  split
  · exact fun _ => ⟨h state, trivial⟩
  · exact ⟨h, fun state _ => ⟨h state, trivial⟩⟩

/-- A task that may be dropped leaves alone the same. -/
theorem Keeps.bounded {task : Task σ ε α} {state : σ} (keeps : task.Keeps look state)
    (elapsed left : Nat) :
    (task.bounded elapsed left).Keeps look state := by
  induction task generalizing state elapsed left with
  | done result => trivial
  | get next ih =>
    intro time
    exact ih time state (keeps time) elapsed left
  | set value next ih => exact ⟨keeps.1, ih keeps.2 elapsed left⟩
  | emit event next ih => exact ih keeps elapsed left
  | wait millis age release next ih =>
    rw [Task.bounded]
    split
    · exact ⟨keeps.1, fun state => ih (keeps.2 state) (elapsed + millis) (left - millis)⟩
    · exact keeps_dropAfter keeps.1 left elapsed state
  | never release => exact keeps_dropAfter keeps left elapsed state

/-- What a task keeps is the same at the end of its run as at the beginning. -/
theorem Keeps.run {task : Task σ ε α} {state : σ} (keeps : task.Keeps look state) (time : Nat) :
    look (task.run time state).state = look state := by
  induction task generalizing time state with
  | done result => rfl
  | get next ih => exact ih time state (keeps time) time
  | set value next ih => exact (ih keeps.2 time).trans keeps.1
  | emit event next ih => exact ih keeps time
  | wait millis age release next ih => exact ih (keeps.2 state) (time + millis)
  | never release => rfl

/-- What a task keeps is the same at every moment of its run. -/
theorem Keeps.moments {task : Task σ ε α} {state : σ} (keeps : task.Keeps look state) (time : Nat) :
    ∀ moment ∈ (task.run time state).trace, look moment.state = look state := by
  induction task generalizing time state with
  | done result => exact List.forall_mem_nil _
  | get next ih => exact ih time state (keeps time) time
  | set value next ih =>
    intro moment mem
    exact (ih keeps.2 time moment mem).trans keeps.1
  | emit event next ih => exact List.forall_mem_cons.2 ⟨rfl, ih keeps time⟩
  | wait millis age release next ih => exact ih (keeps.2 state) (time + millis)
  | never release => exact List.forall_mem_nil _

end Keeps

end IntentBus.Task
