import IntentBus.Proofs.Drops
import IntentBus.Schedule

/-! Tasks turn by turn: what the last turn of a task does to something that all turns before it leave alone.
Between two turns of a task, others may change the state as they like. -/

namespace IntentBus.Task

variable {σ ε δ α β γ : Type}

/-- All turns of the task but the last leave alone what is looked at, and the last turn changes it as is owed:
for a result, and for whether an event of a kind was seen by then. `before` is what was there when the turn
began. -/
def Commits (sees : ε → Bool) (look : σ → γ) (owed : Bool → α → γ → γ → Prop) :
    Task σ ε α → Bool → γ → σ → Prop
  | done result, seen, before, state => owed seen result before (look state)
  | get next, seen, before, state => ∀ time, (next time state).Commits sees look owed seen before state
  | set value next, seen, before, _ => next.Commits sees look owed seen before value
  | emit event next, seen, before, state => next.Commits sees look owed (seen || sees event) before state
  | wait _ _ release next, seen, before, state => look state = before ∧
    (∀ state, look (release state) = look state) ∧
      ∀ state, next.Commits sees look owed seen (look state) state
  | never release, _, before, state => look state = before ∧ ∀ state, look (release state) = look state

section

variable {sees : ε → Bool} {look : σ → γ} {owed : Bool → α → γ → γ → Prop} {seen : Bool} {before : γ} {state : σ}

/-- The last turn of the first part goes on with the second. -/
theorem Commits.bind {due : Bool → β → γ → γ → Prop} {task : Task σ ε α} {f : α → Task σ ε β}
    (first : task.Commits sees look owed seen before state)
    (rest : ∀ result seen before state, owed seen result before (look state) →
      (f result).Commits sees look due seen before state) :
    (task.bind f).Commits sees look due seen before state := by
  induction task generalizing seen before state with
  | done result => exact rest result seen before state first
  | get next ih =>
    intro time
    exact ih time state (first time)
  | set value next ih => exact ih first
  | emit event next ih => exact ih first
  | wait millis age release next ih =>
    obtain ⟨same, keeps, later⟩ := first
    exact ⟨same, keeps, fun state => ih (later state)⟩
  | never release => exact first

/-- A task that never changes what is looked at does not do so in its last turn either. -/
theorem commits_of_keeps {expected : α → Prop} {task : Task σ ε α} (keeps : task.Keeps look state)
    (silent : task.Emits (sees · = false)) (returns : task.Returns expected) (same : look state = before) :
    task.Commits sees look (fun late result before after => late = seen ∧ expected result ∧ after = before) seen
      before state := by
  induction task generalizing before state with
  | done result => exact ⟨rfl, returns, same⟩
  | get next ih =>
    intro time
    exact ih time state (keeps time) (silent time state) (returns time state) same
  | set value next ih => exact ih keeps.2 silent returns (keeps.1.trans same)
  | emit event next ih =>
    simp only [Commits, silent.1, Bool.or_false]
    exact ih keeps silent.2 returns same
  | wait millis age release next ih =>
    exact ⟨same, keeps.1, fun state => ih (keeps.2 state) silent returns rfl⟩
  | never release => exact ⟨same, keeps⟩

/-- What follows from what is owed is owed as well. -/
theorem Commits.mono {due : Bool → α → γ → γ → Prop}
    (widens : ∀ late result before after, owed late result before after → due late result before after)
    {task : Task σ ε α} (commits : task.Commits sees look owed seen before state) :
    task.Commits sees look due seen before state := by
  induction task generalizing seen before state with
  | done result => exact widens _ _ _ _ commits
  | get next ih =>
    intro time
    exact ih time state (commits time)
  | set value next ih => exact ih commits
  | emit event next ih => exact ih commits
  | wait millis age release next ih =>
    obtain ⟨same, keeps, later⟩ := commits
    exact ⟨same, keeps, fun state => ih (later state)⟩
  | never release => exact commits

/-- What is owed for a task may mention what it returns. -/
theorem Commits.and_returns {expected : α → Prop} {task : Task σ ε α}
    (commits : task.Commits sees look owed seen before state) (returns : task.Returns expected) :
    task.Commits sees look (fun late result before after => owed late result before after ∧ expected result) seen
      before state := by
  induction task generalizing seen before state with
  | done result => exact ⟨commits, returns⟩
  | get next ih =>
    intro time
    exact ih time state (commits time) (returns time state)
  | set value next ih => exact ih commits returns
  | emit event next ih => exact ih commits returns
  | wait millis age release next ih =>
    obtain ⟨same, keeps, later⟩ := commits
    exact ⟨same, keeps, fun state => ih (later state) returns⟩
  | never release => exact commits

/-- A task that is over at once may follow when what is looked at has changed. -/
theorem Prompt.commits {expected : α → Prop} {task : Task σ ε α} (prompt : task.Prompt) (keeps : task.Keeps look state)
    (returns : task.Returns expected) (pays : ∀ late result, expected result → owed late result before (look state)) :
    task.Commits sees look owed seen before state := by
  induction task generalizing seen state with
  | done result => exact pays seen result returns
  | get next ih =>
    intro time
    exact ih time state (prompt time state) (keeps time) (returns time state) pays
  | set value next ih =>
    obtain ⟨same, later⟩ := keeps
    rw [← same] at pays
    exact ih prompt later returns pays
  | emit event next ih => exact ih prompt keeps returns pays
  | wait millis age release next ih => exact prompt.elim
  | never release => exact prompt.elim

def OwedInTime (owed : Bool → α → γ → γ → Prop) (late : Bool) (result : Option α) (before after : γ) : Prop :=
  match result with
  | none => after = before
  | some result => owed late result before after

private theorem commits_dropAfter (same : look state = before) {release : σ → σ}
    (keeps : ∀ state, look (release state) = look state) (left age : Nat) :
    (bounded.dropAfter left age release : Task σ ε (Option α)).Commits sees look (OwedInTime owed) seen before state := by
  unfold bounded.dropAfter
  split
  · exact fun _ => (keeps state).trans same
  · exact ⟨same, keeps, fun state _ => keeps state⟩

/-- A task that is dropped has changed nothing of what is looked at. -/
theorem Commits.bounded {task : Task σ ε α} (commits : task.Commits sees look owed seen before state)
    (elapsed left : Nat) : (task.bounded elapsed left).Commits sees look (OwedInTime owed) seen before state := by
  induction task generalizing seen before state elapsed left with
  | done result => exact commits
  | get next ih =>
    intro time
    exact ih time state (commits time) elapsed left
  | set value next ih => exact ih commits elapsed left
  | emit event next ih => exact ih commits elapsed left
  | wait millis age release next ih =>
    obtain ⟨same, keeps, later⟩ := commits
    rw [Task.bounded]
    split
    · exact ⟨same, keeps, fun state => ih (later state) _ _⟩
    · exact commits_dropAfter same keeps _ _
  | never release => exact commits_dropAfter commits.1 commits.2 _ _

/-- What was seen before a task that changes nothing of what is looked at has been seen at its end. -/
theorem Keeps.commits {shown : Prop} {task : Task σ ε α} (keeps : task.Keeps look state) (given : shown → seen = true)
    (same : look state = before) :
    task.Commits sees look (fun late _ before after => (shown → late = true) ∧ after = before) seen before state := by
  induction task generalizing seen before state with
  | done result => exact ⟨given, same⟩
  | get next ih =>
    intro time
    exact ih time state (keeps time) given same
  | set value next ih => exact ih keeps.2 given (keeps.1.trans same)
  | emit event next ih =>
    have still (holds : shown) : (seen || sees event) = true := by rw [given holds, Bool.true_or]
    exact ih keeps still same
  | wait millis age release next ih => exact ⟨same, keeps.1, fun state => ih (keeps.2 state) given rfl⟩
  | never release => exact ⟨same, keeps⟩

/-- The event with which a task begins has been seen at its end. -/
theorem Opens.commits {shown : Prop} {first : ε} {allowed : ε → Prop} {task : Task σ ε α}
    (opens : task.Opens first allowed) (keeps : task.Keeps look state)
    (given : shown → (seen || sees first) = true) (same : look state = before) :
    task.Commits sees look (fun late _ before after => (shown → late = true) ∧ after = before) seen before state := by
  induction task generalizing before state with
  | done result => exact opens.elim
  | get next ih =>
    intro time
    exact ih time state (opens time state) (keeps time) same
  | set value next ih => exact ih opens keeps.2 (keeps.1.trans same)
  | emit event next ih =>
    obtain ⟨rfl, _⟩ := opens
    change next.Commits _ _ _ _ _ _
    exact Keeps.commits keeps given same
  | wait millis age release next ih => exact opens.elim
  | never release => exact opens.elim

/-- An event that is not looked for changes nothing about what is owed behind it. -/
theorem commits_signal_bind {event : ε} (silent : sees event = false)
    {due : Bool → β → γ → γ → Prop} {f : Unit → Task σ ε β}
    (rest : (f ()).Commits sees look due seen before state) :
    ((signal event).bind f).Commits sees look due seen before state := by
  change (f ()).Commits sees look due (seen || sees event) before state
  rw [silent, Bool.or_false]
  exact rest

/-- To emit events that are not looked for owes what is owed without them. -/
theorem commits_signals {events : List ε} (silent : ∀ event ∈ events, sees event = false)
    {due : Bool → Unit → γ → γ → Prop} (pays : due seen () before (look state)) :
    (signals events).Commits sees look due seen before state := by
  induction events with
  | nil => exact pays
  | cons event rest ih =>
    simp only [signals, Commits, silent event (.head rest), Bool.or_false]
    exact ih fun other mem => silent other (.tail event mem)

/-- Events may be seen as others of which as much can be seen. -/
theorem Commits.mapEvents {sees' : δ → Bool} {f : ε → δ}
    (same : ∀ event, sees' (f event) = sees event) {task : Task σ ε α}
    (commits : task.Commits sees look owed seen before state) :
    (task.mapEvents f).Commits sees' look owed seen before state := by
  induction task generalizing seen before state with
  | done result => exact commits
  | get next ih =>
    intro time
    exact ih time state (commits time)
  | set value next ih => exact ih commits
  | emit event next ih =>
    simp only [Task.mapEvents, Commits, same]
    exact ih commits
  | wait millis age release next ih =>
    obtain ⟨same, keeps, later⟩ := commits
    exact ⟨same, keeps, fun state => ih (later state)⟩
  | never release => exact commits

/-- A release that leaves alone what is looked at makes no difference. -/
theorem Commits.releasing {release : σ → σ} (idle : ∀ state, look (release state) = look state)
    {task : Task σ ε α} (commits : task.Commits sees look owed seen before state) :
    (task.releasing release).Commits sees look owed seen before state := by
  induction task generalizing seen before state with
  | done result =>
    intro time
    simp only [Commits, idle]
    exact commits
  | get next ih =>
    intro time
    exact ih time state (commits time)
  | set value next ih => exact ih commits
  | emit event next ih => exact ih commits
  | wait millis age inner next ih =>
    obtain ⟨same, keeps, later⟩ := commits
    exact ⟨same, fun state => (idle _).trans (keeps state), fun state => ih (later state)⟩
  | never inner => exact ⟨commits.1, fun state => (idle _).trans (commits.2 state)⟩

/-- What is owed for a task at a pause, with all the events of the turn. -/
def Pays (sees : ε → Bool) (look : σ → γ) (owed : Bool → α → γ → γ → Prop) (seen : Bool) (before after : γ) :
    Pause σ ε α → Prop
  | .ended result => owed seen result before after
  | .waiting _ _ release next => after = before ∧ (∀ state, look (release state) = look state) ∧
    ∀ state, next.Commits sees look owed seen (look state) state
  | .stuck release => after = before ∧ ∀ state, look (release state) = look state

/-- A turn pays what is owed for it. -/
theorem Commits.advance {task : Task σ ε α}
    (commits : task.Commits sees look owed seen before state) (time : Nat) :
    Pays sees look owed (seen || (task.advance time state).trace.any (sees ·.event)) before
      (look (task.advance time state).state) (task.advance time state).pause := by
  induction task generalizing seen before state with
  | done result =>
    rw [Task.advance, List.any_nil, Bool.or_false]
    exact commits
  | get next ih => exact ih time state (commits time)
  | set value next ih => exact ih commits
  | emit event next ih =>
    have later := ih commits
    rw [Bool.or_assoc] at later
    exact later
  | wait millis age release next ih =>
    rw [Task.advance, List.any_nil, Bool.or_false]
    exact commits
  | never release => exact commits

/-- A task that runs with no other between its turns pays at its end what is owed, and nothing before. -/
theorem Commits.run {task : Task σ ε α} (commits : task.Commits sees look owed seen before state) (time : Nat) :
    match (task.run time state).result with
    | some result => owed (seen || (task.run time state).events.any sees) result before (look (task.run time state).state)
    | none => look (task.run time state).state = before := by
  induction task generalizing seen before time state with
  | done result =>
    rw [run_done, Run.still_events, List.any_nil, Bool.or_false]
    exact commits
  | get next ih => exact ih time state (commits time) time
  | set value next ih => exact ih commits time
  | emit event next ih =>
    have later := ih commits time
    rw [Bool.or_assoc] at later
    exact later
  | wait millis age release next ih =>
    obtain ⟨rfl, _, later⟩ := commits
    exact ih (later state) (time + millis)
  | never release => exact commits.1

end

end IntentBus.Task
