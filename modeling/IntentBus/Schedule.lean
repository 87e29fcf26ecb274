import IntentBus.Task

/-! Many tasks on one thread. A task runs until it waits; then the task whose timer runs out first goes on, and
of timers that run out together the one that was set first. -/

namespace IntentBus

/-- Where a task stops running: at its end, at a wait, or for good. A task that has not ended may be dropped
there, with its release. -/
inductive Pause (σ ε α : Type)
  | ended (result : α)
  | waiting (millis age : Nat) (release : σ → σ) (next : Task σ ε α)
  | stuck (release : σ → σ)

/-- A run up to the first pause. -/
structure Advance (σ ε α : Type) where
  pause : Pause σ ε α
  state : σ
  trace : List (Moment σ ε)

namespace Task

variable {σ ε α : Type}

/-- Runs a task up to its first pause. -/
def advance : Task σ ε α → Nat → σ → Advance σ ε α
  | done result, _, state => ⟨.ended result, state, []⟩
  | get next, time, state => (next time state).advance time state
  | set state next, time, _ => next.advance time state
  | emit event next, time, state =>
    let rest := next.advance time state
    { rest with trace := ⟨time, state, event⟩ :: rest.trace }
  | wait millis age release next, _, state => ⟨.waiting millis age release next, state, []⟩
  | never release, _, state => ⟨.stuck release, state, []⟩

/-- Running a task is running it to its first pause and going on from there. -/
theorem run_eq_advance (task : Task σ ε α) (time : Nat) (state : σ) :
    task.run time state =
      match (task.advance time state).pause with
      | .ended result => ⟨some result, time, (task.advance time state).state, (task.advance time state).trace⟩
      | .waiting millis _ _ next =>
        let rest := next.run (time + millis) (task.advance time state).state
        { rest with trace := (task.advance time state).trace ++ rest.trace }
      | .stuck _ => ⟨none, time, (task.advance time state).state, (task.advance time state).trace⟩ := by
  induction task generalizing time state with
  | done result => rfl
  | get next ih => exact ih time state time state
  | set value next ih => exact ih time value
  | emit event next ih =>
    simp only [run, advance]
    rw [ih time state]
    cases (next.advance time state).pause <;> rfl
  | wait millis age release next _ => rfl
  | never release => rfl

/-- A task that another one goes on with. -/
inductive Part : Task σ ε α → Task σ ε α → Prop
  | get (next : Nat → σ → Task σ ε α) (time : Nat) (state : σ) : Part (next time state) (.get next)
  | set (state : σ) (next : Task σ ε α) : Part next (.set state next)
  | emit (event : ε) (next : Task σ ε α) : Part next (.emit event next)
  | wait (millis age : Nat) (release : σ → σ) (next : Task σ ε α) : Part next (.wait millis age release next)

/-- A task that another one comes to after some steps. -/
abbrev Later : Task σ ε α → Task σ ε α → Prop := Relation.TransGen Part

theorem acc_part (task : Task σ ε α) : Acc Part task := by
  induction task with
  | done result => exact ⟨_, fun _ part => nomatch part⟩
  | get next ih => exact ⟨_, fun _ part => by cases part; exact ih _ _⟩
  | set state next ih => exact ⟨_, fun _ part => by cases part; exact ih⟩
  | emit event next ih => exact ⟨_, fun _ part => by cases part; exact ih⟩
  | wait millis age release next ih => exact ⟨_, fun _ part => by cases part; exact ih⟩
  | never release => exact ⟨_, fun _ part => nomatch part⟩

/-- What a task waits to go on with comes later than the task. -/
theorem later_of_advance {task next : Task σ ε α} {time millis age : Nat} {state : σ} {release : σ → σ}
    (waits : (task.advance time state).pause = .waiting millis age release next) : Later next task := by
  induction task generalizing time state with
  | done result => nomatch waits
  | get start ih => exact .tail (ih _ _ waits) (.get start time state)
  | set value start ih => exact .tail (ih waits) (.set value start)
  | emit event start ih => exact .tail (ih waits) (.emit event start)
  | wait length since release start _ =>
    cases waits
    exact .single (.wait _ _ _ _)
  | never release => nomatch waits

end Task

/-- A list with one element less, or with one element replaced by a smaller one. -/
inductive Shrinks {α : Type} (smaller : α → α → Prop) : List α → List α → Prop
  | drop (first : α) (rest : List α) : Shrinks smaller rest (first :: rest)
  | head {first next : α} (rest : List α) : smaller next first → Shrinks smaller (next :: rest) (first :: rest)
  | tail (first : α) {next rest : List α} : Shrinks smaller next rest →
    Shrinks smaller (first :: next) (first :: rest)

namespace Shrinks

variable {α : Type} {smaller : α → α → Prop}

theorem acc_cons {first : α} (head : Acc smaller first) :
    ∀ {rest : List α}, Acc (Shrinks smaller) rest → Acc (Shrinks smaller) (first :: rest) := by
  induction head with
  | intro first _ lower =>
    intro rest tail
    induction tail with
    | intro rest shorter lowerRest =>
      refine ⟨_, fun other shrinks => ?_⟩
      cases shrinks with
      | drop => exact ⟨_, shorter⟩
      | head _ less => exact lower _ less ⟨_, shorter⟩
      | tail _ less => exact lowerRest _ less

/-- Lists can shrink only so often if their elements can. -/
theorem acc (elements : ∀ element, Acc smaller element) (list : List α) : Acc (Shrinks smaller) list := by
  induction list with
  | nil => exact ⟨_, fun _ shrinks => nomatch shrinks⟩
  | cons first rest ih => exact acc_cons (elements first) ih

theorem eraseIdx {list : List α} {place : Nat} (within : place < list.length) :
    Shrinks smaller (list.eraseIdx place) list := by
  induction list generalizing place with
  | nil => exact absurd within (Nat.not_lt_zero _)
  | cons first rest ih =>
    cases place with
    | zero => exact .drop first rest
    | succ place => exact .tail first (ih (Nat.lt_of_succ_lt_succ within))

theorem set {list : List α} {place : Nat} {next : α} (within : place < list.length)
    (less : smaller next list[place]) : Shrinks smaller (list.set place next) list := by
  induction list generalizing place with
  | nil => exact absurd within (Nat.not_lt_zero _)
  | cons first rest ih =>
    cases place with
    | zero => exact .head rest less
    | succ place => exact .tail first (ih (Nat.lt_of_succ_lt_succ within) less)

end Shrinks

namespace Schedule

variable {σ ε α : Type}

/-- A task among others: its name, when its timer runs out, the turn in which that timer was set, and the times
of its own turns so far. -/
structure Entry (σ ε α : Type) where
  name : Nat
  due : Nat
  stamp : Nat
  turns : List (Nat × Nat)
  task : Task σ ε α

/-- Whether the timer of one task goes off before that of another. -/
def Entry.before (first second : Entry σ ε α) : Bool :=
  first.due < second.due || (first.due = second.due && first.stamp < second.stamp)

/-- The place of the entry whose timer goes off first. -/
def firstDue (first : Entry σ ε α) : List (Entry σ ε α) → Nat
  | [] => 0
  | second :: rest =>
    let place := firstDue second rest
    match (second :: rest)[place]? with
    | some entry => if entry.before first then place + 1 else 0
    | none => 0

theorem firstDue_lt (first : Entry σ ε α) (rest : List (Entry σ ε α)) :
    firstDue first rest < (first :: rest).length := by
  induction rest generalizing first with
  | nil => exact Nat.one_pos
  | cons second rest ih =>
    simp only [firstDue]
    split
    · split
      · exact Nat.succ_lt_succ (ih second)
      · exact Nat.succ_pos _
    · exact Nat.succ_pos _

/-- How several tasks went: the results with the times of their ends, by name, in the order of these times; no
task is named that never ends. Each event has the name of its task. -/
structure Outcome (σ ε α : Type) where
  results : List (Nat × α × Nat)
  time : Nat
  state : σ
  trace : List (Moment σ (Nat × ε))

/-- The entry of a task that has stopped at a wait in a turn. -/
def Entry.resumed (entry : Entry σ ε α) (turn millis age : Nat) (next : Task σ ε α) : Entry σ ε α :=
  let turns := (entry.due, turn) :: entry.turns
  { entry with
    due := entry.due + millis
    stamp := (turns.lookup (entry.due - age)).getD turn
    turns := turns
    task := next }

/-- An outcome with what happened in one turn before it. -/
def Outcome.after (rest : Outcome σ ε α) (name : Nat) (trace : List (Moment σ ε)) : Outcome σ ε α :=
  { rest with trace := trace.map (fun moment => ⟨moment.time, moment.state, name, moment.event⟩) ++ rest.trace }

/-- Later in the sense of the tasks of entries. -/
def Smaller (first second : Entry σ ε α) : Prop := Task.Later first.task second.task

instance : WellFoundedRelation (List (Entry σ ε α)) :=
  ⟨Shrinks Smaller, ⟨Shrinks.acc fun entry => InvImage.accessible _ (Task.acc_part entry.task).transGen⟩⟩

/-- Gives turns to the entries until none is left that will go on. -/
def runFrom (turn time : Nat) (state : σ) : List (Entry σ ε α) → Outcome σ ε α
  | [] => ⟨[], time, state, []⟩
  | first :: rest =>
    let place := firstDue first rest
    have within : place < (first :: rest).length := firstDue_lt first rest
    let entry := (first :: rest)[place]
    let ran := entry.task.advance entry.due state
    match stops : ran.pause with
    | .ended result =>
      let later := runFrom (turn + 1) entry.due ran.state ((first :: rest).eraseIdx place)
      { later.after entry.name ran.trace with results := (entry.name, result, entry.due) :: later.results }
    | .waiting millis age _ next =>
      (runFrom (turn + 1) entry.due ran.state
        ((first :: rest).set place (entry.resumed turn millis age next))).after entry.name ran.trace
    | .stuck _ =>
      (runFrom (turn + 1) entry.due ran.state ((first :: rest).eraseIdx place)).after entry.name ran.trace
termination_by entries => entries
decreasing_by
  · exact Shrinks.eraseIdx within
  · exact Shrinks.set within (Task.later_of_advance stops)
  · exact Shrinks.eraseIdx within

/-- Runs tasks from a time and a state on. They are named by their places, and start in this order. -/
def run (tasks : List (Task σ ε α)) (time : Nat) (state : σ) : Outcome σ ε α :=
  runFrom tasks.length time state (tasks.mapIdx fun place task => ⟨place, time, place, [], task⟩)

end Schedule

end IntentBus
