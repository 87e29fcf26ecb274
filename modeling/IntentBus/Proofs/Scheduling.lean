import IntentBus.Schedule
import Mathlib.Data.List.Perm.Basic

/-! What a schedule does with its tasks, whatever decides which of them has its turn first: each turn of a task that may be
dropped is a turn of the task itself, and a task that is alone goes as it does without a schedule. -/

namespace IntentBus

variable {σ ε α : Type}

def Pause.rest? : Pause σ ε α → Option ((σ → σ) × Task σ ε α)
  | .ended _ => none
  | .waiting _ _ release next => some (release, next)
  | .stuck release => some (release, .never release)

namespace Task

/-- Where a task goes on with something, one that may be dropped goes on with the same, under a bound or without one, or it
is there that it is dropped. -/
inductive Limits (release : σ → σ) (next : Task σ ε α) : Task σ ε (Option α) → Prop
  | free : Limits release next (next.map some)
  | bounded (elapsed left : Nat) : Limits release next (next.bounded elapsed left)
  | drop : Limits release next (.get fun _ state => .set (release state) (.done none))

/-- A turn of a task that may be dropped, by the turn of the task itself: both see the same, and where the task stops, the
other stops as well, ends, or is dropped. -/
inductive Accords (own : Advance σ ε α) : Advance σ ε (Option α) → Prop
  | ended {result : α} (ends : own.pause = .ended result) : Accords own ⟨.ended (some result), own.state, own.trace⟩
  | waiting {release : σ → σ} {next : Task σ ε α} {limited : Task σ ε (Option α)} (millis age : Nat)
    (stops : own.pause.rest? = some (release, next)) (limits : Limits release next limited) :
    Accords own ⟨.waiting millis age release limited, own.state, own.trace⟩
  | stuck {release : σ → σ} {next : Task σ ε α} (stops : own.pause.rest? = some (release, next)) :
    Accords own ⟨.stuck release, own.state, own.trace⟩
  | dropped {release : σ → σ} {next : Task σ ε α} (stops : own.pause.rest? = some (release, next)) :
    Accords own ⟨.ended none, release own.state, own.trace⟩

private theorem Accords.cons {own : Advance σ ε α} {ran : Advance σ ε (Option α)} (accords : Accords own ran)
    (moment : Moment σ ε) :
    Accords { own with trace := moment :: own.trace } { ran with trace := moment :: ran.trace } := by
  cases accords with
  | ended ends => exact .ended ends
  | waiting millis age stops limits => exact .waiting millis age stops limits
  | stuck stops => exact .stuck stops
  | dropped stops => exact .dropped stops

/-- A task that is never dropped does what it would do alone. -/
theorem accords_map (task : Task σ ε α) (time : Nat) (state : σ) :
    Accords (task.advance time state) ((task.map some).advance time state) := by
  induction task generalizing time state with
  | done result => exact .ended rfl
  | get next ih => exact ih time state time state
  | set value next ih => exact ih time value
  | emit event next ih => exact (ih time state).cons _
  | wait millis age release next ih => exact .waiting millis age rfl .free
  | never release => exact .stuck rfl

private theorem accords_dropAfter {own : Advance σ ε α} {release : σ → σ} {next : Task σ ε α}
    (stops : own.pause.rest? = some (release, next)) (silent : own.trace = []) (left age time : Nat) :
    Accords own ((bounded.dropAfter left age release).advance time own.state) := by
  unfold bounded.dropAfter
  split
  · have accords : Accords own ⟨.ended none, release own.state, own.trace⟩ := .dropped stops
    rwa [silent] at accords
  · have accords : Accords own ⟨.waiting left age release _, own.state, own.trace⟩ := .waiting left age stops .drop
    rwa [silent] at accords

/-- A task that is dropped after some time does what it would do alone, up to its drop. -/
theorem accords_bounded (task : Task σ ε α) (elapsed left time : Nat) (state : σ) :
    Accords (task.advance time state) ((task.bounded elapsed left).advance time state) := by
  induction task generalizing elapsed left time state with
  | done result => exact .ended rfl
  | get next ih => exact ih time state elapsed left time state
  | set value next ih => exact ih elapsed left time value
  | emit event next ih => exact (ih elapsed left time state).cons _
  | wait millis age release next ih =>
    rw [bounded]
    split
    · exact .waiting millis _ rfl (.bounded _ _)
    · exact accords_dropAfter rfl rfl left elapsed time
  | never release => exact accords_dropAfter rfl rfl left elapsed time

end Task

namespace Schedule

def Outcome.eventsOf (outcome : Outcome σ ε α) (name : Nat) : List ε :=
  outcome.trace.filterMap fun moment => if moment.event.1 = name then some moment.event.2 else none

/-- All that was seen in a turn comes first. -/
theorem eventsOf_after (outcome : Outcome σ ε α) (trace : List (Moment σ ε)) (name : Nat) :
    (outcome.after name trace).eventsOf name = trace.map (·.event) ++ outcome.eventsOf name := by
  simp [Outcome.eventsOf, Outcome.after, List.filterMap_map]

/-- A turn of one task shows nothing of another one. -/
theorem eventsOf_after_other (outcome : Outcome σ ε α) (trace : List (Moment σ ε)) {name other : Nat}
    (apart : name ≠ other) : (outcome.after name trace).eventsOf other = outcome.eventsOf other := by
  simp [Outcome.eventsOf, Outcome.after, List.filterMap_map, apart]

/-- Tasks take turns, whichever of them has its turn first. -/
inductive Plays : Nat → σ → List (Entry σ ε α) → Outcome σ ε α → Prop
  | finished (time : Nat) (state : σ) : Plays time state [] ⟨[], time, state, []⟩
  | ended {time : Nat} {state : σ} {entries others : List (Entry σ ε α)} {entry : Entry σ ε α} {result : α}
    {later : Outcome σ ε α} (among : entries.Perm (entry :: others))
    (ends : (entry.task.advance entry.due state).pause = .ended result)
    (rest : Plays entry.due (entry.task.advance entry.due state).state others later) :
    Plays time state entries
      { later.after entry.name (entry.task.advance entry.due state).trace with
        results := (entry.name, result, entry.due) :: later.results }
  | waiting {time : Nat} {state : σ} {entries others nexts : List (Entry σ ε α)} {entry again : Entry σ ε α}
    {millis age : Nat} {release : σ → σ} {later : Outcome σ ε α} (among : entries.Perm (entry :: others))
    (waits : (entry.task.advance entry.due state).pause = .waiting millis age release again.task)
    (named : again.name = entry.name) (timed : again.due = entry.due + millis) (still : nexts.Perm (again :: others))
    (rest : Plays entry.due (entry.task.advance entry.due state).state nexts later) :
    Plays time state entries (later.after entry.name (entry.task.advance entry.due state).trace)
  | stuck {time : Nat} {state : σ} {entries others : List (Entry σ ε α)} {entry : Entry σ ε α} {release : σ → σ}
    {later : Outcome σ ε α} (among : entries.Perm (entry :: others))
    (stops : (entry.task.advance entry.due state).pause = .stuck release)
    (rest : Plays entry.due (entry.task.advance entry.due state).state others later) :
    Plays time state entries (later.after entry.name (entry.task.advance entry.due state).trace)

/-- A schedule is one of the ways in which its tasks can take turns. -/
theorem plays_runFrom (turn time : Nat) (state : σ) (entries : List (Entry σ ε α)) :
    Plays time state entries (runFrom turn time state entries) := by
  induction turn, time, state, entries using runFrom.induct with
  | case1 turn time state =>
    rw [runFrom]
    exact .finished time state
  | case2 turn time state first rest place within entry ran result ends ih =>
    rw [runFrom]
    dsimp only
    split
    · next same =>
      cases ends.symm.trans same
      exact .ended (List.getElem_cons_eraseIdx_perm within).symm same ih
    · next same => nomatch ends.symm.trans same
    · next same => nomatch ends.symm.trans same
  | case3 turn time state first rest place within entry ran millis age release next waits ih =>
    rw [runFrom]
    dsimp only
    split
    · next same => nomatch waits.symm.trans same
    · next same =>
      cases waits.symm.trans same
      have still := List.set_perm_cons_eraseIdx within (entry.resumed turn millis age next)
      have named : (entry.resumed turn millis age next).name = entry.name := rfl
      have timed : (entry.resumed turn millis age next).due = entry.due + millis := rfl
      exact .waiting (List.getElem_cons_eraseIdx_perm within).symm same named timed still ih
    · next same => nomatch waits.symm.trans same
  | case4 turn time state first rest place within entry ran release stops ih =>
    rw [runFrom]
    dsimp only
    split
    · next same => nomatch stops.symm.trans same
    · next same => nomatch stops.symm.trans same
    · next same =>
      cases stops.symm.trans same
      exact .stuck (List.getElem_cons_eraseIdx_perm within).symm same ih

/-- Nothing is seen of a task that is not among the others. -/
theorem Plays.eventsOf {time : Nat} {state : σ} {entries : List (Entry σ ε α)} {outcome : Outcome σ ε α}
    (plays : Plays time state entries outcome) {name : Nat} (absent : ∀ entry ∈ entries, entry.name ≠ name) :
    outcome.eventsOf name = [] := by
  induction plays with
  | finished time state => rfl
  | ended among ends rest ih | stuck among stops rest ih =>
    obtain ⟨other, absent⟩ := List.forall_mem_cons.1 fun entry mem => absent entry (among.mem_iff.2 mem)
    exact (eventsOf_after_other _ _ other).trans (ih absent)
  | waiting among waits named timed still rest ih =>
    obtain ⟨other, absent⟩ := List.forall_mem_cons.1 fun entry mem => absent entry (among.mem_iff.2 mem)
    refine (eventsOf_after_other _ _ other).trans (ih fun entry mem => ?_)
    rcases List.mem_cons.1 (still.mem_iff.1 mem) with rfl | mem
    · rwa [named]
    · exact absent entry mem

def Outcome.ofRun (name : Nat) (run : Run σ ε α) : Outcome σ ε α :=
  ⟨run.result.toList.map fun result => (name, result, run.time), run.time, run.state,
    run.trace.map fun moment => ⟨moment.time, moment.state, name, moment.event⟩⟩

private theorem Plays.of_none {time : Nat} {state : σ} {outcome : Outcome σ ε α} (plays : Plays time state [] outcome) :
    outcome = ⟨[], time, state, []⟩ := by
  cases plays with
  | finished time state => rfl
  | ended among ends rest => exact absurd among.symm List.not_perm_cons_nil
  | waiting among waits named timed still rest => exact absurd among.symm List.not_perm_cons_nil
  | stuck among stops rest => exact absurd among.symm List.not_perm_cons_nil

private theorem Plays.of_one {time : Nat} {state : σ} {entries : List (Entry σ ε α)} {outcome : Outcome σ ε α}
    (plays : Plays time state entries outcome) {entry : Entry σ ε α} (alone : entries.Perm [entry]) :
    outcome = .ofRun entry.name (entry.task.run entry.due state) := by
  induction plays generalizing entry with
  | finished time state => exact absurd alone (List.not_perm_nil_cons _ _)
  | ended among ends rest ih =>
    obtain ⟨rfl, rfl⟩ := List.cons.inj (List.perm_singleton.1 (among.symm.trans alone))
    rw [rest.of_none, Task.run_eq_advance, ends]
    simp [Outcome.ofRun, Outcome.after]
  | @waiting _ _ _ _ _ entry _ _ _ _ _ among waits named timed still rest ih =>
    obtain ⟨rfl, rfl⟩ := List.cons.inj (List.perm_singleton.1 (among.symm.trans alone))
    rw [Task.run_eq_advance entry.task, waits, ih still, named, timed]
    simp [Outcome.ofRun, Outcome.after]
  | stuck among stops rest ih =>
    obtain ⟨rfl, rfl⟩ := List.cons.inj (List.perm_singleton.1 (among.symm.trans alone))
    rw [rest.of_none, Task.run_eq_advance, stops]
    simp [Outcome.ofRun, Outcome.after]

/-- The schedule of one task alone is the run of this task. -/
theorem run_singleton (task : Task σ ε α) (time : Nat) (state : σ) :
    run [task] time state = .ofRun 0 (task.run time state) :=
  (plays_runFrom 1 time state [⟨0, time, 0, [], task⟩]).of_one (.refl _)

end Schedule

end IntentBus
