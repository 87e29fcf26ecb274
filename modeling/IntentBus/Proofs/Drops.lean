import IntentBus.Proofs.Effects

/-! Tasks that are dropped after some time: how the run of what is dropped is made of the runs of its parts, and
what is left of a task that takes back what it did unless it comes to its last part. -/

namespace IntentBus

variable {σ ε δ α β γ : Type}

/-- Only how a run goes on from where it ended makes a difference. -/
theorem Run.andThen_congr {run : Run σ ε α} {next other : α → Nat → σ → Run σ ε β}
    (same : ∀ result, run.result = some result → next result run.time run.state = other result run.time run.state) :
    run.andThen next = run.andThen other := by
  cases ends : run.result with
  | none => rw [Run.andThen_of_none ends, Run.andThen_of_none ends]
  | some result => rw [Run.andThen_of_some ends, Run.andThen_of_some ends, same result ends]

namespace Task

/-- For a run on its own it makes no difference how long ago a bound was set. -/
theorem run_bounded (task : Task σ ε α) (elapsed left time : Nat) (state : σ) :
    (task.bounded elapsed left).run time state = (task.within left).run time state := by
  suffices alike : ∀ first second,
      (task.bounded first left).run time state = (task.bounded second left).run time state from alike elapsed 0
  induction task generalizing left time state with
  | done result => exact fun _ _ => rfl
  | get next ih => exact fun first second => ih time state left time state first second
  | set value next ih => exact fun first second => ih left time value first second
  | emit event next ih =>
    intro first second
    rw [bounded, bounded, run_emit, run_emit, ih left time state first second]
  | wait millis age release next ih =>
    intro first second
    rw [bounded, bounded]
    split
    · exact ih (left - millis) (time + millis) state (first + millis) (second + millis)
    · rw [run_dropAfter, run_dropAfter]
  | never release =>
    intro first second
    rw [bounded, bounded, run_dropAfter, run_dropAfter]

section

variable (left time : Nat) (state : σ)

@[simp] theorem run_within_done (result : α) : ((done result : Task σ ε α).within left).run time state =
    .still (some result) time state [] := rfl

@[simp] theorem run_within_get (next : Nat → σ → Task σ ε α) :
    ((get next).within left).run time state = ((next time state).within left).run time state := rfl

@[simp] theorem run_within_set (value : σ) (next : Task σ ε α) :
    ((set value next).within left).run time state = (next.within left).run time value := rfl

@[simp] theorem run_within_emit (event : ε) (next : Task σ ε α) : ((emit event next).within left).run time state =
    ((next.within left).run time state).after [⟨time, state, event⟩] := rfl

/-- A wait that is too long ends with the release. -/
theorem run_within_wait (millis age : Nat) (release : σ → σ) (next : Task σ ε α) :
    ((wait millis age release next).within left).run time state =
      if millis ≤ left then (next.within (left - millis)).run (time + millis) state
      else .still none (time + left) (release state) [] := by
  rw [within, bounded]
  split
  · exact run_bounded next _ _ _ _
  · exact run_dropAfter left 0 time release state

@[simp] theorem run_within_never (release : σ → σ) : ((never release : Task σ ε α).within left).run time state =
    .still none (time + left) (release state) [] :=
  run_dropAfter left 0 time release state

end

/-- The second part of a task that is dropped has the time that the first one left. -/
theorem run_within_bind (task : Task σ ε α) (f : α → Task σ ε β) (left time : Nat) (state : σ) :
    ((task.bind f).within left).run time state =
      ((task.within left).run time state).andThen fun result now state => match result with
        | none => .still none now state []
        | some result => ((f result).within (left - (now - time))).run now state := by
  induction task generalizing left time state with
  | done result => simp [bind]
  | get next ih => exact ih time state left time state
  | set value next ih => exact ih left time value
  | emit event next ih =>
    rw [run_within_emit, Run.after_andThen, ← ih]
    rfl
  | wait millis age release next ih =>
    rw [bind, run_within_wait, run_within_wait]
    split
    · next fits =>
      rw [ih]
      refine Run.andThen_congr fun result _ => ?_
      cases result with
      | none => rfl
      | some result =>
        have later := (next.within (left - millis)).le_run_time (time + millis) state
        have rest : left - millis - (((next.within (left - millis)).run (time + millis) state).time - (time + millis)) =
            left - (((next.within (left - millis)).run (time + millis) state).time - time) := by omega
        simp only [rest]
    · rfl
  | never release =>
    rw [bind, run_within_never, run_within_never]
    rfl

/-- A task is dropped at the same point however its events are seen. -/
theorem run_within_mapEvents (f : ε → δ) (task : Task σ ε α) (left time : Nat) (state : σ) :
    ((task.mapEvents f).within left).run time state = ((task.within left).run time state).mapEvents f := by
  induction task generalizing left time state with
  | done result => rfl
  | get next ih => exact ih time state left time state
  | set value next ih => exact ih left time value
  | emit event next ih =>
    rw [mapEvents, run_within_emit, ih]
    rfl
  | wait millis age release next ih =>
    rw [mapEvents, run_within_wait, run_within_wait]
    split
    · exact ih _ _ _
    · rfl
  | never release =>
    rw [mapEvents, run_within_never, run_within_never]
    rfl

/-- The release follows also where the task is dropped. -/
theorem run_within_releasing (release : σ → σ) (task : Task σ ε α) (left time : Nat) (state : σ) :
    ((task.releasing release).within left).run time state =
      ((task.within left).run time state).releasing release := by
  induction task generalizing left time state with
  | done result => rfl
  | get next ih => exact ih time state left time state
  | set value next ih => exact ih left time value
  | emit event next ih =>
    rw [releasing, run_within_emit, ih]
    rfl
  | wait millis age inner next ih =>
    rw [releasing, run_within_wait, run_within_wait]
    split
    · exact ih _ _ _
    · rfl
  | never inner =>
    rw [releasing, run_within_never, run_within_never]
    rfl

/-- The task ends, and does not wait before. -/
def Prompt : Task σ ε α → Prop
  | done _ => True
  | get next => ∀ time state, (next time state).Prompt
  | set _ next => next.Prompt
  | emit _ next => next.Prompt
  | wait _ _ _ _ => False
  | never _ => False

/-- Tasks in a row do not wait if none of them does. -/
theorem Prompt.bind {task : Task σ ε α} {f : α → Task σ ε β} (first : task.Prompt)
    (rest : ∀ result, (f result).Prompt) : (task.bind f).Prompt := by
  induction task with
  | done result => exact rest result
  | get next ih =>
    intro time state
    exact ih time state (first time state)
  | set value next ih => exact ih first
  | emit event next ih => exact ih first
  | wait millis age release next ih => exact first.elim
  | never release => exact first.elim

/-- To emit events takes no time. -/
theorem prompt_signals (events : List ε) : (signals events : Task σ ε Unit).Prompt := by
  induction events with
  | nil => trivial
  | cons event rest ih => exact ih

/-- A task that does not wait does not wait on a part of a state either. -/
theorem Prompt.focus {τ : Type} {view : τ → σ} {put : σ → τ → τ} {f : ε → δ} {task : Task σ ε α}
    (prompt : task.Prompt) : (task.focus view put f).Prompt := by
  induction task with
  | done result => trivial
  | get next ih =>
    intro time whole
    exact ih time (view whole) (prompt time (view whole))
  | set value next ih => exact fun _ _ => ih prompt
  | emit event next ih => exact ih prompt
  | wait millis age release next ih => exact prompt.elim
  | never release => exact prompt.elim

/-- A task that does not wait has its result at once. -/
theorem Prompt.run {task : Task σ ε α} (prompt : task.Prompt) (time : Nat) (state : σ) :
    (task.run time state).EndsAt time := by
  induction task generalizing state with
  | done result => exact ⟨rfl, rfl⟩
  | get next ih => exact ih time state (prompt time state) state
  | set value next ih => exact ih prompt value
  | emit event next ih => exact ih prompt state
  | wait millis age release next ih => exact prompt.elim
  | never release => exact prompt.elim

/-- There is no time to drop a task that does not wait. -/
theorem Prompt.run_within {task : Task σ ε α} (prompt : task.Prompt) (left time : Nat) (state : σ) :
    ((task.within left).run time state).result ≠ some none := by
  induction task generalizing time state with
  | done result => nofun
  | get next ih => exact ih time state (prompt time state) time state
  | set value next ih => exact ih prompt time value
  | emit event next ih => exact ih prompt time state
  | wait millis age release next ih => exact prompt.elim
  | never release => exact prompt.elim

/-- A task that has only so much time is over by then, and until then it goes as it would have gone without. -/
theorem run_within_ends (task : Task σ ε α) (left time : Nat) (state : σ) :
    ((task.within left).run time state).result.isSome ∧
      ((task.within left).run time state).trace <+: (task.run time state).trace := by
  by_cases inTime : (task.run time state).result.isSome ∧ (task.run time state).time ≤ time + left
  · obtain ⟨ends, soon⟩ := inTime
    obtain ⟨result, same⟩ := Option.isSome_iff_exists.1 ends
    rw [within, run_bounded_of_le same soon]
    exact ⟨rfl, List.prefix_refl _⟩
  · have late : (task.run time state).result.isSome → time + left < (task.run time state).time :=
      fun ends => Nat.lt_of_not_le fun soon => inTime ⟨ends, soon⟩
    obtain ⟨cut, _, before⟩ := @run_bounded_of_lt _ _ _ task 0 left time state late
    exact ⟨Option.isSome_of_eq_some cut, before⟩

/-- However the task ends, and wherever it is dropped, what is looked at is then as it was before. -/
def Restores (look : σ → γ) (task : Task σ ε α) (state : σ) : Prop :=
  ∀ left time, look ((task.within left).run time state).state = look state

section

variable {look : σ → γ} {state : σ}

/-- What restores the state whatever it reads first restores the state. -/
theorem restores_get {next : Nat → σ → Task σ ε α} (rest : ∀ time, (next time state).Restores look state) :
    (get next).Restores look state :=
  fun left time => rest time left time

/-- An event more makes no difference to what is restored. -/
theorem Restores.emit {next : Task σ ε α} (rest : next.Restores look state) (event : ε) :
    (emit event next).Restores look state :=
  fun left time => rest left time

/-- What leaves alone what is looked at may follow. -/
theorem Restores.bind {task : Task σ ε α} {f : α → Task σ ε β} (first : task.Restores look state)
    (rest : ∀ result state, (f result).Keeps look state) : (task.bind f).Restores look state := by
  intro left time
  have early := first left time
  rw [run_within_bind]
  cases ends : ((task.within left).run time state).result with
  | none =>
    rw [Run.andThen_of_none ends]
    exact early
  | some cut =>
    rw [Run.andThen_of_some ends]
    cases cut with
    | none => exact early
    | some result => exact (((rest result _).bounded 0 _).run _).trans early

/-- A run that ends is one with time enough. -/
theorem Restores.run {task : Task σ ε α} (restores : task.Restores look state) (time : Nat)
    (ends : (task.run time state).result.isSome) : look (task.run time state).state = look state := by
  obtain ⟨result, same⟩ := Option.isSome_iff_exists.1 ends
  have enough : (task.run time state).time ≤ time + (task.run time state).time := Nat.le_add_left _ _
  have kept := restores (task.run time state).time time
  rwa [within, run_bounded_of_le same enough] at kept

end

/-- Wherever the task is dropped, what is looked at is as it was before, and all that happened is allowed. -/
def Withdraws (look : σ → γ) (allowed : ε → Prop) (task : Task σ ε α) (state : σ) : Prop :=
  ∀ left time, ((task.within left).run time state).result = some none →
    look ((task.within left).run time state).state = look state ∧
      ∀ event ∈ ((task.within left).run time state).events, allowed event

section

variable {look : σ → γ} {allowed : ε → Prop} {state : σ}

/-- A task that does not wait is never dropped. -/
theorem Prompt.withdraws {task : Task σ ε α} (prompt : task.Prompt) : task.Withdraws look allowed state :=
  fun left time cut => absurd cut (prompt.run_within left time state)

/-- What can be withdrawn whatever it reads first can be withdrawn. -/
theorem withdraws_get {next : Nat → σ → Task σ ε α}
    (rest : ∀ time, (next time state).Withdraws look allowed state) : (get next).Withdraws look allowed state :=
  fun left time cut => rest time left time cut

/-- An event that is allowed makes no difference to what can be withdrawn. -/
theorem Withdraws.emit {event : ε} (passes : allowed event) {next : Task σ ε α}
    (rest : next.Withdraws look allowed state) : (emit event next).Withdraws look allowed state := by
  intro left time cut
  obtain ⟨same, later⟩ := rest left time cut
  exact ⟨same, List.forall_mem_cons.2 ⟨passes, later⟩⟩

/-- There is no time to drop what comes at once after a task that withdraws. -/
theorem Withdraws.bind_prompt {task : Task σ ε α} {f : α → Task σ ε β} (first : task.Withdraws look allowed state)
    (rest : ∀ result, (f result).Prompt) : (task.bind f).Withdraws look allowed state := by
  intro left time cut
  rw [run_within_bind] at cut ⊢
  obtain ⟨early, ends, later⟩ := Run.andThen_result_eq_some.1 cut
  cases early with
  | some result => exact absurd later ((rest result).run_within _ _ _)
  | none =>
    rw [Run.andThen_of_some ends, Run.after_events, Run.still_events, List.append_nil]
    exact first left time ends

/-- A task that keeps what is looked at and does only what is allowed may be followed by one that withdraws. -/
theorem Withdraws.bind {task : Task σ ε α} {f : α → Task σ ε β} (keeps : task.Keeps look state)
    (emits : task.Emits allowed)
    (rest : ∀ result after, look after = look state → (f result).Withdraws look allowed after) :
    (task.bind f).Withdraws look allowed state := by
  intro left time cut
  have kept := (keeps.bounded 0 left).run time
  have early := (emits.bounded 0 left).run time state
  rw [run_within_bind] at cut ⊢
  obtain ⟨first, ends, later⟩ := Run.andThen_result_eq_some.1 cut
  rw [Run.andThen_of_some ends]
  cases first with
  | none =>
    refine ⟨kept, fun event mem => ?_⟩
    rw [Run.after_events, Run.still_events, List.append_nil] at mem
    exact early event mem
  | some result =>
    obtain ⟨same, late⟩ := rest result _ kept _ _ later
    refine ⟨same.trans kept, fun event mem => ?_⟩
    rw [Run.after_events, List.mem_append] at mem
    rcases mem with mem | mem
    · exact early event mem
    · exact late event mem

end

end Task

end IntentBus
