import IntentBus.Task

/-! How the run of a composed task is made of the runs of its parts. -/

namespace IntentBus

variable {σ τ ε δ α β γ : Type}

namespace Run

def still (result : α) (time : Nat) (state : σ) (events : List ε) : Run σ ε α :=
  ⟨some result, time, state, events.map fun event => ⟨time, state, event⟩⟩

def after (trace : List (Moment σ ε)) (run : Run σ ε α) : Run σ ε α :=
  { run with trace := trace ++ run.trace }

def andThen (run : Run σ ε α) (next : α → Nat → σ → Run σ ε β) : Run σ ε β :=
  match run.result with
  | none => ⟨none, run.time, run.state, run.trace⟩
  | some result => (next result run.time run.state).after run.trace

def events (run : Run σ ε α) : List ε := run.trace.map (·.event)

@[simp] theorem after_result (trace : List (Moment σ ε)) (run : Run σ ε α) :
    (run.after trace).result = run.result := rfl

@[simp] theorem after_time (trace : List (Moment σ ε)) (run : Run σ ε α) :
    (run.after trace).time = run.time := rfl

@[simp] theorem after_state (trace : List (Moment σ ε)) (run : Run σ ε α) :
    (run.after trace).state = run.state := rfl

@[simp] theorem after_trace (trace : List (Moment σ ε)) (run : Run σ ε α) :
    (run.after trace).trace = trace ++ run.trace := rfl

@[simp] theorem after_events (trace : List (Moment σ ε)) (run : Run σ ε α) :
    (run.after trace).events = trace.map (·.event) ++ run.events :=
  List.map_append

@[simp] theorem after_nil (run : Run σ ε α) : run.after [] = run := rfl

@[simp] theorem after_after (first second : List (Moment σ ε)) (run : Run σ ε α) :
    (run.after second).after first = run.after (first ++ second) := by
  simp [after]

@[simp] theorem still_result (result : α) (time : Nat) (state : σ) (events : List ε) :
    (still result time state events).result = some result := rfl

@[simp] theorem still_time (result : α) (time : Nat) (state : σ) (events : List ε) :
    (still result time state events).time = time := rfl

@[simp] theorem still_state (result : α) (time : Nat) (state : σ) (events : List ε) :
    (still result time state events).state = state := rfl

@[simp] theorem still_events (result : α) (time : Nat) (state : σ) (events : List ε) :
    (still result time state events).events = events := by
  simp [Run.events, still, Function.comp_def]

def mapEvents (f : ε → δ) (run : Run σ ε α) : Run σ δ α :=
  ⟨run.result, run.time, run.state, run.trace.map fun moment => ⟨moment.time, moment.state, f moment.event⟩⟩

def focus (whole : τ) (put : σ → τ → τ) (event : ε → δ) (run : Run σ ε α) : Run τ δ α :=
  ⟨run.result, run.time, put run.state whole,
    run.trace.map fun moment => ⟨moment.time, put moment.state whole, event moment.event⟩⟩

def releasing (release : σ → σ) (run : Run σ ε α) : Run σ ε α :=
  { run with state := if run.result.isSome then release run.state else run.state }

@[simp] theorem mapEvents_result (f : ε → δ) (run : Run σ ε α) :
    (run.mapEvents f).result = run.result := rfl

@[simp] theorem mapEvents_time (f : ε → δ) (run : Run σ ε α) :
    (run.mapEvents f).time = run.time := rfl

@[simp] theorem mapEvents_state (f : ε → δ) (run : Run σ ε α) :
    (run.mapEvents f).state = run.state := rfl

@[simp] theorem focus_result (whole : τ) (put : σ → τ → τ) (event : ε → δ) (run : Run σ ε α) :
    (run.focus whole put event).result = run.result := rfl

@[simp] theorem focus_time (whole : τ) (put : σ → τ → τ) (event : ε → δ) (run : Run σ ε α) :
    (run.focus whole put event).time = run.time := rfl

@[simp] theorem focus_state (whole : τ) (put : σ → τ → τ) (event : ε → δ) (run : Run σ ε α) :
    (run.focus whole put event).state = put run.state whole := rfl

@[simp] theorem mapEvents_events (f : ε → δ) (run : Run σ ε α) :
    (run.mapEvents f).events = run.events.map f := by
  simp [Run.events, mapEvents, Function.comp_def]

@[simp] theorem focus_events (whole : τ) (put : σ → τ → τ) (event : ε → δ) (run : Run σ ε α) :
    (run.focus whole put event).events = run.events.map event := by
  simp [Run.events, focus, Function.comp_def]

@[simp] theorem releasing_result (release : σ → σ) (run : Run σ ε α) :
    (run.releasing release).result = run.result := rfl

@[simp] theorem releasing_events (release : σ → σ) (run : Run σ ε α) :
    (run.releasing release).events = run.events := rfl

/-- The release changes the state in which a run ends. -/
theorem releasing_state_of_some {run : Run σ ε α} (release : σ → σ) {result : α} (ends : run.result = some result) :
    (run.releasing release).state = release run.state := by
  simp only [releasing, ends, Option.isSome_some, if_true]

/-- A release makes no difference to what it leaves alone. -/
theorem releasing_state_same {release : σ → σ} {look : σ → γ} (idle : ∀ state, look (release state) = look state)
    (run : Run σ ε α) : look (run.releasing release).state = look run.state := by
  simp only [releasing]
  split
  · exact idle run.state
  · rfl

/-- A run without a result is not gone on from. -/
theorem andThen_of_none {run : Run σ ε α} (stuck : run.result = none)
    (next : α → Nat → σ → Run σ ε β) :
    run.andThen next = ⟨none, run.time, run.state, run.trace⟩ := by
  simp only [andThen, stuck]

/-- From a run with a result the next one goes on. -/
theorem andThen_of_some {run : Run σ ε α} {result : α} (ends : run.result = some result)
    (next : α → Nat → σ → Run σ ε β) :
    run.andThen next = (next result run.time run.state).after run.trace := by
  simp only [andThen, ends]

/-- A run on a part of a state goes on with its own result. -/
theorem focus_andThen_of_some {whole : τ} {put : σ → τ → τ} {event : ε → δ} {run : Run σ ε α}
    {result : α} (ends : run.result = some result) (next : α → Nat → τ → Run τ δ β) :
    (run.focus whole put event).andThen next =
      (next result run.time (put run.state whole)).after (run.focus whole put event).trace := by
  simp only [andThen, focus, ends]

/-- A run on a part of a state that has no result is not gone on from. -/
theorem focus_andThen_of_none {whole : τ} {put : σ → τ → τ} {event : ε → δ} {run : Run σ ε α}
    (stuck : run.result = none) (next : α → Nat → τ → Run τ δ β) :
    ((run.focus whole put event).andThen next).result = none := by
  simp only [andThen, focus, stuck]

/-- A run that goes on with nothing but its own result has already ended. -/
theorem andThen_eq_self {run : Run σ ε α} {next : α → Nat → σ → Run σ ε α}
    (h : ∀ result, run.result = some result →
      next result run.time run.state = .still result run.time run.state []) : run.andThen next = run := by
  cases ends : run.result with
  | none => rw [andThen_of_none ends, ← ends]
  | some result =>
    rw [andThen_of_some ends, h result ends]
    simp only [after, still, ← ends, List.map_nil, List.append_nil]

/-- What goes on has a result when both parts have one. -/
theorem andThen_result_eq_some {run : Run σ ε α} {next : α → Nat → σ → Run σ ε β} {result : β} :
    (run.andThen next).result = some result ↔
      ∃ first, run.result = some first ∧ (next first run.time run.state).result = some result := by
  cases ends : run.result with
  | none => simp [andThen_of_none ends]
  | some first => simp [andThen_of_some ends]

/-- From a run that has its result at once the next one goes on at once. -/
@[simp] theorem still_andThen (result : α) (time : Nat) (state : σ) (events : List ε)
    (next : α → Nat → σ → Run σ ε β) :
    (still result time state events).andThen next =
      (next result time state).after (events.map fun event => ⟨time, state, event⟩) := rfl

/-- What happened before a run happened before all that goes on from it. -/
theorem after_andThen (trace : List (Moment σ ε)) (run : Run σ ε α)
    (next : α → Nat → σ → Run σ ε β) :
    (run.after trace).andThen next = (run.andThen next).after trace := by
  cases ends : run.result with
  | none => simp [andThen, after, ends]
  | some result => simp [andThen, after, ends]

/-- A run that has its result at once when another one ends adds its events and takes no time. -/
theorem andThen_still (run : Run σ ε α) (f : α → β) (events : α → Nat → List ε) :
    (run.andThen fun result time state => .still (f result) time state (events result time)).result =
        run.result.map f ∧
      (run.andThen fun result time state => .still (f result) time state (events result time)).time = run.time ∧
      (run.andThen fun result time state => .still (f result) time state (events result time)).state =
        run.state := by
  cases ends : run.result with
  | none => simp [andThen_of_none ends]
  | some result => simp [andThen_of_some ends]

/-- The run has a result, at a time and in a state. -/
def Ends (result : α) (time : Nat) (state : σ) (run : Run σ ε α) : Prop :=
  run.result = some result ∧ run.time = time ∧ run.state = state

@[simp] theorem ends_still_iff {value result : α} {now time : Nat} {before state : σ} {events : List ε} :
    (still value now before events).Ends result time state ↔ value = result ∧ now = time ∧ before = state := by
  rw [Ends, still_result, Option.some_inj]
  rfl

@[simp] theorem ends_after_iff {trace : List (Moment σ ε)} {run : Run σ ε α} {result : α} {time : Nat} {state : σ} :
    (run.after trace).Ends result time state ↔ run.Ends result time state := Iff.rfl

/-- Two runs in a row end where the second does, which goes on from the end of the first. -/
theorem ends_andThen_iff {run : Run σ ε α} {next : α → Nat → σ → Run σ ε β} {result : β} {time : Nat} {state : σ} :
    (run.andThen next).Ends result time state ↔
      ∃ first now between, run.Ends first now between ∧ (next first now between).Ends result time state := by
  constructor
  · intro ends
    obtain ⟨first, own, _⟩ := andThen_result_eq_some.1 ends.1
    rw [andThen_of_some own] at ends
    exact ⟨first, _, _, ⟨own, rfl, rfl⟩, ends⟩
  · rintro ⟨first, _, _, ⟨own, rfl, rfl⟩, ends⟩
    rw [andThen_of_some own]
    exact ends

/-- On a part of a state a run ends as it does on its own. -/
theorem ends_focus_iff {whole : τ} {put : σ → τ → τ} {event : ε → δ} {run : Run σ ε α} {result : α} {time : Nat}
    {state : τ} : (run.focus whole put event).Ends result time state ↔
      ∃ part, run.Ends result time part ∧ state = put part whole := by
  constructor
  · rintro ⟨ends, stops, rfl⟩
    exact ⟨run.state, ⟨ends, stops, rfl⟩, rfl⟩
  · rintro ⟨_, ⟨ends, stops, rfl⟩, rfl⟩
    exact ⟨ends, stops, rfl⟩

def EndsAt (time : Nat) (run : Run σ ε α) : Prop := run.result.isSome ∧ run.time = time

/-- Two runs in a row end at a time if the first does and the second then takes no time. -/
theorem EndsAt.andThen {time : Nat} {run : Run σ ε α} {next : α → Nat → σ → Run σ ε β} (ends : run.EndsAt time)
    (rest : ∀ result, run.result = some result → (next result time run.state).EndsAt time) :
    (run.andThen next).EndsAt time := by
  obtain ⟨ended, stops⟩ := ends
  obtain ⟨result, same⟩ := Option.isSome_iff_exists.1 ended
  rw [andThen_of_some same, stops]
  exact rest result same

/-- What ends with the run it goes on from leaves the time of that. -/
theorem andThen_endsAt {run : Run σ ε α} {next : α → Nat → σ → Run σ ε β}
    (rest : ∀ result, (next result run.time run.state).EndsAt run.time) :
    ((run.andThen next).result.isSome ↔ run.result.isSome) ∧ (run.andThen next).time = run.time := by
  cases ends : run.result with
  | none =>
    rw [andThen_of_none ends]
    exact ⟨Iff.rfl, rfl⟩
  | some result =>
    obtain ⟨ended, stops⟩ := rest result
    rw [andThen_of_some ends]
    exact ⟨iff_of_true ended rfl, stops⟩

/-- It does not matter which two of three runs in a row are taken together. -/
theorem andThen_assoc (run : Run σ ε α) (first : α → Nat → σ → Run σ ε β)
    (second : β → Nat → σ → Run σ ε γ) :
    (run.andThen first).andThen second =
      run.andThen fun result time state => (first result time state).andThen second := by
  cases ends : run.result with
  | none =>
    rw [andThen_of_none ends, andThen_of_none ends]
    rfl
  | some result => rw [andThen_of_some ends, andThen_of_some ends, after_andThen]

end Run

namespace Task

@[simp] theorem pure_eq_done (result : α) : (pure result : Task σ ε α) = done result := rfl

@[simp] theorem bind_eq (task : Task σ ε α) (f : α → Task σ ε β) : (task >>= f) = task.bind f := rfl

/-- It does not matter which two of three tasks in a row are taken together. -/
theorem bind_assoc (task : Task σ ε α) (f : α → Task σ ε β) (g : β → Task σ ε γ) :
    (task.bind f).bind g = task.bind fun result => (f result).bind g := by
  induction task with
  | done result => rfl
  | get next ih =>
    simp only [bind, ih]
  | set value next ih => exact congrArg (set value) ih
  | emit event next ih => exact congrArg (emit event) ih
  | wait millis age release next ih => exact congrArg (wait millis age release) ih
  | never release => rfl

@[simp] theorem run_done (result : α) (time : Nat) (state : σ) :
    (done result : Task σ ε α).run time state = .still result time state [] := rfl

@[simp] theorem run_get (next : Nat → σ → Task σ ε α) (time : Nat) (state : σ) :
    (get next).run time state = (next time state).run time state := rfl

@[simp] theorem run_set (value : σ) (next : Task σ ε α) (time : Nat) (state : σ) :
    (set value next).run time state = next.run time value := rfl

@[simp] theorem run_emit (event : ε) (next : Task σ ε α) (time : Nat) (state : σ) :
    (emit event next).run time state = (next.run time state).after [⟨time, state, event⟩] := rfl

@[simp] theorem run_wait (millis age : Nat) (release : σ → σ) (next : Task σ ε α) (time : Nat)
    (state : σ) :
    (wait millis age release next).run time state = next.run (time + millis) state := rfl

@[simp] theorem run_never (release : σ → σ) (time : Nat) (state : σ) :
    (never release : Task σ ε α).run time state = ⟨none, time, state, []⟩ := rfl

/-- A task in two parts runs as the first part and then as the second. -/
@[simp] theorem run_bind (task : Task σ ε α) (f : α → Task σ ε β) (time : Nat) (state : σ) :
    (task.bind f).run time state = (task.run time state).andThen fun result => (f result).run := by
  induction task generalizing time state with
  | done result => rfl
  | get next ih => exact ih time state time state
  | set value next ih => exact ih time value
  | emit event next ih =>
    rw [run_emit, Run.after_andThen, ← ih time state]
    rfl
  | wait millis age release next ih => exact ih (time + millis) state
  | never release => rfl

/-- A task whose result is mapped runs as the task does. -/
@[simp] theorem run_map (task : Task σ ε α) (f : α → β) (time : Nat) (state : σ) :
    (task.map f).run time state =
      (task.run time state).andThen fun result time state => .still (f result) time state [] :=
  run_bind task _ time state

@[simp] theorem run_clock (time : Nat) (state : σ) :
    (clock : Task σ ε Nat).run time state = .still time time state [] := rfl

@[simp] theorem run_read (time : Nat) (state : σ) :
    (read : Task σ ε σ).run time state = .still state time state [] := rfl

@[simp] theorem run_modify (f : σ → σ) (time : Nat) (state : σ) :
    (modify f : Task σ ε Unit).run time state = .still () time (f state) [] := rfl

@[simp] theorem run_update (f : σ → α × σ) (time : Nat) (state : σ) :
    (update f : Task σ ε α).run time state = .still (f state).1 time (f state).2 [] := rfl

@[simp] theorem run_signal (event : ε) (time : Nat) (state : σ) :
    (signal event).run time state = .still () time state [event] := rfl

/-- To emit events takes no time. -/
@[simp] theorem run_signals (events : List ε) (time : Nat) (state : σ) :
    (signals events).run time state = .still () time state events := by
  induction events with
  | nil => rfl
  | cons event rest ih =>
    rw [signals, run_emit, ih]
    rfl

/-- Sleeping takes its time and nothing else. -/
@[simp] theorem run_sleep (millis time : Nat) (state : σ) :
    (sleep millis : Task σ ε Unit).run time state = .still () (time + millis) state [] := by
  unfold sleep
  split
  · next zero => rw [zero]; rfl
  · rfl

/-- A run is the same however its events are seen. -/
@[simp] theorem run_mapEvents (f : ε → δ) (task : Task σ ε α) (time : Nat) (state : σ) :
    (task.mapEvents f).run time state = (task.run time state).mapEvents f := by
  induction task generalizing time state with
  | done result => rfl
  | get next ih => exact ih time state time state
  | set value next ih => exact ih time value
  | emit event next ih =>
    rw [mapEvents, run_emit, ih]
    rfl
  | wait millis age release next ih => exact ih (time + millis) state
  | never release => rfl

/-- A task on a part of a state runs as it does on its own, where the part can be read and written without
regard to the rest. -/
theorem run_focus {view : τ → σ} {put : σ → τ → τ} (event : ε → δ)
    (view_put : ∀ part whole, view (put part whole) = part)
    (put_put : ∀ second first whole, put second (put first whole) = put second whole)
    (task : Task σ ε α) (time : Nat) (whole : τ) (part : σ) :
    (task.focus view put event).run time (put part whole) = (task.run time part).focus whole put event := by
  induction task generalizing time part with
  | done result => rfl
  | get next ih =>
    rw [focus, run_get, view_put]
    exact ih time part time part
  | set value next ih =>
    rw [focus, run_get, run_set, put_put]
    exact ih time value
  | emit e next ih =>
    rw [focus, run_emit, ih]
    rfl
  | wait millis age release next ih => exact ih (time + millis) part
  | never release => rfl

/-- A task with a release at its end runs as the task does, up to its end. -/
@[simp] theorem run_releasing (release : σ → σ) (task : Task σ ε α) (time : Nat) (state : σ) :
    (task.releasing release).run time state = (task.run time state).releasing release := by
  induction task generalizing time state with
  | done result => rfl
  | get next ih => exact ih time state time state
  | set value next ih => exact ih time value
  | emit event next ih =>
    rw [releasing, run_emit, ih]
    rfl
  | wait millis age inner next ih => exact ih (time + millis) state
  | never inner => rfl

/-- Time does not run backwards. -/
theorem le_run_time (task : Task σ ε α) (time : Nat) (state : σ) :
    time ≤ (task.run time state).time := by
  induction task generalizing time state with
  | done result => exact Nat.le_refl time
  | get next ih => exact ih time state time state
  | set value next ih => exact ih time value
  | emit event next ih => exact ih time state
  | wait millis age release next ih => exact Nat.le_of_add_right_le (ih (time + millis) state)
  | never release => exact Nat.le_refl time

/-- A task that ends by its deadline is not touched by the deadline. -/
theorem run_bounded_of_le {task : Task σ ε α} {elapsed left time : Nat} {state : σ} {result : α}
    (ends : (task.run time state).result = some result)
    (inTime : (task.run time state).time ≤ time + left) :
    (task.bounded elapsed left).run time state =
      ⟨some (some result), (task.run time state).time, (task.run time state).state,
        (task.run time state).trace⟩ := by
  induction task generalizing elapsed left time state with
  | done value =>
    cases ends
    rfl
  | get next ih => exact ih time state ends inTime
  | set value next ih => exact ih ends inTime
  | emit event next ih =>
    rw [bounded, run_emit, ih ends inTime]
    rfl
  | wait millis age release next ih =>
    have passed := Nat.le_trans (next.le_run_time (time + millis) state) inTime
    have fits : millis ≤ left := Nat.le_of_add_le_add_left passed
    rw [bounded, if_pos fits, run_wait]
    exact ih ends (by rw [Nat.add_assoc, Nat.add_sub_cancel' fits]; exact inTime)
  | never release => nomatch ends

/-- What is dropped after a time takes that time, and what it held is released then. -/
theorem run_dropAfter (left age time : Nat) (release : σ → σ) (state : σ) :
    (bounded.dropAfter left age release : Task σ ε (Option α)).run time state =
      .still none (time + left) (release state) [] := by
  unfold bounded.dropAfter
  split
  · next zero => rw [zero]; rfl
  · rfl

/-- A task that has not ended by its deadline is dropped there; until then it ran as it would have without. -/
theorem run_bounded_of_lt {task : Task σ ε α} {elapsed left time : Nat} {state : σ}
    (late : (task.run time state).result.isSome → time + left < (task.run time state).time) :
    ((task.bounded elapsed left).run time state).result = some none ∧
      ((task.bounded elapsed left).run time state).time = time + left ∧
      ((task.bounded elapsed left).run time state).trace <+: (task.run time state).trace := by
  induction task generalizing elapsed left time state with
  | done value => exact absurd (late rfl) (Nat.not_lt.2 (Nat.le_add_right time left))
  | get next ih => exact ih time state late
  | set value next ih => exact ih late
  | emit event next ih =>
    obtain ⟨cut, stops, before⟩ := @ih elapsed left time state late
    exact ⟨cut, stops, List.cons_prefix_cons.2 ⟨rfl, before⟩⟩
  | wait millis age release next ih =>
    rw [bounded]
    split
    · next fits =>
      have same : time + millis + (left - millis) = time + left := by
        rw [Nat.add_assoc, Nat.add_sub_cancel' fits]
      have rest := @ih (elapsed + millis) (left - millis) (time + millis) state (by rw [same]; exact late)
      rwa [same] at rest
    · rw [run_dropAfter]
      exact ⟨rfl, rfl, List.nil_prefix⟩
  | never release =>
    rw [bounded, run_dropAfter]
    exact ⟨rfl, rfl, List.nil_prefix⟩

end Task

end IntentBus
