import IntentBus.Proofs.Drops
import IntentBus.Schedule

/-! Tasks that go alike but for something that is hidden: here and there each does something of its own, which is over
at once, leaves no trace in the state and emits nothing but hidden events. -/

namespace IntentBus.Task

variable {σ τ ε δ α β : Type}

/-- What a task does on the side: it ends at once and leaves the state as it is, and all its events are hidden. -/
structure Aside (hidden : ε → Prop) (task : Task σ ε α) : Prop where
  prompt : task.Prompt
  keeps : ∀ state, task.Keeps id state
  emits : task.Emits hidden

/-- Both tasks do the same, but for what each does on the side. -/
inductive Alike (hidden : ε → Prop) : Task σ ε α → Task σ ε α → Prop
  | done (result : α) : Alike hidden (done result) (done result)
  | get {first second : Nat → σ → Task σ ε α} (next : ∀ time state, Alike hidden (first time state) (second time state)) :
    Alike hidden (get first) (get second)
  | set (state : σ) {first second : Task σ ε α} (next : Alike hidden first second) :
    Alike hidden (set state first) (set state second)
  | emit (event : ε) {first second : Task σ ε α} (next : Alike hidden first second) :
    Alike hidden (emit event first) (emit event second)
  | wait (millis age : Nat) (release : σ → σ) {first second : Task σ ε α} (next : Alike hidden first second) :
    Alike hidden (wait millis age release first) (wait millis age release second)
  | never (release : σ → σ) : Alike hidden (never release) (never release)
  | aside {first second : Task σ ε Unit} (own : first.Aside hidden) (other : second.Aside hidden)
    {rest last : Task σ ε α} (next : Alike hidden rest last) :
    Alike hidden (first.bind fun _ => rest) (second.bind fun _ => last)

private theorem mapEvents_bind (f : ε → δ) (task : Task σ ε α) (g : α → Task σ ε β) :
    (task.bind g).mapEvents f = (task.mapEvents f).bind fun result => (g result).mapEvents f := by
  induction task with
  | done result => rfl
  | get next ih => simp only [bind, mapEvents, ih]
  | set value next ih => exact congrArg (set value) ih
  | emit event next ih => exact congrArg (emit (f event)) ih
  | wait millis age release next ih => exact congrArg (wait millis age release) ih
  | never release => rfl

/-- A release does not concern what is over before it. -/
theorem Prompt.releasing_bind {task : Task σ ε α} (prompt : task.Prompt) (release : σ → σ) (f : α → Task σ ε β) :
    (task.bind f).releasing release = task.bind fun result => (f result).releasing release := by
  induction task with
  | done result => rfl
  | get next ih =>
    refine congrArg get ?_
    funext time state
    exact ih time state (prompt time state)
  | set value next ih => exact congrArg (set value) (ih prompt)
  | emit event next ih => exact congrArg (emit event) (ih prompt)
  | wait millis age inner next ih => exact prompt.elim
  | never inner => exact prompt.elim

private theorem Prompt.mapEvents (f : ε → δ) {task : Task σ ε α} (prompt : task.Prompt) : (task.mapEvents f).Prompt := by
  induction task with
  | done result => trivial
  | get next ih =>
    intro time state
    exact ih time state (prompt time state)
  | set value next ih => exact ih prompt
  | emit event next ih => exact ih prompt
  | wait millis age release next ih => exact prompt.elim
  | never release => exact prompt.elim

/-- A task that leaves its part of a state as it is leaves the whole as it is. -/
theorem Keeps.focus {view : τ → σ} {put : σ → τ → τ} (f : ε → δ) (same : ∀ whole, put (view whole) whole = whole)
    {task : Task σ ε α} {whole : τ} (keeps : task.Keeps id (view whole)) :
    (task.focus view put f).Keeps id whole := by
  induction task generalizing whole with
  | done result => trivial
  | get next ih => exact fun time => ih time (view whole) (keeps time)
  | set value next ih =>
    obtain ⟨unchanged, later⟩ := keeps
    obtain rfl : value = view whole := unchanged
    have back := same whole
    refine fun _ => ⟨back, ?_⟩
    rw [back]
    exact ih later
  | emit event next ih => exact ih keeps
  | wait millis age release next ih =>
    obtain ⟨released, later⟩ := keeps
    refine ⟨fun whole => ?_, fun whole => ih (later (view whole))⟩
    have unchanged : release (view whole) = view whole := released (view whole)
    simp only [unchanged, same]
  | never release =>
    intro whole
    have unchanged : release (view whole) = view whole := keeps (view whole)
    simp only [unchanged, same]

section

variable {hidden : ε → Prop}

private theorem Aside.mapEvents {covered : δ → Prop} {f : ε → δ} (covers : ∀ event, hidden event → covered (f event))
    {task : Task σ ε α} (aside : task.Aside hidden) : (task.mapEvents f).Aside covered :=
  ⟨aside.prompt.mapEvents f, fun state => (aside.keeps state).mapEvents f, aside.emits.mapEvents covers⟩

/-- Two tasks in a row are done on the side if each is. -/
theorem Aside.bind {task : Task σ ε α} {f : α → Task σ ε β} (first : task.Aside hidden)
    (rest : ∀ result, (f result).Aside hidden) : (task.bind f).Aside hidden :=
  ⟨first.prompt.bind fun result => (rest result).prompt,
    fun state => (first.keeps state).bind fun result state => (rest result).keeps state,
    first.emits.bind fun result => (rest result).emits⟩

/-- A task that ends at once is done on the side. -/
theorem aside_done (result : α) : (done result : Task σ ε α).Aside hidden := ⟨trivial, fun _ => trivial, trivial⟩

/-- A hidden event is emitted on the side. -/
theorem aside_signal {event : ε} (own : hidden event) : (signal event : Task σ ε Unit).Aside hidden :=
  ⟨trivial, fun _ => trivial, own, trivial⟩

/-- What is done on the side of a part is done on the side of the whole, if all of it is hidden there. -/
theorem aside_focus {view : τ → σ} {put : σ → τ → τ} {covered : δ → Prop} {f : ε → δ}
    (same : ∀ whole, put (view whole) whole = whole) (covers : ∀ event, covered (f event)) {task : Task σ ε α}
    (prompt : task.Prompt) (keeps : ∀ part, task.Keeps id part) : (task.focus view put f).Aside covered :=
  ⟨prompt.focus, fun whole => (keeps (view whole)).focus f same, emits_focus covers task⟩

/-- Every task does the same as itself. -/
theorem Alike.refl (task : Task σ ε α) : Alike hidden task task := by
  induction task with
  | done result => exact .done result
  | get next ih => exact .get ih
  | set value next ih => exact .set value ih
  | emit event next ih => exact .emit event ih
  | wait millis age release next ih => exact .wait millis age release ih
  | never release => exact .never release

/-- Tasks in a row are alike where the first ones and those behind them are. -/
theorem Alike.bind {first second : Task σ ε α} {f g : α → Task σ ε β} (alike : Alike hidden first second)
    (rest : ∀ result, Alike hidden (f result) (g result)) : Alike hidden (first.bind f) (second.bind g) := by
  induction alike with
  | done result => exact rest result
  | get _ ih => exact .get ih
  | set state _ ih => exact .set state ih
  | emit event _ ih => exact .emit event ih
  | wait millis age release _ ih => exact .wait millis age release ih
  | never release => exact .never release
  | aside own other _ ih =>
    rw [bind_assoc, bind_assoc]
    exact .aside own other ih

/-- Tasks stay alike when their events are seen as others and hidden ones stay hidden. -/
theorem Alike.mapEvents {covered : δ → Prop} {f : ε → δ} (covers : ∀ event, hidden event → covered (f event))
    {first second : Task σ ε α} (alike : Alike hidden first second) :
    Alike covered (first.mapEvents f) (second.mapEvents f) := by
  induction alike with
  | done result => exact .done result
  | get _ ih => exact .get ih
  | set state _ ih => exact .set state ih
  | emit event _ ih => exact .emit (f event) ih
  | wait millis age release _ ih => exact .wait millis age release ih
  | never release => exact .never release
  | aside own other _ ih =>
    rw [mapEvents_bind, mapEvents_bind]
    exact .aside (own.mapEvents covers) (other.mapEvents covers) ih

/-- Tasks that are alike stay so with the same release at their end. -/
theorem Alike.releasing (release : σ → σ) {first second : Task σ ε α} (alike : Alike hidden first second) :
    Alike hidden (first.releasing release) (second.releasing release) := by
  induction alike with
  | done result => exact .refl _
  | get _ ih => exact .get ih
  | set state _ ih => exact .set state ih
  | emit event _ ih => exact .emit event ih
  | wait millis age inner _ ih => exact .wait millis age (release ∘ inner) ih
  | never inner => exact .never (release ∘ inner)
  | aside own other _ ih =>
    rw [own.prompt.releasing_bind, other.prompt.releasing_bind]
    exact .aside own other ih

private theorem Aside.advance_bind {first : Task σ ε Unit} (aside : first.Aside hidden) (rest : Task σ ε α) (time : Nat)
    (state : σ) : ∃ trace : List (Moment σ ε), (∀ moment ∈ trace, hidden moment.event) ∧
      (first.bind fun _ => rest).advance time state =
        { rest.advance time state with trace := trace ++ (rest.advance time state).trace } := by
  obtain ⟨prompt, keeps, emits⟩ := aside
  replace keeps := keeps state
  induction first generalizing state with
  | done result => exact ⟨[], List.forall_mem_nil _, rfl⟩
  | get next ih => exact ih time state state (prompt time state) (emits time state) (keeps time)
  | set value next ih =>
    obtain ⟨unchanged, later⟩ := keeps
    obtain rfl : value = state := unchanged
    exact ih value prompt emits later
  | emit event next ih =>
    obtain ⟨trace, own, same⟩ := ih state prompt emits.2 keeps
    refine ⟨⟨time, state, event⟩ :: trace, List.forall_mem_cons.2 ⟨emits.1, own⟩, ?_⟩
    simp only [Task.bind, Task.advance, same, List.cons_append]
  | wait millis age release next ih => exact prompt.elim
  | never release => exact prompt.elim

/-- Where a task stops, and how it can go on from there, compared with a task that goes alike. -/
inductive StopsAlike (hidden : ε → Prop) : Pause σ ε α → Pause σ ε α → Prop
  | ended (result : α) : StopsAlike hidden (.ended result) (.ended result)
  | waiting (millis age : Nat) (release : σ → σ) {first second : Task σ ε α} (next : Task.Alike hidden first second) :
    StopsAlike hidden (.waiting millis age release first) (.waiting millis age release second)
  | stuck (release : σ → σ) : StopsAlike hidden (.stuck release) (.stuck release)

/-- A turn of one of two tasks that go alike comes to the same as one of the other, and so does what is seen of it. -/
theorem Alike.advance {shown : ε → Bool} (covers : ∀ event, hidden event → shown event = false)
    {first second : Task σ ε α} (alike : Alike hidden first second) (time : Nat) (state : σ) :
    (first.advance time state).state = (second.advance time state).state ∧
      (first.advance time state).trace.filter (shown ·.event) =
        (second.advance time state).trace.filter (shown ·.event) ∧
      StopsAlike hidden (first.advance time state).pause (second.advance time state).pause := by
  have hides (trace : List (Moment σ ε)) (own : ∀ moment ∈ trace, hidden moment.event) :
      trace.filter (shown ·.event) = [] :=
    List.filter_eq_nil_iff.2 fun moment mem => ne_true_of_eq_false (covers _ (own moment mem))
  induction alike generalizing state with
  | done result => exact ⟨rfl, rfl, .ended result⟩
  | get _ ih => exact ih time state state
  | set value _ ih => exact ih value
  | emit event _ ih =>
    obtain ⟨sameState, sameTrace, pauses⟩ := ih state
    refine ⟨sameState, ?_, pauses⟩
    simp only [Task.advance, List.filter_cons, sameTrace]
  | wait millis age release next _ => exact ⟨rfl, rfl, .waiting millis age release next⟩
  | never release => exact ⟨rfl, rfl, .stuck release⟩
  | @aside _ _ own other rest last _ ih =>
    obtain ⟨sameState, sameTrace, pauses⟩ := ih state
    obtain ⟨early, ownTrace, ownTurn⟩ := own.advance_bind rest time state
    obtain ⟨before, otherTrace, otherTurn⟩ := other.advance_bind last time state
    rw [ownTurn, otherTurn]
    refine ⟨sameState, ?_, pauses⟩
    rw [List.filter_append, List.filter_append, hides early ownTrace, hides before otherTrace, sameTrace]

end

end IntentBus.Task
