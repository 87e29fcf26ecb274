import IntentBus.Proofs.Histories

/-! Paths of a task: what it meets on its way, wherever the times and states come from. A path tells all about the task, so
that a part of a task can be spoken of by its part of the path. -/

namespace IntentBus

/-- What a task meets: it looks at the clock and the state, or it waits and time passes. -/
inductive Encounter (σ : Type)
  | look (time : Nat) (state : σ)
  | pass (millis : Nat)

def Encounter.spent {σ : Type} : List (Encounter σ) → Nat
  | [] => 0
  | look .. :: rest => spent rest
  | pass millis :: rest => millis + spent rest

/-- The waits on two paths in a row add up. -/
@[simp] theorem Encounter.spent_append {σ : Type} (first second : List (Encounter σ)) :
    spent (first ++ second) = spent first + spent second := by
  induction first with
  | nil => exact (Nat.zero_add _).symm
  | cons encounter rest ih =>
    cases encounter with
    | look time state => exact ih
    | pass millis => rw [List.cons_append, spent, spent, ih, Nat.add_assoc]

namespace Task

variable {σ ε δ α β : Type}

/-- A task goes a path, with what is seen on the way and with the result, if it comes to its end. Any other path ends before
a wait. -/
inductive Goes : Task σ ε α → List (Encounter σ) → List ε → Option α → Prop
  | done (result : α) : Goes (.done result) [] [] (some result)
  | get {next : Nat → σ → Task σ ε α} {time : Nat} {state : σ} {path : List (Encounter σ)} {events : List ε}
    {result : Option α} (rest : Goes (next time state) path events result) :
    Goes (.get next) (.look time state :: path) events result
  | set {value : σ} {next : Task σ ε α} {path : List (Encounter σ)} {events : List ε} {result : Option α}
    (rest : Goes next path events result) : Goes (.set value next) path events result
  | emit {event : ε} {next : Task σ ε α} {path : List (Encounter σ)} {events : List ε} {result : Option α}
    (rest : Goes next path events result) : Goes (.emit event next) path (event :: events) result
  | halt (millis age : Nat) (release : σ → σ) (next : Task σ ε α) : Goes (.wait millis age release next) [] [] none
  | wait {millis age : Nat} {release : σ → σ} {next : Task σ ε α} {path : List (Encounter σ)} {events : List ε}
    {result : Option α} (rest : Goes next path events result) :
    Goes (.wait millis age release next) (.pass millis :: path) events result
  | never (release : σ → σ) : Goes (.never release) [] [] none

variable {path rest : List (Encounter σ)} {seen events : List ε}

/-- What holds of each path is told of the task. -/
theorem tells_of_goes {fits : List ε → Option α → Prop} {task : Task σ ε α}
    (holds : ∀ path events result, task.Goes path events result → fits (seen ++ events) result) : task.Tells fits seen := by
  induction task generalizing seen with
  | done result =>
    have ends := holds _ _ _ (.done result)
    rwa [List.append_nil] at ends
  | get next ih => exact fun time state => ih time state fun path events result goes => holds _ _ _ goes.get
  | set value next ih => exact ih fun path events result goes => holds _ _ _ goes.set
  | emit event next ih =>
    refine ih fun path events result goes => ?_
    rw [List.append_assoc]
    exact holds _ _ _ goes.emit
  | wait millis age release next ih =>
    have now := holds _ _ _ (.halt millis age release next)
    rw [List.append_nil] at now
    exact ⟨now, ih fun path events result goes => holds _ _ _ goes.wait⟩
  | never release =>
    have now := holds _ _ _ (.never release)
    rwa [List.append_nil] at now

/-- What is told of a task holds of each of its paths. -/
theorem Tells.goes {fits : List ε → Option α → Prop} {task : Task σ ε α} {result : Option α}
    (tells : task.Tells fits seen) (goes : task.Goes path events result) : fits (seen ++ events) result := by
  induction goes generalizing seen with
  | done result =>
    rw [List.append_nil]
    exact tells
  | get _ ih => exact ih (tells _ _)
  | set _ ih => exact ih tells
  | emit _ ih =>
    have later := ih tells
    rwa [List.append_assoc] at later
  | halt =>
    rw [List.append_nil]
    exact tells.1
  | wait _ ih => exact ih tells.2
  | never =>
    rw [List.append_nil]
    exact tells

/-- On every path of a task only what is allowed is seen. -/
theorem Emits.goes {allowed : ε → Prop} {task : Task σ ε α} {result : Option α} (emits : task.Emits allowed)
    (goes : task.Goes path events result) : ∀ event ∈ events, allowed event := by
  have behind : task.Tells (fun events _ => ∃ after, events = [] ++ after ∧ ∀ event ∈ after, allowed event) [] :=
    emits.tells_behind
  obtain ⟨after, same, own⟩ := behind.goes goes
  exact List.append_cancel_left same ▸ own

/-- On every path that a task goes to its end its result is expected. -/
theorem Returns.goes {expected : α → Prop} {task : Task σ ε α} {result : α} (returns : task.Returns expected)
    (goes : task.Goes path events (some result)) : expected result := by
  have ends : task.Tells (fun _ result => ∀ value, result = some value → expected value) [] := returns.tells
  exact ends.goes goes result rfl

/-- The path of two tasks in a row is in the first of them, or it is one path after the other. -/
inductive Follows (task : Task σ ε α) (f : α → Task σ ε β) : List (Encounter σ) → List ε → Option β → Prop
  | first {path : List (Encounter σ)} {events : List ε} (goes : task.Goes path events none) : Follows task f path events none
  | second {path rest : List (Encounter σ)} {events more : List ε} {value : α} {result : Option β}
    (goes : task.Goes path events (some value)) (later : (f value).Goes rest more result) :
    Follows task f (path ++ rest) (events ++ more) result

/-- A path of two tasks in a row is in the first of them, or goes on in the second. -/
theorem Goes.follows {task : Task σ ε α} {f : α → Task σ ε β} {result : Option β}
    (goes : (task.bind f).Goes path events result) : Follows task f path events result := by
  induction task generalizing path events with
  | done value => exact .second (.done value) goes
  | get next ih =>
    cases goes with
    | get rest =>
      rcases ih _ _ rest with goes | ⟨goes, later⟩
      · exact .first goes.get
      · exact .second goes.get later
  | set value next ih =>
    cases goes with
    | set rest =>
      rcases ih rest with goes | ⟨goes, later⟩
      · exact .first goes.set
      · exact .second goes.set later
  | emit event next ih =>
    cases goes with
    | emit rest =>
      rcases ih rest with goes | ⟨goes, later⟩
      · exact .first goes.emit
      · exact .second goes.emit later
  | wait millis age release next ih =>
    cases goes with
    | halt => exact .first (.halt millis age release next)
    | wait rest =>
      rcases ih rest with goes | ⟨goes, later⟩
      · exact .first goes.wait
      · exact .second goes.wait later
  | never release =>
    cases goes
    exact .first (.never release)

/-- A path to the end of a task and one of what follows are a path of both. -/
theorem Goes.bind {task : Task σ ε α} {f : α → Task σ ε β} {value : α} {more : List ε} {result : Option β}
    (goes : task.Goes path events (some value)) (later : (f value).Goes rest more result) :
    (task.bind f).Goes (path ++ rest) (events ++ more) result := by
  generalize ends : some value = own at goes
  induction goes with
  | done =>
    cases ends
    exact later
  | get _ ih => exact (ih ends).get
  | set _ ih => exact (ih ends).set
  | emit _ ih => exact (ih ends).emit
  | wait _ ih => exact (ih ends).wait
  | halt | never => nomatch ends

/-- On a path a task comes to what it still has to do, with what is seen until then. -/
inductive Reaches : Task σ ε α → List (Encounter σ) → List ε → Task σ ε α → Prop
  | here (task : Task σ ε α) : Reaches task [] [] task
  | get {next : Nat → σ → Task σ ε α} {time : Nat} {state : σ} {path : List (Encounter σ)} {events : List ε}
    {later : Task σ ε α} (rest : Reaches (next time state) path events later) :
    Reaches (.get next) (.look time state :: path) events later
  | set {value : σ} {next : Task σ ε α} {path : List (Encounter σ)} {events : List ε} {later : Task σ ε α}
    (rest : Reaches next path events later) : Reaches (.set value next) path events later
  | emit {event : ε} {next : Task σ ε α} {path : List (Encounter σ)} {events : List ε} {later : Task σ ε α}
    (rest : Reaches next path events later) : Reaches (.emit event next) path (event :: events) later
  | wait {millis age : Nat} {release : σ → σ} {next : Task σ ε α} {path : List (Encounter σ)} {events : List ε}
    {later : Task σ ε α} (rest : Reaches next path events later) :
    Reaches (.wait millis age release next) (.pass millis :: path) events later

/-- What is come to from something that is come to is come to. -/
theorem Reaches.trans {first second third : Task σ ε α} {more : List ε} (reaches : first.Reaches path events second)
    (later : second.Reaches rest more third) : first.Reaches (path ++ rest) (events ++ more) third := by
  induction reaches with
  | here => exact later
  | get _ ih => exact (ih later).get
  | set _ ih => exact (ih later).set
  | emit _ ih => exact (ih later).emit
  | wait _ ih => exact (ih later).wait

/-- At the end of a task on its path it is the turn of the one behind it. -/
theorem Goes.reaches {task : Task σ ε α} {f : α → Task σ ε β} {value : α} (goes : task.Goes path events (some value)) :
    (task.bind f).Reaches path events (f value) := by
  generalize ends : some value = own at goes
  induction goes with
  | done =>
    cases ends
    exact .here _
  | get _ ih => exact (ih ends).get
  | set _ ih => exact (ih ends).set
  | emit _ ih => exact (ih ends).emit
  | wait _ ih => exact (ih ends).wait
  | halt | never => nomatch ends

/-- A path of a task that reads first starts with a look. -/
theorem Goes.of_get {next : Nat → σ → Task σ ε α} {result : Option α} (goes : (Task.get next).Goes path events result) :
    ∃ time state rest, path = .look time state :: rest ∧ (next time state).Goes rest events result := by
  cases goes with
  | get rest => exact ⟨_, _, _, rfl, rest⟩

private theorem Goes.of_emit {event : ε} {next : Task σ ε α} {result : Option α}
    (goes : (Task.emit event next).Goes path events result) :
    ∃ more, events = event :: more ∧ next.Goes path more result := by
  cases goes with
  | emit rest => exact ⟨_, rfl, rest⟩

/-- What is seen on a path of a task that emits first starts with the event. -/
theorem Goes.of_signal {event : ε} {f : Unit → Task σ ε α} {result : Option α}
    (goes : ((signal event).bind f).Goes path events result) :
    ∃ more, events = event :: more ∧ (f ()).Goes path more result :=
  @Goes.of_emit _ _ _ _ _ event (f ()) _ goes

/-- A path of a task that changes the state first starts with a look. -/
theorem Goes.of_update {f : σ → β × σ} {g : β → Task σ ε α} {result : Option α}
    (goes : ((update f).bind g).Goes path events result) :
    ∃ time state rest, path = .look time state :: rest ∧ (g (f state).1).Goes rest events result := by
  obtain ⟨time, state, rest, rfl, further⟩ := of_get goes
  cases further with
  | set further => exact ⟨time, state, rest, rfl, further⟩

/-- A path of a task that changes the state first starts with a look. -/
theorem Goes.of_modify {f : σ → σ} {g : Unit → Task σ ε α} {result : Option α}
    (goes : ((modify f).bind g).Goes path events result) :
    ∃ time state rest, path = .look time state :: rest ∧ (g ()).Goes rest events result := by
  obtain ⟨time, state, rest, rfl, further⟩ := of_get goes
  cases further with
  | set further => exact ⟨time, state, rest, rfl, further⟩

/-- A task that is at its end goes nowhere. -/
theorem Goes.of_done {value : α} {result : Option α} (goes : (Task.done value : Task σ ε α).Goes path events result) :
    path = [] ∧ events = [] ∧ result = some value := by
  cases goes
  exact ⟨rfl, rfl, rfl⟩

/-- A task that only makes something of a result goes the way of the other. -/
theorem Goes.of_bind_done {task : Task σ ε α} {f : α → β} {result : Option β}
    (goes : (task.bind fun value => .done (f value)).Goes path events result) :
    ∃ own, task.Goes path events own ∧ result = own.map f := by
  cases goes.follows with
  | first own => exact ⟨none, own, rfl⟩
  | second own later =>
    obtain ⟨rfl, rfl, rfl⟩ := later.of_done
    rw [List.append_nil, List.append_nil]
    exact ⟨_, own, rfl⟩

/-- The events of a task may be seen as others, and the way is the same. -/
theorem Goes.of_mapEvents {f : ε → δ} {task : Task σ ε α} {seen : List δ} {result : Option α}
    (goes : (task.mapEvents f).Goes path seen result) : ∃ own, seen = own.map f ∧ task.Goes path own result := by
  induction task generalizing path seen with
  | done value =>
    cases goes
    exact ⟨[], rfl, .done value⟩
  | get next ih =>
    cases goes with
    | get rest =>
      obtain ⟨own, rfl, goes⟩ := ih _ _ rest
      exact ⟨own, rfl, goes.get⟩
  | set value next ih =>
    cases goes with
    | set rest =>
      obtain ⟨own, rfl, goes⟩ := ih rest
      exact ⟨own, rfl, goes.set⟩
  | emit event next ih =>
    cases goes with
    | emit rest =>
      obtain ⟨own, rfl, goes⟩ := ih rest
      exact ⟨event :: own, rfl, goes.emit⟩
  | wait millis age release next ih =>
    cases goes with
    | halt => exact ⟨[], rfl, .halt millis age release next⟩
    | wait rest =>
      obtain ⟨own, rfl, goes⟩ := ih rest
      exact ⟨own, rfl, goes.wait⟩
  | never release =>
    cases goes
    exact ⟨[], rfl, .never release⟩

/-- A task goes the same paths however its events are seen. -/
theorem Goes.mapEvents (f : ε → δ) {task : Task σ ε α} {result : Option α} (goes : task.Goes path events result) :
    (task.mapEvents f).Goes path (events.map f) result := by
  induction goes with
  | done value => exact .done value
  | get _ ih => exact ih.get
  | set _ ih => exact ih.set
  | emit _ ih => exact ih.emit
  | halt => exact .halt _ _ _ _
  | wait _ ih => exact ih.wait
  | never => exact .never _

/-- A release adds to the way at its end only. -/
theorem Goes.of_releasing {release : σ → σ} {task : Task σ ε α} {result : Option α}
    (goes : (task.releasing release).Goes path events result) :
    ∃ own rest, path = own ++ rest ∧ task.Goes own events result := by
  induction task generalizing path events with
  | done value =>
    cases goes with
    | get goes =>
      cases goes with
      | set goes =>
        cases goes
        exact ⟨[], _, rfl, .done value⟩
  | get next ih =>
    cases goes with
    | get further =>
      obtain ⟨own, rest, rfl, goes⟩ := ih _ _ further
      exact ⟨_, rest, rfl, goes.get⟩
  | set value next ih =>
    cases goes with
    | set further =>
      obtain ⟨own, rest, rfl, goes⟩ := ih further
      exact ⟨own, rest, rfl, goes.set⟩
  | emit event next ih =>
    cases goes with
    | emit further =>
      obtain ⟨own, rest, rfl, goes⟩ := ih further
      exact ⟨own, rest, rfl, goes.emit⟩
  | wait millis age inner next ih =>
    cases goes with
    | halt => exact ⟨[], [], rfl, .halt millis age inner next⟩
    | wait further =>
      obtain ⟨own, rest, rfl, goes⟩ := ih further
      exact ⟨_, rest, rfl, goes.wait⟩
  | never inner =>
    cases goes
    exact ⟨[], [], rfl, .never inner⟩

/-- How a task goes that has so much time left: it is still within it, it has ended within it, or it is dropped, which
happens only where it would not have ended within it however it had gone on. -/
inductive Within (task : Task σ ε α) (left : Nat) : List (Encounter σ) → List ε → Option (Option α) → Prop
  | unfinished {path : List (Encounter σ)} {events : List ε} (goes : task.Goes path events none)
    (early : Encounter.spent path ≤ left) : Within task left path events none
  | ended {path : List (Encounter σ)} {events : List ε} {value : α} (goes : task.Goes path events (some value))
    (early : Encounter.spent path ≤ left) : Within task left path events (some (some value))
  | dropped {path : List (Encounter σ)} {events : List ε} (goes : task.Goes path events none)
    (early : Encounter.spent path ≤ left)
    (late : ∀ more events value, task.Goes (path ++ more) events (some value) → left < Encounter.spent (path ++ more))
    (rest : List (Encounter σ)) : Within task left (path ++ rest) events (some none)

private theorem within_dropAfter {task : Task σ ε α} {left age : Nat} {release : σ → σ} {result : Option (Option α)}
    (waits : task.Goes [] [] none)
    (late : ∀ path events value, task.Goes path events (some value) → left < Encounter.spent path)
    (goes : (bounded.dropAfter left age release : Task σ ε (Option α)).Goes path events result) :
    Within task left path events result := by
  have dropped (rest : List (Encounter σ)) : Within task left rest [] (some none) :=
    .dropped waits (Nat.zero_le left) late rest
  unfold bounded.dropAfter at goes
  split at goes
  · cases goes with
    | get goes =>
      cases goes with
      | set goes =>
        cases goes
        exact dropped _
  · cases goes with
    | halt => exact .unfinished waits (Nat.zero_le left)
    | wait goes =>
      cases goes with
      | get goes =>
        cases goes with
        | set goes =>
          cases goes
          exact dropped _

/-- On each path a task with a bound is within it, has ended within it, or is dropped. -/
theorem Goes.of_bounded {task : Task σ ε α} {elapsed left : Nat} {result : Option (Option α)}
    (goes : (task.bounded elapsed left).Goes path events result) : Within task left path events result := by
  induction task generalizing elapsed left path events with
  | done value =>
    cases goes
    exact .ended (.done value) (Nat.zero_le left)
  | get next ih =>
    cases goes with
    | get further =>
      rcases ih _ _ further with ⟨goes, early⟩ | ⟨goes, early⟩ | ⟨goes, early, late, rest⟩
      · exact .unfinished goes.get early
      · exact .ended goes.get early
      · refine .dropped goes.get early (fun more events value goes => ?_) rest
        cases goes with
        | get goes => exact late more events value goes
  | set value next ih =>
    cases goes with
    | set further =>
      rcases ih further with ⟨goes, early⟩ | ⟨goes, early⟩ | ⟨goes, early, late, rest⟩
      · exact .unfinished goes.set early
      · exact .ended goes.set early
      · refine .dropped goes.set early (fun more events value goes => ?_) rest
        cases goes with
        | set goes => exact late more events value goes
  | emit event next ih =>
    cases goes with
    | emit further =>
      rcases ih further with ⟨goes, early⟩ | ⟨goes, early⟩ | ⟨goes, early, late, rest⟩
      · exact .unfinished goes.emit early
      · exact .ended goes.emit early
      · refine .dropped goes.emit early (fun more events value goes => ?_) rest
        cases goes with
        | emit goes => exact late more _ value goes
  | wait millis age release next ih =>
    rw [Task.bounded] at goes
    split at goes
    · next fits =>
      have longer {path : List (Encounter σ)} (early : Encounter.spent path ≤ left - millis) :
          Encounter.spent (.pass millis :: path) ≤ left := by
        rw [Encounter.spent]
        omega
      cases goes with
      | halt => exact .unfinished (.halt millis age release next) (Nat.zero_le left)
      | wait further =>
        rcases ih further with ⟨goes, early⟩ | ⟨goes, early⟩ | ⟨goes, early, late, rest⟩
        · exact .unfinished goes.wait (longer early)
        · exact .ended goes.wait (longer early)
        · refine .dropped goes.wait (longer early) (fun more events value goes => ?_) rest
          cases goes with
          | wait goes =>
            have spent := late more events value goes
            rw [List.cons_append, Encounter.spent]
            omega
    · -- A wait that does not fit is cut short; a path past its end would have taken longer than is left.
      refine within_dropAfter (.halt millis age release next) (fun path events value goes => ?_) goes
      cases goes with
      | wait goes =>
        rw [Encounter.spent]
        omega
  | never release =>
    refine within_dropAfter (.never release) (fun path events value ends => ?_) goes
    cases ends

end Task

end IntentBus
