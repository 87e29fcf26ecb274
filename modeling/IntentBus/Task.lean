/-! Computations in virtual time. A task reads and writes a state, emits events and waits; time passes only
while it waits. A task that waits may be dropped, and then its release action is all that still happens. -/

namespace IntentBus

/-- A task over states `σ` that emits events `ε` and ends in a value of `α`. `get` reads the clock, in
milliseconds, and the state; `wait` and `never` name what is released when the task is dropped there. A timer
ends each wait, and `age` tells how long before the wait it was set. -/
inductive Task (σ ε α : Type)
  | done (result : α)
  | get (next : Nat → σ → Task σ ε α)
  | set (state : σ) (next : Task σ ε α)
  | emit (event : ε) (next : Task σ ε α)
  | wait (millis age : Nat) (release : σ → σ) (next : Task σ ε α)
  | never (release : σ → σ)

/-- An event with the time and the state in which it was emitted. -/
structure Moment (σ ε : Type) where
  time : Nat
  state : σ
  event : ε

/-- How a task went: without a result when it waits forever. -/
structure Run (σ ε α : Type) where
  result : Option α
  time : Nat
  state : σ
  trace : List (Moment σ ε)

namespace Task

variable {σ τ ε δ α β : Type}

def bind (task : Task σ ε α) (f : α → Task σ ε β) : Task σ ε β :=
  match task with
  | done result => f result
  | get next => get fun time state => (next time state).bind f
  | set state next => set state (next.bind f)
  | emit event next => emit event (next.bind f)
  | wait millis age release next => wait millis age release (next.bind f)
  | never release => never release

instance : Monad (Task σ ε) where
  pure := done
  bind := bind

def map (f : α → β) (task : Task σ ε α) : Task σ ε β := task.bind fun result => done (f result)

/-- The time in milliseconds. -/
def clock : Task σ ε Nat := get fun time _ => done time

def read : Task σ ε σ := get fun _ state => done state

def modify (f : σ → σ) : Task σ ε Unit := get fun _ state => set (f state) (done ())

/-- Changes the state and keeps what the change answers. -/
def update (f : σ → α × σ) : Task σ ε α := get fun _ state => set (f state).2 (done (f state).1)

def signal (event : ε) : Task σ ε Unit := emit event (done ())

def signals : List ε → Task σ ε Unit
  | [] => done ()
  | event :: rest => emit event (signals rest)

/-- A wait of no length is no wait. -/
def sleep (millis : Nat) : Task σ ε Unit := if millis = 0 then done () else wait millis 0 id (done ())

/-- The release action follows the task however it ends. -/
def releasing (release : σ → σ) : Task σ ε α → Task σ ε α
  | done result => get fun _ state => set (release state) (done result)
  | get next => get fun time state => (next time state).releasing release
  | set state next => set state (next.releasing release)
  | emit event next => emit event (next.releasing release)
  | wait millis age inner next => wait millis age (release ∘ inner) (next.releasing release)
  | never inner => never (release ∘ inner)

/-- What is left of a task that is dropped after `left` milliseconds, when its bound was set `elapsed` ago.
Where the timer of a wait and that of the bound run out together, the older one ends the wait. -/
def bounded (elapsed left : Nat) : Task σ ε α → Task σ ε (Option α)
  | done result => done (some result)
  | get next => get fun time state => (next time state).bounded elapsed left
  | set state next => set state (next.bounded elapsed left)
  | emit event next => emit event (next.bounded elapsed left)
  | wait millis age release next =>
    if millis ≤ left then
      wait millis (if millis = left then max age elapsed else age) release
        (next.bounded (elapsed + millis) (left - millis))
    else dropAfter left elapsed release
  | never release => dropAfter left elapsed release
where
  /-- The release at the end of the time that was left. -/
  dropAfter (left age : Nat) (release : σ → σ) : Task σ ε (Option α) :=
    let drop : Task σ ε (Option α) := get fun _ state => set (release state) (done none)
    if left = 0 then drop else wait left age release drop

/-- Drops a task that has not ended after so many milliseconds; one that ends at exactly that time counts. -/
def within (bound : Nat) (task : Task σ ε α) : Task σ ε (Option α) := task.bounded 0 bound

/-- A task on one part of a state, its events seen as events of the whole. -/
def focus (view : τ → σ) (put : σ → τ → τ) (event : ε → δ) : Task σ ε α → Task τ δ α
  | done result => done result
  | get next => get fun time whole => (next time (view whole)).focus view put event
  | set part next => get fun _ whole => set (put part whole) (next.focus view put event)
  | emit e next => emit (event e) (next.focus view put event)
  | wait millis age release next =>
    wait millis age (fun whole => put (release (view whole)) whole) (next.focus view put event)
  | never release => never fun whole => put (release (view whole)) whole

/-- A task whose events are seen as other events. -/
def mapEvents (f : ε → δ) : Task σ ε α → Task σ δ α
  | done result => done result
  | get next => get fun time state => (next time state).mapEvents f
  | set state next => set state (next.mapEvents f)
  | emit event next => emit (f event) (next.mapEvents f)
  | wait millis age release next => wait millis age release (next.mapEvents f)
  | never release => never release

/-- Runs a task from a time and a state on. -/
def run : Task σ ε α → Nat → σ → Run σ ε α
  | done result, time, state => ⟨some result, time, state, []⟩
  | get next, time, state => (next time state).run time state
  | set state next, time, _ => next.run time state
  | emit event next, time, state =>
    let rest := next.run time state
    { rest with trace := ⟨time, state, event⟩ :: rest.trace }
  | wait millis _ _ next, time, state => next.run (time + millis) state
  | never _, time, state => ⟨none, time, state, []⟩

end Task

end IntentBus
