import IntentBus.Handler

/-! Scripted handlers, to rehearse a bus without its business logic: each attempt follows the next row of a
script, and the last row repeats. -/

namespace IntentBus.Rehearsal

/-- What happens in one attempt. The output may depend on the context, where there is one. -/
structure Row (α : Type) where
  refusal : Option Failure
  inspects : Bool
  hangs : Bool
  sleepMillis : Nat
  failure : Option Failure
  output : Option ExecutionContext → α
  complaint : Option Failure

/-- How many attempts each handler has begun, and the attempt at which each of its dispatches is. -/
structure Progress where
  begun : List (Nat × Nat)
  current : List ((Nat × String) × Nat)

/-- A handler's script; `other` stands in for a script without rows. -/
structure Script (α : Type) where
  number : Nat
  rows : List (Row α)
  other : Row α

def Progress.start : Progress := ⟨[], []⟩

variable {ι α : Type}

namespace Script

/-- The row of an attempt, the first being number zero. -/
def row (script : Script α) (attempt : Nat) : Row α :=
  (script.rows[attempt]?).getD (script.rows.getLastD script.other)

/-- Begins the next attempt of the handler. -/
def begin (script : Script α) (correlation : Correlation) : Task Progress HandlerEvent (Row α) :=
  .update fun progress =>
    let attempt := (progress.begun.lookup script.number).getD 0
    let place := (script.number, correlation.id)
    (script.row attempt, ⟨(script.number, attempt + 1) :: progress.begun.filter (·.1 ≠ script.number),
      (place, attempt) :: progress.current.filter (·.1 ≠ place)⟩)

/-- The row of the attempt at which a dispatch is. -/
def current (script : Script α) (correlation : Correlation) : Task Progress HandlerEvent (Row α) :=
  Task.read.map fun progress =>
    script.row ((progress.current.lookup (script.number, correlation.id)).getD 0)

end Script

/-- A step that fails with a failure if there is one. -/
def failOr {β : Type} (failure : Option Failure) (value : β) : Except Failure β :=
  match failure with
  | some failure => .error failure
  | none => .ok value

/-- The execution of a row: it looks around, hangs, sleeps and fails or answers, in this order. -/
def Row.execute (row : Row α) (context : Option ExecutionContext) : HandlerTask Progress α :=
  Task.bind (if row.inspects then .signal .inspect else .done ()) fun () =>
    if row.hangs then .never id
    else (Task.sleep row.sleepMillis).bind fun () => .done (failOr row.failure (row.output context))

/-- A handler that has nothing but the execution of its rows. -/
def Script.plainHandler (script : Script α) (type : IntentType) (name : String) : Handler Progress ι α :=
  .plain type name fun _ correlation => (script.begin correlation).bind fun row => row.execute none

/-- A handler with every step, whose attempts begin before their execution. -/
def Script.handler (script : Script α) (type : IntentType) (name : String) (timeout : Option Duration)
    (inContext : Bool) : Handler Progress ι α where
  type := type
  name := name
  timeout := timeout
  preProcess _ correlation := (script.begin correlation).map fun row => failOr row.refusal ()
  execute _ correlation := (script.current correlation).bind fun row => row.execute none
  executeInContext :=
    if inContext then
      some fun _ correlation context =>
        (script.current correlation).bind fun row => row.execute (some context)
    else none
  postProcess _ _ correlation := (script.current correlation).map fun row => failOr row.complaint ()
  onSuccess _ _ progress := progress
  onError _ _ _ progress := progress

end IntentBus.Rehearsal
