import IntentBus.Failure

/-! Handlers: the business logic bound to one intent type, in steps around its execution. -/

namespace IntentBus

/-- What a handler does that can be seen from outside: it writes to the log, or it looks at the dispatches that
are under way. -/
inductive HandlerEvent
  | log (entry : LogEntry)
  | inspect

/-- A step of a handler over application states `σ`; it may fail. -/
abbrev HandlerTask (σ α : Type) := Task σ HandlerEvent (Except Failure α)

/-- A handler of one intent type. Without an execution for the context, execution in a context is plain
execution. The two closing steps take no time. -/
structure Handler (σ ι α : Type) where
  type : IntentType
  name : String
  timeout : Option Duration
  preProcess : Intent σ ι α → Correlation → HandlerTask σ Unit
  execute : Intent σ ι α → Correlation → HandlerTask σ α
  executeInContext : Option (Intent σ ι α → Correlation → ExecutionContext → HandlerTask σ α)
  postProcess : Intent σ ι α → α → Correlation → HandlerTask σ Unit
  onSuccess : Intent σ ι α → Correlation → σ → σ
  onError : Intent σ ι α → Failure → Correlation → σ → σ

/-- A handler that has nothing but its execution. -/
def Handler.plain {σ ι α : Type} (type : IntentType) (name : String)
    (execute : Intent σ ι α → Correlation → HandlerTask σ α) : Handler σ ι α :=
  ⟨type, name, none, fun _ _ => .done (.ok ()), execute, none, fun _ _ _ => .done (.ok ()),
    fun _ _ state => state, fun _ _ _ state => state⟩

end IntentBus
