import IntentBus.Intent

/-! What can go wrong in a dispatch. Each error has one message, a kind and a stage. -/

namespace IntentBus

/-- What a handler reports when it fails: a message and the messages of its causes, the nearest first. -/
structure Failure where
  message : String
  causes : List String
deriving DecidableEq

/-- Why a handler cannot be registered, or a binding not used. -/
inductive ConfigurationError
  | blankIntentName (handler : String)
  | invalidIntentName (name handler : String)
  | ambiguousIntentName (name existing requested : String)
  | duplicateBinding (name existing : String)
  | bindingMismatch (name : String)
deriving DecidableEq

/-- The intent that an error is about, and the time since its dispatch began. -/
structure IntentTrace where
  intentName : String
  intentId : Uuid
  correlationId : Option String
  elapsed : Duration
deriving DecidableEq

/-- How the attempts at an execution ended without a result. -/
inductive ExecutionFault
  | failed (failure : Failure) (attempts : Nat)
  | timedOut (timeout : Duration) (attempts : Nat)
deriving DecidableEq

/-- The error of a dispatch, one for each way in which it may end without a result. At which hour of the wall clock a
validation failed is no part of its error: nothing that a bus does depends on it. -/
inductive DispatchError
  | handlerNotFound (intent : String) (registered : List String) (trace : IntentTrace)
  | validation (phase : ValidationPhase) (violations : List Violation) (trace : IntentTrace)
  | authorization (violations : List Violation) (trace : IntentTrace)
  | execution (handler : String) (attempts : Nat) (failure : Failure) (trace : IntentTrace)
  | timeout (handler : String) (timeout : Duration) (attempts : Nat) (trace : IntentTrace)
  | configuration (error : ConfigurationError)
deriving DecidableEq

/-- The classes of errors that counters and retries distinguish. -/
inductive FailureKind
  | notFound
  | validation
  | authorization
  | execution
  | timeout
  | configuration
deriving DecidableEq

/-- The stage at which a dispatch ended. -/
inductive PipelineStage
  | lookup
  | validate
  | authorize
  | execute
deriving DecidableEq

namespace ConfigurationError

/-- A name between the marks that set names off in messages. -/
def marked (name : String) : String := "\x60" ++ name ++ "\x60"

def message : ConfigurationError → String
  | blankIntentName handler => "handler " ++ marked handler ++ " binds an intent with a blank name"
  | invalidIntentName name handler =>
    "intent name " ++ marked name ++ " bound by handler " ++ marked handler ++
      " must not contain whitespace"
  | ambiguousIntentName name existing requested =>
    "intent name " ++ marked name ++ " is already bound to type " ++ marked existing ++
      ", cannot bind " ++ marked requested
  | duplicateBinding name existing =>
    "intent " ++ marked name ++ " is already bound to handler " ++ marked existing
  | bindingMismatch name =>
    "binding for intent " ++ marked name ++ " does not match its declared handler type"

end ConfigurationError

namespace IntentTrace

def text (trace : IntentTrace) : String :=
  trace.intentName ++ " " ++ trace.intentId.text ++ " (correlation " ++ trace.correlationId.getD "-" ++
    ", after " ++ trace.elapsed.text ++ ")"

end IntentTrace

namespace ExecutionFault

/-- How many attempts were made. -/
def attempts : ExecutionFault → Nat
  | failed _ attempts | timedOut _ attempts => attempts

def message : ExecutionFault → String
  | failed failure attempts => "attempt " ++ toString attempts ++ " failed: " ++ failure.message
  | timedOut timeout attempts => "attempt " ++ toString attempts ++ " exceeded " ++ timeout.text

end ExecutionFault

namespace FailureKind

def label : FailureKind → String
  | notFound => "not_found"
  | validation => "validation"
  | authorization => "authorization"
  | execution => "execution"
  | timeout => "timeout"
  | configuration => "configuration"

def all : List FailureKind := [notFound, validation, authorization, execution, timeout, configuration]

/-- Only what happened while a handler ran may be tried again. -/
def isRetryable : FailureKind → Bool
  | execution | timeout => true
  | _ => false

end FailureKind

namespace DispatchError

def kind : DispatchError → FailureKind
  | handlerNotFound .. => .notFound
  | validation .. => .validation
  | authorization .. => .authorization
  | execution .. => .execution
  | timeout .. => .timeout
  | configuration _ => .configuration

def stage : DispatchError → PipelineStage
  | handlerNotFound .. | configuration _ => .lookup
  | validation .. => .validate
  | authorization .. => .authorize
  | execution .. | timeout .. => .execute

def isRetryable (error : DispatchError) : Bool := error.kind.isRetryable

/-- The intent that an error is about; a configuration error is about none. -/
def trace? : DispatchError → Option IntentTrace
  | handlerNotFound _ _ trace | validation _ _ trace | authorization _ trace
  | execution _ _ _ trace | timeout _ _ _ trace => some trace
  | configuration _ => none

/-- The same error at another time after the beginning of its dispatch. -/
def withElapsed (elapsed : Duration) : DispatchError → DispatchError
  | handlerNotFound intent registered trace =>
    handlerNotFound intent registered { trace with elapsed := elapsed }
  | validation phase violations trace => validation phase violations { trace with elapsed := elapsed }
  | authorization violations trace => authorization violations { trace with elapsed := elapsed }
  | execution handler attempts failure trace =>
    execution handler attempts failure { trace with elapsed := elapsed }
  | timeout handler bound attempts trace => timeout handler bound attempts { trace with elapsed := elapsed }
  | configuration error => configuration error

/-- The causes of an error, the nearest first. -/
def causes : DispatchError → List String
  | execution _ _ failure _ => failure.message :: failure.causes
  | _ => []

def violationsText (violations : List Violation) : String :=
  "; ".intercalate (violations.map Violation.text)

def attemptsText (attempts : Nat) : String := " after " ++ toString attempts ++ " attempt(s)"

def message : DispatchError → String
  | handlerNotFound intent registered _ =>
    "no handler registered for intent " ++ ConfigurationError.marked intent ++
      "; registered: [" ++ ", ".intercalate registered ++ "]"
  | validation phase violations trace =>
    phase.label ++ " validation failed for " ++ trace.text ++ ": " ++ violationsText violations
  | authorization violations trace =>
    "authorization denied for " ++ trace.text ++ ": " ++ violationsText violations
  | execution handler attempts _ trace =>
    "handler " ++ ConfigurationError.marked handler ++ " failed for " ++ trace.text ++ attemptsText attempts
  | timeout handler bound attempts trace =>
    "handler " ++ ConfigurationError.marked handler ++ " exceeded " ++ bound.text ++ " for " ++ trace.text ++
      attemptsText attempts
  | configuration error => error.message

end DispatchError

end IntentBus
