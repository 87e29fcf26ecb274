import IntentBus.Json.Decoder
import IntentBus.Json.Printer

/-! The settings of a bus: how duplicates are treated, how long attempts may take and how often they are
repeated. -/

namespace IntentBus

/-- What happens to a second handler for an intent type: it takes over, or it is refused. -/
inductive RegistrationMode
  | permissive
  | strict
deriving DecidableEq

/-- How often an execution is attempted, and how long the waits between the attempts are. -/
structure RetryPolicy where
  maxAttempts : UInt32
  initialBackoff : Duration
  maxBackoff : Duration
  multiplier : Binary64
  jitter : Bool
deriving DecidableEq

/-- The settings of a bus. Without a timeout of its own a handler is bound by the default one, if any. -/
structure BusConfig where
  authorizationEnabled : Bool
  registrationMode : RegistrationMode
  defaultTimeout : Option Duration
  retry : RetryPolicy
  logCompletions : Bool
deriving DecidableEq

namespace RegistrationMode

/-- The name of a mode in logs. -/
def label : RegistrationMode → String
  | permissive => "Permissive"
  | strict => "Strict"

/-- The name of a mode in data. -/
def tag : RegistrationMode → String
  | permissive => "permissive"
  | strict => "strict"

def toJson (mode : RegistrationMode) : Json := .string mode.tag

def decoder : Json.Decoder RegistrationMode := .name ([permissive, strict].map fun mode => (mode.tag, mode))

end RegistrationMode

namespace RetryPolicy

/-- One attempt; the other settings come into play once more attempts are allowed. -/
def single : RetryPolicy := ⟨1, .ofMillis 50, .ofMillis 2000, 2, false⟩

instance : Inhabited RetryPolicy := ⟨single⟩

/-- At least one attempt is made. -/
def attemptLimit (policy : RetryPolicy) : UInt32 := if policy.maxAttempts = 0 then 1 else policy.maxAttempts

/-- The largest exponent of the multiplier, that of 31 bits. -/
def largestExponent : Nat := 2147483647

/-- The exponent of the multiplier before an attempt; the second attempt has none, and growth ends with the
largest. -/
def exponent (attempt : Nat) : Nat := min (attempt - 2) largestExponent

/-- The wait before an attempt, the first being number one: the initial wait times a power of the multiplier,
in double precision and rounded to nanoseconds. From the cap on, and beyond the largest number, it is the
cap. -/
def backoff (policy : RetryPolicy) (attempt : Nat) : Duration :=
  let scaled := Binary64.ofNat policy.initialBackoff.nanos * policy.multiplier.pow (exponent attempt)
  if !scaled.isFinite || Binary64.ofNat policy.maxBackoff.nanos ≤ scaled then policy.maxBackoff
  else .ofNanos (scaled.toNatCapped (UInt64.size - 1))

def toJson (policy : RetryPolicy) : Json :=
  .object [("max_attempts", .ofUInt32 policy.maxAttempts),
    ("initial_backoff", .ofDuration policy.initialBackoff), ("max_backoff", .ofDuration policy.maxBackoff),
    ("multiplier", .ofBinary64 policy.multiplier), ("jitter", .bool policy.jitter)]

def decoder : Json.Decoder RetryPolicy :=
  .record false ["max_attempts", "initial_backoff", "max_backoff", "multiplier", "jitter"] fun
    | depth, [attempts, initial, longest, multiplier, jitter] => do
      let attempts ← Json.Decoder.required .uint32 depth attempts
      let initial ← Json.Decoder.required .duration depth initial
      let longest ← Json.Decoder.required .duration depth longest
      let multiplier ← Json.Decoder.required .binary64 depth multiplier
      let jitter ← Json.Decoder.required .bool depth jitter
      return ⟨attempts, initial, longest, multiplier, jitter⟩
    | _, _ => none

end RetryPolicy

namespace BusConfig

/-- Authorization, half a minute for each of the attempts, of which there is one, and a log of completions. -/
def standard : BusConfig := ⟨true, .permissive, some (.ofMillis 30000), .single, true⟩

instance : Inhabited BusConfig := ⟨standard⟩

def toJson (config : BusConfig) : Json :=
  .object [("authorization_enabled", .bool config.authorizationEnabled),
    ("registration_mode", config.registrationMode.toJson),
    ("default_execution_timeout", .ofOption .ofDuration config.defaultTimeout),
    ("retry", config.retry.toJson), ("log_completions", .bool config.logCompletions)]

def decoder : Json.Decoder BusConfig :=
  .record false ["authorization_enabled", "registration_mode", "default_execution_timeout", "retry",
    "log_completions"] fun
    | depth, [enabled, mode, timeout, retry, log] => do
      let enabled ← Json.Decoder.required .bool depth enabled
      let mode ← Json.Decoder.required RegistrationMode.decoder depth mode
      let timeout ← Json.Decoder.optional .duration depth timeout
      let retry ← Json.Decoder.required RetryPolicy.decoder depth retry
      let log ← Json.Decoder.required .bool depth log
      return ⟨enabled, mode, timeout, retry, log⟩
    | _, _ => none

end BusConfig

end IntentBus
