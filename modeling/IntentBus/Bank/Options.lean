import IntentBus.Policy

/-! The options of the bank's command line. -/

namespace IntentBus.Bank

/-- How the log is written. -/
inductive LogFormat
  | text
  | json
deriving DecidableEq

/-- The settings that the command line makes. -/
structure Options where
  disableAuthorization : Bool
  strictRegistration : Bool
  executionTimeoutMs : UInt64
  maxAttempts : UInt32
  withdrawLimit : Int64
  logFormat : LogFormat
  logFilter : String

/-- Why the arguments cannot be followed; a request for help is treated as such a reason. -/
inductive UsageError
  | unknownArgument
  | invalidValue
  | valueValidation
  | argumentConflict
  | tooManyValues
  | displayHelp
deriving DecidableEq

/-- The options by name. The first two are flags, the others have a value. -/
inductive OptionName
  | disableAuthorization
  | strictRegistration
  | executionTimeoutMs
  | maxAttempts
  | withdrawLimit
  | logFormat
  | logFilter
deriving DecidableEq

namespace UsageError

def name : UsageError → String
  | unknownArgument => "UnknownArgument"
  | invalidValue => "InvalidValue"
  | valueValidation => "ValueValidation"
  | argumentConflict => "ArgumentConflict"
  | tooManyValues => "TooManyValues"
  | displayHelp => "DisplayHelp"

/-- What the program says about arguments that it cannot follow. -/
def message : UsageError → String
  | unknownArgument => "unexpected argument found"
  | invalidValue => "an option lacks its value or has one that it does not know"
  | valueValidation => "the value of an option is no whole number within its bounds"
  | argumentConflict => "an option cannot be used multiple times"
  | tooManyValues => "a flag takes no value"
  | displayHelp => "help was asked for"

/-- The exit code of the program; help is a success. -/
def exitCode : UsageError → Nat
  | displayHelp => 0
  | _ => 2

end UsageError

namespace OptionName

def all : List OptionName :=
  [disableAuthorization, strictRegistration, executionTimeoutMs, maxAttempts, withdrawLimit, logFormat,
    logFilter]

def text : OptionName → String
  | disableAuthorization => "disable-authorization"
  | strictRegistration => "strict-registration"
  | executionTimeoutMs => "execution-timeout-ms"
  | maxAttempts => "max-attempts"
  | withdrawLimit => "withdraw-limit"
  | logFormat => "log-format"
  | logFilter => "log-filter"

def ofText? (text : String) : Option OptionName := all.find? (·.text = text)

def isFlag : OptionName → Bool
  | disableAuthorization | strictRegistration => true
  | _ => false

/-- What an option is for. -/
def purpose : OptionName → String
  | disableAuthorization => "Skip the authorization stage entirely"
  | strictRegistration => "Reject duplicate handler registrations instead of replacing them"
  | executionTimeoutMs => "Default execution bound per attempt, in milliseconds. 0 disables it"
  | maxAttempts => "Total execution attempts, including the first"
  | withdrawLimit => "Largest amount a single withdrawal may move"
  | logFormat => "Format of the log: text or json"
  | logFilter => "Directives that choose among the log entries"

/-- The line of the help about an option. -/
def helpLine (option : OptionName) : String :=
  "      --" ++ option.text ++ (if option.isFlag then "  " else " <VALUE>  ") ++ option.purpose

end OptionName

namespace LogFormat

def label : LogFormat → String
  | text => "Text"
  | json => "Json"

def ofText? : String → Option LogFormat
  | "text" => some text
  | "json" => some json
  | _ => none

end LogFormat

namespace Options

def standard : Options := ⟨false, false, 30000, 1, 50, .text, "info"⟩

/-- Gives an option its value; a flag has none and ignores it. -/
def set (options : Options) (name : OptionName) (value : String) : Except UsageError Options :=
  match name with
  | .disableAuthorization => .ok { options with disableAuthorization := true }
  | .strictRegistration => .ok { options with strictRegistration := true }
  | .executionTimeoutMs =>
    match (Numeral.natural? value).filter (· < UInt64.size) with
    | some millis => .ok { options with executionTimeoutMs := .ofNat millis }
    | none => .error .valueValidation
  | .maxAttempts =>
    match (Numeral.integer? value).filter fun n : Int => 0 ≤ n ∧ n < UInt32.size with
    | some attempts => .ok { options with maxAttempts := .ofNat attempts.toNat }
    | none => .error .valueValidation
  | .withdrawLimit =>
    match (Numeral.integer? value).filter fun n =>
        Int64.minValue.toInt ≤ n ∧ n ≤ Int64.maxValue.toInt with
    | some limit => .ok { options with withdrawLimit := .ofInt limit }
    | none => .error .valueValidation
  | .logFormat =>
    match LogFormat.ofText? value with
    | some format => .ok { options with logFormat := format }
    | none => .error .invalidValue
  | .logFilter => .ok { options with logFilter := value }

/-- The settings of the bus that goes with the options; its waits are jittered. -/
def busConfig (options : Options) : BusConfig :=
  { BusConfig.standard with
    authorizationEnabled := !options.disableAuthorization
    registrationMode := if options.strictRegistration then .strict else .permissive
    defaultTimeout :=
      if options.executionTimeoutMs = 0 then none else some (.ofMillis options.executionTimeoutMs.toNat)
    retry := { RetryPolicy.single with
      maxAttempts := if options.maxAttempts = 0 then 1 else options.maxAttempts
      jitter := true } }

/-- Arguments read so far: the options given, and the option whose value is waited for or just came. -/
structure Reading where
  options : Options
  given : List OptionName
  pending : Option (OptionName × Option String)

namespace Reading

def start : Reading := ⟨standard, [], none⟩

/-- An option is given once only. -/
def give (reading : Reading) (name : OptionName) (value : String) : Except UsageError Reading :=
  if reading.given.contains name then .error .argumentConflict
  else (reading.options.set name value).map fun options => ⟨options, name :: reading.given, none⟩

/-- Settles the option before the next one: by now its value must have come. -/
def settle (reading : Reading) : Except UsageError Reading :=
  match reading.pending with
  | none => .ok reading
  | some (_, none) => .error .invalidValue
  | some (name, some value) => give { reading with pending := none } name value

/-- Takes a long argument, its value being attached or not. -/
def takeLong (reading : Reading) (name : String) (attached : Option String) : Except UsageError Reading :=
  match OptionName.ofText? name, attached with
  | none, none => if name = "help" then reading.settle.bind fun _ => .error .displayHelp else .error .unknownArgument
  | none, some _ => if name = "help" then .error .tooManyValues else .error .unknownArgument
  | some option, none =>
    reading.settle.bind fun reading =>
      if option.isFlag then reading.give option "" else .ok { reading with pending := some (option, none) }
  | some option, some value =>
    if option.isFlag then .error .tooManyValues
    else reading.settle.bind fun reading => reading.give option value

/-- Takes an argument that does not look like an option: it is the value that is waited for, if one is. -/
def takeValue (reading : Reading) (value : String) : Except UsageError Reading :=
  match reading.pending with
  | some (name, none) => .ok { reading with pending := some (name, some value) }
  | _ => .error .unknownArgument

/-- Takes one more argument. -/
def take (reading : Reading) (argument : String) : Except UsageError Reading :=
  match argument.toList with
  | '-' :: '-' :: rest =>
    let name := String.ofList (rest.takeWhile (· ≠ '='))
    match rest.dropWhile (· ≠ '=') with
    | [] => reading.takeLong name none
    | _ :: value => reading.takeLong name (some (String.ofList value))
  | ['-'] => reading.takeValue argument
  | '-' :: 'h' :: _ => reading.settle.bind fun _ => .error .displayHelp
  | '-' :: _ => .error .unknownArgument
  | _ => reading.takeValue argument

/-- Takes the arguments to the end; after two hyphens alone nothing may follow. -/
def takeAll (reading : Reading) : List String → Except UsageError Reading
  | [] => reading.settle
  | "--" :: rest => if rest.isEmpty then reading.settle else .error .unknownArgument
  | argument :: rest => (reading.take argument).bind fun reading => reading.takeAll rest

end Reading

/-- The answer to a request for help. -/
def help : String :=
  "\n".intercalate ("Usage: relay-demo [OPTIONS]" :: "" :: "Options:" :: OptionName.all.map OptionName.helpLine)

/-- Reads the options from the arguments. -/
def ofArguments (arguments : List String) : Except UsageError Options :=
  (Reading.start.takeAll arguments).map (·.options)

end Options

end IntentBus.Bank
