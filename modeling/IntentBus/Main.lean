import IntentBus.Bank.Demo

/-! The command line of the bank: the log goes to the error stream, the exported counters to the output. -/

namespace IntentBus.Bank

/-- An entry of the log on one line. -/
def LogFormat.line (format : LogFormat) (entry : LogEntry) : String :=
  match format with
  | .text =>
    " ".intercalate ([entry.level.name, entry.source.target ++ ":", entry.message] ++
      entry.fields.map fun field => field.1 ++ "=" ++ LogEntry.fieldText field.2)
  | .json =>
    (Json.object ([("level", .string entry.level.name), ("message", .string entry.message)] ++ entry.fields ++
      [("target", .string entry.source.target)])).render

/-- The numbers drawn under a seed. -/
def drawn (seed place : Nat) : Nat := (randNat (mkStdGen (seed + 1000003 * place)) 0 (Nat.pow 2 128 - 1)).1

/-- The identifiers made up under a seed. -/
def identifier (seed number : Nat) : Uuid :=
  let value := drawn seed number
  .random fun place => Uuid.lastDigit (value / Nat.pow 16 place)

/-- Runs the demonstration under the options that the arguments state; the answer is the exit code. -/
def runProgram (arguments : List String) : IO UInt32 := do
  match Options.ofArguments arguments with
  | .error .displayHelp =>
    IO.println Options.help
    return .ofNat UsageError.displayHelp.exitCode
  | .error error =>
    IO.eprintln ("error: " ++ error.message)
    return .ofNat error.exitCode
  | .ok options =>
    match LogFilter.ofText options.logFilter with
    | .error error =>
      IO.eprintln ("Error: " ++ error.message)
      return .ofNat error.exitCode
    | .ok filter =>
      let seed ← IO.rand 0 (Nat.pow 2 62)
      let report := demonstrate options "relay_demo::" (fun n => (identifier seed n).text) (drawn (seed + 1))
        fun place => .fresh (identifier (seed + 2) place) 0
      for entry in report.log.filter filter.allows do
        IO.eprintln (options.logFormat.line entry)
      for line in report.counters do
        IO.println line
      return if report.completed then 0 else 1

end IntentBus.Bank

def main (arguments : List String) : IO UInt32 := IntentBus.Bank.runProgram arguments
