/-! Spans of time: a count of nanoseconds whose whole seconds fit 64 bits. -/

namespace IntentBus

namespace Duration

def nanosPerSecond : Nat := 1000000000

def nanosPerMilli : Nat := 1000000

def nanosPerMicro : Nat := 1000

/-- The first count of nanoseconds that is out of reach. -/
def limit : Nat := UInt64.size * nanosPerSecond

end Duration

/-- A span of time. -/
structure Duration where
  nanos : Nat
  bounded : nanos < Duration.limit := by decide
deriving DecidableEq

namespace Duration

def zero : Duration := ⟨0, by decide⟩

instance : Inhabited Duration := ⟨zero⟩

/-- The longest span. -/
def longest : Duration := ⟨limit - 1, by decide⟩

/-- A count of nanoseconds, cut at the longest span. -/
def ofNanos (nanos : Nat) : Duration :=
  if bounded : nanos < limit then ⟨nanos, bounded⟩ else longest

def ofMillis (millis : Nat) : Duration := ofNanos (millis * nanosPerMilli)

/-- Seconds and nanoseconds, a second's worth of nanoseconds being carried; `none` when the seconds then
exceed 64 bits. -/
def ofParts? (secs nanos : Nat) : Option Duration :=
  if bounded : secs * nanosPerSecond + nanos < limit then some ⟨_, bounded⟩ else none

def secs (span : Duration) : Nat := span.nanos / nanosPerSecond

def subsecNanos (span : Duration) : Nat := span.nanos % nanosPerSecond

/-- The milliseconds that a clock of whole milliseconds needs to cover a span. -/
def toMillisUp (span : Duration) : Nat := (span.nanos + (nanosPerMilli - 1)) / nanosPerMilli

def toMillis (span : Duration) : Nat := span.nanos / nanosPerMilli

/-- A span cut at 64 bits of nanoseconds and then somewhere in its second half; a drawn number decides where. -/
def jittered (span : Duration) (draw : Nat) : Duration :=
  let full := min span.nanos (UInt64.size - 1)
  let half := full / 2
  ofNanos (half + draw % (full - half + 1))

/-- A digit row without the zeros at its end. -/
def dropEndZeros (digits : List Char) : List Char := (digits.reverse.dropWhile (· = '0')).reverse

/-- A quotient by a power of ten, written out exactly. -/
def quotientText (nanos places : Nat) : String :=
  let digits := (toString (nanos % Nat.pow 10 places)).toList
  let fraction := dropEndZeros (List.replicate (places - digits.length) '0' ++ digits)
  toString (nanos / Nat.pow 10 places) ++
    if fraction.isEmpty then "" else String.ofList ('.' :: fraction)

/-- The text of a span in the largest unit that it reaches. -/
def text (span : Duration) : String :=
  if nanosPerSecond ≤ span.nanos then quotientText span.nanos 9 ++ "s"
  else if nanosPerMilli ≤ span.nanos then quotientText span.nanos 6 ++ "ms"
  else if nanosPerMicro ≤ span.nanos then quotientText span.nanos 3 ++ "µs"
  else toString span.nanos ++ "ns"

theorem nanos_eq (span : Duration) : span.nanos = span.secs * nanosPerSecond + span.subsecNanos := by
  unfold secs subsecNanos nanosPerSecond
  omega

theorem ofParts?_parts (span : Duration) : ofParts? span.secs span.subsecNanos = some span := by
  have bounded := span.bounded
  unfold ofParts?
  simp only [← nanos_eq, bounded, dif_pos]

end Duration

end IntentBus
