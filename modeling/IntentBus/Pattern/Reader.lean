import IntentBus.Pattern.Basic
import IntentBus.Pattern.ClassReader

/-! Reading patterns from text. -/

namespace IntentBus.Pattern

/-- The parts of one group: complete alternatives, and the sequence that is being read, last part first. -/
structure Group where
  left : Option Pattern
  parts : List Pattern

namespace Group

def fresh : Group := ⟨none, []⟩

def sequence (group : Group) : Pattern :=
  match group.parts with
  | [] => empty
  | last :: before => before.foldl (fun later part => seq part later) last

/-- The pattern of the group. -/
def close (group : Group) : Pattern :=
  match group.left with
  | none => group.sequence
  | some left => alt left group.sequence

def push (group : Group) (part : Pattern) : Group := ⟨group.left, part :: group.parts⟩

/-- Starts the next alternative. -/
def split (group : Group) : Group := ⟨some group.close, []⟩

/-- Puts a repetition on the last part; there has to be one. -/
def onLast (group : Group) (f : Pattern → Pattern) : Option Group :=
  match group.parts with
  | [] => none
  | last :: before => some ⟨group.left, f last :: before⟩

end Group

/-- The bounds of a counted repetition; an absent upper bound is no bound. -/
structure Bounds where
  low : Nat
  high : Option Nat

namespace Bounds

/-- A number of at most 32 bits among blanks. -/
def number? (chars : List Char) : Option (Nat × List Char) :=
  let chars := chars.dropWhile Text.isBlank
  let digits := chars.takeWhile Char.isDigit
  let n := digits.foldl (fun n c => 10 * n + (c.toNat - '0'.toNat)) 0
  if digits.isEmpty || UInt32.size ≤ n then none
  else some (n, (chars.dropWhile Char.isDigit).dropWhile Text.isBlank)

/-- Reads bounds after their opening brace; the upper bound is not below the lower. -/
def read? (chars : List Char) : Option (Bounds × List Char) := do
  let (low, rest) ← number? chars
  match rest with
  | '\x7d' :: rest => return (⟨low, some low⟩, rest)
  | ',' :: '\x7d' :: rest => return (⟨low, none⟩, rest)
  | ',' :: rest =>
    let (high, rest) ← number? rest
    match rest with
    | '\x7d' :: rest => if low ≤ high then return (⟨low, some high⟩, rest) else none
    | _ => none
  | _ => none

/-- So many matches of a pattern as the bounds allow. -/
def repetition (bounds : Bounds) (p : Pattern) : Pattern :=
  match bounds.high with
  | none => seq (times bounds.low p) (star p)
  | some high =>
    if high = bounds.low then times high p else seq (times bounds.low p) (upTo (high - bounds.low) p)

/-- How many elementary parts a repetition has at most, relative to its pattern. -/
def factor (bounds : Bounds) : Nat := max (bounds.low + 1) (bounds.high.getD 0)

end Bounds

/-- The pattern read so far, with the groups around the current one. -/
structure Reading where
  group : Group
  outer : List Group

namespace Reading

def start : Reading := ⟨.fresh, []⟩

def push (reading : Reading) (part : Pattern) : Reading := { reading with group := reading.group.push part }

def onLast (reading : Reading) (f : Pattern → Pattern) : Option Reading :=
  (reading.group.onLast f).map fun group => { reading with group := group }

/-- How many elementary parts a counted repetition may unfold to. -/
def largest : Nat := 327680

/-- Puts a counted repetition on the last part, unless it is too large. -/
def repeatLast (reading : Reading) (bounds : Bounds) : Option Reading :=
  match reading.group.parts with
  | last :: _ =>
    if last.weight * bounds.factor ≤ largest then reading.onLast bounds.repetition else none
  | [] => none

def enter (reading : Reading) : Reading := ⟨.fresh, reading.group :: reading.outer⟩

/-- Closes the current group; there has to be one around it. -/
def leave (reading : Reading) : Option Reading :=
  match reading.outer with
  | [] => none
  | group :: outer => some ⟨group.push reading.group.close, outer⟩

/-- A question mark after a repetition changes which match is preferred, not whether there is one. -/
def dropPreference : List Char → List Char
  | '?' :: rest => rest
  | chars => chars

/-- A group that is not counted starts with a question mark and a colon; other marks are refused. -/
def groupStart : List Char → Option (List Char)
  | '?' :: ':' :: rest => some rest
  | '?' :: _ => none
  | chars => some chars

def ofEscape : Escape → Pattern
  | .char c => ofChar c
  | .set set => one set
  | .textStart => textStart
  | .textEnd => textEnd

/-- Takes the next part of a pattern; the answer is the reading after it and the text that is left. -/
def step? (reading : Reading) : Char → List Char → Option (Reading × List Char)
  | '(', rest => (groupStart rest).map (reading.enter, ·)
  | ')', rest => reading.leave.map (·, rest)
  | '|', rest => some ({ reading with group := reading.group.split }, rest)
  | '*', rest => (reading.onLast star).map (·, dropPreference rest)
  | '+', rest => (reading.onLast plus).map (·, dropPreference rest)
  | '?', rest => (reading.onLast optional).map (·, dropPreference rest)
  | '\x7b', rest => do
    let (bounds, rest) ← Bounds.read? rest
    return (← reading.repeatLast bounds, dropPreference rest)
  | '[', rest => (CharSet.read? rest).map fun (set, rest) => (reading.push (one set), rest)
  | '\\', rest => (Escape.read? rest).map fun (escape, rest) => (reading.push (ofEscape escape), rest)
  | '.', rest => some (reading.push anyChar, rest)
  | '^', rest => some (reading.push textStart, rest)
  | '$', rest => some (reading.push textEnd, rest)
  | c, rest => some (reading.push (ofChar c), rest)

/-- Reads to the end of the text, where every group has to be closed. -/
def finish : Nat → Reading → List Char → Option Pattern
  | _, reading, [] => if reading.outer.isEmpty then some reading.group.close else none
  | 0, _, _ => none
  | fuel + 1, reading, c :: rest =>
    match reading.step? c rest with
    | some (reading, rest) => finish fuel reading rest
    | none => none

end Reading

/-- Reads a pattern. -/
def ofText? (text : String) : Option Pattern := Reading.start.finish text.toList.length text.toList

end IntentBus.Pattern
