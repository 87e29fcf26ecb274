import IntentBus.Pattern.Escape

/-! Reading the classes of patterns: characters, ranges, named sets and classes inside brackets, joined by
operators. -/

namespace IntentBus

/-- A class that is being read: whether it is a complement, what the operators before the current operand
make of it, and the members of that operand so far. -/
structure ClassRead where
  negated : Bool
  operation : CharSet → CharSet
  operand : CharSet

namespace ClassRead

def add (read : ClassRead) (set : CharSet) : ClassRead := { read with operand := read.operand.union set }

/-- Ends an operand. Operators are of one rank and go from left to right. -/
def operate (read : ClassRead) (operator : CharSet → CharSet → CharSet) : ClassRead :=
  { read with operation := operator (read.operation read.operand), operand := .empty }

def close (read : ClassRead) : CharSet :=
  let set := read.operation read.operand
  if read.negated then set.complement else set

/-- Starts a class after its bracket. Hyphens that come first stand for themselves, and so does a closing
bracket that comes first of all. -/
def opened (chars : List Char) : ClassRead × List Char :=
  let (negated, chars) := match chars with
    | '^' :: rest => (true, rest)
    | _ => (false, chars)
  match chars with
  | ']' :: rest => (⟨negated, id, .single ']'⟩, rest)
  | '-' :: rest => (⟨negated, id, .single '-'⟩, rest.dropWhile (· = '-'))
  | _ => (⟨negated, id, .empty⟩, chars)

/-- Reads the name of an ASCII class after its bracket: between colons, under an optional negation. -/
def named? : List Char → Option (CharSet × List Char)
  | ':' :: rest =>
    let (negated, rest) := match rest with
      | '^' :: rest => (true, rest)
      | _ => (false, rest)
    match rest.dropWhile (· ≠ ':') with
    | ':' :: ']' :: after =>
      (CharSet.ofName? (String.ofList (rest.takeWhile (· ≠ ':')))).map fun set =>
        (if negated then set.complement else set, after)
    | _ => none
  | _ => none

/-- One character, or a set with an escape of its own. -/
def member? : List Char → Option ((Char ⊕ CharSet) × List Char)
  | [] => none
  | '\\' :: rest =>
    match Escape.read? rest with
    | some (.char c, after) => some (.inl c, after)
    | some (.set set, after) => some (.inr set, after)
    | _ => none
  | c :: rest => some (.inl c, rest)

def memberSet : Char ⊕ CharSet → CharSet
  | .inl c => .single c
  | .inr set => set

/-- The range between two members; both have to be characters, the smaller first. -/
def range? : Char ⊕ CharSet → Char ⊕ CharSet → Option CharSet
  | .inl low, .inl high => if low.toNat ≤ high.toNat then some (.range low.toNat high.toNat) else none
  | _, _ => none

/-- A member or a range. A hyphen before a bracket or before a second hyphen makes no range. -/
def item? (chars : List Char) : Option (CharSet × List Char) := do
  let (first, rest) ← member? chars
  match rest with
  | '-' :: ']' :: _ | '-' :: '-' :: _ => return (memberSet first, rest)
  | '-' :: rest =>
    let (last, rest) ← member? rest
    return (← range? first last, rest)
  | _ => return (memberSet first, rest)

/-- Reads a class to its end, inside the classes around it. -/
def readFrom : Nat → ClassRead → List ClassRead → List Char → Option (CharSet × List Char)
  | 0, _, _, _ => none
  | fuel + 1, read, outer, chars =>
    match chars with
    | '[' :: rest =>
      match named? rest with
      | some (set, rest) => readFrom fuel (read.add set) outer rest
      | none =>
        let (inner, rest) := opened rest
        readFrom fuel inner (read :: outer) rest
    | ']' :: rest =>
      match outer with
      | [] => some (read.close, rest)
      | around :: outer => readFrom fuel (around.add read.close) outer rest
    | '&' :: '&' :: rest => readFrom fuel (read.operate .intersection) outer rest
    | '-' :: '-' :: rest => readFrom fuel (read.operate .difference) outer rest
    | '~' :: '~' :: rest => readFrom fuel (read.operate .symmetricDifference) outer rest
    | chars =>
      match item? chars with
      | some (set, rest) => readFrom fuel (read.add set) outer rest
      | none => none

end ClassRead

/-- Reads a class after its bracket. -/
def CharSet.read? (chars : List Char) : Option (CharSet × List Char) :=
  let (read, rest) := ClassRead.opened chars
  ClassRead.readFrom (rest.length + 1) read [] rest

end IntentBus
