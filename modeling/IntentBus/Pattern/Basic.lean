import IntentBus.Pattern.CharSet

/-! Text patterns and their matches, found by partial derivatives: after each character the pattern becomes
a list of patterns for what may follow. -/

namespace IntentBus

/-- A pattern. The two anchors match the empty text at the start and at the end. -/
inductive Pattern
  | empty
  | textStart
  | textEnd
  | one (set : CharSet)
  | seq (first second : Pattern)
  | alt (left right : Pattern)
  | star (body : Pattern)
deriving DecidableEq

namespace Pattern

/-- Whether a pattern matches the empty text at a place. -/
def nullable (atStart atEnd : Bool) : Pattern → Bool
  | empty => true
  | textStart => atStart
  | textEnd => atEnd
  | one _ => false
  | seq p q => nullable atStart atEnd p && nullable atStart atEnd q
  | alt p q => nullable atStart atEnd p || nullable atStart atEnd q
  | star _ => true

/-- What may follow a character that a pattern consumes. -/
def derive (atStart : Bool) (c : Char) : Pattern → List Pattern
  | empty | textStart | textEnd => []
  | one set => if set.contains c then [empty] else []
  | seq p q =>
    (derive atStart c p).map (seq · q) ++ if nullable atStart false p then derive atStart c q else []
  | alt p q => derive atStart c p ++ derive atStart c q
  | star p => (derive atStart c p).map (seq · (star p))

/-- Whether a match that began earlier, or one that begins from here on, ends in the text. -/
def search (whole : Pattern) (atStart : Bool) (begun : List Pattern) : List Char → Bool
  | [] => (whole :: begun).any (nullable atStart true)
  | c :: rest =>
    (whole :: begun).any (nullable atStart false) ||
      search whole false ((whole :: begun).flatMap (derive atStart c)).eraseDups rest

/-- Whether some part of a text matches. -/
def matchesIn (pattern : Pattern) (text : String) : Bool := search pattern true [] text.toList

/-- Whether a text matches from its start to its end. -/
def matchesWhole (pattern : Pattern) (text : String) : Bool :=
  (seq textStart (seq pattern textEnd)).matchesIn text

/-- So many matches, one after the other. -/
def times : Nat → Pattern → Pattern
  | 0, _ => empty
  | n + 1, p => seq p (times n p)

/-- At most so many matches. -/
def upTo : Nat → Pattern → Pattern
  | 0, _ => empty
  | n + 1, p => alt (seq p (upTo n p)) empty

def optional (p : Pattern) : Pattern := alt p empty

def plus (p : Pattern) : Pattern := seq p (star p)

def ofChar (c : Char) : Pattern := one (.single c)

/-- Any character but a line feed. -/
def anyChar : Pattern := one (.complement (.single '\n'))

/-- How many elementary parts a pattern has. -/
def weight : Pattern → Nat
  | empty | textStart | textEnd | one _ => 1
  | seq p q | alt p q => p.weight + q.weight
  | star p => p.weight

end Pattern

end IntentBus
