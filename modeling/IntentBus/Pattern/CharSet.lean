import IntentBus.Text.Blank
import IntentBus.Text.DecimalDigit

/-! Sets of characters, as classes in patterns combine them. -/

namespace IntentBus

/-- A set of characters; ranges are of code points, ends included. -/
inductive CharSet
  | empty
  | range (low high : Nat)
  | digit
  | blank
  | complement (set : CharSet)
  | union (left right : CharSet)
  | intersection (left right : CharSet)
  | difference (left right : CharSet)
  | symmetricDifference (left right : CharSet)
deriving DecidableEq

namespace CharSet

def contains (c : Char) : CharSet → Bool
  | empty => false
  | range low high => low ≤ c.toNat && c.toNat ≤ high
  | digit => Text.isDecimalDigit c
  | blank => Text.isBlank c
  | complement set => !set.contains c
  | union left right => left.contains c || right.contains c
  | intersection left right => left.contains c && right.contains c
  | difference left right => left.contains c && !right.contains c
  | symmetricDifference left right => left.contains c != right.contains c

def single (c : Char) : CharSet := range c.toNat c.toNat

/-- The union of ranges from one character to another. -/
def ofRanges (ranges : List (Char × Char)) : CharSet :=
  ranges.foldl (fun set ends => set.union (range ends.1.toNat ends.2.toNat)) empty

/-- The classes of ASCII characters that have a name. -/
def ofName? (name : String) : Option CharSet :=
  ofRanges <$> [("alnum", [('0', '9'), ('A', 'Z'), ('a', 'z')]), ("alpha", [('A', 'Z'), ('a', 'z')]),
    ("ascii", [('\x00', '\x7f')]), ("blank", [('\t', '\t'), (' ', ' ')]),
    ("cntrl", [('\x00', '\x1f'), ('\x7f', '\x7f')]), ("digit", [('0', '9')]), ("graph", [('!', '~')]),
    ("lower", [('a', 'z')]), ("print", [(' ', '~')]),
    ("punct", [('!', '/'), (':', '@'), ('[', '\x60'), ('\x7b', '~')]), ("space", [('\t', '\r'), (' ', ' ')]),
    ("upper", [('A', 'Z')]), ("word", [('0', '9'), ('A', 'Z'), ('_', '_'), ('a', 'z')]),
    ("xdigit", [('0', '9'), ('A', 'F'), ('a', 'f')])].lookup name

theorem contains_single {c d : Char} : (single d).contains c = true ↔ c = d := by
  simp only [single, contains, Bool.and_eq_true, decide_eq_true_eq]
  constructor
  · rintro ⟨low, high⟩
    exact Char.toNat_inj.1 (Nat.le_antisymm high low)
  · rintro rfl
    exact ⟨Nat.le_refl _, Nat.le_refl _⟩

end CharSet

end IntentBus
