/-! The correlation ids of the dispatches under way. -/

namespace IntentBus

/-- Open scopes, each in a slot of its own, so that two scopes with one id are told apart. -/
structure CorrelationTracker where
  nextSlot : Nat
  scopes : List (Nat × String)
deriving DecidableEq

namespace CorrelationTracker

def empty : CorrelationTracker := ⟨0, []⟩

/-- Opens a scope for an id; the answer is its slot. -/
def enter (tracker : CorrelationTracker) (id : String) : Nat × CorrelationTracker :=
  (tracker.nextSlot, ⟨tracker.nextSlot + 1, (tracker.nextSlot, id) :: tracker.scopes⟩)

/-- Closes the scope in a slot, if it is still open. -/
def release (slot : Nat) (tracker : CorrelationTracker) : CorrelationTracker :=
  { tracker with scopes := tracker.scopes.filter (·.1 ≠ slot) }

def isOpen (tracker : CorrelationTracker) (slot : Nat) : Bool := tracker.scopes.any (·.1 = slot)

/-- How many scopes are open. -/
def count (tracker : CorrelationTracker) : Nat := tracker.scopes.length

/-- Whether an open scope carries an id. -/
def isActive (tracker : CorrelationTracker) (id : String) : Bool := tracker.scopes.any (·.2 = id)

end CorrelationTracker

end IntentBus
