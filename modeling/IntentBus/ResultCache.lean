import IntentBus.Dictionary

/-! Results of queries, kept by intent name and cache key. -/

namespace IntentBus

/-- A result with the name of its type. -/
structure CachedResult (α : Type) where
  type : String
  value : α

/-- The results kept, by intent name and then by key. -/
structure ResultCache (α : Type) where
  rows : Dictionary (Dictionary (CachedResult α))

namespace ResultCache

variable {α : Type}

def empty : ResultCache α := ⟨.empty⟩

def get? (cache : ResultCache α) (intent key : String) : Option (CachedResult α) :=
  (cache.rows.find? intent).bind (·.find? key)

def put (cache : ResultCache α) (intent key : String) (result : CachedResult α) : ResultCache α :=
  ⟨cache.rows.insert intent (((cache.rows.find? intent).getD .empty).insert key result)⟩

theorem get?_empty (intent key : String) : (empty : ResultCache α).get? intent key = none := rfl

/-- The last result put for a name and a key is found there, and no other place is touched. -/
theorem get?_put (cache : ResultCache α) (intent key name k : String) (result : CachedResult α) :
    (cache.put intent key result).get? name k =
      if name = intent ∧ k = key then some result else cache.get? name k := by
  unfold get? put
  rw [Dictionary.find?_insert]
  by_cases named : name = intent
  · subst named
    rw [if_pos rfl, Option.bind_some, Dictionary.find?_insert]
    by_cases own : k = key
    · rw [if_pos own, if_pos ⟨rfl, own⟩]
    · rw [if_neg own, if_neg fun both => own both.2]
      cases cache.rows.find? name with
      | none => rfl
      | some row => rfl
  · rw [if_neg named, if_neg fun both => named both.1]

end ResultCache

end IntentBus
