import IntentBus.Intent

/-! Listings of intent types: where no two types share a name, none is lost and the names are in order. -/

namespace IntentBus.IntentType

private theorem before_of_lt {first second : IntentType} (below : first.name < second.name) :
    first.before second = true := by
  simp [before, below]

private theorem lt_of_before {first second : IntentType} (before : first.before second = true)
    (other : first.name ≠ second.name) : first.name < second.name := by
  simpa [IntentType.before, other] using before

private theorem insertInto_cons {type first : IntentType} (other : type.name ≠ first.name)
    (rest : List IntentType) : type.insertInto (first :: rest) =
      if type.name < first.name then type :: first :: rest else first :: type.insertInto rest := by
  rw [insertInto]
  split
  · next ahead => rw [if_pos (lt_of_before ahead other)]
  · next notAhead =>
    have above : ¬type.name < first.name := fun below => notAhead (before_of_lt below)
    rw [if_neg above, if_pos (before_of_lt (Dictionary.lt_of_not_lt_of_ne above other))]

private theorem perm_insertInto {type : IntentType} {types : List IntentType}
    (fresh : ∀ other ∈ types, type.name ≠ other.name) :
    (type.insertInto types).Perm (type :: types) := by
  induction types with
  | nil => exact .refl _
  | cons first rest ih =>
    rw [insertInto_cons (fresh first (.head rest))]
    split
    · exact .refl _
    · exact ((ih fun other mem => fresh other (.tail first mem)).cons first).trans (.swap type first rest)

private theorem sorted_insertInto {type : IntentType} {types : List IntentType}
    (sorted : types.Pairwise (·.name < ·.name)) (fresh : ∀ other ∈ types, type.name ≠ other.name) :
    (type.insertInto types).Pairwise (·.name < ·.name) := by
  induction types with
  | nil => exact List.pairwise_singleton _ _
  | cons first rest ih =>
    obtain ⟨head, tail⟩ := List.pairwise_cons.1 sorted
    have others (other : IntentType) (mem : other ∈ rest) := fresh other (.tail first mem)
    rw [insertInto_cons (fresh first (.head rest))]
    split
    · next below =>
      refine List.pairwise_cons.2 ⟨fun other mem => ?_, sorted⟩
      rcases List.mem_cons.1 mem with rfl | mem
      · exact below
      · exact String.lt_trans below (head other mem)
    · next above =>
      refine List.pairwise_cons.2 ⟨fun other mem => ?_, ih tail others⟩
      rcases List.mem_cons.1 ((perm_insertInto others).mem_iff.1 mem) with rfl | mem
      · exact Dictionary.lt_of_not_lt_of_ne above (fresh first (.head rest))
      · exact head other mem

/-- A listing holds the types it is made of, each as often as they do. -/
theorem perm_listing {types : List IntentType} (distinct : types.Pairwise (·.name ≠ ·.name)) :
    (listing types).Perm types := by
  induction types with
  | nil => exact .refl _
  | cons first rest ih =>
    obtain ⟨head, tail⟩ := List.pairwise_cons.1 distinct
    have same := ih tail
    exact (perm_insertInto fun other mem => head other (same.mem_iff.1 mem)).trans (same.cons first)

/-- A listing is in the order of the names. -/
theorem sorted_listing {types : List IntentType} (distinct : types.Pairwise (·.name ≠ ·.name)) :
    (listing types).Pairwise (·.name < ·.name) := by
  induction types with
  | nil => exact .nil
  | cons first rest ih =>
    obtain ⟨head, tail⟩ := List.pairwise_cons.1 distinct
    exact sorted_insertInto (ih tail) fun other mem => head other ((perm_listing tail).mem_iff.1 mem)

end IntentBus.IntentType
