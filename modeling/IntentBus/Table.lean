/-! Tables: entries under distinct keys. Their order is that of a walk through the table and means nothing. -/

namespace IntentBus

/-- Entries under keys, each key once. -/
structure Table (κ ν : Type) where
  entries : List (κ × ν)
  distinct : (entries.map Prod.fst).Nodup

namespace Table

variable {κ ν : Type}

def empty : Table κ ν := ⟨[], .nil⟩

instance : Inhabited (Table κ ν) := ⟨empty⟩

def keys (table : Table κ ν) : List κ := table.entries.map Prod.fst

def values (table : Table κ ν) : List ν := table.entries.map Prod.snd

def size (table : Table κ ν) : Nat := table.entries.length

def isEmpty (table : Table κ ν) : Bool := table.entries.isEmpty

variable [DecidableEq κ]

def find? (table : Table κ ν) (key : κ) : Option ν := table.entries.lookup key

def contains (table : Table κ ν) (key : κ) : Bool := (table.find? key).isSome

def erase (table : Table κ ν) (key : κ) : Table κ ν :=
  ⟨table.entries.filter (·.1 ≠ key), table.distinct.sublist (List.filter_sublist.map Prod.fst)⟩

private theorem not_mem_keys_erase (table : Table κ ν) (key : κ) : key ∉ (table.erase key).keys := by
  simp [keys, erase]

/-- Puts an entry into the table, over the entry of the same key if there is one. -/
def insert (table : Table κ ν) (key : κ) (value : ν) : Table κ ν :=
  ⟨(key, value) :: (table.erase key).entries,
    List.nodup_cons.2 ⟨not_mem_keys_erase table key, (table.erase key).distinct⟩⟩

@[simp] theorem find?_empty (key : κ) : (empty : Table κ ν).find? key = none := rfl

private theorem lookup_filter_ne (entries : List (κ × ν)) (key k : κ) :
    (entries.filter (·.1 ≠ key)).lookup k = if k = key then none else entries.lookup k := by
  induction entries with
  | nil => simp
  | cons entry rest ih =>
    obtain ⟨first, held⟩ := entry
    rw [List.filter_cons]
    by_cases same : k = first
    · subst same
      by_cases dropped : k = key
      · rw [if_neg (by simp [dropped]), ih, if_pos dropped, if_pos dropped]
      · rw [if_pos (by simp [dropped]), if_neg dropped, List.lookup_cons_self, List.lookup_cons_self]
    · have passed := beq_eq_false_iff_ne.2 same
      split <;> simp only [List.lookup_cons, passed, ih]

/-- An erased key is gone, and no other key is touched. -/
theorem find?_erase (table : Table κ ν) (key k : κ) :
    (table.erase key).find? k = if k = key then none else table.find? k :=
  lookup_filter_ne table.entries key k

/-- The last value put under a key is found there, and no other key is touched. -/
theorem find?_insert (table : Table κ ν) (key k : κ) (value : ν) :
    (table.insert key value).find? k = if k = key then some value else table.find? k := by
  by_cases same : k = key
  · subst same
    simp [find?, insert]
  · have tail := find?_erase table key k
    simp only [find?, if_neg same] at tail ⊢
    simp [insert, List.lookup_cons, beq_eq_false_iff_ne.2 same, tail]

private theorem lookup_eq_some_iff_mem {entries : List (κ × ν)} (distinct : (entries.map Prod.fst).Nodup)
    {key : κ} {value : ν} : entries.lookup key = some value ↔ (key, value) ∈ entries := by
  induction entries with
  | nil => simp
  | cons entry rest ih =>
    obtain ⟨first, held⟩ := entry
    obtain ⟨fresh, distinct⟩ := List.nodup_cons.1 distinct
    by_cases same : key = first
    · subst same
      have absent (mem : (key, value) ∈ rest) : False := fresh (List.mem_map.2 ⟨_, mem, rfl⟩)
      rw [List.lookup_cons_self, List.mem_cons, or_iff_left absent, Prod.mk.injEq, Option.some_inj]
      exact ⟨fun held => ⟨rfl, held.symm⟩, fun held => held.2.symm⟩
    · rw [List.lookup_cons, beq_eq_false_iff_ne.2 same, List.mem_cons, ih distinct]
      exact (or_iff_right fun held => same (Prod.mk.inj held).1).symm

/-- What is found under a key is what the table holds there. -/
theorem find?_eq_some_iff {table : Table κ ν} {key : κ} {value : ν} :
    table.find? key = some value ↔ (key, value) ∈ table.entries :=
  lookup_eq_some_iff_mem table.distinct

end Table

end IntentBus
