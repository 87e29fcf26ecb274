/-! Dictionaries: entries in strictly increasing order of their keys, so that equal contents are equal
dictionaries and every listing is sorted. -/

namespace IntentBus

/-- Entries sorted by key, each key once. -/
structure Dictionary (α : Type u) where
  entries : List (String × α)
  sorted : (entries.map Prod.fst).Pairwise (· < ·)

namespace Dictionary

variable {α : Type u} {β : Type v}

def empty : Dictionary α := ⟨[], .nil⟩

instance : Inhabited (Dictionary α) := ⟨empty⟩

def keys (dictionary : Dictionary α) : List String := dictionary.entries.map Prod.fst

def values (dictionary : Dictionary α) : List α := dictionary.entries.map Prod.snd

def size (dictionary : Dictionary α) : Nat := dictionary.entries.length

def isEmpty (dictionary : Dictionary α) : Bool := dictionary.entries.isEmpty

def find? (dictionary : Dictionary α) (key : String) : Option α := dictionary.entries.lookup key

def contains (dictionary : Dictionary α) (key : String) : Bool := (dictionary.find? key).isSome

/-- Puts an entry in its place, over the entry of the same key if there is one. -/
def insertEntry (key : String) (value : α) : List (String × α) → List (String × α)
  | [] => [(key, value)]
  | (k, v) :: rest =>
    if key < k then (key, value) :: (k, v) :: rest
    else if key = k then (key, value) :: rest
    else (k, v) :: insertEntry key value rest

private theorem mem_keys_insertEntry {key k : String} {value : α} {entries : List (String × α)}
    (h : k ∈ (insertEntry key value entries).map Prod.fst) :
    k = key ∨ k ∈ entries.map Prod.fst := by
  induction entries with
  | nil => simpa [insertEntry] using h
  | cons entry rest ih =>
    simp only [insertEntry] at h
    split at h
    · simpa using h
    · split at h
      · simp only [List.map_cons, List.mem_cons] at h ⊢
        rcases h with h | h
        · exact .inl h
        · exact .inr (.inr h)
      · simp only [List.map_cons, List.mem_cons] at h ⊢
        rcases h with h | h
        · exact .inr (.inl h)
        · rcases ih h with h | h
          · exact .inl h
          · exact .inr (.inr h)

theorem lt_of_not_lt_of_ne {a b : String} (notLt : ¬ a < b) (ne : a ≠ b) : b < a :=
  Decidable.byContradiction fun h =>
    ne (String.le_antisymm (String.not_lt.1 h) (String.not_lt.1 notLt))

private theorem sorted_insertEntry {key : String} {value : α} {entries : List (String × α)}
    (sorted : (entries.map Prod.fst).Pairwise (· < ·)) :
    ((insertEntry key value entries).map Prod.fst).Pairwise (· < ·) := by
  induction entries with
  | nil => simp [insertEntry]
  | cons entry rest ih =>
    obtain ⟨head, tail⟩ := List.pairwise_cons.1 sorted
    simp only [insertEntry]
    split
    · next below =>
      refine List.pairwise_cons.2 ⟨fun k mem => ?_, sorted⟩
      rcases List.mem_cons.1 mem with rfl | mem
      · exact below
      · exact String.lt_trans below (head k mem)
    · next notBelow =>
      split
      · next same => subst same; exact List.pairwise_cons.2 ⟨head, tail⟩
      · next other =>
        refine List.pairwise_cons.2 ⟨fun k mem => ?_, ih tail⟩
        rcases mem_keys_insertEntry mem with rfl | mem
        · exact lt_of_not_lt_of_ne notBelow other
        · exact head k mem

def insert (dictionary : Dictionary α) (key : String) (value : α) : Dictionary α :=
  ⟨insertEntry key value dictionary.entries, sorted_insertEntry dictionary.sorted⟩

def erase (dictionary : Dictionary α) (key : String) : Dictionary α :=
  ⟨dictionary.entries.filter (·.1 ≠ key),
    dictionary.sorted.sublist (List.filter_sublist.map Prod.fst)⟩

/-- The value under a key as a function of the value there before. -/
def alter (dictionary : Dictionary α) (key : String) (f : Option α → α) : Dictionary α :=
  dictionary.insert key (f (dictionary.find? key))

/-- Entries put in one after the other; the last of a key stays. -/
def ofList (entries : List (String × α)) : Dictionary α :=
  entries.foldl (fun dictionary entry => dictionary.insert entry.1 entry.2) empty

theorem find?_empty (key : String) : (empty : Dictionary α).find? key = none := rfl

private theorem lookup_insertEntry (key k : String) (value : α) (entries : List (String × α)) :
    (insertEntry key value entries).lookup k = if k = key then some value else entries.lookup k := by
  induction entries with
  | nil => by_cases h : k = key <;> simp [insertEntry, List.lookup_cons, h, beq_eq_false_iff_ne.2]
  | cons entry rest ih =>
    obtain ⟨first, held⟩ := entry
    simp only [insertEntry]
    split
    · by_cases h : k = key <;> simp [List.lookup_cons, h, beq_eq_false_iff_ne.2]
    · split
      · next same =>
        subst same
        by_cases h : k = key <;> simp [List.lookup_cons, h, beq_eq_false_iff_ne.2]
      · next other =>
        by_cases h : k = first
        · subst h
          have : k ≠ key := fun h => other h.symm
          simp [this]
        · simp [List.lookup_cons, beq_eq_false_iff_ne.2 h, ih]

/-- The last value put under a key is found there, and no other key is touched. -/
theorem find?_insert (dictionary : Dictionary α) (key k : String) (value : α) :
    (dictionary.insert key value).find? k = if k = key then some value else dictionary.find? k :=
  lookup_insertEntry key k value dictionary.entries

private theorem lookup_eq_none_of_lt {key : String} {entries : List (String × α)}
    (below : ∀ k ∈ entries.map Prod.fst, key < k) : entries.lookup key = none := by
  induction entries with
  | nil => rfl
  | cons entry rest ih =>
    obtain ⟨first, held⟩ := entry
    have other : key ≠ first := String.ne_of_lt (below first (.head _))
    rw [List.lookup_cons, beq_eq_false_iff_ne.2 other]
    exact ih fun k mem => below k (.tail _ mem)

/-- What is found in entries that are sorted does not come before the first of them. -/
private theorem not_lt_of_lookup {key first : String} {value held : α} {rest : List (String × α)}
    (sorted : (((first, held) :: rest).map Prod.fst).Pairwise (· < ·))
    (found : ((first, held) :: rest).lookup key = some value) : ¬key < first := by
  intro before
  have absent : ((first, held) :: rest).lookup key = none := lookup_eq_none_of_lt fun k mem => by
    rcases List.mem_cons.1 mem with rfl | later
    · exact before
    · exact String.lt_trans before ((List.pairwise_cons.1 sorted).1 k later)
  nomatch found.symm.trans absent

private theorem eq_of_lookup {first second : List (String × α)} (sorted : (first.map Prod.fst).Pairwise (· < ·))
    (other : (second.map Prod.fst).Pairwise (· < ·)) (same : ∀ key, first.lookup key = second.lookup key) :
    first = second := by
  induction first generalizing second with
  | nil =>
    cases second with
    | nil => rfl
    | cons entry rest => nomatch (same entry.1).trans List.lookup_cons_self
  | cons entry rest ih =>
    obtain ⟨key, value⟩ := entry
    have own : second.lookup key = some value := (same key).symm.trans List.lookup_cons_self
    cases second with
    | nil => nomatch own
    | cons entry others =>
      obtain ⟨key', value'⟩ := entry
      have back : ((key, value) :: rest).lookup key' = some value' := (same key').trans List.lookup_cons_self
      have keys : key = key' := String.le_antisymm (String.not_lt.1 (not_lt_of_lookup sorted back))
        (String.not_lt.1 (not_lt_of_lookup other own))
      subst keys
      obtain ⟨head, sorted⟩ := List.pairwise_cons.1 sorted
      obtain ⟨head', other⟩ := List.pairwise_cons.1 other
      rw [List.lookup_cons_self, Option.some_inj] at own
      rw [own, ih sorted other fun k => ?_]
      by_cases first : k = key
      · rw [first, lookup_eq_none_of_lt head, lookup_eq_none_of_lt head']
      · have both := same k
        rwa [List.lookup_cons, List.lookup_cons, beq_eq_false_iff_ne.2 first] at both

/-- Dictionaries with the same contents are the same. -/
theorem eq_of_find? {first second : Dictionary α} (same : ∀ key, first.find? key = second.find? key) :
    first = second := by
  cases first
  cases second
  simp only [mk.injEq]
  exact eq_of_lookup (by assumption) (by assumption) same

/-- Entries of different keys may be put in in any order. -/
theorem insert_comm (dictionary : Dictionary α) {key other : String} (apart : key ≠ other) (value held : α) :
    (dictionary.insert key value).insert other held = (dictionary.insert other held).insert key value := by
  refine eq_of_find? fun k => ?_
  simp only [find?_insert]
  by_cases same : k = key
  · subst same
    simp only [if_neg apart]
  · simp only [if_neg same]

private theorem insertEntry_of_lt {key : String} (value : α) {entries : List (String × α)}
    (below : ∀ k ∈ entries.map Prod.fst, k < key) : insertEntry key value entries = entries ++ [(key, value)] := by
  induction entries with
  | nil => rfl
  | cons entry rest ih =>
    have first : entry.1 < key := below entry.1 (.head _)
    rw [insertEntry, if_neg (String.lt_asymm first), if_neg (String.ne_of_lt first).symm,
      ih fun k mem => below k (.tail _ mem), List.cons_append]

private theorem entries_foldl (dictionary : Dictionary α) (rest : List (String × α))
    (sorted : ((dictionary.entries ++ rest).map Prod.fst).Pairwise (· < ·)) :
    (rest.foldl (fun dictionary entry => dictionary.insert entry.1 entry.2) dictionary).entries =
      dictionary.entries ++ rest := by
  induction rest generalizing dictionary with
  | nil => exact (List.append_nil _).symm
  | cons entry rest ih =>
    have below (k : String) (mem : k ∈ dictionary.entries.map Prod.fst) : k < entry.1 := by
      rw [List.map_append] at sorted
      exact (List.pairwise_append.1 sorted).2.2 k mem entry.1 (.head _)
    have grown : (dictionary.insert entry.1 entry.2).entries = dictionary.entries ++ [entry] :=
      insertEntry_of_lt entry.2 below
    rw [List.foldl_cons, ih, grown, List.append_assoc, List.singleton_append]
    rwa [grown, List.append_assoc, List.singleton_append]

/-- Entries that are in order, each key once, stay as they are. -/
theorem entries_ofList {entries : List (String × α)} (sorted : (entries.map Prod.fst).Pairwise (· < ·)) :
    (ofList entries).entries = entries :=
  entries_foldl empty entries sorted

theorem ofList_entries (dictionary : Dictionary α) : ofList dictionary.entries = dictionary := by
  obtain ⟨entries, sorted⟩ := dictionary
  rw [mk.injEq]
  exact entries_ofList sorted

end Dictionary

end IntentBus
