import IntentBus.Proofs.Listing
import IntentBus.Proofs.Results
import Mathlib.Data.List.Induction

/-! The table of handlers as a map from intent types: what any registrations and removals leave in it is told by
those of them that succeeded. -/

namespace IntentBus

variable {σ ι α : Type}

/-- A change that is asked of a table of handlers. -/
inductive RegistryCall (σ ι α : Type)
  | register (handler : Handler σ ι α)
  | unregister (type : IntentType)

namespace RegistryCall

def type : RegistryCall σ ι α → IntentType
  | register handler => handler.type
  | unregister type => type

def apply (registry : Registry σ ι α) : RegistryCall σ ι α → Registry σ ι α
  | register handler =>
    match registry.register handler with
    | .ok (_, next) => next
    | .error _ => registry
  | unregister type => (registry.unregister type).2

def succeeds (registry : Registry σ ι α) : RegistryCall σ ι α → Bool
  | register handler => (registry.register handler).isOk
  | unregister type => (registry.unregister type).1

/-- The last that was successfully done about a type is the registration of a handler. -/
def Latest (log : List (RegistryCall σ ι α)) (type : IntentType) (handler : Handler σ ι α) : Prop :=
  ∃ earlier later, log = earlier ++ .register handler :: later ∧ handler.type = type ∧
    ∀ call ∈ later, call.type ≠ type

/-- Some registration for a type has succeeded since its last successful removal. -/
def Registered (log : List (RegistryCall σ ι α)) (type : IntentType) : Prop :=
  ∃ earlier handler later, log = earlier ++ .register handler :: later ∧ handler.type = type ∧
    .unregister type ∉ later

end RegistryCall

namespace Registry

def after (registry : Registry σ ι α) (calls : List (RegistryCall σ ι α)) : Registry σ ι α :=
  calls.foldl RegistryCall.apply registry

def successes (registry : Registry σ ι α) : List (RegistryCall σ ι α) → List (RegistryCall σ ι α)
  | [] => []
  | call :: rest =>
    let later := (call.apply registry).successes rest
    if call.succeeds registry then call :: later else later

end Registry

namespace RegistryCall

variable {log : List (RegistryCall σ ι α)} {call : RegistryCall σ ι α} {type : IntentType}
  {handler : Handler σ ι α}

/-- What the latest call makes of the latest registrations. -/
theorem latest_snoc : Latest (log ++ [call]) type handler ↔
    (call = .register handler ∧ handler.type = type) ∨ (call.type ≠ type ∧ Latest log type handler) := by
  constructor
  · rintro ⟨earlier, later, split, own, others⟩
    rcases List.eq_nil_or_concat later with rfl | ⟨later, last, rfl⟩
    · exact .inl ⟨(List.append_inj' split rfl).2 |> List.singleton_inj.1, own⟩
    · rw [List.concat_eq_append, ← List.cons_append, ← List.append_assoc] at split
      obtain ⟨before, last⟩ := List.append_inj' split rfl
      cases last
      refine .inr ⟨others call (by simp), earlier, later, before, own, fun other mem => others other ?_⟩
      simp [mem]
  · rintro (⟨rfl, own⟩ | ⟨other, earlier, later, rfl, own, others⟩)
    · exact ⟨log, [], rfl, own, List.forall_mem_nil _⟩
    · refine ⟨earlier, later ++ [call], by simp, own, fun next mem => ?_⟩
      rcases List.mem_append.1 mem with mem | mem
      · exact others next mem
      · exact List.mem_singleton.1 mem ▸ other

private theorem registered_iff : Registered log type ↔ ∃ handler, Latest log type handler := by
  constructor
  · rintro ⟨earlier, handler, later, rfl, own, kept⟩
    induction later using List.reverseRecOn with
    | nil => exact ⟨handler, earlier, [], rfl, own, List.forall_mem_nil _⟩
    | append_singleton later last ih =>
      obtain ⟨found, latest⟩ := ih fun removed => kept (List.mem_append_left _ removed)
      rw [← List.cons_append, ← List.append_assoc]
      by_cases about : last.type = type
      · cases last with
        | register other => exact ⟨other, latest_snoc.2 (.inl ⟨rfl, about⟩)⟩
        | unregister removed =>
          cases about
          exact absurd (List.mem_append_right _ (List.mem_singleton_self _)) kept
      · exact ⟨found, latest_snoc.2 (.inr ⟨about, latest⟩)⟩
  · rintro ⟨handler, earlier, later, split, own, others⟩
    exact ⟨earlier, handler, later, split, own, fun removed => others _ removed rfl⟩

end RegistryCall

namespace Registry

variable {registry : Registry σ ι α} {log : List (RegistryCall σ ι α)}

/-- What the table holds is told by the latest registrations: an entry for each of them, made of its handler,
whose intent has a name of its own in which no character is blank. -/
structure Mirrors (registry : Registry σ ι α) (log : List (RegistryCall σ ι α)) : Prop where
  entries : ∀ type entry, registry.table.find? type = some entry ↔
    ∃ handler, RegistryCall.Latest log type handler ∧ entry = .of ⟨type, handler.name⟩ handler
  named : ∀ type, registry.hasHandler type = true →
    type.name ≠ "" ∧ ∀ c ∈ type.name.toList, Text.isBlank c = false
  unique : ∀ first second, registry.hasHandler first = true → registry.hasHandler second = true →
    first.name = second.name → first = second

/-- An empty table mirrors an empty log. -/
theorem mirrors_empty (mode : RegistrationMode) :
    (empty mode : Registry σ ι α).Mirrors [] where
  entries type entry := by
    constructor
    · nofun
    · rintro ⟨handler, ⟨earlier, later, split, _⟩, _⟩
      exact absurd split.symm (by simp)
  named type bound := nomatch bound
  unique first second bound := nomatch bound

/-- What a successful registration shows and does. -/
theorem register_eq_ok {handler : Handler σ ι α} {registration : Registration}
    {next : Registry σ ι α} (succeeds : registry.register handler = .ok (registration, next)) :
    Text.allBlank handler.type.name = false ∧ Text.anyBlank handler.type.name = false ∧
      registry.clash? handler.type = none ∧
        next = { registry with
          table := registry.table.insert handler.type (.of ⟨handler.type, handler.name⟩ handler) } := by
  unfold register Handler.resolve at succeeds
  cases blank : Text.allBlank handler.type.name with
  | true => simp [blank] at succeeds
  | false =>
    cases spaced : Text.anyBlank handler.type.name with
    | true => simp [blank, spaced] at succeeds
    | false =>
      simp only [blank, spaced, Bool.false_eq_true, if_false] at succeeds
      cases clash : registry.clash? handler.type with
      | some entry => simp [clash] at succeeds
      | none =>
        simp only [clash] at succeeds
        split at succeeds
        · nomatch succeeds
        · cases succeeds
          exact ⟨rfl, rfl, rfl, rfl⟩

/-- A type has a handler exactly if the table holds an entry for it. -/
theorem hasHandler_iff {type : IntentType} :
    registry.hasHandler type = true ↔ ∃ entry, registry.table.find? type = some entry :=
  Option.isSome_iff_exists

private theorem eq_of_clash?_eq_none (mirrors : registry.Mirrors log) {type other : IntentType}
    (free : registry.clash? type = none) (bound : registry.hasHandler other = true)
    (same : other.name = type.name) : other = type := by
  obtain ⟨entry, found⟩ := hasHandler_iff.1 bound
  obtain ⟨handler, _, rfl⟩ := (mirrors.entries other entry).1 found
  have mem : RegistryEntry.of ⟨other, handler.name⟩ handler ∈ registry.table.values :=
    List.mem_map.2 ⟨_, Table.find?_eq_some_iff.1 found, rfl⟩
  have clashes := List.find?_eq_none.1 free _ mem
  simp only [RegistryEntry.clashes, RegistryEntry.of, same, decide_true, Bool.true_and] at clashes
  exact Decidable.of_not_not fun distinct => clashes (decide_eq_true distinct)

private theorem named_of_not_blank {type : IntentType} (notAll : Text.allBlank type.name = false)
    (notAny : Text.anyBlank type.name = false) :
    type.name ≠ "" ∧ ∀ c ∈ type.name.toList, Text.isBlank c = false := by
  refine ⟨fun empty => ?_, fun c mem => ?_⟩
  · rw [empty] at notAll
    nomatch notAll
  · exact Bool.eq_false_iff.2 (List.any_eq_false.1 notAny c mem)

private theorem entries_snoc (mirrors : registry.Mirrors log) {call : RegistryCall σ ι α}
    {next : Registry σ ι α} (changes : ∀ type entry, next.table.find? type = some entry ↔
      (∃ handler, call = .register handler ∧ handler.type = type ∧ entry = .of ⟨type, handler.name⟩ handler) ∨
        (call.type ≠ type ∧ registry.table.find? type = some entry))
    (type : IntentType) (entry : RegistryEntry σ ι α) : next.table.find? type = some entry ↔ ∃ handler,
      RegistryCall.Latest (log ++ [call]) type handler ∧ entry = .of ⟨type, handler.name⟩ handler := by
  rw [changes]
  constructor
  · rintro (⟨handler, same, own, rfl⟩ | ⟨other, found⟩)
    · exact ⟨handler, RegistryCall.latest_snoc.2 (.inl ⟨same, own⟩), rfl⟩
    · obtain ⟨handler, latest, rfl⟩ := (mirrors.entries type entry).1 found
      exact ⟨handler, RegistryCall.latest_snoc.2 (.inr ⟨other, latest⟩), rfl⟩
  · rintro ⟨handler, latest, rfl⟩
    rcases RegistryCall.latest_snoc.1 latest with ⟨same, own⟩ | ⟨other, latest⟩
    · exact .inl ⟨handler, same, own, rfl⟩
    · exact .inr ⟨other, (mirrors.entries type _).2 ⟨handler, latest, rfl⟩⟩

/-- A registration that succeeds is written to the log that the table mirrors. -/
theorem mirrors_register (mirrors : registry.Mirrors log) {handler : Handler σ ι α}
    {registration : Registration} {next : Registry σ ι α}
    (succeeds : registry.register handler = .ok (registration, next)) :
    next.Mirrors (log ++ [.register handler]) := by
  obtain ⟨notAll, notAny, free, rfl⟩ := register_eq_ok succeeds
  have bound {type : IntentType} (has : Table.contains (registry.table.insert handler.type
      (.of ⟨handler.type, handler.name⟩ handler)) type = true) :
      type = handler.type ∨ registry.hasHandler type = true := by
    rw [Table.contains, Table.find?_insert] at has
    split at has
    · next own => exact .inl own
    · exact .inr has
  refine ⟨entries_snoc mirrors fun type entry => ?_, fun type has => ?_, fun first second held also same => ?_⟩
  · rw [Table.find?_insert]
    by_cases own : type = handler.type
    · subst own
      simp [RegistryCall.type, eq_comm]
    · simp [RegistryCall.type, own, Ne.symm own]
  · rcases bound has with rfl | has
    · exact named_of_not_blank notAll notAny
    · exact mirrors.named type has
  · rcases bound held with rfl | held
    · rcases bound also with rfl | also
      · rfl
      · exact (eq_of_clash?_eq_none mirrors free also same.symm).symm
    · rcases bound also with rfl | also
      · exact eq_of_clash?_eq_none mirrors free held same
      · exact mirrors.unique first second held also same

private theorem mirrors_unregister (mirrors : registry.Mirrors log) {type : IntentType}
    (succeeds : (registry.unregister type).1 = true) :
    (registry.unregister type).2.Mirrors (log ++ [.unregister type]) := by
  unfold unregister at succeeds ⊢
  split
  · next has =>
    have bound {other : IntentType} (has : (registry.table.erase type).contains other = true) :
        registry.hasHandler other = true := by
      rw [Table.contains, Table.find?_erase] at has
      split at has
      · nomatch has
      · exact has
    refine ⟨entries_snoc mirrors fun other entry => ?_, fun other has => mirrors.named other (bound has),
      fun first second held also => mirrors.unique first second (bound held) (bound also)⟩
    rw [Table.find?_erase]
    by_cases own : other = type
    · simp [RegistryCall.type, own]
    · simp [RegistryCall.type, own, Ne.symm own]
  · next hasNot =>
    rw [if_neg hasNot] at succeeds
    nomatch succeeds

private theorem unregister_of_absent {type : IntentType}
    (fails : (registry.unregister type).1 = false) :
    (registry.unregister type).2 = registry := by
  unfold unregister at fails ⊢
  split
  · next has =>
    rw [if_pos has] at fails
    nomatch fails
  · rfl

/-- A call leaves what it says in the table if it succeeds, and else what was there. -/
theorem mirrors_apply (mirrors : registry.Mirrors log) (call : RegistryCall σ ι α) :
    (call.apply registry).Mirrors (if call.succeeds registry then log ++ [call] else log) := by
  cases call with
  | register handler =>
    cases result : registry.register handler with
    | ok registered =>
      simp only [RegistryCall.apply, RegistryCall.succeeds, result]
      exact mirrors_register mirrors result
    | error error =>
      simp only [RegistryCall.apply, RegistryCall.succeeds, result]
      exact mirrors
  | unregister type =>
    cases removed : (registry.unregister type).1 with
    | true =>
      simp only [RegistryCall.apply, RegistryCall.succeeds, removed]
      exact mirrors_unregister mirrors removed
    | false =>
      simp only [RegistryCall.apply, RegistryCall.succeeds, removed]
      exact (unregister_of_absent removed).symm ▸ mirrors

/-- What calls leave in a table is told by those of them that succeed. -/
theorem mirrors_after (mirrors : registry.Mirrors log) (calls : List (RegistryCall σ ι α)) :
    (registry.after calls).Mirrors (log ++ registry.successes calls) := by
  induction calls generalizing registry log with
  | nil =>
    rw [successes, List.append_nil]
    exact mirrors
  | cons call rest ih =>
    have later := ih (mirrors_apply mirrors call)
    rw [successes]
    split
    · next succeeds =>
      rw [if_pos succeeds, List.append_assoc] at later
      exact later
    · next fails =>
      rw [if_neg fails] at later
      exact later

/-- What a table whose entries are told by a log of successes has to say, and what a dispatch can say of it:
each entry serves its type, so that no lookup fails; each bound type has a name of its own without a blank
character; a type is bound if it was registered since its last removal, by its latest registration; and the names
of the bound types are listed in their order. -/
structure Refines (registry : Registry σ ι α) (log : List (RegistryCall σ ι α)) : Prop where
  keyed : ∀ type entry, registry.table.find? type = some entry →
    entry.binding.intent = type ∧ entry.bound.handler.type = type
  sound : ∀ type error, registry.tryFind type ≠ .error error
  dispatched : ∀ (bus : Bus σ ι α) intent context time (state : BusState σ ι α), state.registry = registry →
    ∀ error, ((bus.dispatch intent context).run time state).result ≠ some (.error (.configuration error)) ∧
      ((bus.dispatchCached intent context).run time state).result ≠ some (.error (.configuration error))
  named : ∀ type, registry.hasHandler type = true →
    type.name ≠ "" ∧ ∀ c ∈ type.name.toList, Text.isBlank c = false
  unique : ∀ first second, registry.hasHandler first = true → registry.hasHandler second = true →
    first.name = second.name → first = second
  present : ∀ type, RegistryCall.Registered log type → ∃ handler, RegistryCall.Latest log type handler ∧
    registry.tryFind type = .ok (some ⟨⟨type, handler.name⟩, handler, handler.timeout⟩) ∧
      registry.find? type = some ⟨⟨type, handler.name⟩, handler, handler.timeout⟩ ∧
        registry.binding? type = some ⟨type, handler.name⟩ ∧ registry.hasHandler type = true
  absent : ∀ type, ¬RegistryCall.Registered log type → registry.tryFind type = .ok none ∧
    registry.find? type = none ∧ registry.binding? type = none ∧ registry.hasHandler type = false
  ordered : registry.names.Pairwise (· < ·)
  listed : ∀ name, name ∈ registry.names ↔ ∃ type, registry.hasHandler type = true ∧ type.name = name
  counted : registry.names.length = registry.size

/-- A lookup finds the handler that was registered last for the type. -/
theorem tryFind_of_latest (mirrors : registry.Mirrors log) {type : IntentType}
    {handler : Handler σ ι α} (latest : RegistryCall.Latest log type handler) :
    registry.table.find? type = some (.of ⟨type, handler.name⟩ handler) ∧
      registry.tryFind type = .ok (some ⟨⟨type, handler.name⟩, handler, handler.timeout⟩) := by
  have found := (mirrors.entries type _).2 ⟨handler, latest, rfl⟩
  have own : handler.type = type := latest.elim fun _ h => h.elim fun _ h => h.2.1
  refine ⟨found, ?_⟩
  rw [tryFind, found]
  exact if_pos own

private theorem tryFind_ne_error (mirrors : registry.Mirrors log) (type : IntentType)
    (error : ConfigurationError) : registry.tryFind type ≠ .error error := by
  intro failed
  cases found : registry.table.find? type with
  | none =>
    rw [tryFind, found] at failed
    nomatch failed
  | some entry =>
    obtain ⟨handler, latest, _⟩ := (mirrors.entries type entry).1 found
    nomatch (tryFind_of_latest mirrors latest).2.symm.trans failed

private theorem find?_of_absent (mirrors : registry.Mirrors log) {type : IntentType}
    (absent : ¬RegistryCall.Registered log type) : registry.table.find? type = none := by
  refine Option.eq_none_iff_forall_ne_some.2 fun entry found => absent ?_
  obtain ⟨handler, latest, _⟩ := (mirrors.entries type entry).1 found
  exact RegistryCall.registered_iff.2 ⟨handler, latest⟩

/-- The types that a table lists are those under which it has entries. -/
theorem intents_eq_keys (mirrors : registry.Mirrors log) :
    registry.table.values.map (·.binding.intent) = registry.table.keys := by
  rw [Table.values, Table.keys, List.map_map]
  apply List.map_congr_left
  intro entry mem
  obtain ⟨handler, _, same⟩ := (mirrors.entries entry.1 entry.2).1 (Table.find?_eq_some_iff.2 mem)
  exact congrArg (·.binding.intent) same

/-- The keys of the table are the types that have a handler. -/
theorem mem_keys {type : IntentType} :
    type ∈ registry.table.keys ↔ registry.hasHandler type = true := by
  rw [hasHandler_iff, Table.keys, List.mem_map]
  constructor
  · rintro ⟨⟨_, entry⟩, mem, rfl⟩
    exact ⟨entry, Table.find?_eq_some_iff.2 mem⟩
  · rintro ⟨entry, found⟩
    exact ⟨(type, entry), Table.find?_eq_some_iff.1 found, rfl⟩

/-- No two types in a table have the same name. -/
theorem names_distinct (mirrors : registry.Mirrors log) :
    registry.table.keys.Pairwise (·.name ≠ ·.name) := by
  refine List.Pairwise.imp_of_mem ?_ registry.table.distinct
  intro first second held also other same
  exact other (mirrors.unique first second (mem_keys.1 held) (mem_keys.1 also) same)

/-- A table refines the log that it mirrors. -/
theorem refines_of_mirrors (mirrors : registry.Mirrors log) : registry.Refines log where
  keyed type entry found := by
    obtain ⟨handler, ⟨_, _, _, own, _⟩, rfl⟩ := (mirrors.entries type entry).1 found
    exact ⟨rfl, own⟩
  sound := tryFind_ne_error mirrors
  dispatched bus intent context time state same error := by
    subst same
    have sound := tryFind_ne_error mirrors intent.type
    exact ⟨Bus.dispatch_ne_configuration sound error, Bus.dispatchCached_ne_configuration sound error⟩
  named := mirrors.named
  unique := mirrors.unique
  present type registered := by
    obtain ⟨handler, latest⟩ := RegistryCall.registered_iff.1 registered
    obtain ⟨found, lookup⟩ := tryFind_of_latest mirrors latest
    exact ⟨handler, latest, lookup, by rw [find?, lookup], by rw [binding?, found]; rfl,
      hasHandler_iff.2 ⟨_, found⟩⟩
  absent type missing := by
    have found := find?_of_absent mirrors missing
    have lookup : registry.tryFind type = .ok none := by rw [tryFind, found]
    refine ⟨lookup, by rw [find?, lookup], by rw [binding?, found]; rfl, ?_⟩
    rw [hasHandler, Table.contains, found]
    rfl
  ordered := by
    rw [names, types, intents_eq_keys mirrors]
    exact (IntentType.sorted_listing (names_distinct mirrors)).map _ fun _ _ below => below
  listed name := by
    rw [names, types, intents_eq_keys mirrors, List.mem_map]
    simp only [(IntentType.perm_listing (names_distinct mirrors)).mem_iff, mem_keys]
  counted := by
    rw [names, types, intents_eq_keys mirrors, List.length_map,
      (IntentType.perm_listing (names_distinct mirrors)).length_eq]
    exact List.length_map _

/-- Whatever is registered and removed, in whatever mode and order, the table refines the log of what
succeeded. -/
theorem refines_successes (mode : RegistrationMode) (calls : List (RegistryCall σ ι α)) :
    ((empty mode).after calls).Refines ((empty mode).successes calls) :=
  refines_of_mirrors (mirrors_after (mirrors_empty mode) calls)

end Registry

end IntentBus
