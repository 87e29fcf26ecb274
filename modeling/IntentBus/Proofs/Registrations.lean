import IntentBus.Proofs.Bindings

/-! Registrations one by one: which error each of them ends with is told by what is bound and by the mode, it
leaves everything but its own type alone, and no walk through the table makes a difference. -/

namespace IntentBus

variable {σ ι α : Type}

namespace IntentType

def Blank (type : IntentType) : Prop := ∀ c ∈ type.name.toList, Text.isBlank c = true

def Spaced (type : IntentType) : Prop := ∃ c ∈ type.name.toList, Text.isBlank c = true

/-- A name is blank exactly if it is found to be. -/
theorem blank_iff {type : IntentType} : type.Blank ↔ Text.allBlank type.name = true := by
  simp only [Blank, Text.allBlank, List.all_eq_true]

/-- A name holds a blank exactly if one is found in it. -/
theorem spaced_iff {type : IntentType} : type.Spaced ↔ Text.anyBlank type.name = true := by
  simp only [Spaced, Text.anyBlank, List.any_eq_true]

end IntentType

namespace RegistryEntry

private theorem clashes_iff {entry : RegistryEntry σ ι α} {type : IntentType} : entry.clashes type = true ↔
    entry.binding.intent.name = type.name ∧ entry.binding.intent ≠ type := by
  simp [clashes]

end RegistryEntry

namespace Registry

variable {registry other : Registry σ ι α} {log : List (RegistryCall σ ι α)} {handler : Handler σ ι α}
  {type : IntentType} {entry : RegistryEntry σ ι α}

def NameTaken (registry : Registry σ ι α) (type bound : IntentType) : Prop :=
  registry.hasHandler bound = true ∧ bound.name = type.name ∧ bound ≠ type

/-- How a registration ends: with the first of the errors for which there is a reason, or else as a success. -/
inductive Registering (registry : Registry σ ι α) (handler : Handler σ ι α) :
    Except ConfigurationError (Registration × Registry σ ι α) → Prop
  | blank (blank : handler.type.Blank) : Registering registry handler (.error (.blankIntentName handler.name))
  | spaced (visible : ¬handler.type.Blank) (spaced : handler.type.Spaced) :
    Registering registry handler (.error (.invalidIntentName handler.type.name handler.name))
  | taken (visible : ¬handler.type.Blank) (whole : ¬handler.type.Spaced) {bound : IntentType}
    (taken : ∀ other, registry.NameTaken handler.type other ↔ other = bound) :
    Registering registry handler
      (.error (.ambiguousIntentName handler.type.name bound.typeName handler.type.typeName))
  | duplicate (visible : ¬handler.type.Blank) (whole : ¬handler.type.Spaced)
    (free : ∀ other, ¬registry.NameTaken handler.type other) (strict : registry.mode = .strict)
    {existing : HandlerBinding} (bound : registry.binding? handler.type = some existing) :
    Registering registry handler (.error (.duplicateBinding handler.type.name existing.handler))
  | success (visible : ¬handler.type.Blank) (whole : ¬handler.type.Spaced)
    (free : ∀ other, ¬registry.NameTaken handler.type other)
    (open' : registry.mode = .strict → registry.binding? handler.type = none) :
    Registering registry handler (.ok
      (⟨⟨handler.type, handler.name⟩, (registry.binding? handler.type).map (·.handler)⟩,
        { registry with
          table := registry.table.insert handler.type (.of ⟨handler.type, handler.name⟩ handler) }))

private theorem clashes_of_clash? (found : registry.clash? type = some entry) : entry.clashes type = true := by
  have clashes := List.find?_some found
  exact clashes

/-- The entry that a walk through the table finds to clash with a type is the only one that does. -/
theorem clash?_eq_some_iff (mirrors : registry.Mirrors log) :
    registry.clash? type = some entry ↔ entry ∈ registry.table.values ∧ entry.clashes type = true := by
  have only {first second : RegistryEntry σ ι α} (held : first ∈ registry.table.values)
      (also : second ∈ registry.table.values) (clashes : first.clashes type = true)
      (clashes' : second.clashes type = true) : first = second := by
    obtain ⟨⟨key, _⟩, mem, rfl⟩ := List.mem_map.1 held
    obtain ⟨⟨key', _⟩, mem', rfl⟩ := List.mem_map.1 also
    have found := Table.find?_eq_some_iff.2 mem
    have found' := Table.find?_eq_some_iff.2 mem'
    obtain ⟨first, _, rfl⟩ := (mirrors.entries key _).1 found
    obtain ⟨second, _, rfl⟩ := (mirrors.entries key' _).1 found'
    have names : key.name = key'.name :=
      (RegistryEntry.clashes_iff.1 clashes).1.trans (RegistryEntry.clashes_iff.1 clashes').1.symm
    cases mirrors.unique key key' (hasHandler_iff.2 ⟨_, found⟩) (hasHandler_iff.2 ⟨_, found'⟩) names
    exact Option.some.inj (found.symm.trans found')
  constructor
  · intro found
    exact ⟨List.mem_of_find?_eq_some found, clashes_of_clash? found⟩
  · rintro ⟨mem, clashes⟩
    cases found : registry.clash? type with
    | none => exact absurd clashes (List.find?_eq_none.1 found entry mem)
    | some first =>
      have firstMem := List.mem_of_find?_eq_some found
      have firstClashes := clashes_of_clash? found
      rw [only firstMem mem firstClashes clashes]

private theorem nameTaken_iff (mirrors : registry.Mirrors log) {bound : IntentType} :
    registry.NameTaken type bound ↔ ∃ entry, registry.clash? type = some entry ∧ entry.binding.intent = bound := by
  simp only [clash?_eq_some_iff mirrors, RegistryEntry.clashes_iff]
  constructor
  · rintro ⟨has, same, different⟩
    obtain ⟨entry, found⟩ := hasHandler_iff.1 has
    obtain ⟨handler, _, rfl⟩ := (mirrors.entries bound entry).1 found
    exact ⟨_, ⟨List.mem_map.2 ⟨_, Table.find?_eq_some_iff.1 found, rfl⟩, same, different⟩, rfl⟩
  · rintro ⟨entry, ⟨mem, same, different⟩, rfl⟩
    obtain ⟨⟨key, entry⟩, held, rfl⟩ := List.mem_map.1 mem
    have found := Table.find?_eq_some_iff.2 held
    obtain ⟨handler, _, rfl⟩ := (mirrors.entries key entry).1 found
    exact ⟨hasHandler_iff.2 ⟨_, found⟩, same, different⟩

private theorem resolve_of_usable (visible : ¬handler.type.Blank) (whole : ¬handler.type.Spaced) :
    handler.resolve = .ok ⟨handler.type, handler.name⟩ := by
  unfold Handler.resolve
  rw [IntentType.blank_iff, Bool.not_eq_true] at visible
  rw [IntentType.spaced_iff, Bool.not_eq_true] at whole
  simp only [visible, whole, Bool.false_eq_true, if_false]

/-- How a registration ends is told by the bindings. -/
theorem registering_register (mirrors : registry.Mirrors log) (handler : Handler σ ι α) :
    registry.Registering handler (registry.register handler) := by
  unfold register
  by_cases blank : handler.type.Blank
  · have resolved : handler.resolve = .error (.blankIntentName handler.name) :=
      if_pos (IntentType.blank_iff.1 blank)
    rw [resolved]
    exact .blank blank
  by_cases spaced : handler.type.Spaced
  · have resolved : handler.resolve = .error (.invalidIntentName handler.type.name handler.name) :=
      (if_neg (mt IntentType.blank_iff.2 blank)).trans (if_pos (IntentType.spaced_iff.1 spaced))
    rw [resolved]
    exact .spaced blank spaced
  rw [resolve_of_usable blank spaced]
  simp only
  cases clash : registry.clash? handler.type with
  | some entry =>
    refine .taken blank spaced fun other => ?_
    rw [nameTaken_iff mirrors, clash]
    simp [eq_comm]
  | none =>
    have free (other : IntentType) : ¬registry.NameTaken handler.type other := by
      rw [nameTaken_iff mirrors, clash]
      simp
    cases found : registry.table.find? handler.type with
    | none =>
      have unbound : registry.binding? handler.type = none := by rw [binding?, found]; rfl
      have ends := Registering.success blank spaced free fun _ => unbound
      rw [unbound] at ends
      exact ends
    | some entry =>
      have bound : registry.binding? handler.type = some entry.binding := by rw [binding?, found]; rfl
      cases mode : registry.mode with
      | strict => exact .duplicate blank spaced free mode bound
      | permissive =>
        have lenient : registry.mode ≠ .strict := by simp [mode]
        have ends := Registering.success blank spaced free fun strict => absurd strict lenient
        rw [bound, mode] at ends
        exact ends

/-- The same entries under the same mode, in whatever order a walk through the table meets them. -/
structure Rearranges (other registry : Registry σ ι α) : Prop where
  mode : other.mode = registry.mode
  entries : other.table.entries.Perm registry.table.entries

/-- The table after a handler was registered: it is bound to its type, and nothing is different for any other. -/
structure Binds (registry : Registry σ ι α) (handler : Handler σ ι α) (next : Registry σ ι α) : Prop where
  mode : next.mode = registry.mode
  own : next.tryFind handler.type = .ok (some ⟨⟨handler.type, handler.name⟩, handler, handler.timeout⟩)
  others : ∀ type, type ≠ handler.type → next.tryFind type = registry.tryFind type ∧
    next.find? type = registry.find? type ∧ next.binding? type = registry.binding? type ∧
      next.hasHandler type = registry.hasHandler type
  listed : ∀ type, type ∈ next.types ↔ type = handler.type ∨ type ∈ registry.types
  size : next.size = if registry.hasHandler handler.type then registry.size else registry.size + 1

/-- What a registration answers and does. Each error has its reason, which counts when no reason for an earlier
one is there; an error changes nothing, and a success binds the handler; and the order of the entries has no say
in any of it. -/
structure Registers (registry : Registry σ ι α) (handler : Handler σ ι α) : Prop where
  blank : ∀ owner, registry.register handler = .error (.blankIntentName owner) ↔
    handler.type.Blank ∧ owner = handler.name
  spaced : ∀ name owner, registry.register handler = .error (.invalidIntentName name owner) ↔
    ¬handler.type.Blank ∧ handler.type.Spaced ∧ name = handler.type.name ∧ owner = handler.name
  taken : ∀ name existing requested,
    registry.register handler = .error (.ambiguousIntentName name existing requested) ↔
      ¬handler.type.Blank ∧ ¬handler.type.Spaced ∧
        (∃ bound, (∀ other, registry.NameTaken handler.type other ↔ other = bound) ∧ existing = bound.typeName) ∧
          name = handler.type.name ∧ requested = handler.type.typeName
  duplicate : ∀ name existing, registry.register handler = .error (.duplicateBinding name existing) ↔
    ¬handler.type.Blank ∧ ¬handler.type.Spaced ∧ (∀ other, ¬registry.NameTaken handler.type other) ∧
      registry.mode = .strict ∧ name = handler.type.name ∧
        (registry.binding? handler.type).map (·.handler) = some existing
  matching : ∀ name, registry.register handler ≠ .error (.bindingMismatch name)
  success : ∀ registration, (∃ next, registry.register handler = .ok (registration, next)) ↔
    ¬handler.type.Blank ∧ ¬handler.type.Spaced ∧ (∀ other, ¬registry.NameTaken handler.type other) ∧
      (registry.mode = .strict → registry.binding? handler.type = none) ∧
        registration = ⟨⟨handler.type, handler.name⟩, (registry.binding? handler.type).map (·.handler)⟩
  unchanged : ∀ error, registry.register handler = .error error →
    (RegistryCall.register handler).apply registry = registry
  changed : ∀ registration next, registry.register handler = .ok (registration, next) →
    (RegistryCall.register handler).apply registry = next ∧ registry.Binds handler next
  unordered : ∀ other : Registry σ ι α, other.Rearranges registry →
    (∀ error, other.register handler = .error error ↔ registry.register handler = .error error) ∧
      ∀ registration next, other.register handler = .ok (registration, next) →
        ∃ same, registry.register handler = .ok (registration, same) ∧ next.Rearranges same

private theorem Registering.unique {first second : Except ConfigurationError (Registration × Registry σ ι α)}
    (mine : registry.Registering handler first) (other : registry.Registering handler second) : first = second := by
  cases mine with
  | blank blank => cases other <;> first | rfl | contradiction
  | spaced visible spaced => cases other <;> first | rfl | contradiction
  | taken visible whole taken =>
    cases other with
    | blank blank => contradiction
    | spaced _ spaced => contradiction
    | taken _ _ taken' =>
      cases (taken' _).1 ((taken _).2 rfl)
      rfl
    | duplicate _ _ free _ _ => exact absurd ((taken _).2 rfl) (free _)
    | success _ _ free _ => exact absurd ((taken _).2 rfl) (free _)
  | duplicate visible whole free strict bound =>
    cases other with
    | blank blank => contradiction
    | spaced _ spaced => contradiction
    | taken _ _ taken => exact absurd ((taken _).2 rfl) (free _)
    | duplicate _ _ _ _ bound' =>
      cases Option.some.inj (bound.symm.trans bound')
      rfl
    | success _ _ _ open' => nomatch (open' strict).symm.trans bound
  | success visible whole free open' =>
    cases other with
    | blank blank => contradiction
    | spaced _ spaced => contradiction
    | taken _ _ taken => exact absurd ((taken _).2 rfl) (free _)
    | duplicate _ _ _ strict bound => nomatch (open' strict).symm.trans bound
    | success _ _ _ _ => rfl

private theorem mem_types (mirrors : registry.Mirrors log) :
    type ∈ registry.types ↔ registry.hasHandler type = true := by
  rw [types, intents_eq_keys mirrors, (IntentType.perm_listing (names_distinct mirrors)).mem_iff, mem_keys]

private theorem keys_erase (table : Table IntentType (RegistryEntry σ ι α)) :
    (table.erase type).keys = table.keys.erase type := by
  have distinct : table.keys.Nodup := table.distinct
  rw [distinct.erase_eq_filter, Table.keys, Table.keys, Table.erase, List.filter_map]
  refine congrArg (List.map Prod.fst) (List.filter_congr fun held _ => ?_)
  simp [bne, Bool.beq_eq_decide_eq]

private theorem size_insert : (registry.table.insert type entry).size =
    if registry.hasHandler type then registry.size else registry.size + 1 := by
  have others : (registry.table.erase type).entries.length = (registry.table.keys.erase type).length := by
    rw [← keys_erase, Table.keys, List.length_map]
  have whole : registry.size = registry.table.keys.length := (List.length_map _).symm
  rw [Table.size, Table.insert, List.length_cons, others, List.length_erase, whole]
  by_cases bound : type ∈ registry.table.keys
  · rw [if_pos bound, if_pos (mem_keys.1 bound), Nat.sub_add_cancel (List.length_pos_of_mem bound)]
  · rw [if_neg bound, if_neg fun has => bound (mem_keys.2 has)]

private theorem binds_insert (mirrors : registry.Mirrors log) {registration : Registration}
    {next : Registry σ ι α} (succeeds : registry.register handler = .ok (registration, next)) :
    registry.Binds handler next := by
  have mirrors' : next.Mirrors (log ++ [.register handler]) := mirrors_register mirrors succeeds
  obtain ⟨_, _, _, rfl⟩ := register_eq_ok succeeds
  refine ⟨rfl, ?_, fun type other => ?_, fun type => ?_, size_insert⟩
  · simp [tryFind, Table.find?_insert, RegistryEntry.of]
  · simp [find?, tryFind, binding?, hasHandler, Table.contains, Table.find?_insert, other]
  · rw [mem_types mirrors', mem_types mirrors, hasHandler, hasHandler, Table.contains, Table.contains,
      Table.find?_insert]
    by_cases own : type = handler.type
    · simp [own]
    · simp [own]

section

variable (arranged : other.Rearranges registry)

include arranged

private theorem find?_of_rearranges (type : IntentType) : other.table.find? type = registry.table.find? type := by
  ext entry
  rw [Table.find?_eq_some_iff, Table.find?_eq_some_iff, arranged.entries.mem_iff]

private theorem mirrors_of_rearranges (mirrors : registry.Mirrors log) : other.Mirrors log := by
  have same (type : IntentType) : other.hasHandler type = registry.hasHandler type := by
    rw [hasHandler, hasHandler, Table.contains, Table.contains, find?_of_rearranges arranged]
  refine ⟨fun type entry => ?_, fun type => ?_, fun first second => ?_⟩
  · rw [find?_of_rearranges arranged]
    exact mirrors.entries type entry
  · rw [same]
    exact mirrors.named type
  · rw [same, same]
    exact mirrors.unique first second

private theorem clash?_of_rearranges (mirrors : registry.Mirrors log) (type : IntentType) :
    other.clash? type = registry.clash? type := by
  ext entry
  rw [clash?_eq_some_iff (mirrors_of_rearranges arranged mirrors), clash?_eq_some_iff mirrors, Table.values,
    Table.values, (arranged.entries.map Prod.snd).mem_iff]

private theorem rearranges_insert (type : IntentType) (entry : RegistryEntry σ ι α) :
    Rearranges { other with table := other.table.insert type entry }
      { registry with table := registry.table.insert type entry } :=
  ⟨arranged.mode, (arranged.entries.filter _).cons _⟩

private theorem register_of_rearranges (mirrors : registry.Mirrors log) (handler : Handler σ ι α) :
    (∀ error, other.register handler = .error error ↔ registry.register handler = .error error) ∧
      ∀ registration next, other.register handler = .ok (registration, next) →
        ∃ same, registry.register handler = .ok (registration, same) ∧ next.Rearranges same := by
  unfold register
  cases handler.resolve with
  | error error => exact ⟨fun _ => .rfl, by simp⟩
  | ok binding =>
    simp only [clash?_of_rearranges arranged mirrors, find?_of_rearranges arranged, arranged.mode]
    cases registry.clash? binding.intent with
    | some entry => exact ⟨fun _ => .rfl, by simp⟩
    | none =>
      have inserted := rearranges_insert arranged binding.intent (.of binding handler)
      cases registry.table.find? binding.intent with
      | none =>
        refine ⟨fun error => by simp, ?_⟩
        rintro registration next ⟨⟩
        exact ⟨_, rfl, rfl, inserted.entries⟩
      | some entry =>
        cases registry.mode with
        | strict => exact ⟨fun _ => .rfl, by simp⟩
        | permissive =>
          refine ⟨fun error => by simp, ?_⟩
          rintro registration next ⟨⟩
          exact ⟨_, rfl, rfl, inserted.entries⟩

end

/-- A table that mirrors a log answers every registration as it should. -/
theorem registers_of_mirrors (mirrors : registry.Mirrors log) (handler : Handler σ ι α) :
    registry.Registers handler := by
  have registering := registering_register mirrors handler
  constructor
  case blank =>
    refine fun owner => ⟨fun ends => ?_, fun ⟨blank, own⟩ => own ▸ registering.unique (.blank blank)⟩
    rw [ends] at registering
    cases registering with
    | blank blank => exact ⟨blank, rfl⟩
  case spaced =>
    refine fun name owner => ⟨fun ends => ?_, fun ⟨visible, spaced, same, own⟩ =>
      same ▸ own ▸ registering.unique (.spaced visible spaced)⟩
    rw [ends] at registering
    cases registering with
    | spaced visible spaced => exact ⟨visible, spaced, rfl, rfl⟩
  case taken =>
    refine fun name existing requested => ⟨fun ends => ?_, ?_⟩
    · rw [ends] at registering
      cases registering with
      | taken visible whole taken => exact ⟨visible, whole, ⟨_, taken, rfl⟩, rfl, rfl⟩
    · rintro ⟨visible, whole, ⟨bound, taken, rfl⟩, rfl, rfl⟩
      exact registering.unique (.taken visible whole taken)
  case duplicate =>
    refine fun name existing => ⟨fun ends => ?_, ?_⟩
    · rw [ends] at registering
      cases registering with
      | duplicate visible whole free strict bound =>
        exact ⟨visible, whole, free, strict, rfl, congrArg (Option.map _) bound⟩
    · rintro ⟨visible, whole, free, strict, rfl, held⟩
      obtain ⟨binding, bound, rfl⟩ := Option.map_eq_some_iff.1 held
      exact registering.unique (.duplicate visible whole free strict bound)
  case matching =>
    intro name ends
    rw [ends] at registering
    nomatch registering
  case success =>
    refine fun registration => ⟨fun ⟨next, ends⟩ => ?_, ?_⟩
    · rw [ends] at registering
      cases registering with
      | success visible whole free open' => exact ⟨visible, whole, free, open', rfl⟩
    · rintro ⟨visible, whole, free, open', rfl⟩
      exact ⟨_, registering.unique (.success visible whole free open')⟩
  case unchanged =>
    intro error ends
    rw [RegistryCall.apply, ends]
  case changed =>
    intro registration next ends
    exact ⟨by rw [RegistryCall.apply, ends], binds_insert mirrors ends⟩
  case unordered => exact fun other arranged => register_of_rearranges arranged mirrors handler

/-- After any registrations and removals, in whatever mode and order, one more registration answers with the
first of the errors for which the bindings give a reason and then changes nothing, or else binds the handler to
its type and changes nothing else. -/
theorem registers_after (mode : RegistrationMode) (calls : List (RegistryCall σ ι α)) (handler : Handler σ ι α) :
    ((empty mode).after calls).Registers handler :=
  registers_of_mirrors (mirrors_after (mirrors_empty mode) calls) handler

end Registry

end IntentBus
