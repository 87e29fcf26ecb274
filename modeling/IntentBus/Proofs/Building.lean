import IntentBus.Bus.Build
import IntentBus.Proofs.Registrations
import Mathlib.Data.List.Nodup
import Mathlib.Data.List.Pairwise

/-! Building a bus: whether it succeeds is told by the list of handlers without regard to their order, each type is bound to
the last handler for it, and a failure is the first of the registrations one by one. -/

namespace IntentBus

variable {σ ι α : Type}

/-- Handlers that can be registered together, in whatever order: the names of their types are usable, no name stands for two
types, and no type is served twice where that is not allowed. -/
structure Registrable (mode : RegistrationMode) (handlers : List (Handler σ ι α)) : Prop where
  usable : ∀ handler ∈ handlers, ¬handler.type.Blank ∧ ¬handler.type.Spaced
  named : ∀ first ∈ handlers, ∀ second ∈ handlers, first.type.name = second.type.name → first.type = second.type
  single : mode = .strict → handlers.Pairwise (·.type ≠ ·.type)

def lastFor (handlers : List (Handler σ ι α)) (type : IntentType) : Option (Handler σ ι α) :=
  handlers.reverse.find? (·.type = type)

namespace Registry

variable {registry next : Registry σ ι α} {log : List (RegistryCall σ ι α)} {handler : Handler σ ι α}
  {handlers : List (Handler σ ι α)} {type : IntentType}

def answers (registry : Registry σ ι α) : List (Handler σ ι α) → List (Except ConfigurationError Registration)
  | [] => []
  | handler :: rest =>
    (registry.register handler).map Prod.fst :: ((RegistryCall.register handler).apply registry).answers rest

def failure? : Except ConfigurationError Registration → Option ConfigurationError
  | .error error => some error
  | .ok _ => none

private structure Takes (registry : Registry σ ι α) (handlers : List (Handler σ ι α)) : Prop where
  usable : ∀ handler ∈ handlers, ¬handler.type.Blank ∧ ¬handler.type.Spaced
  unclaimed : ∀ handler ∈ handlers, ∀ other, ¬registry.NameTaken handler.type other
  named : ∀ first ∈ handlers, ∀ second ∈ handlers, first.type.name = second.type.name → first.type = second.type
  unbound : registry.mode = .strict → ∀ handler ∈ handlers, registry.hasHandler handler.type = false
  single : registry.mode = .strict → handlers.Pairwise (·.type ≠ ·.type)

private theorem binding?_eq_none_iff : registry.binding? type = none ↔ registry.hasHandler type = false := by
  simp [binding?, hasHandler, Table.contains]

private theorem hasHandler_of_binds (binds : registry.Binds handler next) (type : IntentType) :
    next.hasHandler type = true ↔ type = handler.type ∨ registry.hasHandler type = true := by
  by_cases own : type = handler.type
  · refine iff_of_true ?_ (.inl own)
    cases held : next.table.find? handler.type with
    | none =>
      have found := binds.own
      rw [tryFind, held] at found
      cases found
    | some entry => exact hasHandler_iff.2 ⟨entry, own ▸ held⟩
  · rw [(binds.others type own).2.2.2, or_iff_right own]

private theorem takes_cons (mirrors : registry.Mirrors log) : registry.Takes (handler :: handlers) ↔
    ∃ registration next, registry.register handler = .ok (registration, next) ∧ next.Takes handlers := by
  have registers := registers_of_mirrors mirrors handler
  constructor
  · rintro ⟨usable, unclaimed, named, unbound, single⟩
    rw [List.forall_mem_cons] at usable unclaimed
    have free (strict : registry.mode = .strict) : registry.binding? handler.type = none :=
      binding?_eq_none_iff.2 (unbound strict handler (.head _))
    obtain ⟨next, registered⟩ := (registers.success _).2 ⟨usable.1.1, usable.1.2, unclaimed.1, free, rfl⟩
    have binds := (registers.changed _ next registered).2
    have bound := hasHandler_of_binds binds
    refine ⟨_, next, registered, usable.2, fun own mem other taken => ?_,
      fun first mine second other => named first (.tail _ mine) second (.tail _ other), fun strict own mem => ?_,
      fun strict => (List.pairwise_cons.1 (single (binds.mode ▸ strict))).2⟩
    · obtain ⟨has, same, different⟩ := taken
      rcases (bound other).1 has with rfl | has
      · exact different (named handler (.head _) own (.tail _ mem) same)
      · exact unclaimed.2 own mem other ⟨has, same, different⟩
    · have strict : registry.mode = .strict := binds.mode ▸ strict
      refine Bool.eq_false_iff.2 fun has => ?_
      rcases (bound own.type).1 has with same | has
      · exact (List.pairwise_cons.1 (single strict)).1 own mem same.symm
      · exact Bool.false_ne_true ((unbound strict own (.tail _ mem)).symm.trans has)
  · rintro ⟨registration, next, registered, takes⟩
    obtain ⟨visible, whole, unclaimed, free, _⟩ := (registers.success registration).1 ⟨next, registered⟩
    have binds := (registers.changed registration next registered).2
    have bound := hasHandler_of_binds binds
    have own : next.hasHandler handler.type = true := (bound handler.type).2 (.inl rfl)
    -- By now the handler itself is bound, so that its name is no longer free for another type.
    have apart (other : Handler σ ι α) (mem : other ∈ handlers) (same : handler.type.name = other.type.name) :
        handler.type = other.type := by
      by_contra different
      exact takes.unclaimed other mem handler.type ⟨own, same, different⟩
    refine ⟨List.forall_mem_cons.2 ⟨⟨visible, whole⟩, takes.usable⟩, List.forall_mem_cons.2 ⟨unclaimed, ?_⟩,
      List.forall_mem_cons.2 ⟨List.forall_mem_cons.2 ⟨fun _ => rfl, apart⟩, fun other mem => ?_⟩,
      fun strict => List.forall_mem_cons.2 ⟨?_, ?_⟩,
      fun strict => List.pairwise_cons.2 ⟨?_, takes.single (binds.mode.trans strict)⟩⟩
    · exact fun other mem type taken => takes.unclaimed other mem type ⟨(bound type).2 (.inr taken.1), taken.2⟩
    · exact List.forall_mem_cons.2 ⟨fun same => (apart other mem same.symm).symm, takes.named other mem⟩
    · exact binding?_eq_none_iff.1 (free strict)
    · intro other mem
      refine Bool.eq_false_iff.2 fun has => ?_
      have still := (bound other.type).2 (.inr has)
      exact Bool.false_ne_true ((takes.unbound (binds.mode.trans strict) other mem).symm.trans still)
    · intro other mem same
      have free := takes.unbound (binds.mode.trans strict) other mem
      exact Bool.false_ne_true (free.symm.trans (same ▸ own))

private theorem registerAll_iff (mirrors : registry.Mirrors log) :
    (∃ next, (registry.registerAll handlers).2 = .ok next) ↔ registry.Takes handlers := by
  induction handlers generalizing registry log with
  | nil =>
    refine iff_of_true ⟨registry, rfl⟩ ?_
    exact ⟨List.forall_mem_nil _, List.forall_mem_nil _, List.forall_mem_nil _, fun _ => List.forall_mem_nil _,
      fun _ => .nil⟩
  | cons handler rest ih =>
    rw [takes_cons mirrors, registerAll]
    cases registered : registry.register handler with
    | error error => simp
    | ok result =>
      obtain ⟨registration, next⟩ := result
      simp only [ih (mirrors_register mirrors registered)]
      constructor
      · exact fun takes => ⟨registration, next, rfl, takes⟩
      · rintro ⟨_, _, ⟨⟩, takes⟩
        exact takes

private theorem takes_empty (mode : RegistrationMode) : (empty mode).Takes handlers ↔ Registrable mode handlers := by
  have free (type : IntentType) : (empty mode : Registry σ ι α).hasHandler type = false := rfl
  constructor
  · exact fun takes => ⟨takes.usable, takes.named, takes.single⟩
  · rintro ⟨usable, named, single⟩
    exact ⟨usable, fun _ _ other taken => Bool.false_ne_true ((free other).symm.trans taken.1), named,
      fun _ _ _ => free _, single⟩

private theorem registerAll_eq_error {error : ConfigurationError} :
    (registry.registerAll handlers).2 = .error error ↔ (registry.answers handlers).findSome? failure? = some error := by
  induction handlers generalizing registry with
  | nil => simp [registerAll, answers]
  | cons handler rest ih =>
    rw [registerAll, answers, RegistryCall.apply]
    cases registry.register handler with
    | error first => simp only [Except.map, List.findSome?_cons, failure?, Except.error.injEq, Option.some_inj]
    | ok result => exact ih

/-- Handlers that are all registered are written to the log one after the other. -/
theorem mirrors_registerAll (mirrors : registry.Mirrors log) (succeeds : (registry.registerAll handlers).2 = .ok next) :
    next.Mirrors (log ++ handlers.map .register) := by
  induction handlers generalizing registry log with
  | nil =>
    cases succeeds
    rwa [List.map_nil, List.append_nil]
  | cons handler rest ih =>
    rw [registerAll] at succeeds
    cases registered : registry.register handler with
    | error error =>
      rw [registered] at succeeds
      nomatch succeeds
    | ok result =>
      rw [registered] at succeeds
      have later := ih (mirrors_register mirrors registered) succeeds
      rwa [List.append_assoc] at later

end Registry

private theorem lastFor_type {handlers : List (Handler σ ι α)} {type : IntentType} {handler : Handler σ ι α}
    (last : lastFor handlers type = some handler) : handler.type = type := by
  have serves := List.find?_some last
  exact of_decide_eq_true serves

private theorem lastFor_eq_some_iff {handlers : List (Handler σ ι α)} {type : IntentType} {handler : Handler σ ι α} :
    lastFor handlers type = some handler ↔ RegistryCall.Latest (handlers.map .register) type handler := by
  induction handlers using List.reverseRecOn with
  | nil => simp [lastFor, RegistryCall.Latest]
  | append_singleton handlers last ih =>
    rw [List.map_append, List.map_singleton, RegistryCall.latest_snoc, ← ih, lastFor, List.reverse_concat, List.find?_cons]
    by_cases own : last.type = type
    · rw [decide_eq_true own]
      refine Iff.trans ?_ (or_iff_left fun other => other.1 own).symm
      constructor
      · rintro ⟨⟩
        exact ⟨rfl, own⟩
      · rintro ⟨⟨⟩, _⟩
        rfl
    · rw [decide_eq_false own]
      refine Iff.trans ?_ (or_iff_right ?_).symm
      · exact (and_iff_right own).symm
      · rintro ⟨⟨⟩, same⟩
        exact own same

namespace Registrable

variable {mode : RegistrationMode} {handlers other : List (Handler σ ι α)}

private theorem of_perm (perm : other.Perm handlers) (registrable : Registrable mode handlers) : Registrable mode other where
  usable handler mem := registrable.usable handler (perm.mem_iff.1 mem)
  named first mine second other := registrable.named first (perm.mem_iff.1 mine) second (perm.mem_iff.1 other)
  single strict := (perm.pairwise_iff Ne.symm).2 (registrable.single strict)

private theorem lastFor_eq_some_of_single (single : handlers.Pairwise (·.type ≠ ·.type)) {type : IntentType}
    {handler : Handler σ ι α} : lastFor handlers type = some handler ↔ handler ∈ handlers ∧ handler.type = type := by
  rw [lastFor_eq_some_iff]
  constructor
  · rintro ⟨earlier, later, split, own, _⟩
    have mem : RegistryCall.register handler ∈ handlers.map .register := split ▸ by simp
    obtain ⟨_, mem, ⟨⟩⟩ := List.mem_map.1 mem
    exact ⟨mem, own⟩
  · rintro ⟨mem, own⟩
    obtain ⟨earlier, later, rfl⟩ := List.append_of_mem mem
    obtain ⟨apart, _⟩ := List.pairwise_cons.1 (List.pairwise_append.1 single).2.1
    refine ⟨earlier.map .register, later.map .register, by simp, own, fun call asked => ?_⟩
    obtain ⟨other, mem, rfl⟩ := List.mem_map.1 asked
    exact own ▸ (apart other mem).symm

private theorem lastFor_of_perm (registrable : Registrable .strict handlers) (perm : other.Perm handlers)
    (type : IntentType) : lastFor other type = lastFor handlers type := by
  ext handler
  rw [lastFor_eq_some_of_single (registrable.single rfl),
    lastFor_eq_some_of_single ((registrable.of_perm perm).single rfl), perm.mem_iff]

end Registrable

namespace Registry

variable {registry other : Registry σ ι α} {handlers : List (Handler σ ι α)}

private theorem find?_of_mirrors (mirrors : registry.Mirrors (handlers.map .register)) (type : IntentType) :
    registry.table.find? type = (lastFor handlers type).map fun handler => .of ⟨type, handler.name⟩ handler := by
  ext entry
  rw [mirrors.entries, Option.map_eq_some_iff]
  simp only [lastFor_eq_some_iff, eq_comm]

private theorem rearranges_of_find? (mode : other.mode = registry.mode)
    (same : ∀ type, other.table.find? type = registry.table.find? type) : other.Rearranges registry := by
  have distinct (table : Table IntentType (RegistryEntry σ ι α)) : table.entries.Nodup :=
    List.Nodup.of_map _ table.distinct
  refine ⟨mode, (List.perm_ext_iff_of_nodup (distinct _) (distinct _)).2 fun ⟨type, entry⟩ => ?_⟩
  rw [← Table.find?_eq_some_iff, ← Table.find?_eq_some_iff, same]

private theorem mode_registerAll {next : Registry σ ι α} (succeeds : (registry.registerAll handlers).2 = .ok next) :
    next.mode = registry.mode := by
  induction handlers generalizing registry with
  | nil =>
    cases succeeds
    rfl
  | cons handler rest ih =>
    rw [registerAll] at succeeds
    cases registered : registry.register handler with
    | error error =>
      rw [registered] at succeeds
      nomatch succeeds
    | ok result =>
      rw [registered] at succeeds
      obtain ⟨_, _, _, same⟩ := register_eq_ok registered
      exact (ih succeeds).trans (same ▸ rfl)

/-- A table of handlers for types with usable names of their own finds these handlers under their types, and no
other. -/
theorem finds_of_distinct (mode : RegistrationMode)
    (usable : ∀ handler ∈ handlers, ¬handler.type.Blank ∧ ¬handler.type.Spaced)
    (distinct : handlers.Pairwise (·.type.name ≠ ·.type.name)) :
    ∃ next, ((empty mode).registerAll handlers).2 = .ok next ∧
      (∀ handler ∈ handlers,
        next.tryFind handler.type = .ok (some ⟨⟨handler.type, handler.name⟩, handler, handler.timeout⟩)) ∧
      ∀ type bound, next.tryFind type = .ok (some bound) → bound.handler ∈ handlers := by
  have single : handlers.Pairwise (·.type ≠ ·.type) :=
    distinct.imp fun other same => other (congrArg IntentType.name same)
  have named : ∀ first ∈ handlers, ∀ second ∈ handlers, first.type.name = second.type.name →
      first.type = second.type := by
    have symmetric : Std.Symm fun first second : Handler σ ι α =>
        first.type.name = second.type.name → first.type = second.type := ⟨fun _ _ eq same => (eq same.symm).symm⟩
    have apart : handlers.Pairwise fun first second => first.type.name = second.type.name → first.type = second.type :=
      distinct.imp fun other same => absurd same other
    exact fun first mine second other => apart.forall_of_forall (fun _ _ _ => rfl) mine other
  obtain ⟨next, succeeds⟩ := (registerAll_iff (mirrors_empty mode)).2 ((takes_empty mode).2 ⟨usable, named, fun _ => single⟩)
  have mirrors := mirrors_registerAll (mirrors_empty mode) succeeds
  have found {type : IntentType} {handler : Handler σ ι α} : lastFor handlers type = some handler ↔
      handler ∈ handlers ∧ handler.type = type := Registrable.lastFor_eq_some_of_single single
  refine ⟨next, succeeds, fun handler mem => ?_, fun type bound held => ?_⟩
  · exact (tryFind_of_latest mirrors (lastFor_eq_some_iff.1 (found.2 ⟨mem, rfl⟩))).2
  · unfold tryFind at held
    rw [find?_of_mirrors mirrors] at held
    cases last : lastFor handlers type with
    | none =>
      rw [last] at held
      nomatch held
    | some handler =>
      obtain ⟨mem, own⟩ := found.1 last
      simp only [last, Option.map_some, RegistryEntry.of, own, if_true] at held
      cases held
      exact mem

end Registry

namespace Bus

variable {bus : Bus σ ι α} {handlers : List (Handler σ ι α)} {application : σ}

/-- A bus is built exactly if its handlers are all registered; their table is all that building adds to its state. -/
theorem build_eq_ok {state : BusState σ ι α} : (bus.build handlers application).2 = .ok state ↔
    ∃ registry, ((Registry.empty bus.config.registrationMode).registerAll handlers).2 = .ok registry ∧
      { (.initial bus.config application : BusState σ ι α) with registry := registry } = state := by
  have start : (.initial bus.config application : BusState σ ι α).registry = .empty bus.config.registrationMode := rfl
  unfold build
  simp only [start]
  rcases (Registry.empty bus.config.registrationMode).registerAll handlers with ⟨log, result⟩
  cases result with
  | error error => simp
  | ok registry => simp

private theorem build_eq_error {error : ConfigurationError} : (bus.build handlers application).2 = .error error ↔
    ((Registry.empty bus.config.registrationMode).registerAll handlers).2 = .error error := by
  have start : (.initial bus.config application : BusState σ ι α).registry = .empty bus.config.registrationMode := rfl
  unfold build
  simp only [start]
  rcases (Registry.empty bus.config.registrationMode).registerAll handlers with ⟨log, result⟩
  cases result with
  | error error => simp
  | ok registry => simp

def Buildable (bus : Bus σ ι α) (handlers : List (Handler σ ι α)) (application : σ) : Prop :=
  ∃ state, (bus.build handlers application).2 = .ok state

/-- What building a bus with handlers comes to. It succeeds if they are registrable, in this order and in any other; each
type is then bound to the last handler for it and no other type is bound, so that in strict mode the order has no say in
that either; and the error of a failure is the first of the registrations one by one. -/
structure Builds (bus : Bus σ ι α) (handlers : List (Handler σ ι α)) (application : σ) : Prop where
  succeeds : bus.Buildable handlers application ↔ Registrable bus.config.registrationMode handlers
  reordered : bus.Buildable handlers application ↔
    ∀ other : List (Handler σ ι α), other.Perm handlers → bus.Buildable other application
  bound : ∀ state, (bus.build handlers application).2 = .ok state → ∀ type,
    state.registry.tryFind type =
        .ok ((lastFor handlers type).map fun handler => ⟨⟨type, handler.name⟩, handler, handler.timeout⟩) ∧
      state.registry.binding? type = (lastFor handlers type).map (⟨type, ·.name⟩) ∧
        state.registry.hasHandler type = (lastFor handlers type).isSome
  same : bus.config.registrationMode = .strict → ∀ other : List (Handler σ ι α), other.Perm handlers →
    ∀ state state', (bus.build handlers application).2 = .ok state → (bus.build other application).2 = .ok state' →
      state'.registry.Rearranges state.registry ∧
        ∀ type, state'.registry.tryFind type = state.registry.tryFind type
  fails : ∀ error, (bus.build handlers application).2 = .error error ↔
    ((Registry.empty bus.config.registrationMode).answers handlers).findSome? Registry.failure? = some error

private theorem buildable_iff : bus.Buildable handlers application ↔ Registrable bus.config.registrationMode handlers := by
  rw [← Registry.takes_empty, ← Registry.registerAll_iff (Registry.mirrors_empty _), Buildable]
  simp only [build_eq_ok]
  constructor
  · rintro ⟨_, registry, succeeds, rfl⟩
    exact ⟨registry, succeeds⟩
  · rintro ⟨registry, succeeds⟩
    exact ⟨_, registry, succeeds, rfl⟩

private theorem find?_of_build {state : BusState σ ι α} (built : (bus.build handlers application).2 = .ok state)
    (type : IntentType) : state.registry.table.find? type =
      (lastFor handlers type).map fun handler => .of ⟨type, handler.name⟩ handler := by
  obtain ⟨registry, succeeds, rfl⟩ := build_eq_ok.1 built
  exact Registry.find?_of_mirrors (Registry.mirrors_registerAll (Registry.mirrors_empty _) succeeds) type

private theorem mode_of_build {state : BusState σ ι α} (built : (bus.build handlers application).2 = .ok state) :
    state.registry.mode = bus.config.registrationMode := by
  obtain ⟨registry, succeeds, rfl⟩ := build_eq_ok.1 built
  exact Registry.mode_registerAll succeeds

/-- Whether a bus can be built does not depend on the order of its handlers; what each type is bound to is the last of
those that serve it, and a failure is that of the first registration that fails. -/
theorem builds_in_any_order (bus : Bus σ ι α) (handlers : List (Handler σ ι α)) (application : σ) :
    bus.Builds handlers application where
  succeeds := buildable_iff
  reordered := by
    constructor
    · intro buildable other perm
      exact buildable_iff.2 ((buildable_iff.1 buildable).of_perm perm)
    · exact fun buildable => buildable handlers (.refl _)
  bound state built type := by
    have found := find?_of_build built type
    rw [Registry.tryFind, Registry.binding?, Registry.hasHandler, Table.contains, found]
    cases last : lastFor handlers type with
    | none => exact ⟨rfl, rfl, rfl⟩
    | some handler => exact ⟨if_pos (lastFor_type last), rfl, rfl⟩
  same strict other perm state state' built built' := by
    have registrable := strict ▸ buildable_iff.1 ⟨state, built⟩
    have found (type : IntentType) : state'.registry.table.find? type = state.registry.table.find? type := by
      rw [find?_of_build built, find?_of_build built', registrable.lastFor_of_perm perm]
    refine ⟨Registry.rearranges_of_find? ((mode_of_build built').trans (mode_of_build built).symm) found, fun type => ?_⟩
    rw [Registry.tryFind, Registry.tryFind, found]
  fails error := build_eq_error.trans Registry.registerAll_eq_error

end Bus

end IntentBus
