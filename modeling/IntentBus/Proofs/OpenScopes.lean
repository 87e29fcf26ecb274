import IntentBus.Proofs.Scopes
import IntentBus.Table
import Mathlib.Data.List.Induction
import Mathlib.Data.List.InsertIdx

/-! Scopes that are entered and dropped in any order: the tracker counts those that are open and knows their ids, whether
or not they share them. Slots of 64 bits tell them apart as well as long as they are not used up. -/

namespace IntentBus

/-- What is asked of a tracker; the scopes that are open are told apart by their places. -/
inductive ScopeCall
  | enter (id : String)
  | drop (place : Nat)

namespace ScopeCall

def enters : ScopeCall → Bool
  | enter _ => true
  | drop _ => false

def entered (calls : List ScopeCall) : Nat := calls.countP enters

end ScopeCall

/-- What a tracker in `τ` can do for the holders of scopes, to whom it gives slots in `κ`. -/
structure Scoping (τ κ : Type) where
  start : τ
  enter : τ → String → κ × τ
  release : κ → τ → τ
  count : τ → Nat
  isActive : τ → String → Bool

/-- A tracker, and the scopes that were entered and not yet dropped with their ids, the latest first. -/
structure Holding (τ κ : Type) where
  tracker : τ
  held : List (κ × String)

namespace Scoping

variable {τ κ : Type}

/-- A call; one that drops no open scope changes nothing. -/
def step (scoping : Scoping τ κ) (holding : Holding τ κ) : ScopeCall → Holding τ κ
  | .enter id =>
    let (slot, tracker) := scoping.enter holding.tracker id
    ⟨tracker, (slot, id) :: holding.held⟩
  | .drop place =>
    match holding.held[place]? with
    | none => holding
    | some scope => ⟨scoping.release scope.1 holding.tracker, holding.held.eraseIdx place⟩

def after (scoping : Scoping τ κ) (calls : List ScopeCall) : Holding τ κ :=
  calls.foldl scoping.step ⟨scoping.start, []⟩

/-- A tracker counts the open scopes and knows their ids, no two of them have one slot, and to drop one leaves the ids of
all others active. -/
structure Exact (scoping : Scoping τ κ) (holding : Holding τ κ) : Prop where
  counted : scoping.count holding.tracker = holding.held.length
  active : ∀ id, scoping.isActive holding.tracker id = true ↔ ∃ scope ∈ holding.held, scope.2 = id
  distinct : (holding.held.map Prod.fst).Nodup
  others : ∀ place, ∀ other ∈ holding.held.eraseIdx place,
    scoping.isActive (scoping.step holding (.drop place)).tracker other.2 = true

/-- The last of some calls is made after all others. -/
theorem after_concat (scoping : Scoping τ κ) (calls : List ScopeCall) (call : ScopeCall) :
    scoping.after (calls ++ [call]) = scoping.step (scoping.after calls) call := by
  rw [after, List.foldl_append, List.foldl_cons, List.foldl_nil, after]

private theorem held_drop (scoping : Scoping τ κ) (holding : Holding τ κ) (place : Nat) :
    (scoping.step holding (.drop place)).held = holding.held.eraseIdx place := by
  simp only [step]
  cases found : holding.held[place]? with
  | none => exact (List.eraseIdx_of_length_le (List.getElem?_eq_none_iff.1 found)).symm
  | some scope => rfl

end Scoping

/-- A tracker with slots of 64 bits, after the last of which comes the first again. A scope that is entered in a slot takes
the place of the one that is there. -/
structure NarrowTracker where
  nextSlot : UInt64
  scopes : Table UInt64 String

def CorrelationTracker.scoping : Scoping CorrelationTracker Nat :=
  ⟨empty, enter, release, count, isActive⟩

def NarrowTracker.scoping : Scoping NarrowTracker UInt64 where
  start := ⟨0, .empty⟩
  enter tracker id := (tracker.nextSlot, ⟨tracker.nextSlot + 1, tracker.scopes.insert tracker.nextSlot id⟩)
  release slot tracker := { tracker with scopes := tracker.scopes.erase slot }
  count tracker := tracker.scopes.size
  isActive tracker id := tracker.scopes.values.any (· = id)

namespace CorrelationTracker

variable {holding : Holding CorrelationTracker Nat}

private structure Keeps (holding : Holding CorrelationTracker Nat) : Prop where
  sound : holding.tracker.Sound
  scopes : holding.tracker.scopes = holding.held
  distinct : (holding.held.map Prod.fst).Nodup

private theorem filter_slot {held : List (Nat × String)} (distinct : (held.map Prod.fst).Nodup) {place : Nat}
    {scope : Nat × String} (found : held[place]? = some scope) :
    held.filter (·.1 ≠ scope.1) = held.eraseIdx place := by
  induction held generalizing place with
  | nil => nomatch found
  | cons first rest ih =>
    obtain ⟨apart, distinct⟩ := List.nodup_cons.1 distinct
    cases place with
    | zero =>
      cases found
      rw [List.filter_cons_of_neg (by simp), List.eraseIdx_cons_zero]
      refine List.filter_eq_self.2 fun other mem => decide_eq_true fun same => apart ?_
      exact same ▸ List.mem_map_of_mem mem
    | succ place =>
      have found : rest[place]? = some scope := found
      have other : first.1 ≠ scope.1 := fun same =>
        apart (same ▸ List.mem_map_of_mem (List.mem_of_getElem? found))
      rw [List.filter_cons_of_pos (by simpa using other), List.eraseIdx_cons_succ, ih distinct found]

private theorem keeps_step (keeps : Keeps holding) (call : ScopeCall) : Keeps (scoping.step holding call) := by
  obtain ⟨sound, scopes, distinct⟩ := keeps
  cases call with
  | enter id =>
    have fresh : holding.tracker.nextSlot ∉ holding.held.map Prod.fst := by
      intro mem
      obtain ⟨scope, here, same⟩ := List.mem_map.1 mem
      have below := sound scope (scopes ▸ here)
      omega
    exact ⟨sound.enter id, congrArg (List.cons _) scopes, List.nodup_cons.2 ⟨fresh, distinct⟩⟩
  | drop place =>
    simp only [Scoping.step]
    cases found : holding.held[place]? with
    | none => exact ⟨sound, scopes, distinct⟩
    | some scope =>
      refine ⟨sound.release scope.1, ?_, distinct.sublist ((List.eraseIdx_sublist ..).map Prod.fst)⟩
      calc (holding.tracker.release scope.1).scopes
        _ = holding.held.filter (·.1 ≠ scope.1) := congrArg (List.filter _) scopes
        _ = holding.held.eraseIdx place := filter_slot distinct found

private theorem keeps_after (calls : List ScopeCall) : Keeps (scoping.after calls) := by
  induction calls using List.reverseRecOn with
  | nil => exact ⟨sound_empty, rfl, .nil⟩
  | append_singleton calls call ih =>
    rw [Scoping.after_concat]
    exact keeps_step ih call

/-- As many slots are given out as scopes are entered. -/
theorem nextSlot_after (calls : List ScopeCall) :
    (scoping.after calls).tracker.nextSlot = ScopeCall.entered calls := by
  induction calls using List.reverseRecOn with
  | nil => rfl
  | append_singleton calls call ih =>
    rw [Scoping.after_concat, ScopeCall.entered, List.countP_append, ← ScopeCall.entered, ← ih]
    cases call with
    | enter id => rfl
    | drop place =>
      simp only [Scoping.step]
      split <;> rfl

/-- What opens and closes scopes makes calls of the tracker: to close a scope is to drop it from its place. -/
theorem stable_made (calls : List ScopeCall) :
    Stable fun tracker => ∃ more, (scoping.after (calls ++ more)).tracker = tracker := by
  constructor
  · rintro _ ⟨more, rfl⟩ id
    exact ⟨more ++ [.enter id], by rw [← List.append_assoc, Scoping.after_concat]; rfl⟩
  · rintro _ ⟨more, rfl⟩ slot
    have keeps := keeps_after (calls ++ more)
    by_cases open? : ∃ scope ∈ (scoping.after (calls ++ more)).held, scope.1 = slot
    · obtain ⟨scope, mem, rfl⟩ := open?
      obtain ⟨place, found⟩ := List.mem_iff_getElem?.1 mem
      refine ⟨more ++ [.drop place], ?_⟩
      rw [← List.append_assoc, Scoping.after_concat, Scoping.step, found]
      rfl
    · have others : (scoping.after (calls ++ more)).tracker.scopes.filter (·.1 ≠ slot) =
          (scoping.after (calls ++ more)).tracker.scopes := by
        rw [keeps.scopes]
        exact List.filter_eq_self.2 fun scope mem => decide_eq_true fun same => open? ⟨scope, mem, same⟩
      refine ⟨more, ?_⟩
      rw [release, others]

private theorem active_of_keeps (keeps : Keeps holding) (id : String) :
    holding.tracker.isActive id = true ↔ ∃ scope ∈ holding.held, scope.2 = id := by
  rw [isActive, keeps.scopes, List.any_eq_true]
  simp only [decide_eq_true_eq]

/-- Whatever is entered and dropped, in whatever order, the tracker is exact about it. -/
theorem exact_after (calls : List ScopeCall) : scoping.Exact (scoping.after calls) where
  counted := congrArg List.length (keeps_after calls).scopes
  active := active_of_keeps (keeps_after calls)
  distinct := (keeps_after calls).distinct
  others place other mem := by
    refine (active_of_keeps (keeps_step (keeps_after calls) (.drop place)) other.2).2 ⟨other, ?_, rfl⟩
    rwa [Scoping.held_drop]

end CorrelationTracker

namespace NarrowTracker

def narrow (scope : Nat × String) : UInt64 × String := (.ofNat scope.1, scope.2)

private structure Fits (holding : Holding NarrowTracker UInt64) (wide : Holding CorrelationTracker Nat) : Prop where
  nextSlot : holding.tracker.nextSlot = .ofNat wide.tracker.nextSlot
  scopes : holding.tracker.scopes.entries = wide.tracker.scopes.map narrow
  held : holding.held = wide.held.map narrow

variable {holding : Holding NarrowTracker UInt64} {wide : Holding CorrelationTracker Nat}

private theorem ofNat_ne {first second : Nat} (fits : first < UInt64.size) (others : second < UInt64.size)
    (other : first ≠ second) : UInt64.ofNat first ≠ UInt64.ofNat second := by
  intro same
  have values := congrArg UInt64.toNat same
  rw [UInt64.toNat_ofNat_of_lt' fits, UInt64.toNat_ofNat_of_lt' others] at values
  exact other values

private theorem filter_narrow {scopes : List (Nat × String)} (few : ∀ scope ∈ scopes, scope.1 < UInt64.size) {slot : Nat}
    (own : slot < UInt64.size) :
    (scopes.map narrow).filter (·.1 ≠ UInt64.ofNat slot) = (scopes.filter (·.1 ≠ slot)).map narrow := by
  rw [List.filter_map]
  refine congrArg (List.map narrow) (List.filter_congr fun scope mem => ?_)
  simp only [Function.comp_apply, narrow]
  by_cases same : scope.1 = slot
  · simp [same]
  · simp [same, ofNat_ne (few scope mem) own same]

private theorem fits_step (fits : Fits holding wide) (sound : wide.tracker.Sound) (held : wide.tracker.scopes = wide.held)
    {call : ScopeCall} (few : wide.tracker.nextSlot < UInt64.size) :
    Fits (scoping.step holding call) (CorrelationTracker.scoping.step wide call) := by
  obtain ⟨nextSlot, scopes, same⟩ := fits
  have short : ∀ scope ∈ wide.tracker.scopes, scope.1 < UInt64.size := fun scope mem => Nat.lt_trans (sound scope mem) few
  cases call with
  | enter id =>
    -- A slot that was not given out before is free: nothing is erased for the scope that is inserted.
    have others : wide.tracker.scopes.filter (·.1 ≠ wide.tracker.nextSlot) = wide.tracker.scopes :=
      List.filter_eq_self.2 fun scope mem => decide_eq_true (Nat.ne_of_lt (sound scope mem))
    refine ⟨?_, ?_, ?_⟩
    · simp only [Scoping.step, scoping, nextSlot]
      exact (UInt64.ofNat_add _ 1).symm
    · simp only [Scoping.step, scoping, Table.insert, Table.erase, nextSlot, scopes]
      rw [filter_narrow short few, others]
      rfl
    · simp only [Scoping.step, scoping, nextSlot, same]
      rfl
  | drop place =>
    simp only [Scoping.step, same, List.getElem?_map]
    cases found : wide.held[place]? with
    | none => exact ⟨nextSlot, scopes, same⟩
    | some scope =>
      have own := short scope (held ▸ List.mem_of_getElem? found)
      refine ⟨nextSlot, ?_, (List.eraseIdx_map ..)⟩
      simp only [scoping, Table.erase, scopes]
      exact filter_narrow short own

private theorem fits_after {calls : List ScopeCall} (few : ScopeCall.entered calls < UInt64.size) :
    Fits (scoping.after calls) (CorrelationTracker.scoping.after calls) := by
  induction calls using List.reverseRecOn with
  | nil => exact ⟨rfl, rfl, rfl⟩
  | append_singleton calls call ih =>
    rw [ScopeCall.entered, List.countP_append] at few
    have before : ScopeCall.entered calls < UInt64.size := Nat.lt_of_add_right_lt few
    have keeps := CorrelationTracker.keeps_after calls
    rw [Scoping.after_concat, Scoping.after_concat]
    refine fits_step (ih before) keeps.sound keeps.scopes ?_
    rwa [CorrelationTracker.nextSlot_after]

/-- A tracker with slots of 64 bits tells the same about the scopes that are open as another one. -/
structure Alike (narrow : NarrowTracker) (tracker : CorrelationTracker) : Prop where
  count : scoping.count narrow = tracker.count
  isActive : ∀ id, scoping.isActive narrow id = tracker.isActive id

/-- After the same calls the trackers tell the same, as long as there are slots enough. -/
theorem alike_after {calls : List ScopeCall} (few : ScopeCall.entered calls < UInt64.size) :
    (scoping.after calls).tracker.Alike (CorrelationTracker.scoping.after calls).tracker := by
  have fits := fits_after few
  constructor
  · change (scoping.after calls).tracker.scopes.entries.length = _
    rw [fits.scopes, List.length_map]
    rfl
  · intro id
    change ((scoping.after calls).tracker.scopes.entries.map Prod.snd).any _ = _
    rw [fits.scopes, List.map_map, List.any_map]
    rfl

private theorem active_iff (tracker : NarrowTracker) (id : String) :
    scoping.isActive tracker id = true ↔ ∃ scope ∈ tracker.scopes.entries, scope.2 = id := by
  simp only [scoping, Table.values, List.any_map, List.any_eq_true, Function.comp_apply, decide_eq_true_eq]

private theorem entries_after {calls : List ScopeCall} (few : ScopeCall.entered calls < UInt64.size) :
    (scoping.after calls).tracker.scopes.entries = (scoping.after calls).held := by
  have fits := fits_after few
  rw [fits.scopes, fits.held, (CorrelationTracker.keeps_after calls).scopes]

private theorem exact_after {calls : List ScopeCall} (few : ScopeCall.entered calls < UInt64.size) :
    scoping.Exact (scoping.after calls) where
  counted := congrArg List.length (entries_after few)
  active id := by rw [active_iff, entries_after few]
  distinct := entries_after few ▸ (scoping.after calls).tracker.scopes.distinct
  others place other mem := by
    have same : ScopeCall.entered (calls ++ [.drop place]) = ScopeCall.entered calls := by
      simp [ScopeCall.entered, ScopeCall.enters]
    have entries := entries_after (same ▸ few : ScopeCall.entered (calls ++ [.drop place]) < UInt64.size)
    rw [Scoping.after_concat] at entries
    rw [active_iff, entries, Scoping.held_drop]
    exact ⟨other, mem, rfl⟩

end NarrowTracker

/-- Scopes are entered and dropped in any order, fewer of them than there are slots in 64 bits: the tracker counts those that
are open and knows their ids, and so does one whose slots have 64 bits, which gives out the same slots. -/
theorem CorrelationTracker.exact_about_scopes (calls : List ScopeCall) (few : ScopeCall.entered calls < UInt64.size) :
    scoping.Exact (scoping.after calls) ∧ NarrowTracker.scoping.Exact (NarrowTracker.scoping.after calls) ∧
      (NarrowTracker.scoping.after calls).held = (scoping.after calls).held.map NarrowTracker.narrow :=
  ⟨exact_after calls, NarrowTracker.exact_after few, (NarrowTracker.fits_after few).held⟩

/-- Two scopes share an id; the first of them is dropped, and then one that is not there. -/
theorem CorrelationTracker.exact_about_shared_id :
    let calls := [.enter "shared", .enter "c-2", .enter "shared", .drop 2, .drop 7]
    let holding := scoping.after calls
    ScopeCall.entered calls < UInt64.size ∧ holding.held = [(2, "shared"), (1, "c-2")] ∧ holding.tracker.count = 2 ∧
      holding.tracker.isActive "shared" = true ∧ scoping.Exact holding ∧
      NarrowTracker.scoping.Exact (NarrowTracker.scoping.after calls) ∧
      (NarrowTracker.scoping.after calls).held = [(2, "shared"), (1, "c-2")] := by
  intro calls holding
  have few : ScopeCall.entered calls < UInt64.size := by decide
  obtain ⟨wide, narrow, held⟩ := exact_about_scopes calls few
  exact ⟨few, rfl, rfl, by decide, wide, narrow, held.trans rfl⟩

end IntentBus
