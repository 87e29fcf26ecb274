import IntentBus.AccessRule
import IntentBus.Proofs.Caching

/-! Access to what is cached. The cache is asked before all judges, so a caller who would be turned away is answered
from it; but no answer is in it that some caller was not given after passing all of them. -/

namespace IntentBus

variable {σ ι α : Type}

instance decidableEqExcept {ε : Type} [DecidableEq ε] [DecidableEq α] : DecidableEq (Except ε α)
  | .error first, .error second => decidable_of_iff (first = second) (by simp)
  | .ok first, .ok second => decidable_of_iff (first = second) (by simp)
  | .error _, .ok _ => isFalse nofun
  | .ok _, .error _ => isFalse nofun

/-- A call was a query with a name and a key that was dispatched through the cache, and all stages before an output
were called about it before it had its output. -/
structure Ended.Earned (bus : Bus σ ι α) (name key : String) (kept : CachedResult α) (ended : Ended σ ι α) : Prop where
  cached : ended.call.cached = true
  query : ended.call.intent.type.kind = .query
  named : ended.call.intent.name = name
  keyed : ended.call.intent.cacheKey = some key
  typed : ended.call.intent.type.resultType = kept.type
  output : ended.result = some (.ok kept.value)
  called : ∀ stage ∈ bus.passage, ∃ event ∈ ended.events, event.stage? = some stage

private theorem earned_of_kept? {bus : Bus σ ι α} {name key : String} {kept : CachedResult α} {ended : Ended σ ι α}
    (keeps : ended.kept? bus name key = some kept) : ended.Earned bus name key kept := by
  unfold Ended.kept? at keeps
  split at keeps
  · next output ends =>
    obtain ⟨⟨cached, _, query, keyed, named, complete⟩, same⟩ := Option.ite_none_right_eq_some.1 keeps
    cases same
    refine ⟨cached, query, named, keyed, rfl, ends, fun stage member => ?_⟩
    obtain ⟨event, mem, calls⟩ := List.any_eq_true.1 (List.all_eq_true.1 complete stage member)
    exact ⟨event, mem, of_decide_eq_true calls⟩
  · nomatch keeps

namespace Session

/-- How a call through the cache of a bus in use ends if the same call past the cache ends with an error: with the
same error, unless there is an entry of its own type. Then that is its answer, which no stage is asked about; and the
entry is what was earned last by a call of this name and key. -/
structure Stands (bus : Bus σ ι α) (session : Session σ ι α) (intent : Intent σ ι α) (error : DispatchError)
    (run : Run (BusState σ ι α) (BusEvent α) (Except DispatchError α)) : Prop where
  refused : (∀ key kept, bus.cacheKey? intent = some key → session.state.cache.get? intent.name key = some kept →
    kept.type ≠ intent.type.resultType) → run.result = some (.error error)
  served : ∀ key kept, bus.cacheKey? intent = some key → session.state.cache.get? intent.name key = some kept →
    kept.type = intent.type.resultType → run.result = some (.ok kept.value) ∧ run.calls = [] ∧
      ∃ later ended earlier, session.ended = later ++ ended :: earlier ∧
        (∀ other ∈ later, other.kept? bus intent.name key = none) ∧ ended.Earned bus intent.name key kept

/-- Whatever happened to a bus whose cache was empty at first, an error with which a dispatch would end stands also
for a call through the cache, unless that finds an output of its own type which a call of the same name and key has
earned. -/
theorem rejection_stands (bus : Bus σ ι α) {state : BusState σ ι α} (fresh : state.cache = .empty)
    (moves : List (Move σ ι α)) (intent : Intent σ ι α) (context : ExecutionContext) (time : Nat)
    {error : DispatchError}
    (rejects : ((bus.dispatch intent context).run time ((opening state).after bus moves).state).result =
      some (.error error)) :
    ((opening state).after bus moves).Stands bus intent error
      ((bus.dispatchCached intent context).run time ((opening state).after bus moves).state) := by
  have starts : (opening state).Recalls bus .empty :=
    ⟨fun _ _ => by rw [opening, fresh]; rfl, List.forall_mem_nil _⟩
  have recalls := recalls_after starts moves
  generalize (opening state).after bus moves = session at rejects recalls ⊢
  refine ⟨fun misses => ?_, fun key kept own found typed => ?_⟩
  · cases own : bus.cacheKey? intent with
    | none =>
      unfold Bus.dispatchCached
      rw [own]
      exact rejects
    | some key => exact (Bus.fallsThrough_of_miss context time own (misses key · own)).result.trans rejects
  · rw [Bus.run_dispatchCached_of_hit context time own found typed]
    refine ⟨rfl, rfl, ?_⟩
    have kept := recalls.get? intent.name key
    rw [found, ResultCache.get?_empty, Option.or_none] at kept
    obtain ⟨later, ended, earlier, split, keeps, others⟩ := List.findSome?_eq_some_iff.1 kept.symm
    exact ⟨later, ended, earlier, split, others, earned_of_kept? keeps⟩

def memberList : Intent Unit Unit String :=
  { Intent.plain ⟨"Members", "Members", .query, "text", 0⟩ (.fresh .nil 0) () with
    authorizeInContext := some fun _ context => .done ((⟨none, true, none, none⟩ : AccessRule).decide context)
    cacheKey := some "all" }

def cachingBus : Bus Unit Unit String := { Bus.ofConfig .standard toString id with caching := true }

def memberState : BusState Unit Unit String :=
  let handler : Handler Unit Unit String := .plain memberList.type "MembersHandler" fun _ _ => .done (.ok "Ann, Bob")
  ⟨⟨.permissive, Table.empty.insert memberList.type (.of ⟨memberList.type, handler.name⟩ handler)⟩, .empty, .empty,
    .empty, (), 0, 0⟩

def memberMoves : List (Move Unit Unit String) :=
  [.begin ⟨memberList, ExecutionContext.empty.withIdentity .userId "ann", true⟩ 0]

def memberRefusal : DispatchError :=
  .authorization [⟨"user", "login required", "UNAUTHENTICATED"⟩]
    (.ofCorrelation (memberList.correlation (cachingBus.freshId 1)) (.ofMillis 0))

/-- After a user has asked for the list, one who is not known is turned away or served, as the theorem says. -/
theorem rejection_stands_for_members :
    let state := ((opening memberState).after cachingBus memberMoves).state
    memberState.cache = .empty ∧
      ((cachingBus.dispatch memberList .empty).run 1 state).result = some (.error memberRefusal) ∧
        ((opening memberState).after cachingBus memberMoves).Stands cachingBus memberList memberRefusal
          ((cachingBus.dispatchCached memberList .empty).run 1 state) := by
  intro state
  have rejects : ((cachingBus.dispatch memberList .empty).run 1 state).result = some (.error memberRefusal) := by
    decide +kernel
  exact ⟨rfl, rejects, rejection_stands cachingBus rfl memberMoves memberList .empty 1 rejects⟩

/-- A call through the cache has an output though the same call past the cache is denied: a user who may see the list
has asked for it before. -/
theorem served_though_denied :
    let session := (opening memberState).after cachingBus memberMoves
    memberState.cache = .empty ∧ memberList.type.kind = .query ∧
      ((cachingBus.dispatch memberList .empty).run 1 session.state).result = some (.error memberRefusal) ∧
      memberRefusal.stage = .authorize ∧
      ((cachingBus.dispatchCached memberList .empty).run 1 session.state).result = some (.ok "Ann, Bob") := by
  intro session
  have denied : ((cachingBus.dispatch memberList .empty).run 1 session.state).result =
      some (.error memberRefusal) := by decide +kernel
  have served : ((cachingBus.dispatchCached memberList .empty).run 1 session.state).result =
      some (.ok "Ann, Bob") := by decide +kernel
  exact ⟨rfl, rfl, denied, rfl, served⟩

end Session

end IntentBus
