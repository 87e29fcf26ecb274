import IntentBus.Context

/-! Contexts under construction. A place holds what was last written to it, whatever else was written before or behind; and a
context that is derived from another is the one that all calls together would have built. -/

namespace IntentBus

namespace ExecutionContext

namespace Builder

/-- A call that writes to a context under construction. -/
inductive Call
  | identity (field : IdentityField) (text : String)
  | createdAtMillis (millis : UInt64)
  | feature (name : String) (enabled : Bool)
  | property (key : String) (value : Json)

/-- What is written to: a field, a flag or a property. -/
inductive Place
  | identity (field : IdentityField)
  | createdAtMillis
  | feature (name : String)
  | property (key : String)

namespace Call

def place : Call → Place
  | identity field _ => .identity field
  | createdAtMillis _ => .createdAtMillis
  | feature name _ => .feature name
  | property key _ => .property key

def text? (field : IdentityField) : Call → Option String
  | identity written text => if field = written then some text else none
  | _ => none

def millis? : Call → Option UInt64
  | createdAtMillis millis => some millis
  | _ => none

def flag? (name : String) : Call → Option Bool
  | feature written enabled => if name = written then some enabled else none
  | _ => none

def value? (key : String) : Call → Option Json
  | property written value => if key = written then some value else none
  | _ => none

def last {β : Type} (written? : Call → Option β) (calls : List Call) : Option β :=
  (calls.filterMap written?).getLast?

end Call

def apply (builder : Builder) : Call → Builder
  | .identity field text => builder.withIdentity field text
  | .createdAtMillis millis => builder.withCreatedAtMillis millis
  | .feature name enabled => builder.withFeature name enabled
  | .property key value => builder.withProperty key value

def after (builder : Builder) (calls : List Call) : Builder := calls.foldl apply builder

/-- Calls in two parts are made one part after the other. -/
theorem after_append (builder : Builder) (first second : List Call) :
    builder.after (first ++ second) = (builder.after first).after second :=
  List.foldl_append

/-- What each call either leaves alone or replaces by what it writes, calls leave as it was last written. -/
theorem last_or {β : Type} (view : Builder → Option β) {written? : Call → Option β}
    (step : ∀ builder call, view (apply builder call) = (written? call).or (view builder)) (builder : Builder)
    (calls : List Call) : view (builder.after calls) = (Call.last written? calls).or (view builder) := by
  induction calls generalizing builder with
  | nil => rfl
  | cons call rest ih =>
    refine (ih (builder.apply call)).trans ?_
    rw [step, Call.last, Call.last]
    cases wrote : written? call with
    | none => rw [List.filterMap_cons_none wrote, Option.none_or]
    | some value =>
      rw [List.filterMap_cons_some wrote, List.getLast?_cons]
      cases (rest.filterMap written?).getLast? <;> rfl

section

variable (builder : Builder) (call : Call)

/-- A field holds the text of the call, if the call writes to it, and else what it held before. -/
theorem identity_apply (field : IdentityField) : (builder.apply call).context.identity field =
    (call.text? field).or (builder.context.identity field) := by
  cases call with
  | identity written text => cases field <;> cases written <;> rfl
  | createdAtMillis | feature | property => rfl

/-- A call that sets the time overwrites it, and no other does. -/
theorem createdAtMillis_apply : (builder.apply call).createdAtMillis = call.millis?.or builder.createdAtMillis := by
  cases call <;> rfl

/-- A flag has the value of the call, if the call sets it, and else the value it had before. -/
theorem flag_apply (name : String) : (builder.apply call).context.featureFlags.find? name =
    (call.flag? name).or (builder.context.featureFlags.find? name) := by
  cases call with
  | feature written enabled =>
    refine (Dictionary.find?_insert ..).trans ?_
    rw [Call.flag?]
    split <;> rfl
  | identity written text => cases written <;> rfl
  | createdAtMillis | property => rfl

/-- A key has the value of the call, if the call puts one there, and else the value it had before. -/
theorem property_apply (key : String) : (builder.apply call).context.properties.find? key =
    (call.value? key).or (builder.context.properties.find? key) := by
  cases call with
  | property written value =>
    refine (Dictionary.find?_insert ..).trans ?_
    rw [Call.value?]
    split <;> rfl
  | identity written text => cases written <;> rfl
  | createdAtMillis | feature => rfl

/-- Calls that write to different places may be made in any order. -/
theorem apply_comm {one two : Call} (apart : one.place ≠ two.place) :
    (builder.apply one).apply two = (builder.apply two).apply one := by
  cases one with
  | identity field text =>
    cases two with
    | identity other held =>
      cases field <;> cases other <;> first | rfl | exact absurd rfl apart
    | createdAtMillis | feature | property => cases field <;> rfl
  | createdAtMillis millis =>
    cases two with
    | createdAtMillis => exact absurd rfl apart
    | identity field => cases field <;> rfl
    | feature | property => rfl
  | feature name enabled =>
    cases two with
    | feature other held =>
      have keys : name ≠ other := fun same => apart (congrArg Place.feature same)
      exact congrArg (fun flags => { builder with context := { builder.context with featureFlags := flags } })
        (Dictionary.insert_comm _ keys enabled held)
    | identity field => cases field <;> rfl
    | createdAtMillis | property => rfl
  | property key value =>
    cases two with
    | property other held =>
      have keys : key ≠ other := fun same => apart (congrArg Place.property same)
      exact congrArg (fun properties => { builder with context := { builder.context with properties := properties } })
        (Dictionary.insert_comm _ keys value held)
    | identity field => cases field <;> rfl
    | createdAtMillis | feature => rfl

end

/-- Builders that differ in the time inside the context only, which building overwrites. -/
structure SameButStamp (first second : Builder) : Prop where
  time : first.createdAtMillis = second.createdAtMillis
  rest : ∀ millis, { first.context with createdAtMillis := millis } = { second.context with createdAtMillis := millis }

namespace SameButStamp

variable {first second : Builder} (same : first.SameButStamp second)

include same

/-- Builders differ in no more than the time after the same call. -/
theorem apply (call : Call) : (first.apply call).SameButStamp (second.apply call) := by
  cases call with
  | identity field text =>
    refine ⟨same.time, fun millis => ?_⟩
    have written := congrArg (·.withIdentity field text) (same.rest millis)
    cases field <;> exact written
  | createdAtMillis millis => exact ⟨rfl, same.rest⟩
  | feature name enabled =>
    refine ⟨same.time, fun millis => ?_⟩
    exact congrArg (fun context => { context with featureFlags := context.featureFlags.insert name enabled })
      (same.rest millis)
  | property key value =>
    refine ⟨same.time, fun millis => ?_⟩
    exact congrArg (fun context => { context with properties := context.properties.insert key value }) (same.rest millis)

/-- Builders differ in no more than the time after the same calls. -/
theorem after (calls : List Call) : (first.after calls).SameButStamp (second.after calls) := by
  induction calls generalizing first second with
  | nil => exact same
  | cons call rest ih => exact ih (same.apply call)

/-- Building overwrites the time in which they differ. -/
theorem build (now : UInt64) : first.build now = second.build now := by
  unfold Builder.build
  rw [same.time, same.rest]

end SameButStamp

/-- Once a time was set it stays set, and building does not look at the clock. -/
theorem time_after (builder : Builder) {millis : UInt64} {calls : List Call} (mem : .createdAtMillis millis ∈ calls) :
    ∃ time, (builder.after calls).createdAtMillis = some time := by
  have wrote : millis ∈ calls.filterMap Call.millis? := List.mem_filterMap.2 ⟨_, mem, rfl⟩
  rw [last_or Builder.createdAtMillis createdAtMillis_apply, Call.last]
  cases ends : (calls.filterMap Call.millis?).getLast? with
  | none =>
    rw [List.getLast?_eq_none_iff.1 ends] at wrote
    nomatch wrote
  | some time => exact ⟨time, rfl⟩

/-- Where the time was set, building does not depend on when it is done. -/
theorem build_of_time {builder : Builder} {time : UInt64} (stamped : builder.createdAtMillis = some time)
    (now later : UInt64) : builder.build now = builder.build later := by
  rw [build, build, stamped, Option.getD_some, Option.getD_some]

/-- A context that was built begins a builder like the one that has built it. -/
theorem sameButStamp_toBuilder {builder : Builder} {time : UInt64} (stamped : builder.createdAtMillis = some time)
    (now : UInt64) : (builder.build now).toBuilder.SameButStamp builder := by
  refine ⟨?_, fun millis => rfl⟩
  rw [stamped, toBuilder, build, stamped, Option.getD_some]

end Builder

open Builder

def int64Or (default : Int) : Option Json → Int
  | some (.integer n _) => if -9223372036854775808 ≤ n ∧ n ≤ 9223372036854775807 then n else default
  | _ => default

/-- What a context holds after calls: everywhere what was last written there, and nothing where nothing was written. Without a
time it has that of the clock. -/
structure HoldsLast (context : ExecutionContext) (calls : List Call) (now : UInt64) : Prop where
  identity : ∀ field, context.identity field = Call.last (Call.text? field) calls
  createdAtMillis : context.createdAtMillis = (Call.last Call.millis? calls).getD now
  featureFlags : ∀ name, context.featureFlags.find? name = Call.last (Call.flag? name) calls
  properties : ∀ key, context.properties.find? key = Call.last (Call.value? key) calls
  isFeatureEnabled : ∀ name default,
    context.isFeatureEnabled name default = (Call.last (Call.flag? name) calls).getD default
  propertyOr : ∀ key default,
    context.propertyOr Json.int64? key default = int64Or default (Call.last (Call.value? key) calls)

private theorem int64Or_eq (default : Int) (held : Option Json) :
    int64Or default held = (held.bind Json.int64?).getD default := by
  have least : Int64.minValue.toInt = -9223372036854775808 := by decide
  have most : Int64.maxValue.toInt = 9223372036854775807 := by decide
  cases held with
  | none => rfl
  | some value =>
    cases value with
    | integer n fits =>
      rw [Option.bind_some, Json.int64?, Json.intWithin?, least, most, int64Or]
      split <;> rfl
    | _ => rfl

private theorem last_of_fresh {β : Type} (view : Builder → Option β) {written? : Call → Option β}
    (step : ∀ builder call, view (apply builder call) = (written? call).or (view builder))
    (absent : view .fresh = none) (calls : List Call) : view (Builder.fresh.after calls) = Call.last written? calls := by
  rw [last_or view step, absent, Option.or_none]

/-- A context that was built of calls holds what they wrote last. -/
theorem holdsLast_build (calls : List Call) (now : UInt64) :
    ((Builder.fresh.after calls).build now).HoldsLast calls now := by
  have flags (name : String) := last_of_fresh (·.context.featureFlags.find? name) (flag_apply · · name) rfl calls
  have properties (key : String) := last_of_fresh (·.context.properties.find? key) (property_apply · · key) rfl calls
  refine ⟨fun field => ?_, ?_, flags, properties, fun name default => ?_, fun key default => ?_⟩
  · have written := last_of_fresh (·.context.identity field) (identity_apply · · field) (by cases field <;> rfl) calls
    cases field <;> exact written
  · exact congrArg (Option.getD · now) (last_of_fresh Builder.createdAtMillis createdAtMillis_apply rfl calls)
  · exact congrArg (Option.getD · default) (flags name)
  · rw [int64Or_eq, ← properties key]
    rfl

/-- A context derived from one with a time of its own is what all the calls together build, at whatever times they are made. -/
theorem derivation_composes :
    (∀ (builder : Builder) (first second : List Call), (∃ millis, .createdAtMillis millis ∈ first) →
      ∀ now later latest, (((builder.after first).build now).toBuilder.after second).build later =
        (builder.after (first ++ second)).build latest) ∧
      (∀ (context : ExecutionContext) now, context.toBuilder.build now = context) ∧
        (∀ calls now, ((Builder.fresh.after calls).build now).HoldsLast calls now) ∧
          ∀ (builder : Builder) (one two : Call), one.place ≠ two.place →
            (builder.apply one).apply two = (builder.apply two).apply one := by
  refine ⟨fun builder first second ⟨millis, mem⟩ now later latest => ?_, fun context now => rfl, holdsLast_build,
    fun builder one two apart => builder.apply_comm apart⟩
  obtain ⟨time, stamped⟩ := builder.time_after mem
  obtain ⟨_, stays⟩ := builder.time_after (List.mem_append_left second mem)
  rw [((sameButStamp_toBuilder stamped now).after second).build, ← after_append]
  exact build_of_time stays later latest

/-- A flag is turned off again in a derived context, which keeps its time and is the one that is built at once. -/
theorem derivation_composes_of_turned_flag :
    let first : List Call := [.feature "beta" true, .createdAtMillis 0, .property "limit" (.ofInt64 50)]
    let second : List Call := [.identity .tenantId "t-9", .feature "beta" false]
    (∃ millis, .createdAtMillis millis ∈ first) ∧
      (((Builder.fresh.after first).build 5).toBuilder.after second).build 6 =
        (Builder.fresh.after (first ++ second)).build 7 := by
  intro first second
  have timed : ∃ millis, .createdAtMillis millis ∈ first := ⟨0, .tail _ (.head _)⟩
  exact ⟨timed, derivation_composes.1 .fresh first second timed 5 6 7⟩

end ExecutionContext

end IntentBus
