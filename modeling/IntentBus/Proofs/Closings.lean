import IntentBus.Proofs.Courses

/-! How the attempts of a call are closed: the handler is told once, and one entry is written, for each attempt that comes
to its own end. An attempt that is cut off by its bound is closed by neither. -/

namespace IntentBus

variable {σ ι α : Type}

/-- These are all attempts of a call, and the call ends as the last of them did. -/
structure Call.Closes (bus : Bus σ ι α) (call : Call σ ι α) (attempts : List (AttemptHistory α)) (events : List (BusEvent α))
    (result : Option (Except DispatchError α)) : Prop where
  seen : ∃ before after, events = before ++ (attempts.flatMap (·.events) ++ after) ∧ ∀ event ∈ before ++ after, event.Aside
  numbered : attempts.map (·.number.toNat) = List.range' 1 attempts.length
  closed : ∀ attempt ∈ attempts, ∃ bound correlation,
    attempt.Closed (bus.request call.intent bound correlation call.context)
  repeated : ∀ attempt ∈ attempts.dropLast, ∃ fault, attempt.outcome = some (.error fault)
  ends : ∀ last ∈ attempts.getLast?, ∀ value, result = some value →
    ∃ handler correlation, Concludes handler correlation last.outcome (some value)

namespace Call

variable {bus : Bus σ ι α} {call : Call σ ι α} {events : List (BusEvent α)} {result : Option (Except DispatchError α)}

private theorem closes_nil (aside : ∀ event ∈ events, event.Aside) : call.Closes bus [] events result where
  seen := ⟨events, [], (List.append_nil events).symm, by rwa [List.append_nil]⟩
  numbered := rfl
  closed := List.forall_mem_nil _
  repeated := List.forall_mem_nil _
  ends _ mem := nomatch mem

private theorem closes_of_rows {bound : BoundHandler σ ι α} {correlation : Correlation}
    {before middle after : List (BusEvent α)}
    {attempts : List (AttemptHistory α)} {execution : Option (Except ExecutionFault α)}
    (early : ∀ event ∈ before, event.Aside)
    (rows : (bus.request call.intent bound correlation call.context).Rows attempts middle execution)
    (late : ∀ event ∈ after, event.Aside) (concludes : Concludes bound.binding.handler correlation execution result) :
    call.Closes bus attempts (before ++ (middle ++ after)) result where
  seen := ⟨before, after, by rw [rows.events], List.forall_mem_append.2 ⟨early, late⟩⟩
  numbered := rows.numbered
  closed attempt mem := ⟨bound, correlation, rows.closed attempt mem⟩
  repeated := rows.repeated
  ends last mem value same := by
    subst same
    -- A call that is over has come past its execution, whose result is that of the last attempt.
    have ended : ∃ outcome, execution = some outcome := by cases concludes <;> exact ⟨_, rfl⟩
    obtain ⟨outcome, rfl⟩ := ended
    obtain ⟨own, mem', same⟩ := rows.ends outcome rfl
    obtain rfl := Option.some.inj (mem.symm.trans mem')
    rw [same]
    exact ⟨_, _, concludes⟩

private theorem Course.closes {state : BusState σ ι α} (course : call.Course bus state events result) :
    ∃ attempts, call.Closes bus attempts events result := by
  cases course with
  | kept silent | misbound silent | unbound silent => exact ⟨[], closes_nil fun event mem => (silent event mem).1⟩
  | dispatched found course told =>
    cases course with
    | judging aside | refused aside => exact ⟨[], closes_nil aside⟩
    | executed early rows late concludes => exact ⟨_, closes_of_rows early rows late concludes⟩

end Call

namespace Session

/-- All attempts of all calls, under way or over, are closed as they end: those that come to their own end by one word to
the handler and one entry, and those that are cut off by nothing. -/
theorem closes_attempts (bus : Bus σ ι α) (start : BusState σ ι α) (moves : List (Move σ ι α)) :
    ((opening start).after bus moves).Tells fun call events result =>
      ∃ attempts, call.Closes bus attempts events result :=
  (courses_after bus start moves).tells fun _ _ _ _ course => course.closes

/-- A report that is cut off after thirty milliseconds: its attempt begins, and neither is the handler told of its end, nor
is there an entry about it. -/
theorem unclosed_of_slow_report :
    let bus := { Traffic.publishingBus with
      config := { BusConfig.standard with defaultTimeout := some (.ofMillis 30) } }
    let entry : RegistryEntry Unit Unit String := .of ⟨Traffic.slowReport, Traffic.slowHandler.name⟩ Traffic.slowHandler
    let state : BusState Unit Unit String :=
      ⟨⟨.permissive, Table.empty.insert Traffic.slowReport entry⟩, .empty, .empty, .empty, (), 0, 0⟩
    let call : Call Unit Unit String := ⟨.plain Traffic.slowReport (.fresh .nil 0) (), .empty, false⟩
    let session := (opening state).after bus [.begin call 0, .resume 0 30]
    (bus.build [Traffic.slowHandler] ()).2 = .ok state ∧
      session.ended.map (·.result) = [some (.error (.timeout "ReportHandler" (.ofMillis 30) 1
        (.ofCorrelation (call.intent.correlation "0") (.ofMillis 30))))] ∧
      session.ended.map (·.events.countP BusEvent.begins) = [1] ∧
      session.ended.map (·.events.countP BusEvent.tells) = [0] ∧
      session.ended.map (fun ended => (ended.events.filterMap BusEvent.completion?).length) = [0] := by
  intro bus entry state call session
  exact ⟨rfl, by decide +kernel, by decide +kernel, by decide +kernel, by decide +kernel⟩

end Session

end IntentBus
