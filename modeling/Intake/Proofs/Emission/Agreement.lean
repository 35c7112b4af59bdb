import Intake.Import.Dispatch
import Intake.Proofs.Agreement

/-!
# Buses that agree

An emission reaches the bus through the clock and the calls only.  If two buses agree on these, the
emissions over them agree, and so do the dispatches of files.
-/

namespace Intake

/-- Both buses give the same times and the same replies. -/
structure Bus.Mimics {σ τ : Type} (R : σ → τ → Prop) (bus : Bus σ) (other : Bus τ) : Prop where
  now : Agrees R (fun _ => True) bus.now other.now
  put : ∀ entries, Agrees R (fun _ => True) (bus.put entries) (other.put entries)

namespace Bus.Mimics

variable {σ τ : Type} {R : σ → τ → Prop} {bus : Bus σ} {other : Bus τ}
  (hmimics : bus.Mimics R other) (emitter : Emitter)

include hmimics

theorem submit (batch : Batch) :
    Agrees R (fun _ => True) (emitter.submit bus batch) (emitter.submit other batch) := by
  unfold Emitter.submit
  refine hmimics.now.bind fun time _ => (hmimics.put _).bind fun reply _ => ?_
  cases reply with
  | ok response => exact .pure trivial
  | error error => exact .pure trivial

theorem submitRound (order : List Batch → List Batch) (batches : List Batch) :
    Agrees R (fun _ => True) (emitter.submitRound bus order batches)
      (emitter.submitRound other order batches) := by
  unfold Emitter.submitRound
  have hcalls := Agrees.mapM (order batches) fun batch _ => hmimics.submit emitter batch
  exact hcalls.bind fun _ _ => .pure trivial

theorem runRounds (schedule : Schedule) (left number : Nat) (batches : List Batch) :
    Agrees R (fun _ => True) (emitter.runRounds bus schedule left number batches)
      (emitter.runRounds other schedule left number batches) := by
  induction left generalizing number batches with
  | zero => exact .pure trivial
  | succ left ih =>
    cases batches with
    | nil => exact .pure trivial
    | cons batch batches =>
      unfold Emitter.runRounds
      refine (hmimics.submitRound emitter _ _).bind fun round _ => ?_
      exact (ih (number + 1) round.failing).bind fun _ _ => .pure trivial

theorem emit (schedule : Schedule) (records : List Record) :
    Agrees R (fun _ => True) (emitter.emit bus schedule records)
      (emitter.emit other schedule records) := by
  unfold Emitter.emit Emitter.run
  exact (hmimics.runRounds emitter _ _ _ _).bind fun _ _ => .pure trivial

theorem values (mapper : Mapper) (schedule : Schedule) (values : List Lines.Numbered) :
    Agrees R (fun _ => True) (Dispatch.values mapper emitter bus schedule values)
      (Dispatch.values mapper emitter other schedule values) := by
  unfold Dispatch.values
  exact (hmimics.emit emitter schedule _).bind fun _ _ => .pure trivial

/-- Dispatches of a file agree when their buses do. -/
theorem file (mapper : Mapper) (schedule : Schedule) (body : List UInt8) :
    Agrees R (fun _ => True) (Dispatch.file mapper emitter bus schedule body)
      (Dispatch.file mapper emitter other schedule body) := by
  unfold Dispatch.file
  exact (hmimics.values emitter mapper schedule _).bind fun _ _ => .pure trivial

end Bus.Mimics

end Intake
