import Intake.Emission.Emitter
import Intake.Proofs.Emission.Partition
import Intake.Proofs.Settings
import Mathlib.Data.List.Forall2
import Mathlib.Data.List.Nodup

/-!
# The calls of an emission

A recorded bus keeps the calls it gets with its replies and otherwise does what the bus does.  Each
submission of a batch is one exchange with the bus, and a run is a list of rounds of exchanges in
which every round takes up exactly the batches that failed in the round before.
-/

namespace Intake

/-- A call to the bus and its reply. -/
structure Call where
  entries : List EventEntry
  reply : Except PublishError PublishResponse

/-- A bus that keeps its calls. -/
def Bus.recorded {σ : Type} (bus : Bus σ) : Bus (σ × List Call) where
  now := fun (state, calls) =>
    let (time, next) := bus.now state
    (time, (next, calls))
  put entries := fun (state, calls) =>
    let (reply, next) := bus.put entries state
    (reply, (next, calls ++ [⟨entries, reply⟩]))

/-- What the reply to a call means for its batch. -/
def Outcome.ofReply (batch : Batch) : Except PublishError PublishResponse → Outcome
  | .ok response => .ofResponse batch response
  | .error error => .ofError batch error

theorem Outcome.batch_ofResponse (batch : Batch) (response : PublishResponse) :
    (Outcome.ofResponse batch response).batch = batch := by
  unfold Outcome.ofResponse
  extract_lets attributed failures
  split <;> rfl

/-- One submission of a batch: when it was put together and what came back. -/
structure Exchange where
  batch : Batch
  time : Timestamp
  reply : Except PublishError PublishResponse

namespace Exchange

variable (emitter : Emitter) (exchange : Exchange)

def entries : List EventEntry :=
  exchange.batch.entries emitter.context emitter.settings.busName exchange.time

def call : Call := ⟨exchange.entries emitter, exchange.reply⟩

def outcome : Outcome := .ofReply exchange.batch exchange.reply

def submission : Submission := ⟨exchange.batch, exchange.entries emitter, exchange.outcome⟩

def isFailure : Bool := exchange.outcome.isFailure

@[simp]
theorem batch_outcome : exchange.outcome.batch = exchange.batch := by
  unfold outcome Outcome.ofReply
  split
  · exact Outcome.batch_ofResponse _ _
  · rfl

end Exchange

/-- The batches that failed, in their order. -/
def failing (round : List Exchange) : List Batch :=
  (round.filter Exchange.isFailure).map Exchange.batch

theorem failing_submissions (emitter : Emitter) (round : List Exchange) :
    Round.failing (round.map (Exchange.submission emitter)) = failing round := by
  rw [Round.failing, failing, List.filter_map, List.map_map]
  apply List.map_congr_left
  intro exchange _
  exact exchange.batch_outcome

/-- The rounds of a run that may have so many more and has these batches to submit. -/
inductive Rounds : Nat → List Batch → List (List Exchange) → Prop where
  | exhausted (pending : List Batch) : Rounds 0 pending []
  | finished (left : Nat) : Rounds left [] []
  | round {left : Nat} {pending : List Batch} {round : List Exchange}
      {rounds : List (List Exchange)} (hbatches : round.map Exchange.batch = pending)
      (hpending : pending ≠ []) (hrest : Rounds left (failing round) rounds) :
      Rounds (left + 1) pending (round :: rounds)

namespace Emitter

variable (emitter : Emitter)

theorem batchSize_pos : 0 < emitter.settings.batchSize :=
  (EmitterSettings.validate_eq_ok_iff.1 emitter.validated).1.1

theorem maxRounds_pos : 0 < emitter.settings.maxRounds :=
  (EmitterSettings.validate_eq_ok_iff.1 emitter.validated).2.1

end Emitter

section Numbered

variable {α : Type} {number : α → Nat} {items shuffled : List α}

theorem number_injective (hsorted : items.Pairwise fun a b => number a < number b) {a b : α}
    (ha : a ∈ items) (hb : b ∈ items) (hnumber : number a = number b) : a = b := by
  have hnodup : (items.map number).Nodup := List.pairwise_map.2 (hsorted.imp Nat.ne_of_lt)
  exact List.inj_on_of_nodup_map hnodup ha hb hnumber

/-- Sorting by number undoes every reordering of items that are in order. -/
theorem mergeSort_of_perm (hperm : shuffled.Perm items)
    (hsorted : items.Pairwise fun a b => number a < number b) :
    (shuffled.mergeSort fun a b => number a ≤ number b) = items := by
  have hsame := (List.mergeSort_perm shuffled fun a b => number a ≤ number b).trans hperm
  refine List.Perm.eq_of_pairwise ?_ ?_ (hsorted.imp Nat.le_of_lt) hsame
  · intro a b ha hb hab hba
    exact number_injective hsorted (hsame.subset ha) hb (Nat.le_antisymm hab hba)
  · have hpairwise := @List.pairwise_mergeSort α (fun a b => number a ≤ number b)
      (fun a b c hab hbc => by simp only [decide_eq_true_eq] at *; omega)
      (fun a b => by simp only [Bool.or_eq_true, decide_eq_true_eq]; omega) shuffled
    exact hpairwise.imp fun hab => by simpa using hab

end Numbered

/-- Steps that lead from one state to another. -/
inductive Leads {σ ι : Type} (step : σ → ι → σ → Prop) : σ → List ι → σ → Prop where
  | nil (state : σ) : Leads step state [] state
  | cons {state middle next : σ} {first : ι} {rest : List ι} (hfirst : step state first middle)
      (hrest : Leads step middle rest next) : Leads step state (first :: rest) next

/-- If every item makes a step that leaves its entry in the log, a run over a list of items makes a
list of steps, and their entries are its log. -/
theorem mapM_recorded {σ α β ι κ ω : Type} {f : α → StateM σ β} {g : α → StateM (σ × List ω) β}
    (move : σ → ι → σ → Prop) (source : ι → κ) (target : α → κ) (result : ι → β) (entry : ι → ω)
    (hstep : ∀ a state log, ∃ (step : ι) (next : σ), source step = target a ∧
      move state step next ∧ f a state = (result step, next) ∧
      g a (state, log) = (result step, (next, log ++ [entry step])))
    (items : List α) (state : σ) (log : List ω) :
    ∃ (steps : List ι) (next : σ), steps.map source = items.map target ∧
      Leads move state steps next ∧ items.mapM f state = (steps.map result, next) ∧
      items.mapM g (state, log) = (steps.map result, (next, log ++ steps.map entry)) := by
  induction items generalizing state log with
  | nil => exact ⟨[], state, rfl, .nil state, rfl, by simp; rfl⟩
  | cons a items ih =>
    obtain ⟨step, middle, hsource, hmove, hrun, hrecorded⟩ := hstep a state log
    obtain ⟨steps, next, hsources, hmoves, hrest, hrestRecorded⟩ := ih middle (log ++ [entry step])
    refine ⟨step :: steps, next, ?_, .cons hmove hmoves, ?_, ?_⟩
    · rw [List.map_cons, List.map_cons, hsource, hsources]
    · simp only [List.mapM_cons, bind, StateT.bind, hrun, hrest]
      rfl
    · simp only [List.mapM_cons, bind, StateT.bind, hrecorded, hrestRecorded]
      rw [List.append_assoc]
      rfl

section Submit

variable {σ : Type} (emitter : Emitter) (bus : Bus σ)

/-- The exchange with the bus that a submission is, and the state after it. -/
def Emitter.exchange (batch : Batch) (state : σ) : Exchange × σ :=
  let (time, ticked) := bus.now state
  let (reply, next) := bus.put (batch.entries emitter.context emitter.settings.busName time) ticked
  (⟨batch, time, reply⟩, next)

theorem submit_eq (batch : Batch) (state : σ) :
    emitter.submit bus batch state =
      ((emitter.exchange bus batch state).1.submission emitter,
        (emitter.exchange bus batch state).2) := by
  cases hnow : bus.now state with
  | mk time ticked =>
    cases hput : bus.put (batch.entries emitter.context emitter.settings.busName time) ticked with
    | mk reply next =>
      simp only [Emitter.submit, Emitter.exchange, bind, StateT.bind, hnow, hput]
      cases reply <;> rfl

/-- A submission is one exchange with the bus. -/
theorem submit_recorded (batch : Batch) (state : σ) (calls : List Call) :
    ∃ (exchange : Exchange) (next : σ), exchange.batch = batch ∧
      emitter.submit bus batch state = (exchange.submission emitter, next) ∧
      emitter.submit bus.recorded batch (state, calls) =
        (exchange.submission emitter, (next, calls ++ [exchange.call emitter])) :=
  ⟨_, _, rfl, submit_eq emitter bus batch state,
    submit_eq emitter bus.recorded batch (state, calls)⟩

theorem mapM_submit_recorded (batches : List Batch) (state : σ) (calls : List Call) :
    ∃ (exchanges : List Exchange) (next : σ), exchanges.map Exchange.batch = batches ∧
      batches.mapM (emitter.submit bus) state =
        (exchanges.map (Exchange.submission emitter), next) ∧
      batches.mapM (emitter.submit bus.recorded) (state, calls) =
        (exchanges.map (Exchange.submission emitter),
          (next, calls ++ exchanges.map (Exchange.call emitter))) := by
  obtain ⟨exchanges, next, hbatches, -, hrun, hrecorded⟩ :=
    mapM_recorded (fun _ _ _ => True) Exchange.batch id (Exchange.submission emitter)
      (Exchange.call emitter)
      (fun batch state calls => by simpa using submit_recorded emitter bus batch state calls)
      batches state calls
  exact ⟨exchanges, next, by simpa using hbatches, hrun, hrecorded⟩

/-- A round is one exchange for each of its batches.  Whatever the order of the calls, the exchanges
are listed in the order of the batches. -/
theorem submitRound_recorded (order : List Batch → List Batch)
    (hperm : ∀ batches, (order batches).Perm batches) {batches : List Batch}
    (hsorted : batches.Pairwise fun a b => a.index < b.index) (state : σ) (calls : List Call) :
    ∃ (called round : List Exchange) (next : σ),
      called.Perm round ∧ (order batches = batches → called = round) ∧
      round.map Exchange.batch = batches ∧
      emitter.submitRound bus order batches state =
        (round.map (Exchange.submission emitter), next) ∧
      emitter.submitRound bus.recorded order batches (state, calls) =
        (round.map (Exchange.submission emitter),
          (next, calls ++ called.map (Exchange.call emitter))) := by
  obtain ⟨called, next, hbatches, hsubmit, hrecorded⟩ :=
    mapM_submit_recorded emitter bus (order batches) state calls
  let before : Exchange → Exchange → Bool := fun a b => a.batch.index ≤ b.batch.index
  have hround : (called.mergeSort before).map Exchange.batch = batches := by
    have hsort := mergeSort_of_perm (hperm batches) hsorted
    rw [← hbatches] at hsort
    rw [← hsort]
    apply List.map_mergeSort
    intro a _ b _
    rfl
  have hresult : (called.map (Exchange.submission emitter)).mergeSort
      (fun a b => a.batch.index ≤ b.batch.index) =
        (called.mergeSort before).map (Exchange.submission emitter) := by
    rw [List.map_mergeSort]
    intro a _ b _
    rfl
  refine ⟨called, called.mergeSort before, next, (List.mergeSort_perm _ _).symm, ?_, hround, ?_, ?_⟩
  · intro horder
    apply (List.mergeSort_of_pairwise _).symm
    rw [horder] at hbatches
    rw [← hbatches, List.pairwise_map] at hsorted
    exact hsorted.imp fun hlt => decide_eq_true (Nat.le_of_lt hlt)
  · simp only [Emitter.submitRound, bind, StateT.bind, hsubmit]
    exact congrArg (·, next) hresult
  · simp only [Emitter.submitRound, bind, StateT.bind, hrecorded]
    exact congrArg (·, next, _) hresult

/-- The failing batches of a round are among its batches, in their order. -/
theorem failing_sublist (round : List Exchange) :
    (failing round).Sublist (round.map Exchange.batch) :=
  List.filter_sublist.map _

/-- A run is a list of rounds of exchanges, called round by round. -/
theorem runRounds_recorded (schedule : Schedule) (left number : Nat) {pending : List Batch}
    (hsorted : pending.Pairwise fun a b => a.index < b.index) (state : σ) (calls : List Call) :
    ∃ (called rounds : List (List Exchange)) (next : σ),
      Rounds left pending rounds ∧ List.Forall₂ List.Perm called rounds ∧
      ((∀ number batches, schedule.order number batches = batches) → called = rounds) ∧
      emitter.runRounds bus schedule left number pending state =
        (rounds.map fun round => round.map (Exchange.submission emitter), next) ∧
      emitter.runRounds bus.recorded schedule left number pending (state, calls) =
        (rounds.map fun round => round.map (Exchange.submission emitter),
          (next, calls ++ called.flatten.map (Exchange.call emitter))) := by
  induction left generalizing number pending state calls with
  | zero =>
    refine ⟨[], [], state, .exhausted pending, .nil, fun _ => rfl, rfl, ?_⟩
    rw [List.flatten_nil, List.map_nil, List.map_nil, List.append_nil]
    rfl
  | succ left ih =>
    cases pending with
    | nil =>
      refine ⟨[], [], state, .finished _, .nil, fun _ => rfl, rfl, ?_⟩
      rw [List.flatten_nil, List.map_nil, List.map_nil, List.append_nil]
      rfl
    | cons batch batches =>
      obtain ⟨called, round, middle, hperm, horder, hbatches, hsubmit, hrecorded⟩ :=
        submitRound_recorded emitter bus (schedule.order number) (schedule.perm number) hsorted
          state calls
      have hfailing : (failing round).Pairwise fun a b => a.index < b.index :=
        hsorted.sublist (hbatches ▸ failing_sublist round)
      obtain ⟨laterCalled, rounds, next, hrounds, hlaterPerm, hlaterOrder, hrun, hrunRecorded⟩ :=
        ih (number + 1) hfailing middle (calls ++ called.map (Exchange.call emitter))
      refine ⟨called :: laterCalled, round :: rounds, next,
        .round hbatches (List.cons_ne_nil _ _) hrounds, .cons hperm hlaterPerm, ?_, ?_, ?_⟩
      · intro hinOrder
        rw [horder (hinOrder _ _), hlaterOrder hinOrder]
      · simp only [Emitter.runRounds, bind, StateT.bind, hsubmit, failing_submissions, hrun]
        rfl
      · simp only [Emitter.runRounds, bind, StateT.bind, hrecorded, failing_submissions,
          hrunRecorded, List.flatten_cons, List.map_append, List.append_assoc]
        rfl

/-- The trace of a whole emission: its rounds, the exchanges in the order of the calls, and the
report, which is that of the bus without the record. -/
theorem emit_recorded (schedule : Schedule) (records : List Record) (state : σ) :
    ∃ (called rounds : List (List Exchange)) (next : σ),
      Rounds emitter.settings.maxRounds (Batch.partition emitter.settings.batchSize records)
        rounds ∧
      List.Forall₂ List.Perm called rounds ∧
      (emitter.settings.parallel = false → called = rounds) ∧
      emitter.emit bus schedule records state =
        (.ofRounds records.length
          (rounds.map fun round => round.map (Exchange.submission emitter)), next) ∧
      emitter.emit bus.recorded schedule records (state, []) =
        (.ofRounds records.length
          (rounds.map fun round => round.map (Exchange.submission emitter)),
          (next, called.flatten.map (Exchange.call emitter))) := by
  have hsorted := Batch.pairwise_index_partition emitter.batchSize_pos records
  cases hparallel : emitter.settings.parallel with
  | true =>
    obtain ⟨called, rounds, next, hrounds, hperm, -, hrun, hrecorded⟩ :=
      runRounds_recorded emitter bus schedule emitter.settings.maxRounds 1 hsorted state []
    refine ⟨called, rounds, next, hrounds, hperm, fun h => Bool.noConfusion h, ?_, ?_⟩
    · simp only [Emitter.emit, Emitter.run, hparallel, if_true, bind, StateT.bind, hrun]
      rfl
    · simp only [Emitter.emit, Emitter.run, hparallel, if_true, bind, StateT.bind, hrecorded]
      rfl
  | false =>
    obtain ⟨called, rounds, next, hrounds, hperm, horder, hrun, hrecorded⟩ :=
      runRounds_recorded emitter bus .inOrder emitter.settings.maxRounds 1 hsorted state []
    refine ⟨called, rounds, next, hrounds, hperm, fun _ => horder fun _ _ => rfl, ?_, ?_⟩
    · simp only [Emitter.emit, Emitter.run, hparallel, Bool.false_eq_true, if_false, bind,
        StateT.bind, hrun]
      rfl
    · simp only [Emitter.emit, Emitter.run, hparallel, Bool.false_eq_true, if_false, bind,
        StateT.bind, hrecorded]
      rfl

end Submit

end Intake
