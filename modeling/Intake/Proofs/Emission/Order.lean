import Intake.Proofs.Emission.Agreement
import Intake.Proofs.Emission.Details

/-!
# The order of the calls

The batches of a round may be submitted in any order.  If the bus looks at nothing but the details
of a call and how often it was called with them before, a batch is given the same reply in every
order: batches with other details do not count, and the batch itself was submitted once in every
round before.  So the rounds have the same outcomes, and the report is the same.
-/

namespace Intake

/-- How often a list of details was submitted. -/
def timesSubmitted (details : List String) (calls : List Call) : Nat :=
  calls.countP fun call => call.details = details

namespace Bus

variable {σ : Type}

/-- The states that a bus can be in after some calls. -/
inductive Reached (bus : Bus σ) (start : σ) : σ → List Call → Prop where
  | start : Reached bus start start []
  | ticked {state : σ} {calls : List Call} (hreached : Reached bus start state calls) :
      Reached bus start (bus.now state).2 calls
  | called {state : σ} {calls : List Call} (hreached : Reached bus start state calls)
      (entries : List EventEntry) :
      Reached bus start (bus.put entries state).2
        (calls ++ [⟨entries, (bus.put entries state).1⟩])

/-- The bus replies by the details of a call and by how often they were submitted before. -/
def RepliesByCount (bus : Bus σ) (start : σ)
    (reply : List String → Nat → Except PublishError PublishResponse) : Prop :=
  ∀ state calls, bus.Reached start state calls → ∀ entries : List EventEntry,
    (bus.put entries state).1 =
      reply (entries.map EventEntry.detail)
        (timesSubmitted (entries.map EventEntry.detail) calls)

end Bus

/-- Every reply in a list of calls is the one that the details had at that time. -/
def AreReplied (reply : List String → Nat → Except PublishError PublishResponse)
    (calls : List Call) : Prop :=
  ∀ before call after, calls = before ++ call :: after →
    call.reply = reply call.details (timesSubmitted call.details before)

section Reached

variable {σ : Type} {bus : Bus σ} {start : σ}
  {reply : List String → Nat → Except PublishError PublishResponse}

variable (bus start) in
/-- A recorded bus stays in states that its calls lead to. -/
theorem mimics_reached :
    bus.recorded.Mimics (fun s t => s = t ∧ bus.Reached start s.1 s.2) bus.recorded := by
  constructor
  case now =>
    rintro state _ ⟨rfl, hreached⟩
    exact ⟨rfl, ⟨rfl, hreached.ticked⟩, trivial⟩
  case put =>
    rintro entries state _ ⟨rfl, hreached⟩
    exact ⟨rfl, ⟨rfl, hreached.called entries⟩, trivial⟩

variable (bus start) in
theorem reached_emit (emitter : Emitter) (schedule : Schedule) (records : List Record) :
    bus.Reached start (emitter.emit bus.recorded schedule records (start, [])).2.1
      (emitter.emit bus.recorded schedule records (start, [])).2.2 := by
  have hkept := (mimics_reached bus start).emit emitter schedule records (start, []) (start, [])
    ⟨rfl, .start⟩
  exact hkept.2.1.2

theorem areReplied_of_reached (hreplies : bus.RepliesByCount start reply) {state : σ}
    {calls : List Call} (hreached : bus.Reached start state calls) : AreReplied reply calls := by
  induction hreached with
  | start =>
    intro before call after hsplit
    simp at hsplit
  | ticked _ ih => exact ih
  | @called state calls hreached entries ih =>
    intro before call after hsplit
    rcases List.eq_nil_or_concat after with rfl | ⟨after, last, rfl⟩
    · obtain ⟨rfl, hlast⟩ := List.append_inj' hsplit rfl
      obtain rfl := List.singleton_inj.1 hlast
      exact hreplies state calls hreached entries
    · rw [List.concat_eq_append, ← List.cons_append, ← List.append_assoc] at hsplit
      exact ih before call after (List.append_inj' hsplit rfl).1

end Reached

theorem timesSubmitted_append (details : List String) (calls later : List Call) :
    timesSubmitted details (calls ++ later) =
      timesSubmitted details calls + timesSubmitted details later :=
  List.countP_append

/-- How often the exchanges of a round submitted some details. -/
theorem timesSubmitted_calls (emitter : Emitter) (details : List String)
    (exchanges : List Exchange) :
    timesSubmitted details (exchanges.map (Exchange.call emitter)) =
      ((exchanges.map Exchange.batch).map Batch.details).count details := by
  rw [timesSubmitted, List.countP_map, List.count, List.countP_map, List.countP_map]
  apply List.countP_congr
  intro exchange _
  simp

section Round

variable {emitter : Emitter} {pending : List Batch} {round called before after : List Exchange}
  {exchange : Exchange} {batch : Batch} (hperm : called.Perm round)
  (hbatches : round.map Exchange.batch = pending) (hdetails : (pending.map Batch.details).Nodup)

include hperm hbatches

theorem details_perm :
    ((called.map Exchange.batch).map Batch.details).Perm (pending.map Batch.details) :=
  hbatches ▸ (hperm.map Exchange.batch).map Batch.details

include hdetails

/-- The calls of a round before that for a batch carry other details. -/
theorem timesSubmitted_before (hsplit : called = before ++ exchange :: after) :
    timesSubmitted exchange.batch.details (before.map (Exchange.call emitter)) = 0 := by
  have hcalled := (details_perm hperm hbatches).nodup_iff.2 hdetails
  rw [hsplit, List.map_append, List.map_append, List.map_cons, List.map_cons] at hcalled
  rw [timesSubmitted_calls, List.count_eq_zero]
  intro hmem
  exact (List.nodup_append.1 hcalled).2.2 _ hmem _ List.mem_cons_self rfl

/-- A round submits the details of each of its batches once. -/
theorem timesSubmitted_round (hbatch : batch ∈ pending) :
    timesSubmitted batch.details (called.map (Exchange.call emitter)) = 1 := by
  rw [timesSubmitted_calls, (details_perm hperm hbatches).count_eq]
  exact List.count_eq_one_of_mem hdetails (List.mem_map_of_mem hbatch)

end Round

/-- In every round from a number on, the batches are given the replies of that number. -/
def RepliedByRound (reply : List String → Nat → Except PublishError PublishResponse) :
    Nat → List (List Exchange) → Prop
  | _, [] => True
  | number, round :: rounds =>
    (∀ exchange ∈ round, exchange.reply = reply exchange.batch.details number) ∧
      RepliedByRound reply (number + 1) rounds

section Rounds

variable {reply : List String → Nat → Except PublishError PublishResponse} {left : Nat}
  {pending : List Batch} {rounds called : List (List Exchange)}

/-- Whatever the order of the calls, the number of a round is the number of earlier submissions of
each of its batches. -/
theorem Rounds.repliedByRound (hrounds : Rounds left pending rounds)
    (hcalled : List.Forall₂ List.Perm called rounds) (emitter : Emitter)
    (hdetails : (pending.map Batch.details).Nodup) {earlier : List Call} {number : Nat}
    (htimes : ∀ batch ∈ pending, timesSubmitted batch.details earlier = number)
    (hreplied : AreReplied reply (earlier ++ called.flatten.map (Exchange.call emitter))) :
    RepliedByRound reply number rounds := by
  induction hrounds generalizing called earlier number with
  | exhausted pending => exact trivial
  | finished left => exact trivial
  | @round left pending first rounds hbatches hpending hrest ih =>
    cases hcalled with
    | @cons firstCalled _ laterCalled _ hperm hcalledRest =>
      rw [List.flatten_cons, List.map_append, ← List.append_assoc] at hreplied
      constructor
      · intro exchange hexchange
        obtain ⟨before, after, hsplit⟩ := List.append_of_mem (hperm.mem_iff.2 hexchange)
        have hpendingBatch : exchange.batch ∈ pending := hbatches ▸ List.mem_map_of_mem hexchange
        have hreply := hreplied (earlier ++ before.map (Exchange.call emitter))
          (exchange.call emitter)
          (after.map (Exchange.call emitter) ++ laterCalled.flatten.map (Exchange.call emitter))
          (by simp [hsplit])
        rw [Exchange.details_call, timesSubmitted_append, htimes _ hpendingBatch,
          timesSubmitted_before hperm hbatches hdetails hsplit] at hreply
        exact hreply
      · have hsublist := (hbatches ▸ failing_sublist first).map Batch.details
        refine ih hcalledRest (hdetails.sublist hsublist) ?_ hreplied
        intro batch hbatch
        have hpendingBatch : batch ∈ pending := hbatches ▸ (failing_sublist first).subset hbatch
        rw [timesSubmitted_append, htimes batch hpendingBatch,
          timesSubmitted_round hperm hbatches hdetails hpendingBatch]

theorem outcomes_of_replied {round : List Exchange} {number : Nat}
    (hreplied : ∀ exchange ∈ round, exchange.reply = reply exchange.batch.details number) :
    round.map Exchange.outcome =
      (round.map Exchange.batch).map fun batch => .ofReply batch (reply batch.details number) := by
  rw [List.map_map]
  apply List.map_congr_left
  intro exchange hexchange
  rw [Exchange.outcome, hreplied exchange hexchange]
  rfl

theorem failing_eq_outcomes (round : List Exchange) :
    failing round = ((round.map Exchange.outcome).filter Outcome.isFailure).map Outcome.batch := by
  rw [failing, List.filter_map, List.map_map]
  apply List.map_congr_left
  intro exchange _
  exact exchange.batch_outcome.symm

/-- Runs over the same batches have the same outcomes when they are given the same replies. -/
theorem Rounds.outcomes_eq {others : List (List Exchange)} {number : Nat}
    (hrounds : Rounds left pending rounds) (hothers : Rounds left pending others)
    (hreplied : RepliedByRound reply number rounds)
    (hrepliedOthers : RepliedByRound reply number others) :
    rounds.map (List.map Exchange.outcome) = others.map (List.map Exchange.outcome) := by
  induction hrounds generalizing others number with
  | exhausted pending => cases hothers <;> rfl
  | finished left =>
    cases hothers with
    | exhausted pending => rfl
    | finished left => rfl
    | round hbatches hpending hrest => exact absurd rfl hpending
  | @round left pending first rounds hbatches hpending hrest ih =>
    cases hothers with
    | finished left => exact absurd rfl hpending
    | @round _ _ other others hbatchesOther _ hrestOther =>
      have hfirst : first.map Exchange.outcome = other.map Exchange.outcome := by
        rw [outcomes_of_replied hreplied.1, outcomes_of_replied hrepliedOthers.1, hbatches,
          hbatchesOther]
      have hfailing : failing first = failing other := by
        rw [failing_eq_outcomes, failing_eq_outcomes, hfirst]
      rw [hfailing] at ih
      rw [List.map_cons, List.map_cons, hfirst, ih hrestOther hreplied.2 hrepliedOthers.2]

end Rounds

/-- A report is read off the outcomes alone. -/
theorem EmissionReport.ofRounds_congr {rounds others : List Round}
    (houtcomes : rounds.map (List.map Submission.outcome) =
      others.map (List.map Submission.outcome)) (total : Nat) :
    ofRounds total rounds = ofRounds total others := by
  have hread : ∀ rounds : List Round, ofRounds total rounds =
      let outcomes := rounds.map (List.map Submission.outcome)
      let last := outcomes.getLast?.getD []
      ⟨total, outcomes.length, outcomes.flatten.length,
        ((last.filter Outcome.isFailure).map Outcome.batch).flatMap Batch.records,
        last.flatMap Outcome.failures⟩ := by
    intro rounds
    have hlast : (rounds.map (List.map Submission.outcome)).getLast?.getD [] =
        (rounds.getLast?.getD []).map Submission.outcome := by
      rw [List.getLast?_map]
      cases rounds.getLast? <;> rfl
    simp only [hlast, ofRounds, Round.failing, ← List.map_flatten, List.length_map,
      List.filter_map, List.map_map, List.flatMap_map]
    rfl
  rw [hread, hread, houtcomes]

/-- The same settings without parallel submissions. -/
def Emitter.sequential (emitter : Emitter) : Emitter where
  settings := { emitter.settings with parallel := false }
  context := emitter.context
  validated := emitter.validated

/-- If no two batches have the same details and the bus goes by details and counts, the report is
that of sequential submission, whatever the order of the calls in each round. -/
theorem emit_eq_sequential {σ : Type} (emitter : Emitter) (bus : Bus σ) (schedule : Schedule)
    (records : List Record) (start : σ)
    {reply : List String → Nat → Except PublishError PublishResponse}
    (hdetails : (Batch.partition emitter.settings.batchSize records).Pairwise
      fun a b => a.records.map Record.detail ≠ b.records.map Record.detail)
    (hreplies : bus.RepliesByCount start reply) :
    (emitter.emit bus schedule records start).1 =
      (emitter.sequential.emit bus schedule records start).1 := by
  have hnodup : ((Batch.partition emitter.settings.batchSize records).map Batch.details).Nodup :=
    List.pairwise_map.2 hdetails
  have hnone : ∀ batch ∈ Batch.partition emitter.settings.batchSize records,
      timesSubmitted batch.details [] = 0 := fun _ _ => rfl
  obtain ⟨called, rounds, next, hrounds, hcalled, -, hrun, hrecorded⟩ :=
    emit_recorded emitter bus schedule records start
  obtain ⟨calledInOrder, inOrder, last, hinOrder, hcalledInOrder, -, hrunInOrder,
    hrecordedInOrder⟩ := emit_recorded emitter.sequential bus schedule records start
  have hreached := reached_emit bus start emitter schedule records
  have hreachedInOrder := reached_emit bus start emitter.sequential schedule records
  rw [hrecorded] at hreached
  rw [hrecordedInOrder] at hreachedInOrder
  have hreplied := hrounds.repliedByRound hcalled emitter hnodup hnone
    (areReplied_of_reached hreplies hreached)
  have hrepliedInOrder := hinOrder.repliedByRound hcalledInOrder emitter.sequential hnodup hnone
    (areReplied_of_reached hreplies hreachedInOrder)
  have houtcomes := hrounds.outcomes_eq hinOrder hreplied hrepliedInOrder
  rw [hrun, hrunInOrder]
  apply EmissionReport.ofRounds_congr
  rw [List.map_map, List.map_map]
  simpa [Function.comp_def, Exchange.submission] using houtcomes

/-- A bus that remembers the details it was called with, and replies by how often that was. -/
def Bus.counting (time : Timestamp)
    (reply : List String → Nat → Except PublishError PublishResponse) :
    Bus (List (List String)) where
  now := pure time
  put entries := fun seen =>
    let details := entries.map EventEntry.detail
    (reply details (seen.count details), details :: seen)

theorem repliesByCount_counting (time : Timestamp)
    (reply : List String → Nat → Except PublishError PublishResponse) :
    (Bus.counting time reply).RepliesByCount [] reply := by
  have hseen : ∀ seen calls, (Bus.counting time reply).Reached [] seen calls →
      ∀ details, seen.count details = timesSubmitted details calls := by
    intro seen calls hreached details
    induction hreached with
    | start => rfl
    | ticked _ ih => exact ih
    | called _ entries ih =>
      rw [timesSubmitted_append, ← ih]
      by_cases hsame : entries.map EventEntry.detail = details
      all_goals simp [Bus.counting, timesSubmitted, Call.details, hsame]
  intro seen calls hreached entries
  rw [← hseen seen calls hreached]
  rfl

/-- One record per call, in parallel. -/
def singleEmitter : Emitter :=
  ⟨{ EmitterSettings.default with batchSize := 1, parallel := true },
    ⟨"import", "entry", "token"⟩, rfl⟩

/-- Every round calls for the last batch first. -/
def Schedule.reversed : Schedule :=
  ⟨fun _ batches => batches.reverse, fun _ batches => List.reverse_perm batches⟩

/-- Two records that are accepted at their second submission, in reverse order and in their own. -/
theorem emit_eq_sequential_reversed :
    let bus := Bus.counting springDay fun _ times =>
      if times = 0 then .error ⟨"timeout"⟩ else .ok ⟨0, []⟩
    let records : List Record := [⟨"1", .ofNat 1⟩, ⟨"2", .ofNat 2⟩]
    (Batch.partition 1 records).Pairwise
      (fun a b => a.records.map Record.detail ≠ b.records.map Record.detail) ∧
    (singleEmitter.emit bus .reversed records []).1 =
      (singleEmitter.sequential.emit bus .reversed records []).1 := by
  intro bus records
  have hdetails : (Batch.partition singleEmitter.settings.batchSize records).Pairwise
      fun a b => a.records.map Record.detail ≠ b.records.map Record.detail := by
    decide
  exact ⟨hdetails, emit_eq_sequential singleEmitter bus .reversed records [] hdetails
    (repliesByCount_counting _ _)⟩

end Intake
