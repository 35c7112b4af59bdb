import Intake.Proofs.Emission.Accounting
import Intake.Proofs.Emission.Replies
import Mathlib.Data.List.Flatten

/-!
# The two lists of failures in a report

A report lists the records of the batches that failed in the last round, and the failures of that
round entry by entry.  A batch that failed has at least one failure, and its failures name some of
its records in order, so the second list is a selection from the first, batch by batch.
-/

namespace Intake

namespace Outcome

theorem failures_eq_nil {outcome : Outcome} (haccepted : outcome.isFailure = false) :
    outcome.failures = [] := by
  cases outcome with
  | accepted batch => rfl
  | failed batch failures => cases haccepted

theorem identifiers_wholeBatch (records : List Record) (code message : String) :
    (wholeBatch records code message).map FailedEntry.identifier =
      records.map Record.identifier := by
  rw [wholeBatch, List.map_map]
  rfl

theorem identifiers_attributed (records : List Record) (results : List EntryResult) :
    ((attributed records results).map FailedEntry.identifier).Sublist
      (records.map Record.identifier) := by
  induction records generalizing results with
  | nil => exact List.Sublist.refl _
  | cons record records ih =>
    cases results with
    | nil => exact List.nil_sublist _
    | cons result results =>
      rw [attributed_cons]
      cases result.errorCode with
      | none => exact (ih results).cons _
      | some code => exact (ih results).cons_cons _

variable {batch : Batch} (hrecords : batch.records ≠ [])

include hrecords

/-- The failures of a batch name some of its records in order. -/
theorem identifiers_ofReply (reply : Except PublishError PublishResponse) :
    ((ofReply batch reply).failures.map FailedEntry.identifier).Sublist
      (batch.records.map Record.identifier) := by
  obtain ⟨results, -, heq⟩ | ⟨code, message, heq⟩ | heq := ofReply_cases hrecords reply
  · rw [heq]
    exact identifiers_attributed _ _
  · rw [heq, failures, identifiers_wholeBatch]
  · rw [heq]
    exact List.nil_sublist _

end Outcome

/-- The exchanges of a round that failed. -/
def stillFailing (round : List Exchange) : List Exchange := round.filter Exchange.isFailure

theorem map_batch_stillFailing (round : List Exchange) :
    (stillFailing round).map Exchange.batch = failing round := rfl

/-- All failures of a round are those of its exchanges that failed. -/
theorem failures_stillFailing (round : List Exchange) :
    (round.flatMap fun exchange => exchange.outcome.failures) =
      (stillFailing round).flatMap fun exchange => exchange.outcome.failures := by
  induction round with
  | nil => rfl
  | cons exchange round ih =>
    rw [List.flatMap_cons, ih, stillFailing, stillFailing]
    cases hfailure : exchange.isFailure with
    | true => rw [List.filter_cons_of_pos hfailure, List.flatMap_cons]
    | false =>
      rw [List.filter_cons_of_neg (by simp [hfailure]), Outcome.failures_eq_nil hfailure,
        List.nil_append]

/-- How the two lists of failures in a report go together.  Both are made of the exchanges that
failed in the last round, and each of these has its block in both. -/
structure FailuresAgree (size : Nat) (report : EmissionReport) (still : List Exchange) : Prop where
  failedRecords_eq : report.failedRecords = still.flatMap fun exchange => exchange.batch.records
  lastFailures_eq : report.lastFailures = still.flatMap fun exchange => exchange.outcome.failures
  /-- The failed records, cut by the size of batches, are cut into the batches they come from. -/
  blocks_eq : (Batch.partition size report.failedRecords).map Batch.records =
    still.map fun exchange => exchange.batch.records
  /-- Every block of records has at least one failure and at most one for each record. -/
  share : ∀ exchange ∈ still, 1 ≤ exchange.outcome.failures.length ∧
    exchange.outcome.failures.length ≤ exchange.batch.records.length
  empty_iff : report.failedRecords = [] ↔ report.lastFailures = []
  identifiers : (report.lastFailures.map FailedEntry.identifier).Sublist
    (report.failedRecords.map Record.identifier)

section Agree

variable {size : Nat} {report : EmissionReport} {still : List Exchange}
  (hrecords : ∀ exchange ∈ still, exchange.batch.records ≠ [])
  (hfailed : ∀ exchange ∈ still, exchange.isFailure = true)

include hrecords hfailed

theorem failedRecords_eq_nil_iff :
    (still.flatMap fun exchange => exchange.batch.records) = [] ↔
      (still.flatMap fun exchange => exchange.outcome.failures) = [] := by
  rw [List.flatMap_eq_nil_iff, List.flatMap_eq_nil_iff]
  refine forall₂_congr fun exchange hexchange => ?_
  have hne := Outcome.failures_ofReply_ne_nil (hrecords exchange hexchange) _
    (hfailed exchange hexchange)
  exact ⟨fun h => absurd h (hrecords exchange hexchange), fun h => absurd h hne⟩

/-- The lists agree when they come from exchanges that failed and whose batches are some of a
partition. -/
theorem failuresAgree_of_still {records : List Record} (hsize : 0 < size)
    (hbatches : (still.map Exchange.batch).Sublist (Batch.partition size records))
    (hfailedRecords : report.failedRecords =
      still.flatMap fun exchange => exchange.batch.records)
    (hlastFailures : report.lastFailures =
      still.flatMap fun exchange => exchange.outcome.failures) :
    FailuresAgree size report still := by
  have hidentifiers : ∀ exchange ∈ still,
      (exchange.outcome.failures.map FailedEntry.identifier).Sublist
        (exchange.batch.records.map Record.identifier) :=
    fun exchange hexchange => Outcome.identifiers_ofReply (hrecords exchange hexchange) _
  constructor
  case failedRecords_eq => exact hfailedRecords
  case lastFailures_eq => exact hlastFailures
  case blocks_eq =>
    have hblocks := Batch.partition_flatMap_records hsize hbatches
    rw [List.flatMap_map, List.map_map] at hblocks
    rw [hfailedRecords]
    exact hblocks
  case share =>
    intro exchange hexchange
    have hne := Outcome.failures_ofReply_ne_nil (hrecords exchange hexchange) _
      (hfailed exchange hexchange)
    have hle := (hidentifiers exchange hexchange).length_le
    rw [List.length_map, List.length_map] at hle
    exact ⟨List.length_pos_iff.2 hne, hle⟩
  case empty_iff =>
    rw [hfailedRecords, hlastFailures]
    exact failedRecords_eq_nil_iff hrecords hfailed
  case identifiers =>
    rw [hfailedRecords, hlastFailures, List.map_flatMap, List.map_flatMap]
    exact List.Sublist.flatMap_right still hidentifiers

end Agree

/-- In the report of every emission, whatever the replies of the bus, the failures of the last round
are a selection from the failed records, with a share for every batch that still failed. -/
theorem emit_failures_agree {σ : Type} (emitter : Emitter) (bus : Bus σ) (schedule : Schedule)
    (records : List Record) (state : σ) :
    ∃ called rounds,
      Rounds emitter.settings.maxRounds (Batch.partition emitter.settings.batchSize records)
        rounds ∧
      List.Forall₂ List.Perm called rounds ∧
      (emitter.emit bus.recorded schedule records (state, [])).2.2 =
        called.flatten.map (Exchange.call emitter) ∧
      FailuresAgree emitter.settings.batchSize (emitter.emit bus schedule records state).1
        (stillFailing (rounds.getLast?.getD [])) := by
  obtain ⟨called, rounds, next, hrounds, hperm, -, hrun, hrecorded⟩ :=
    emit_recorded emitter bus schedule records state
  have hsize := emitter.batchSize_pos
  -- The batches of the last round that failed are left over, so they stem from the partition.
  have hleftover := leftover_eq_failing emitter.maxRounds_pos hrounds
  have hbatches : ((stillFailing (rounds.getLast?.getD [])).map Exchange.batch).Sublist
      (Batch.partition emitter.settings.batchSize records) := by
    rw [map_batch_stillFailing, ← hleftover]
    exact hrounds.leftover_sublist
  refine ⟨called, rounds, hrounds, hperm, by rw [hrecorded], ?_⟩
  rw [hrun]
  refine failuresAgree_of_still ?_ ?_ hsize hbatches ?_ ?_
  · intro exchange hexchange
    exact Batch.records_ne_nil hsize (hbatches.subset (List.mem_map_of_mem hexchange))
  · exact fun exchange hexchange => (List.mem_filter.1 hexchange).2
  · rw [failedRecords_ofRounds emitter emitter.maxRounds_pos hrounds, hleftover,
      ← map_batch_stillFailing, List.flatMap_map]
  · rw [← failures_stillFailing]
    simp only [EmissionReport.ofRounds, getLast_submissions, List.flatMap_map]
    rfl

end Intake
