import Intake.Proofs.Emission.Accounting
import Mathlib.Data.List.Pairwise

/-!
# The details that calls carry

A call carries the details of one batch.  Where the details of all records are different, a call
tells which batch it was for, so the last call for a batch can be told from the calls alone, and
every record that is not reported was carried by a call that was accepted at last.
-/

namespace Intake

/-- The details of a batch. -/
def Batch.details (batch : Batch) : List String := batch.records.map Record.detail

def Call.details (call : Call) : List String := call.entries.map EventEntry.detail

@[simp]
theorem Exchange.details_call (emitter : Emitter) {exchange : Exchange} :
    (exchange.call emitter).details = exchange.batch.details := by
  simp only [Call.details, call, entries, Batch.entries, List.map_map]
  rfl

/-- Batches that share a record are one batch. -/
theorem Batch.eq_of_mem_records {size : Nat} (hsize : 0 < size) {records : List Record}
    (hnodup : records.Nodup) {a b : Batch} (ha : a ∈ partition size records)
    (hb : b ∈ partition size records) {record : Record} (hrecordA : record ∈ a.records)
    (hrecordB : record ∈ b.records) : a = b := by
  rw [← flatMap_records_partition hsize records, List.nodup_flatMap] at hnodup
  have hsymm : Std.Symm (Function.onFun List.Disjoint Batch.records) := by
    constructor
    intro left right hdisjoint shared hright hleft
    exact hdisjoint hleft hright
  apply Classical.byContradiction
  intro hne
  exact hnodup.2.forall ha hb hne hrecordA hrecordB

section Called

variable {emitter : Emitter} {records : List Record} {rounds called : List (List Exchange)}
  {left : Nat} {exchange : Exchange}
  (hrounds : Rounds left (Batch.partition emitter.settings.batchSize records) rounds)
  (hcalled : List.Forall₂ List.Perm called rounds)

include hrounds hcalled

theorem batch_mem_of_called (hexchange : exchange ∈ called.flatten) :
    exchange.batch ∈ Batch.partition emitter.settings.batchSize records := by
  obtain ⟨round, hround, hmem⟩ := exists_round_of_called hcalled hexchange
  exact hrounds.batch_mem hround hmem

theorem record_mem_of_called (hexchange : exchange ∈ called.flatten) {record : Record}
    (hrecord : record ∈ exchange.batch.records) : record ∈ records := by
  rw [Batch.mem_records_iff emitter.batchSize_pos]
  exact ⟨exchange.batch, batch_mem_of_called hrounds hcalled hexchange, hrecord⟩

/-- Calls that carry the same details are for the same batch. -/
theorem batch_eq_of_details (hdistinct : (records.map Record.detail).Nodup) {other : Exchange}
    (hexchange : exchange ∈ called.flatten) (hother : other ∈ called.flatten)
    (hdetails : (other.call emitter).details = (exchange.call emitter).details) :
    other.batch = exchange.batch := by
  have hsize := emitter.batchSize_pos
  have hbatch := batch_mem_of_called hrounds hcalled hexchange
  obtain ⟨record, hrecord⟩ := List.exists_mem_of_ne_nil _ (Batch.records_ne_nil hsize hbatch)
  rw [Exchange.details_call, Exchange.details_call] at hdetails
  have hdetail : record.detail ∈ other.batch.details := by
    rw [hdetails]
    exact List.mem_map_of_mem hrecord
  obtain ⟨shared, hshared, hsame⟩ := List.mem_map.1 hdetail
  have heq : shared = record := List.inj_on_of_nodup_map hdistinct
    (record_mem_of_called hrounds hcalled hother hshared)
    (record_mem_of_called hrounds hcalled hexchange hrecord) hsame
  rw [heq] at hshared
  exact Batch.eq_of_mem_records hsize (.of_map _ hdistinct)
    (batch_mem_of_called hrounds hcalled hother) hbatch hshared hrecord

end Called

/-- Every detail that an emission puts on the bus is that of one of its records. -/
theorem detail_of_emit {σ : Type} (emitter : Emitter) (bus : Bus σ) (schedule : Schedule)
    (records : List Record) (state : σ) :
    ∀ call ∈ (emitter.emit bus.recorded schedule records (state, [])).2.2,
      ∀ detail ∈ call.details, ∃ record ∈ records, record.detail = detail := by
  obtain ⟨called, rounds, next, hrounds, hperm, -, -, hrecorded⟩ :=
    emit_recorded emitter bus schedule records state
  rw [hrecorded]
  intro call hcall detail hdetail
  obtain ⟨exchange, hexchange, rfl⟩ := List.mem_map.1 hcall
  rw [Exchange.details_call] at hdetail
  obtain ⟨record, hrecord, rfl⟩ := List.mem_map.1 hdetail
  exact ⟨record, record_mem_of_called hrounds hperm hexchange hrecord, rfl⟩

/-- What the calls of an emission carry.  Every detail is that of a record, and the detail of a
record that is not reported is in a call that was accepted and that no call for the same batch
follows. -/
theorem emit_details {σ : Type} (emitter : Emitter) (bus : Bus σ) (schedule : Schedule)
    {records : List Record} (hdistinct : (records.map Record.detail).Nodup) (state : σ) :
    let calls := (emitter.emit bus.recorded schedule records (state, [])).2.2
    (∀ call ∈ calls, ∀ detail ∈ call.details, ∃ record ∈ records, record.detail = detail) ∧
      ∀ record ∈ records,
        record ∉ (emitter.emit bus schedule records state).1.failedRecords →
          ∃ before call after, calls = before ++ call :: after ∧ call.IsAccepted ∧
            (∀ later ∈ after, later.details ≠ call.details) ∧ record.detail ∈ call.details := by
  obtain ⟨called, rounds, next, hrounds, hperm, -, hrun, hrecorded⟩ :=
    emit_recorded emitter bus schedule records state
  have hsize := emitter.batchSize_pos
  have hsorted := Batch.pairwise_index_partition hsize records
  refine ⟨detail_of_emit emitter bus schedule records state, ?_⟩
  rw [hrun, hrecorded]
  intro record hrecord hkept
  rw [failedRecords_ofRounds emitter emitter.maxRounds_pos hrounds] at hkept
  obtain ⟨batch, hbatch, hmem⟩ := (Batch.mem_records_iff hsize).1 hrecord
  have hdone : batch ∉ leftover (Batch.partition emitter.settings.batchSize records) rounds :=
    fun hleft => hkept (List.mem_flatMap.2 ⟨batch, hleft, hmem⟩)
  obtain ⟨before, exchange, after, hsplit, rfl, haccepted, hlast⟩ :=
    hrounds.exists_accepted hperm hsorted hbatch hdone
  have hcalled : ∀ other ∈ exchange :: after, other ∈ called.flatten := by
    intro other hother
    rw [hsplit]
    exact List.mem_append_right _ hother
  refine ⟨before.map (Exchange.call emitter), exchange.call emitter,
    after.map (Exchange.call emitter), ?_, ?_, ?_, ?_⟩
  · rw [← List.map_cons, ← List.map_append, ← hsplit]
  · exact (Exchange.isAccepted_call_iff emitter (Batch.records_ne_nil hsize hbatch)).2 haccepted
  · intro call hcall heq
    obtain ⟨later, hlater, rfl⟩ := List.mem_map.1 hcall
    exact hlast later hlater (batch_eq_of_details hrounds hperm hdistinct
      (hcalled exchange List.mem_cons_self) (hcalled later (List.mem_cons_of_mem _ hlater)) heq)
  · rw [Exchange.details_call]
    exact List.mem_map_of_mem hmem

end Intake
