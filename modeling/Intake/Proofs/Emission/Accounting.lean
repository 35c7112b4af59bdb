import Intake.Proofs.Emission.Replies
import Mathlib.Data.List.Nodup
import Mathlib.Data.List.Perm.Basic

/-!
# What becomes of every record

A batch goes from round to round until it is accepted or the rounds run out, and a batch that was
accepted is never taken up again.  The batches that are left over are therefore those that failed in
every round, and every record lies in one that was accepted at last or is reported once.
-/

namespace Intake

/-- The batches that are still to be submitted after some rounds. -/
def leftover : List Batch → List (List Exchange) → List Batch
  | pending, [] => pending
  | _, round :: rounds => leftover (failing round) rounds

section Failing

variable {round : List Exchange} {batch : Batch}

theorem mem_failing_iff :
    batch ∈ failing round ↔
      ∃ exchange ∈ round, exchange.batch = batch ∧ exchange.isFailure = true := by
  simp only [failing, List.mem_map, List.mem_filter]
  constructor
  · rintro ⟨exchange, ⟨hmem, hfailure⟩, heq⟩
    exact ⟨exchange, hmem, heq, hfailure⟩
  · rintro ⟨exchange, hmem, heq, hfailure⟩
    exact ⟨exchange, ⟨hmem, hfailure⟩, heq⟩

/-- A round has one exchange for each of its batches. -/
theorem exchange_eq (hnodup : (round.map Exchange.batch).Nodup) {a b : Exchange} (ha : a ∈ round)
    (hb : b ∈ round) (hbatch : a.batch = b.batch) : a = b :=
  List.inj_on_of_nodup_map hnodup ha hb hbatch

theorem not_mem_failing (hnodup : (round.map Exchange.batch).Nodup) {exchange : Exchange}
    (hmem : exchange ∈ round) (haccepted : exchange.isFailure = false) :
    exchange.batch ∉ failing round := by
  intro hfailing
  obtain ⟨other, hother, hbatch, hfailure⟩ := mem_failing_iff.1 hfailing
  rw [exchange_eq hnodup hother hmem hbatch, haccepted] at hfailure
  cases hfailure

end Failing

theorem nodup_of_pairwise_index {batches : List Batch}
    (hsorted : batches.Pairwise fun a b => a.index < b.index) : batches.Nodup :=
  hsorted.imp fun hlt heq => by rw [heq] at hlt; exact Nat.lt_irrefl _ hlt

theorem exists_perm_of_mem {called rounds : List (List Exchange)}
    (hcalled : List.Forall₂ List.Perm called rounds) {round : List Exchange}
    (hround : round ∈ called) : ∃ original ∈ rounds, round.Perm original := by
  induction hcalled with
  | nil => cases hround
  | @cons first original rest originals hperm hrest ih =>
    rcases List.mem_cons.1 hround with hfirst | hlater
    · exact ⟨original, List.mem_cons_self, hfirst ▸ hperm⟩
    · obtain ⟨later, hmem, hpermLater⟩ := ih hlater
      exact ⟨later, List.mem_cons_of_mem _ hmem, hpermLater⟩

theorem exists_round_of_called {called rounds : List (List Exchange)}
    (hcalled : List.Forall₂ List.Perm called rounds) {exchange : Exchange}
    (hexchange : exchange ∈ called.flatten) : ∃ round ∈ rounds, exchange ∈ round := by
  obtain ⟨round, hround, hmem⟩ := List.mem_flatten.1 hexchange
  obtain ⟨original, horiginal, hperm⟩ := exists_perm_of_mem hcalled hround
  exact ⟨original, horiginal, hperm.mem_iff.1 hmem⟩

namespace Rounds

variable {left : Nat} {pending : List Batch} {rounds called : List (List Exchange)}
  {round next : List Exchange} {batch : Batch} {exchange : Exchange}

theorem length_le (hrounds : Rounds left pending rounds) : rounds.length ≤ left := by
  induction hrounds with
  | exhausted pending => exact Nat.le_refl 0
  | finished left => exact Nat.zero_le left
  | round hbatches hpending hrest ih => exact Nat.succ_le_succ ih

/-- Rounds end early only when no batch is left over. -/
theorem leftover_eq_nil (hrounds : Rounds left pending rounds) (hearly : rounds.length < left) :
    leftover pending rounds = [] := by
  induction hrounds with
  | exhausted pending => exact absurd hearly (Nat.lt_irrefl 0)
  | finished left => rfl
  | round hbatches hpending hrest ih => exact ih (Nat.lt_of_succ_lt_succ hearly)

theorem leftover_sublist (hrounds : Rounds left pending rounds) :
    (leftover pending rounds).Sublist pending := by
  induction hrounds with
  | exhausted pending => exact List.Sublist.refl _
  | finished left => exact List.Sublist.refl _
  | @round left pending round rounds hbatches hpending hrest ih =>
    exact ih.trans (hbatches ▸ failing_sublist round)

/-- No round takes up a batch that was not pending. -/
theorem batch_mem (hrounds : Rounds left pending rounds) (hround : round ∈ rounds)
    (hexchange : exchange ∈ round) : exchange.batch ∈ pending := by
  induction hrounds with
  | exhausted pending => cases hround
  | finished left => cases hround
  | @round left pending first rounds hbatches hpending hrest ih =>
    rcases List.mem_cons.1 hround with hfirst | hlater
    · rw [← hbatches, ← hfirst]
      exact List.mem_map_of_mem hexchange
    · rw [← hbatches]
      exact (failing_sublist first).subset (ih hlater)

/-- The batches of a round are different. -/
theorem nodup_batches (hrounds : Rounds left pending rounds)
    (hsorted : pending.Pairwise fun a b => a.index < b.index) (hround : round ∈ rounds) :
    (round.map Exchange.batch).Nodup := by
  induction hrounds with
  | exhausted pending => cases hround
  | finished left => cases hround
  | @round left pending first rounds hbatches hpending hrest ih =>
    rcases List.mem_cons.1 hround with hfirst | hlater
    · rw [hfirst, hbatches]
      exact nodup_of_pairwise_index hsorted
    · rw [← hbatches] at hsorted
      exact ih (hsorted.sublist (failing_sublist first)) hlater

/-- What is left over failed in every round. -/
theorem mem_leftover_iff (hrounds : Rounds left pending rounds) :
    batch ∈ leftover pending rounds ↔
      batch ∈ pending ∧ ∀ round ∈ rounds, batch ∈ failing round := by
  induction hrounds with
  | exhausted pending => simp [leftover]
  | finished left => simp [leftover]
  | @round left pending first rounds hbatches hpending hrest ih =>
    rw [leftover, ih, List.forall_mem_cons]
    constructor
    · rintro ⟨hfailing, hrounds⟩
      exact ⟨hbatches ▸ (failing_sublist first).subset hfailing, hfailing, hrounds⟩
    · rintro ⟨-, hfailing, hrounds⟩
      exact ⟨hfailing, hrounds⟩

/-- What is left over failed in every one of all rounds. -/
theorem mem_leftover_iff_exhausted (hrounds : Rounds left pending rounds) :
    batch ∈ leftover pending rounds ↔
      batch ∈ pending ∧ rounds.length = left ∧ ∀ round ∈ rounds, batch ∈ failing round := by
  constructor
  · intro hmem
    obtain ⟨hbatch, hall⟩ := hrounds.mem_leftover_iff.1 hmem
    refine ⟨hbatch, Nat.le_antisymm hrounds.length_le (Nat.le_of_not_lt ?_), hall⟩
    intro hearly
    rw [hrounds.leftover_eq_nil hearly] at hmem
    cases hmem
  · rintro ⟨hbatch, -, hall⟩
    exact hrounds.mem_leftover_iff.2 ⟨hbatch, hall⟩

/-- The first round submits what is pending. -/
theorem first_batches (hrounds : Rounds left pending (round :: rounds)) :
    round.map Exchange.batch = pending := by
  cases hrounds with
  | round hbatches hpending hrest => exact hbatches

/-- Every later round submits what failed in the round before. -/
theorem next_batches (hrounds : Rounds left pending rounds) {k : Nat}
    (hround : rounds[k]? = some round) (hnext : rounds[k + 1]? = some next) :
    next.map Exchange.batch = failing round := by
  induction hrounds generalizing k with
  | exhausted pending => cases hround
  | finished left => cases hround
  | @round left pending first rounds hbatches hpending hrest ih =>
    cases k with
    | zero =>
      cases hround
      cases rounds with
      | nil => cases hnext
      | cons second rounds =>
        cases hnext
        exact hrest.first_batches
    | succ k => exact ih hround hnext

/-- A round is made when there are batches for it and the bound allows one. -/
theorem length_pos_iff (hrounds : Rounds left pending rounds) :
    0 < rounds.length ↔ pending ≠ [] ∧ 0 < left := by
  cases hrounds with
  | exhausted pending => simp
  | finished left => simp
  | round hbatches hpending hrest => simp [hpending]

theorem eq_nil_iff (hrounds : Rounds left pending rounds) (hleft : 0 < left) :
    rounds = [] ↔ pending = [] := by
  have hpos := hrounds.length_pos_iff
  rw [List.length_pos_iff, and_iff_left hleft] at hpos
  exact not_iff_not.1 hpos

/-- There is another round exactly when a batch failed and the bound allows it. -/
theorem next_round_iff (hrounds : Rounds left pending rounds) {k : Nat}
    (hround : rounds[k]? = some round) :
    k + 1 < rounds.length ↔ failing round ≠ [] ∧ k + 1 < left := by
  induction hrounds generalizing k with
  | exhausted pending => cases hround
  | finished left => cases hround
  | @round left pending first rounds hbatches hpending hrest ih =>
    cases k with
    | zero =>
      obtain rfl : first = round := Option.some.inj hround
      simpa only [List.length_cons, Nat.add_lt_add_iff_right] using hrest.length_pos_iff
    | succ k =>
      have hlater := ih hround
      simp only [List.length_cons, Nat.add_lt_add_iff_right]
      exact hlater

/-- A batch that was accepted is not taken up again. -/
theorem not_resubmitted (hrounds : Rounds left pending rounds)
    (hsorted : pending.Pairwise fun a b => a.index < b.index) {i j : Nat} (hlt : i < j)
    (hround : rounds[i]? = some round) (hnext : rounds[j]? = some next)
    {later : Exchange} (hexchange : exchange ∈ round) (haccepted : exchange.isFailure = false)
    (hlater : later ∈ next) : later.batch ≠ exchange.batch := by
  induction hrounds generalizing i j with
  | exhausted pending => cases hround
  | finished left => cases hround
  | @round left pending first rounds hbatches hpending hrest ih =>
    cases j with
    | zero => exact absurd hlt (Nat.not_lt_zero i)
    | succ j =>
      cases i with
      | zero =>
        obtain rfl : first = round := Option.some.inj hround
        intro heq
        have hnodup : (first.map Exchange.batch).Nodup := by
          rw [hbatches]
          exact nodup_of_pairwise_index hsorted
        have hfailing := hrest.batch_mem (List.mem_of_getElem? hnext) hlater
        rw [heq] at hfailing
        exact not_mem_failing hnodup hexchange haccepted hfailing
      | succ i =>
        have hfailing : (failing first).Pairwise fun a b => a.index < b.index :=
          hsorted.sublist (hbatches ▸ failing_sublist first)
        exact ih hfailing (Nat.lt_of_succ_lt_succ hlt) hround hnext

/-- No round has more exchanges than there were batches. -/
theorem length_flatten_le (hrounds : Rounds left pending rounds) :
    rounds.flatten.length ≤ pending.length * left := by
  induction hrounds with
  | exhausted pending => exact Nat.zero_le _
  | finished left => exact Nat.zero_le _
  | @round left pending first rounds hbatches hpending hrest ih =>
    have hfirst : first.length = pending.length := by rw [← hbatches, List.length_map]
    have hfailing := (failing_sublist first).length_le
    rw [hbatches] at hfailing
    have hlater := Nat.le_trans ih (Nat.mul_le_mul_right left hfailing)
    rw [List.flatten_cons, List.length_append, Nat.mul_succ, hfirst]
    omega

/-- A batch that is not left over was accepted by its last call. -/
theorem exists_accepted (hrounds : Rounds left pending rounds)
    (hcalled : List.Forall₂ List.Perm called rounds)
    (hsorted : pending.Pairwise fun a b => a.index < b.index) (hbatch : batch ∈ pending)
    (hdone : batch ∉ leftover pending rounds) :
    ∃ before exchange after, called.flatten = before ++ exchange :: after ∧
      exchange.batch = batch ∧ exchange.isFailure = false ∧
        ∀ later ∈ after, later.batch ≠ batch := by
  induction hrounds generalizing called with
  | exhausted pending => exact absurd hbatch hdone
  | finished left => exact absurd hbatch hdone
  | @round left pending first rounds hbatches hpending hrest ih =>
    cases hcalled with
    | @cons firstCalled _ laterCalled _ hperm hcalledRest =>
      rw [List.flatten_cons]
      have hfailing : (failing first).Pairwise fun a b => a.index < b.index :=
        hsorted.sublist (hbatches ▸ failing_sublist first)
      by_cases hagain : batch ∈ failing first
      · obtain ⟨before, exchange, after, heq, hlast⟩ := ih hcalledRest hfailing hagain hdone
        exact ⟨firstCalled ++ before, exchange, after, by rw [heq, List.append_assoc], hlast⟩
      · rw [← hbatches] at hbatch
        obtain ⟨exchange, hexchange, rfl⟩ := List.mem_map.1 hbatch
        obtain ⟨before, after, hsplit⟩ := List.append_of_mem (hperm.mem_iff.2 hexchange)
        have haccepted : exchange.isFailure = false := by
          cases hfailure : exchange.isFailure with
          | false => rfl
          | true => exact absurd (mem_failing_iff.2 ⟨exchange, hexchange, rfl, hfailure⟩) hagain
        refine ⟨before, exchange, after ++ laterCalled.flatten, ?_, rfl, haccepted, ?_⟩
        · rw [hsplit, List.append_assoc, List.cons_append]
        · intro later hlater heq
          rcases List.mem_append.1 hlater with hsame | hlaterRound
          · have hnodup : (firstCalled.map Exchange.batch).Nodup := by
              rw [(hperm.map Exchange.batch).nodup_iff, hbatches]
              exact nodup_of_pairwise_index hsorted
            rw [hsplit, List.map_append, List.map_cons, List.nodup_append] at hnodup
            exact (List.nodup_cons.1 hnodup.2.1).1 (heq ▸ List.mem_map_of_mem hsame)
          · obtain ⟨round, hround, hmem⟩ := exists_round_of_called hcalledRest hlaterRound
            exact hagain (heq ▸ hrest.batch_mem hround hmem)

end Rounds

/-- The last call for the batch that a position lies in was accepted. -/
def AcceptedAtLast (size : Nat) (exchanges : List Exchange) (position : Nat) : Prop :=
  ∃ before exchange after, exchanges = before ++ exchange :: after ∧
    exchange.batch.index = position / size ∧ exchange.isFailure = false ∧
      ∀ later ∈ after, later.batch.index ≠ exchange.batch.index

/-- How the calls of an emission, in the order in which they were made, and its report follow from
what became of the batches in each round. -/
structure Accounted (emitter : Emitter) (records : List Record) (calls : List Call)
    (report : EmissionReport) (called rounds : List (List Exchange)) : Prop where
  /-- The calls are those of the rounds, one round after the other. -/
  calls_eq : calls = called.flatten.map (Exchange.call emitter)
  /-- A call carries one entry for each record of its batch, in order and with the record's text. -/
  carried : ∀ exchange ∈ called.flatten, (exchange.call emitter).entries =
    exchange.batch.records.map fun record =>
      { busName := emitter.settings.busName
        resources := [emitter.context.correlationToken]
        detailType := emitter.context.detailType
        time := exchange.time
        detail := record.payload.render
        source := emitter.context.source }
  /-- A submission fails exactly if its call is not accepted: there is no response, or the response
  counts a failure or gives an entry an error code. -/
  accepted_iff : ∀ exchange ∈ called.flatten,
    (exchange.isFailure = false ↔ (exchange.call emitter).IsAccepted)
  called_perm : List.Forall₂ List.Perm called rounds
  called_eq : emitter.settings.parallel = false → called = rounds
  /-- The first round submits every batch once and in order. -/
  first_round : ∀ round, rounds[0]? = some round →
    round.map Exchange.batch = Batch.partition emitter.settings.batchSize records
  /-- The next round submits exactly what failed, in the same order. -/
  next_round : ∀ (k : Nat) (round next : List Exchange), rounds[k]? = some round →
    rounds[k + 1]? = some next → next.map Exchange.batch = failing round
  /-- A batch that was accepted is not submitted again. -/
  accepted_once : ∀ (i j : Nat) (round next : List Exchange), i < j → rounds[i]? = some round →
    rounds[j]? = some next → ∀ exchange ∈ round, exchange.isFailure = false →
      ∀ later ∈ next, later.batch ≠ exchange.batch
  /-- The rounds go on as long as a batch failed and the bound is not reached. -/
  goes_on_iff : ∀ (k : Nat) (round : List Exchange), rounds[k]? = some round →
    (k + 1 < rounds.length ↔ failing round ≠ [] ∧ k + 1 < emitter.settings.maxRounds)
  rounds_le : rounds.length ≤ emitter.settings.maxRounds
  no_round_iff : rounds = [] ↔ records = []
  total_eq : report.totalRecords = records.length
  rounds_eq : report.rounds = rounds.length
  submissions_eq : report.submissions = calls.length
  submissions_le : calls.length ≤
    (records.length + emitter.settings.batchSize - 1) / emitter.settings.batchSize *
      emitter.settings.maxRounds
  /-- The records reported are those of the batches that failed in every one of all rounds. -/
  failed_eq : ∃ failed : List Batch,
    failed.Sublist (Batch.partition emitter.settings.batchSize records) ∧
    (∀ batch, batch ∈ failed ↔
      batch ∈ Batch.partition emitter.settings.batchSize records ∧
        rounds.length = emitter.settings.maxRounds ∧ ∀ round ∈ rounds, batch ∈ failing round) ∧
    report.failedRecords = failed.flatMap Batch.records
  /-- Every record is in a batch that was accepted at last, or reported at one place. -/
  lost_eq : ∃ lost : List Nat, lost.Pairwise (· < ·) ∧
    lost.map (fun position => records[position]?) = report.failedRecords.map some ∧
    ∀ position < records.length, position ∈ lost ↔
      ¬AcceptedAtLast emitter.settings.batchSize called.flatten position
  complete_of_early : report.rounds < emitter.settings.maxRounds → report.failedRecords = []

section Account

variable {emitter : Emitter} {records : List Record} {rounds called : List (List Exchange)}

/-- What is left over after some rounds is what failed in the last of them. -/
theorem leftover_eq_failing {pending : List Batch} {left : Nat} (hleft : 0 < left)
    (hrounds : Rounds left pending rounds) :
    leftover pending rounds = failing (rounds.getLast?.getD []) := by
  have hlast : ∀ (round : List Exchange) (rounds : List (List Exchange)) (pending : List Batch),
      leftover pending (round :: rounds) =
        failing ((round :: rounds).getLast (List.cons_ne_nil _ _)) := by
    intro round rounds
    induction rounds generalizing round with
    | nil => exact fun _ => rfl
    | cons next rounds ih =>
      intro pending
      rw [leftover, ih, List.getLast_cons (List.cons_ne_nil _ _)]
  cases rounds with
  | nil =>
    cases hrounds with
    | exhausted pending => exact absurd hleft (Nat.lt_irrefl 0)
    | finished left => rfl
  | cons round rounds =>
    rw [hlast, List.getLast?_eq_getLast_of_ne_nil (List.cons_ne_nil _ _), Option.getD_some]

variable (emitter) in
/-- The last of the submitted rounds is what was submitted in the last round. -/
theorem getLast_submissions (rounds : List (List Exchange)) :
    (rounds.map fun round => round.map (Exchange.submission emitter)).getLast?.getD [] =
      (rounds.getLast?.getD []).map (Exchange.submission emitter) := by
  rw [List.getLast?_map]
  cases rounds.getLast? <;> rfl

variable (emitter) in
theorem failedRecords_ofRounds {pending : List Batch} {left : Nat} (hleft : 0 < left)
    (hrounds : Rounds left pending rounds) (total : Nat) :
    (EmissionReport.ofRounds total
      (rounds.map fun round => round.map (Exchange.submission emitter))).failedRecords =
        (leftover pending rounds).flatMap Batch.records := by
  simp only [EmissionReport.ofRounds, getLast_submissions, failing_submissions,
    leftover_eq_failing hleft hrounds]

section Positions

variable {size left : Nat} (hsize : 0 < size)
  (hrounds : Rounds left (Batch.partition size records) rounds)
  (hcalled : List.Forall₂ List.Perm called rounds)

include hsize hrounds hcalled

theorem eq_cut_of_called {exchange : Exchange} (hexchange : exchange ∈ called.flatten) :
    ∃ round ∈ rounds, exchange ∈ round ∧
      exchange.batch = Batch.cut size records exchange.batch.index := by
  obtain ⟨round, hround, hmem⟩ := exists_round_of_called hcalled hexchange
  exact ⟨round, hround, hmem, (Batch.eq_cut_of_mem hsize (hrounds.batch_mem hround hmem)).1⟩

/-- The batch with a number is left over exactly when its last call was not accepted. -/
theorem cut_mem_leftover_iff {index : Nat} (hindex : index < Batch.count size records.length) :
    Batch.cut size records index ∈ leftover (Batch.partition size records) rounds ↔
      ¬∃ before exchange after, called.flatten = before ++ exchange :: after ∧
        exchange.batch.index = index ∧ exchange.isFailure = false ∧
          ∀ later ∈ after, later.batch.index ≠ exchange.batch.index := by
  have hsorted := Batch.pairwise_index_partition hsize records
  constructor
  · rintro hleft ⟨before, exchange, after, hsplit, rfl, haccepted, -⟩
    have hexchange : exchange ∈ called.flatten := by
      rw [hsplit]
      exact List.mem_append_right _ List.mem_cons_self
    obtain ⟨round, hround, hmem, hbatch⟩ := eq_cut_of_called hsize hrounds hcalled hexchange
    have hfailing := (hrounds.mem_leftover_iff.1 hleft).2 round hround
    rw [← hbatch] at hfailing
    exact not_mem_failing (hrounds.nodup_batches hsorted hround) hmem haccepted hfailing
  · intro hnone
    apply Classical.byContradiction
    intro hdone
    obtain ⟨before, exchange, after, hsplit, hbatch, haccepted, hlast⟩ :=
      hrounds.exists_accepted hcalled hsorted (Batch.cut_mem hsize hindex) hdone
    have hindexEq : exchange.batch.index = index := by rw [hbatch, Batch.cut]
    refine hnone ⟨before, exchange, after, hsplit, hindexEq, haccepted, ?_⟩
    intro later hlater heq
    have hcalledLater : later ∈ called.flatten := by
      rw [hsplit]
      exact List.mem_append_right _ (List.mem_cons_of_mem _ hlater)
    obtain ⟨-, -, -, hcut⟩ := eq_cut_of_called hsize hrounds hcalled hcalledLater
    apply hlast later hlater
    rw [hcut, heq, hindexEq]

theorem mem_positions_leftover_iff {position : Nat} (hposition : position < records.length) :
    position ∈ (leftover (Batch.partition size records) rounds).flatMap (Batch.positions size) ↔
      ¬AcceptedAtLast size called.flatten position := by
  have hindex : position / size < Batch.count size records.length := by
    rw [Batch.count_le_iff hsize]
    exact Nat.lt_of_le_of_lt (Nat.div_mul_le_self _ _) hposition
  rw [AcceptedAtLast, ← cut_mem_leftover_iff hsize hrounds hcalled hindex, List.mem_flatMap]
  constructor
  · rintro ⟨batch, hbatch, hmem⟩
    have hpartition := hrounds.leftover_sublist.subset hbatch
    obtain ⟨-, hdiv⟩ := (Batch.mem_positions_iff hsize hpartition).1 hmem
    rw [hdiv, ← (Batch.eq_cut_of_mem hsize hpartition).1]
    exact hbatch
  · intro hleft
    refine ⟨_, hleft, ?_⟩
    exact (Batch.mem_positions_iff hsize (Batch.cut_mem hsize hindex)).2 ⟨hposition, rfl⟩

/-- The records that are left over lie at the positions that no last call was accepted for. -/
theorem exists_lost : ∃ lost : List Nat, lost.Pairwise (· < ·) ∧
    lost.map (fun position => records[position]?) =
      ((leftover (Batch.partition size records) rounds).flatMap Batch.records).map some ∧
    ∀ position < records.length, position ∈ lost ↔
      ¬AcceptedAtLast size called.flatten position := by
  have hleft := hrounds.leftover_sublist
  refine ⟨(leftover (Batch.partition size records) rounds).flatMap (Batch.positions size),
    Batch.pairwise_positions hsize hleft, ?_, ?_⟩
  · rw [List.map_flatMap, List.map_flatMap]
    apply List.flatMap_congr
    intro batch hbatch
    exact Batch.getElem?_positions hsize (hleft.subset hbatch)
  · intro position hposition
    exact mem_positions_leftover_iff hsize hrounds hcalled hposition

end Positions

end Account

/-- Every emission, in whatever order and with whatever replies the bus is called, accounts for
every batch and every record. -/
theorem emit_accounted {σ : Type} (emitter : Emitter) (bus : Bus σ) (schedule : Schedule)
    (records : List Record) (state : σ) :
    ∃ called rounds,
      Accounted emitter records (emitter.emit bus.recorded schedule records (state, [])).2.2
        (emitter.emit bus schedule records state).1 called rounds := by
  obtain ⟨called, rounds, next, hrounds, hperm, horder, hrun, hrecorded⟩ :=
    emit_recorded emitter bus schedule records state
  have hsize := emitter.batchSize_pos
  have hmax := emitter.maxRounds_pos
  have hsorted := Batch.pairwise_index_partition hsize records
  have hfailed := failedRecords_ofRounds emitter hmax hrounds records.length
  have hlength : called.flatten.length = rounds.flatten.length :=
    (List.Perm.flatten_congr hperm).length_eq
  have hcount : (Batch.partition emitter.settings.batchSize records).length =
      (records.length + emitter.settings.batchSize - 1) / emitter.settings.batchSize := by
    rw [Batch.partition_eq hsize, List.length_map, List.length_range, Batch.count]
  rw [hrun, hrecorded]
  refine ⟨called, rounds, ?_⟩
  constructor
  case calls_eq => rfl
  case carried => exact fun exchange _ => rfl
  case accepted_iff =>
    intro exchange hexchange
    obtain ⟨round, hround, hmem⟩ := exists_round_of_called hperm hexchange
    have hrecords := Batch.records_ne_nil hsize (hrounds.batch_mem hround hmem)
    exact (Exchange.isAccepted_call_iff emitter hrecords).symm
  case called_perm => exact hperm
  case called_eq => exact horder
  case first_round =>
    intro round hround
    cases rounds with
    | nil => cases hround
    | cons first rounds =>
      obtain rfl : first = round := Option.some.inj hround
      exact hrounds.first_batches
  case next_round =>
    intro k round next hround hnext
    exact hrounds.next_batches hround hnext
  case accepted_once =>
    intro i j round next hlt hround hnext exchange hexchange haccepted later hlater
    exact hrounds.not_resubmitted hsorted hlt hround hnext hexchange haccepted hlater
  case goes_on_iff => exact fun k round hround => hrounds.next_round_iff hround
  case rounds_le => exact hrounds.length_le
  case no_round_iff =>
    rw [hrounds.eq_nil_iff hmax, Batch.partition_eq_nil_iff hsize]
  case total_eq => rfl
  case rounds_eq => exact List.length_map _
  case submissions_eq =>
    rw [List.length_map, hlength, List.length_flatten]
    simp [EmissionReport.ofRounds, Function.comp_def]
  case submissions_le =>
    rw [List.length_map, hlength, ← hcount]
    exact hrounds.length_flatten_le
  case failed_eq =>
    exact ⟨leftover (Batch.partition emitter.settings.batchSize records) rounds,
      hrounds.leftover_sublist, fun batch => hrounds.mem_leftover_iff_exhausted, hfailed⟩
  case lost_eq =>
    rw [hfailed]
    exact exists_lost hsize hrounds hperm
  case complete_of_early =>
    intro hearly
    have hlt : rounds.length < emitter.settings.maxRounds := by
      rw [← List.length_map fun round => round.map (Exchange.submission emitter)]
      exact hearly
    rw [hfailed, hrounds.leftover_eq_nil hlt, List.flatMap_nil]

end Intake
