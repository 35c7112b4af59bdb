import Intake.Emission.BusClient
import Intake.Proofs.Emission.Trace

/-!
# What the replies of the bus service mean

A reply counts the refused entries and gives results by place, and the two need not agree: the count
may be negative, and there may be fewer or more results than entries.  A batch has failed as soon as
one of them says so.  Results that lie within the batch and have an error code name the records that
failed; without any, all records of a batch that failed are named.
-/

namespace Intake

section Places

/-- The place lies within the first `size` ones and its result has an error code. -/
def HasCode (size : Nat) (results : List EntryResult) (place : Nat) : Prop :=
  place < size ∧ ∃ result code, results[place]? = some result ∧ result.errorCode = some code

/-- The failure says of the record at a place what the result at that place says. -/
def Tells (records : List Record) (results : List EntryResult) (place : Nat)
    (failure : FailedEntry) : Prop :=
  ∃ record result, records[place]? = some record ∧ results[place]? = some result ∧
    failure.identifier = record.identifier ∧ result.errorCode = some failure.code ∧
    failure.message = result.errorMessage.getD ""

/-- The failures are those of the places that have an error code, in order. -/
def AreAttributed (records : List Record) (results : List EntryResult)
    (failures : List FailedEntry) : Prop :=
  ∃ places : List Nat, places.Pairwise (· < ·) ∧
    (∀ place, place ∈ places ↔ HasCode records.length results place) ∧
    List.Forall₂ (Tells records results) places failures

variable {record : Record} {result : EntryResult} {records : List Record}
  {results : List EntryResult}

theorem hasCode_zero_iff {size : Nat} :
    HasCode (size + 1) (result :: results) 0 ↔ ∃ code, result.errorCode = some code := by
  simp [HasCode]

theorem hasCode_succ_iff {size place : Nat} :
    HasCode (size + 1) (result :: results) (place + 1) ↔ HasCode size results place := by
  simp [HasCode]

theorem tells_zero {code : String} (hcode : result.errorCode = some code) :
    Tells (record :: records) (result :: results) 0
      ⟨record.identifier, code, result.errorMessage.getD ""⟩ :=
  ⟨record, result, rfl, rfl, rfl, hcode, rfl⟩

theorem tells_succ_iff {place : Nat} {failure : FailedEntry} :
    Tells (record :: records) (result :: results) (place + 1) failure ↔
      Tells records results place failure := by
  simp [Tells]

/-- The places of a longer list are its first one, if that has an error code, and those of the rest
one further on. -/
theorem areAttributed_cons {failures : List FailedEntry}
    (hrest : AreAttributed records results failures) :
    AreAttributed (record :: records) (result :: results)
      ((result.errorCode.map fun code =>
        ⟨record.identifier, code, result.errorMessage.getD ""⟩).toList ++ failures) := by
  obtain ⟨places, hsorted, hmem, htells⟩ := hrest
  have hlater : (places.map (· + 1)).Pairwise (· < ·) :=
    List.pairwise_map.2 (hsorted.imp Nat.succ_lt_succ)
  have htellsLater : List.Forall₂ (Tells (record :: records) (result :: results))
      (places.map (· + 1)) failures :=
    List.forall₂_map_left_iff.2 (htells.imp fun place failure h => tells_succ_iff.2 h)
  have hmemLater : ∀ place, place + 1 ∈ places.map (· + 1) ↔
      HasCode (record :: records).length (result :: results) (place + 1) := by
    intro place
    rw [List.length_cons, hasCode_succ_iff, ← hmem]
    simp
  have hfirst : HasCode (record :: records).length (result :: results) 0 ↔
      ∃ code, result.errorCode = some code := hasCode_zero_iff
  cases hcode : result.errorCode with
  | none =>
    refine ⟨places.map (· + 1), hlater, ?_, htellsLater⟩
    rintro (_ | place)
    · rw [hfirst, hcode]
      simp
    · exact hmemLater place
  | some code =>
    refine ⟨0 :: places.map (· + 1), List.pairwise_cons.2 ⟨?_, hlater⟩, ?_,
      .cons (tells_zero hcode) htellsLater⟩
    · intro place hplace
      obtain ⟨before, -, rfl⟩ := List.mem_map.1 hplace
      exact Nat.succ_pos before
    · rintro (_ | place)
      · rw [hfirst, hcode]
        simp
      · rw [List.mem_cons, or_iff_right (Nat.succ_ne_zero place)]
        exact hmemLater place

end Places

namespace Outcome

theorem attributed_cons (record : Record) (result : EntryResult) (records : List Record)
    (results : List EntryResult) :
    attributed (record :: records) (result :: results) =
      (result.errorCode.map fun code =>
        ⟨record.identifier, code, result.errorMessage.getD ""⟩).toList ++
          attributed records results := by
  unfold attributed
  cases hcode : result.errorCode <;> simp [hcode]

theorem areAttributed (records : List Record) (results : List EntryResult) :
    AreAttributed records results (attributed records results) := by
  induction records generalizing results with
  | nil => exact ⟨[], .nil, by simp [HasCode], .nil⟩
  | cons record records ih =>
    cases results with
    | nil => exact ⟨[], .nil, by simp [HasCode], .nil⟩
    | cons result results =>
      rw [attributed_cons]
      exact areAttributed_cons (ih results)

theorem attributed_eq_nil_iff {records : List Record} {results : List EntryResult} :
    attributed records results = [] ↔ ∀ pair ∈ records.zip results, pair.2.errorCode = none := by
  simp only [attributed, List.filterMap_eq_nil_iff, Option.map_eq_none_iff]

theorem attributed_ne_nil_iff {records : List Record} {results : List EntryResult} :
    attributed records results ≠ [] ↔ ∃ place, HasCode records.length results place := by
  obtain ⟨places, -, hmem, htells⟩ := areAttributed records results
  have hempty : attributed records results = [] ↔ places = [] := by
    rw [← List.length_eq_zero_iff, ← htells.length_eq, List.length_eq_zero_iff]
  rw [Ne, hempty, List.eq_nil_iff_forall_not_mem, not_forall_not]
  exact exists_congr hmem

/-- Results beyond the records are not looked at. -/
theorem attributed_take (records : List Record) (results : List EntryResult) :
    attributed records (results.take records.length) = attributed records results := by
  induction records generalizing results with
  | nil => rfl
  | cons record records ih =>
    cases results with
    | nil => rfl
    | cons result results =>
      rw [List.length_cons, List.take_succ_cons, attributed_cons, attributed_cons, ih]

section OfResponse

variable {batch : Batch} (hrecords : batch.records ≠ [])

include hrecords

/-- What a response can make of a batch with records. -/
theorem ofResponse_cases (response : PublishResponse) :
    (attributed batch.records response.results ≠ [] ∧
      ofResponse batch response = .failed batch (attributed batch.records response.results)) ∨
    (attributed batch.records response.results = [] ∧ 0 < response.failedCount ∧
      ofResponse batch response = .failed batch (wholeBatch batch.records "UnattributedFailure"
        (toString response.failedCount ++ " entries failed without per-entry results"))) ∨
    (attributed batch.records response.results = [] ∧ response.failedCount = 0 ∧
      ofResponse batch response = .accepted batch) := by
  have hwhole : ∀ code message, wholeBatch batch.records code message ≠ [] :=
    fun code message => mt List.map_eq_nil_iff.1 hrecords
  by_cases hattributed : attributed batch.records response.results = []
  · rcases Nat.eq_zero_or_pos response.failedCount with hcount | hcount
    · exact .inr (.inr ⟨hattributed, hcount, by simp [ofResponse, hattributed, hcount]⟩)
    · exact .inr (.inl ⟨hattributed, hcount, by simp [ofResponse, hattributed, hcount, hwhole]⟩)
  · exact .inl ⟨hattributed, by simp [ofResponse, hattributed]⟩

/-- What a reply can make of a batch with records. -/
theorem ofReply_cases (reply : Except PublishError PublishResponse) :
    (∃ results, attributed batch.records results ≠ [] ∧
      ofReply batch reply = .failed batch (attributed batch.records results)) ∨
    (∃ code message, ofReply batch reply = .failed batch (wholeBatch batch.records code message)) ∨
    ofReply batch reply = .accepted batch := by
  cases reply with
  | error error => exact .inr (.inl ⟨_, _, rfl⟩)
  | ok response =>
    obtain ⟨hattributed, heq⟩ | ⟨-, -, heq⟩ | ⟨-, -, heq⟩ := ofResponse_cases hrecords response
    · exact .inl ⟨_, hattributed, heq⟩
    · exact .inr (.inl ⟨_, _, heq⟩)
    · exact .inr (.inr heq)

theorem isFailure_ofResponse (response : PublishResponse) :
    (ofResponse batch response).isFailure = false ↔
      attributed batch.records response.results = [] ∧ response.failedCount = 0 := by
  obtain ⟨hattributed, heq⟩ | ⟨-, hcount, heq⟩ | ⟨hattributed, hcount, heq⟩ :=
    ofResponse_cases hrecords response
  · rw [heq]
    exact ⟨fun h => Bool.noConfusion h, fun h => absurd h.1 hattributed⟩
  · rw [heq]
    exact ⟨fun h => Bool.noConfusion h, fun h => absurd h.2 (Nat.ne_of_gt hcount)⟩
  · rw [heq]
    exact ⟨fun _ => ⟨hattributed, hcount⟩, fun _ => rfl⟩

/-- A batch that failed has a failure. -/
theorem failures_ofReply_ne_nil (reply : Except PublishError PublishResponse)
    (hfailure : (ofReply batch reply).isFailure = true) : (ofReply batch reply).failures ≠ [] := by
  obtain ⟨results, hattributed, heq⟩ | ⟨code, message, heq⟩ | heq := ofReply_cases hrecords reply
  · rw [heq]
    exact hattributed
  · rw [heq]
    exact mt List.map_eq_nil_iff.1 hrecords
  · rw [heq] at hfailure
    cases hfailure

end OfResponse

end Outcome

/-- The bus took every entry of a call: it replied, counted no failure and gave no entry an error
code. -/
def Call.IsAccepted (call : Call) : Prop :=
  ∃ response, call.reply = .ok response ∧ response.failedCount = 0 ∧
    ∀ pair ∈ call.entries.zip response.results, pair.2.errorCode = none

/-- An outcome is an acceptance exactly if the call was accepted. -/
theorem Exchange.isAccepted_call_iff (emitter : Emitter) {exchange : Exchange}
    (hrecords : exchange.batch.records ≠ []) :
    (exchange.call emitter).IsAccepted ↔ exchange.isFailure = false := by
  have hzip : ∀ results : List EntryResult,
      (∀ pair ∈ (exchange.entries emitter).zip results, pair.2.errorCode = none) ↔
        Outcome.attributed exchange.batch.records results = [] := by
    intro results
    rw [Outcome.attributed_eq_nil_iff, entries, Batch.entries, List.zip_map_left,
      List.forall_mem_map]
    rfl
  unfold Call.IsAccepted isFailure outcome call
  cases exchange.reply with
  | error error =>
    constructor
    · rintro ⟨response, hresponse, -⟩
      cases hresponse
    · intro haccepted
      cases haccepted
  | ok response =>
    simp only [Outcome.ofReply, Outcome.isFailure_ofResponse hrecords, Except.ok.injEq,
      exists_eq_left', hzip]
    exact and_comm

namespace BusClient

namespace Reply

/-- The results of a reply, of which a reply without output has none. -/
def results : Reply → List EntryResult
  | .done output => output.results
  | .refused => []
  | .unreachable => []

/-- What makes a reply a failure of a batch of so many records. -/
def Fails (size : Nat) (reply : Reply) : Prop :=
  (∀ output, reply ≠ .done output) ∨ (∃ output, reply = .done output ∧ 0 < output.failedCount) ∨
    ∃ place, HasCode size reply.results place

/-- The reply without the results beyond a batch of so many records. -/
def within (size : Nat) : Reply → Reply
  | .done output => .done ⟨output.failedCount, output.results.take size⟩
  | .refused => .refused
  | .unreachable => .unreachable

end Reply

/-- The service without the results beyond a batch of so many records. -/
def Service.within {σ : Type} (size : Nat) (service : Service σ) : Service σ :=
  fun entries => Reply.within size <$> service entries

/-- An outcome says of a batch what a reply says of it. -/
structure Interprets (batch : Batch) (reply : Reply) (outcome : Outcome) : Prop where
  batch_eq : outcome.batch = batch
  isFailure_iff : outcome.isFailure = true ↔ reply.Fails batch.records.length
  failures_ne_nil : outcome.isFailure = true → outcome.failures ≠ []
  /-- Failures that the results tell are exactly those that the outcome names. -/
  attributed : (∃ place, HasCode batch.records.length reply.results place) →
    AreAttributed batch.records reply.results outcome.failures
  /-- Where the results tell none, every record is named, in the order of the batch. -/
  whole : outcome.isFailure = true →
    (¬∃ place, HasCode batch.records.length reply.results place) →
      ∃ code message, outcome.failures =
        batch.records.map fun record => ⟨record.identifier, code, message⟩

section Interprets

variable {batch : Batch} (hrecords : batch.records ≠ [])

include hrecords

/-- A reply without output fails the whole batch. -/
theorem interprets_ofError (error : PublishError) {reply : Reply}
    (hreply : ∀ output, reply ≠ .done output) :
    Interprets batch reply (.ofError batch error) := by
  have hnone : ¬∃ place, HasCode batch.records.length reply.results place := by
    rintro ⟨place, -, result, code, hresult, -⟩
    cases reply with
    | done output => exact hreply output rfl
    | refused => cases hresult
    | unreachable => cases hresult
  constructor
  case batch_eq => rfl
  case isFailure_iff => exact ⟨fun _ => .inl hreply, fun _ => rfl⟩
  case failures_ne_nil => exact fun _ => mt List.map_eq_nil_iff.1 hrecords
  case attributed => exact fun h => absurd h hnone
  case whole => exact fun _ _ => ⟨_, _, rfl⟩

theorem interprets_ofResponse (output : Output) :
    Interprets batch (.done output)
      (.ofResponse batch ⟨output.failedCount.toNat, output.results⟩) := by
  have hcoded : Outcome.attributed batch.records output.results ≠ [] ↔
      ∃ place, HasCode batch.records.length output.results place :=
    Outcome.attributed_ne_nil_iff
  have hfails : Reply.Fails batch.records.length (.done output) ↔
      0 < output.failedCount ∨ ∃ place, HasCode batch.records.length output.results place := by
    simp [Reply.Fails, Reply.results]
  constructor
  case batch_eq => exact Outcome.batch_ofResponse _ _
  case isFailure_iff =>
    have haccepted := Outcome.isFailure_ofResponse hrecords
      ⟨output.failedCount.toNat, output.results⟩
    have hcount : output.failedCount.toNat = 0 ↔ ¬0 < output.failedCount := by omega
    rw [hfails, ← hcoded, ← Bool.not_eq_false, haccepted, hcount]
    tauto
  case failures_ne_nil => exact Outcome.failures_ofReply_ne_nil hrecords (.ok _)
  case attributed =>
    intro hsome
    obtain ⟨-, heq⟩ | ⟨hnone, -, -⟩ | ⟨hnone, -, -⟩ := Outcome.ofResponse_cases hrecords
      ⟨output.failedCount.toNat, output.results⟩
    · rw [heq]
      exact Outcome.areAttributed batch.records output.results
    · exact absurd hnone (hcoded.2 hsome)
    · exact absurd hnone (hcoded.2 hsome)
  case whole =>
    intro hfailure hnone
    obtain ⟨hsome, -⟩ | ⟨-, -, heq⟩ | ⟨-, -, heq⟩ := Outcome.ofResponse_cases hrecords
      ⟨output.failedCount.toNat, output.results⟩
    · exact absurd (hcoded.1 hsome) hnone
    · rw [heq]
      exact ⟨_, _, rfl⟩
    · rw [heq] at hfailure
      cases hfailure

theorem interprets_ofReply (reply : Reply) :
    Interprets batch reply (.ofReply batch (interpret reply)) := by
  cases reply with
  | done output => exact interprets_ofResponse hrecords output
  | refused => exact interprets_ofError hrecords _ fun output => Reply.noConfusion
  | unreachable => exact interprets_ofError hrecords _ fun output => Reply.noConfusion

end Interprets

/-- Results beyond a batch do not change its outcome. -/
theorem ofReply_within (batch : Batch) (reply : Reply) :
    Outcome.ofReply batch (interpret (reply.within batch.records.length)) =
      Outcome.ofReply batch (interpret reply) := by
  cases reply with
  | done output => simp only [Reply.within, interpret, Outcome.ofReply, Outcome.ofResponse,
      Outcome.attributed_take]
  | refused => rfl
  | unreachable => rfl

end BusClient

section Submit

variable {σ : Type} (emitter : Emitter)

/-- The outcome of a submission is what the bus replies to the entries of the batch. -/
theorem outcome_submit (bus : Bus σ) (batch : Batch) (state : σ) :
    (emitter.submit bus batch state).1.outcome =
      .ofReply batch (bus.put (batch.entries emitter.context emitter.settings.busName
        (bus.now state).1) (bus.now state).2).1 := by
  rw [submit_eq]
  rfl

end Submit

/-- Every batch gets the outcome that the reply of the service says, whatever the service counts
and however many results it gives, and results beyond the batch are ignored. -/
theorem submit_interprets {σ : Type} (emitter : Emitter) (service : BusClient.Service σ)
    (now : StateM σ Timestamp) {batch : Batch} (hrecords : batch.records ≠ []) (state : σ) :
    let entries := batch.entries emitter.context emitter.settings.busName (now state).1
    let reply := (service entries (now state).2).1
    let outcome := (emitter.submit (BusClient.asBus service now) batch state).1.outcome
    BusClient.Interprets batch reply outcome ∧
      (emitter.submit (BusClient.asBus (service.within batch.records.length) now) batch
        state).1.outcome = outcome := by
  intro entries reply outcome
  have houtcome : outcome = .ofReply batch (BusClient.interpret reply) :=
    outcome_submit emitter (BusClient.asBus service now) batch state
  refine ⟨houtcome ▸ BusClient.interprets_ofReply hrecords reply, ?_⟩
  rw [houtcome, ← BusClient.ofReply_within]
  exact outcome_submit emitter (BusClient.asBus (service.within batch.records.length) now) batch
    state

/-- A moment of a spring day. -/
def springDay : Timestamp :=
  ⟨⟨2025, 3, 7, by decide, by decide, by decide, by decide, by decide, by decide⟩,
    ⟨11, 13, 17, 19, by decide, by decide, by decide, by decide⟩⟩

def plainEmitter : Emitter := ⟨.default, ⟨"import", "entry", "token"⟩, rfl⟩

/-- A service that counts below zero, refuses every second entry without a message, and gives one
result too many. -/
def oddService : BusClient.Service Unit := fun _ =>
  pure (.done ⟨-1, [⟨some "e1", none, none⟩, ⟨none, some "Throttled", none⟩,
    ⟨none, some "Extra", some "not in the request"⟩]⟩)

/-- The second of two records has failed, and no other. -/
theorem submit_interprets_oddService :
    let batch : Batch := ⟨0, [⟨"1", .ofNat 1⟩, ⟨"2", .ofNat 2⟩]⟩
    let submission :=
      (plainEmitter.submit (BusClient.asBus oddService (pure springDay)) batch ()).1
    batch.records ≠ [] ∧
      BusClient.Interprets batch (oddService submission.entries ()).1 submission.outcome ∧
      submission.outcome.failures = [⟨"2", "Throttled", ""⟩] := by
  intro batch submission
  have hrecords : batch.records ≠ [] := List.cons_ne_nil _ _
  exact ⟨hrecords,
    (submit_interprets plainEmitter oddService (pure springDay) hrecords ()).1, rfl⟩

end Intake
