import Intake.Proofs.Emission.Details

/-!
# The limits of a call

An emitter is made from settings that keep to the bounds, and every look-up that gives settings
gives such.  So the batches of an emission can always be cut, none of them is empty or too large,
and whatever the bus replies, every call in every round carries a number of entries that the bus
takes, all of them for the one bus that was named.
-/

namespace Intake

namespace Emitter

variable {settings : EmitterSettings} {context : Context}

theorem new_of_validate (hvalid : settings.validate = .ok ()) :
    new settings context = .ok ⟨settings, context, hvalid⟩ := by
  unfold new
  split
  next => rfl
  next e herror =>
    rw [hvalid] at herror
    cases herror

theorem settings_of_new {emitter : Emitter} (hnew : new settings context = .ok emitter) :
    emitter.settings = settings := by
  unfold new at hnew
  split at hnew
  next hvalid =>
    cases hnew
    rfl
  next => cases hnew

/-- An emission that stops when the size of its batches is not positive. -/
def emit? {σ : Type} (emitter : Emitter) (bus : Bus σ) (schedule : Schedule)
    (records : List Record) : StateM σ (Except BatchError EmissionReport) :=
  match Batch.partition? emitter.settings.batchSize records with
  | .error error => pure (.error error)
  | .ok batches => do
    let schedule := if emitter.settings.parallel then schedule else .inOrder
    let rounds ← emitter.runRounds bus schedule emitter.settings.maxRounds 1 batches
    return .ok (.ofRounds records.length rounds)

/-- The size is always positive, so no emission stops. -/
theorem emit?_eq {σ : Type} (emitter : Emitter) (bus : Bus σ) (schedule : Schedule)
    (records : List Record) (state : σ) :
    emitter.emit? bus schedule records state =
      (.ok (emitter.emit bus schedule records state).1,
        (emitter.emit bus schedule records state).2) := by
  have hcut : Batch.partition? emitter.settings.batchSize records =
      .ok (Batch.partition emitter.settings.batchSize records) :=
    if_neg (Nat.ne_of_gt emitter.batchSize_pos)
  simp only [emit?, hcut, emit, run, bind, StateT.bind]
  rfl

end Emitter

/-- A call carries entries that the bus takes together, all for the bus with a name. -/
structure Call.IsLimited (busName : String) (call : Call) : Prop where
  not_empty : 1 ≤ call.entries.length
  within_limit : call.entries.length ≤ 10
  same_bus : ∀ entry ∈ call.entries, entry.busName = busName

/-- The call for a batch of a partition is limited. -/
theorem Exchange.isLimited_call {emitter : Emitter} {records : List Record} {exchange : Exchange}
    (hbatch : exchange.batch ∈ Batch.partition emitter.settings.batchSize records) :
    (exchange.call emitter).IsLimited emitter.settings.busName := by
  have hsize := emitter.batchSize_pos
  have hlimit := (EmitterSettings.validate_eq_ok_iff.1 emitter.validated).1.2
  have hlength : (exchange.call emitter).entries.length = exchange.batch.records.length :=
    List.length_map _
  constructor
  case not_empty =>
    rw [hlength]
    exact List.length_pos_iff.2 (Batch.records_ne_nil hsize hbatch)
  case within_limit =>
    rw [hlength]
    exact Nat.le_trans (Batch.length_records_le hsize hbatch) hlimit
  case same_bus =>
    intro entry hentry
    obtain ⟨record, -, rfl⟩ := List.mem_map.1 hentry
    rfl

/-- Every call of an emission is limited. -/
theorem isLimited_of_emit {σ : Type} (emitter : Emitter) (bus : Bus σ) (schedule : Schedule)
    (records : List Record) (state : σ) :
    ∀ call ∈ (emitter.emit bus.recorded schedule records (state, [])).2.2,
      call.IsLimited emitter.settings.busName := by
  obtain ⟨called, rounds, next, hrounds, hperm, -, -, hrecorded⟩ :=
    emit_recorded emitter bus schedule records state
  rw [hrecorded]
  intro call hcall
  obtain ⟨exchange, hexchange, rfl⟩ := List.mem_map.1 hcall
  exact Exchange.isLimited_call (batch_mem_of_called hrounds hperm hexchange)

/-- Settings that a look-up gives always make an emitter.  An emitter that was made cuts all records
into batches, as many as there should be, never stops, and keeps to the limits of the bus in every
call, whatever the bus replies. -/
theorem emission_limited :
    (∀ (lookup : Lookup) (settings : Settings) (context : Context),
      Settings.ofLookup lookup = .ok settings →
        ∃ emitter, Emitter.new settings.emitter context = .ok emitter) ∧
    ∀ (settings : EmitterSettings) (context : Context) (emitter : Emitter),
      Emitter.new settings context = .ok emitter →
        (∃ c ∈ settings.busName.toList, Text.isBlank c = false) ∧
        ∀ {σ : Type} (bus : Bus σ) (schedule : Schedule) (records : List Record) (state : σ),
          emitter.emit? bus schedule records state =
            (.ok (emitter.emit bus schedule records state).1,
              (emitter.emit bus schedule records state).2) ∧
          (Batch.partition settings.batchSize records).length =
            (records.length + settings.batchSize - 1) / settings.batchSize ∧
          ∀ call ∈ (emitter.emit bus.recorded schedule records (state, [])).2.2,
            call.IsLimited settings.busName := by
  constructor
  · intro lookup settings context hsettings
    exact ⟨_, Emitter.new_of_validate (Settings.validate_emitter hsettings)⟩
  · intro settings context emitter hnew
    obtain rfl := Emitter.settings_of_new hnew
    refine ⟨(EmitterSettings.validate_eq_ok_iff.1 emitter.validated).2.2, ?_⟩
    intro σ bus schedule records state
    exact ⟨emitter.emit?_eq bus schedule records state,
      Batch.length_partition emitter.batchSize_pos records,
      isLimited_of_emit emitter bus schedule records state⟩

/-- A look-up with blanks, a sign and a leading zero around the size, and a blank bus name. -/
def looseLookup : Lookup
  | "EMISSION_BATCH_SIZE" => some " +010 "
  | "EMISSION_PARALLEL_SUBMISSIONS" => some "Yes"
  | "EVENT_BUS_NAME" => some "  "
  | _ => none

/-- The look-up makes an emitter whose calls for eleven records are limited. -/
theorem emission_limited_looseLookup :
    let settings : EmitterSettings := { EmitterSettings.default with parallel := true }
    let records : List Record := (List.range 11).map fun i => ⟨toString i, .ofNat i⟩
    ∃ emitter, Emitter.new settings ⟨"import", "entry", "token"⟩ = .ok emitter ∧
      (Settings.ofLookup looseLookup).toOption.map Settings.emitter = some settings ∧
      (Batch.partition 10 records).length = 2 ∧
      ∀ call ∈ (emitter.emit (BusClient.asBus oddService (pure springDay)).recorded .inOrder records
        ((), [])).2.2, call.IsLimited "default" := by
  intro settings records
  have hread : ∃ all, Settings.ofLookup looseLookup = .ok all ∧ all.emitter = settings :=
    ⟨_, by with_unfolding_all rfl, rfl⟩
  obtain ⟨all, hall, hsettings⟩ := hread
  obtain ⟨emitter, hnew⟩ := emission_limited.1 looseLookup all ⟨"import", "entry", "token"⟩ hall
  rw [hsettings] at hnew
  obtain ⟨-, hcount, hcalls⟩ := (emission_limited.2 settings _ emitter hnew).2
    (BusClient.asBus oddService (pure springDay)) .inOrder records ()
  refine ⟨emitter, hnew, ?_, ?_, hcalls⟩
  · rw [hall]
    exact congrArg some hsettings
  · simpa [records, settings, EmitterSettings.default] using hcount

end Intake
