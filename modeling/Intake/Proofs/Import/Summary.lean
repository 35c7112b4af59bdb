import Intake.Import.Dispatch
import Intake.Proofs.Emission.Accounting
import Intake.Proofs.Import.Lines
import Intake.Proofs.Text.Decoding

/-!
# What becomes of every line

A line of a file is blank, or it gives a record, or it is reported with its number, and no line is
two of these.  Lines that cannot be read and values that the mapper refuses are found in different
passes; sorting by number puts them back into the order of the file.
-/

namespace Intake

namespace Lines

/-- A line without anything but blanks. -/
def IsBlank (line : List UInt8) : Prop := ∃ text, line = Text.bytes text ∧ Text.trim text = ""

/-- A line that holds a value, whatever blanks stand around it. -/
def Holds (line : List UInt8) (value : Json) : Prop :=
  ∃ text, line = Text.bytes text ∧ Text.trim text ≠ "" ∧ Json.parse (Text.trim text) = .ok value

/-- Why the line with a number cannot be read. -/
inductive Fault (number : Nat) (line : List UInt8) : MappingError → Prop where
  | notUtf8 {error : Text.Utf8Error} (hline : ∀ text, line ≠ Text.bytes text)
      (hdecode : Text.Utf8.decode line = .error error) :
      Fault number line (.invalidUtf8 number error)
  | notJson {text : String} {error : Json.SyntaxError} (hline : line = Text.bytes text)
      (htext : Text.trim text ≠ "") (hparse : Json.parse (Text.trim text) = .error error) :
      Fault number line (.invalidJson number error)

section ReadLine

variable {number : Nat} {line : List UInt8}

/-- A line is the bytes of a text, or it is not decoded. -/
theorem text_or_error (line : List UInt8) :
    (∃ text, line = Text.bytes text) ∨
      (∀ text, line ≠ Text.bytes text) ∧ ∃ error, Text.Utf8.decode line = .error error := by
  cases hdecode : Text.Utf8.decode line with
  | ok cs =>
    refine .inl ⟨String.ofList cs, ?_⟩
    rw [Text.bytes, String.toList_ofList]
    exact Text.Utf8.decode_eq_ok_iff.1 hdecode
  | error error =>
    refine .inr ⟨?_, error, rfl⟩
    rintro text rfl
    rw [Text.bytes, Text.Utf8.decode_encode] at hdecode
    cases hdecode

theorem readLine_of_error {error : Text.Utf8Error}
    (hdecode : Text.Utf8.decode line = .error error) :
    readLine number line = .refused (.invalidUtf8 number error) := by
  rw [readLine, hdecode]

/-- A line is read as what it is. -/
theorem readLine_spec (number : Nat) (line : List UInt8) :
    match readLine number line with
    | .blank => IsBlank line
    | .value value => Holds line value
    | .refused error => Fault number line error := by
  rcases text_or_error line with ⟨text, rfl⟩ | ⟨hline, error, hdecode⟩
  · rw [readLine_bytes]
    by_cases htrim : Text.trim text = ""
    · rw [if_pos htrim]
      exact ⟨text, rfl, htrim⟩
    · rw [if_neg htrim]
      cases hparse : Json.parse (Text.trim text) with
      | ok value => exact ⟨text, rfl, htrim, hparse⟩
      | error error => exact .notJson rfl htrim hparse
  · rw [readLine_of_error hdecode]
    exact .notUtf8 hline hdecode

theorem readLine_eq_blank_iff : readLine number line = .blank ↔ IsBlank line := by
  constructor
  · intro hread
    have hspec := readLine_spec number line
    rw [hread] at hspec
    exact hspec
  · rintro ⟨text, rfl, htrim⟩
    rw [readLine_bytes, if_pos htrim]

theorem readLine_eq_value_iff {value : Json} :
    readLine number line = .value value ↔ Holds line value := by
  constructor
  · intro hread
    have hspec := readLine_spec number line
    rw [hread] at hspec
    exact hspec
  · rintro ⟨text, rfl, htrim, hparse⟩
    rw [readLine_bytes, if_neg htrim, hparse]

theorem readLine_eq_refused_iff {error : MappingError} :
    readLine number line = .refused error ↔ Fault number line error := by
  constructor
  · intro hread
    have hspec := readLine_spec number line
    rw [hread] at hspec
    exact hspec
  · rintro (⟨hline, hdecode⟩ | ⟨rfl, htrim, hparse⟩)
    · exact readLine_of_error hdecode
    · rw [readLine_bytes, if_neg htrim, hparse]

end ReadLine

/-- The lines of a file with their numbers, each read by itself. -/
theorem readFrom_eq (number : Nat) (lines : List (List UInt8)) :
    readFrom number lines =
      lines.mapIdx fun index line => (number + index, readLine (number + index) line) := by
  induction lines generalizing number with
  | nil => rfl
  | cons line lines ih =>
    rw [readFrom, ih, List.mapIdx_cons]
    simp only [Nat.add_zero, Nat.add_assoc, Nat.add_comm 1]

theorem pairwise_readFrom (number : Nat) (lines : List (List UInt8)) :
    (readFrom number lines).Pairwise fun a b => a.1 < b.1 := by
  rw [readFrom_eq, List.pairwise_iff_getElem]
  intro i j hi hj hlt
  simp only [List.getElem_mapIdx]
  exact Nat.add_lt_add_left hlt number

theorem mem_readFrom_iff {number : Nat} {lines : List (List UInt8)} {numbered : Nat × Line} :
    numbered ∈ readFrom number lines ↔ ∃ index line, lines[index]? = some line ∧
      numbered = (number + index, readLine (number + index) line) := by
  rw [readFrom_eq, List.mem_iff_getElem?]
  simp only [List.getElem?_mapIdx, Option.map_eq_some_iff]
  constructor
  · rintro ⟨index, line, hline, rfl⟩
    exact ⟨index, line, hline, rfl⟩
  · rintro ⟨index, line, hline, rfl⟩
    exact ⟨index, line, hline, rfl⟩

instance (line : List UInt8) : Decidable (IsBlank line) :=
  match hread : readLine 0 line with
  | .blank => isTrue (readLine_eq_blank_iff.1 hread)
  | .value _ => isFalse fun hblank => by
    rw [readLine_eq_blank_iff.2 hblank] at hread
    cases hread
  | .refused _ => isFalse fun hblank => by
    rw [readLine_eq_blank_iff.2 hblank] at hread
    cases hread

/-- Every line that is not blank holds a value or cannot be read. -/
theorem length_values_add_failures (number : Nat) (lines : List (List UInt8)) :
    (Lines.values (readFrom number lines)).length + (failures (readFrom number lines)).length =
      lines.countP fun line => ¬IsBlank line := by
  induction lines generalizing number with
  | nil => rfl
  | cons line lines ih =>
    rw [List.countP_cons, ← ih (number + 1), readFrom]
    have hblank : readLine number line = .blank ↔ IsBlank line := readLine_eq_blank_iff
    cases hread : readLine number line with
    | blank =>
      have hline := hblank.1 hread
      simp [Lines.values, failures, hline]
    | value value =>
      have hline : ¬IsBlank line := fun h => by rw [hblank.2 h] at hread; cases hread
      simp [Lines.values, failures, hline]
      omega
    | refused error =>
      have hline : ¬IsBlank line := fun h => by rw [hblank.2 h] at hread; cases hread
      simp [Lines.values, failures, hline]
      omega

end Lines

namespace Dispatch

/-- The record of a line that has been read, if it gives one. -/
def recordOf (mapper : Mapper) : Lines.Line → Option Record
  | .value value => (mapper value).toOption
  | _ => none

/-- Why a line gives no record, if it gives none and is not blank. -/
inductive Loses (mapper : Mapper) (number : Nat) (line : List UInt8) : MappingFailure → Prop where
  | unread {error : MappingError} (hfault : Lines.Fault number line error) :
      Loses mapper number line ⟨number, error.message, none⟩
  | refused {value : Json} {error : MappingError} (hvalue : Lines.Holds line value)
      (hmapper : mapper value = .error error) :
      Loses mapper number line ⟨number, error.message, some value⟩

/-- The failure of a line that has been read. -/
def failure? (mapper : Mapper) : Nat × Lines.Line → Option MappingFailure
  | (_, .blank) => none
  | (number, .refused error) => some ⟨number, error.message, none⟩
  | (number, .value value) =>
    match mapper value with
    | .ok _ => none
    | .error error => some ⟨number, error.message, some value⟩

variable {mapper : Mapper}

theorem recordOf_eq_some_iff {number : Nat} {line : List UInt8} {record : Record} :
    recordOf mapper (Lines.readLine number line) = some record ↔
      ∃ value, Lines.Holds line value ∧ mapper value = .ok record := by
  have hvalue : ∀ value, Lines.Holds line value ↔ Lines.readLine number line = .value value :=
    fun _ => Lines.readLine_eq_value_iff.symm
  simp only [hvalue]
  cases hread : Lines.readLine number line with
  | blank => simp [recordOf]
  | refused error => simp [recordOf]
  | value value => cases hmapped : mapper value <;> simp [recordOf, hmapped, Except.toOption]

/-- The number of a line plays no part in the record that it gives. -/
theorem recordOf_readLine (number other : Nat) (line : List UInt8) :
    recordOf mapper (Lines.readLine number line) = recordOf mapper (Lines.readLine other line) := by
  ext record
  rw [recordOf_eq_some_iff, recordOf_eq_some_iff]

theorem failure?_eq_some_iff {number : Nat} {line : List UInt8} {failure : MappingFailure} :
    failure? mapper (number, Lines.readLine number line) = some failure ↔
      Loses mapper number line failure := by
  constructor
  · intro hfailure
    cases hread : Lines.readLine number line with
    | blank =>
      rw [hread] at hfailure
      cases hfailure
    | refused error =>
      rw [hread] at hfailure
      cases hfailure
      exact .unread (Lines.readLine_eq_refused_iff.1 hread)
    | value value =>
      rw [hread] at hfailure
      cases hmapped : mapper value with
      | ok record => simp [failure?, hmapped] at hfailure
      | error error =>
        simp only [failure?, hmapped, Option.some.injEq] at hfailure
        subst hfailure
        exact .refused (Lines.readLine_eq_value_iff.1 hread) hmapped
  · rintro (hfault | ⟨hvalue, hmapped⟩)
    · rw [Lines.readLine_eq_refused_iff.2 hfault, failure?]
    · rw [Lines.readLine_eq_value_iff.2 hvalue, failure?, hmapped]

theorem position_of_failure? {numbered : Nat × Lines.Line} {failure : MappingFailure}
    (hfailure : failure? mapper numbered = some failure) : failure.position = numbered.1 := by
  obtain ⟨number, line⟩ := numbered
  cases line with
  | blank => cases hfailure
  | refused error =>
    cases hfailure
    rfl
  | value value =>
    cases hmapped : mapper value with
    | ok record => simp [failure?, hmapped] at hfailure
    | error error =>
      simp only [failure?, hmapped, Option.some.injEq] at hfailure
      rw [← hfailure]

variable (mapper) in
/-- The failures of both passes are those of the lines, in another order. -/
theorem failures_perm (lines : List (Nat × Lines.Line)) :
    (refusals mapper (Lines.values lines) ++ Lines.failures lines).Perm
      (lines.filterMap (failure? mapper)) := by
  induction lines with
  | nil => exact .nil
  | cons numbered lines ih =>
    obtain ⟨number, line⟩ := numbered
    cases line with
    | blank => exact ih
    | refused error => exact List.perm_middle.trans (ih.cons _)
    | value value =>
      cases hmapped : mapper value with
      | ok record =>
        simp only [Lines.values, Lines.failures, refusals, failure?, List.filterMap_cons, hmapped]
        exact ih
      | error error =>
        simp only [Lines.values, Lines.failures, refusals, failure?, List.filterMap_cons, hmapped]
        exact ih.cons _

variable (mapper) in
/-- Sorting puts the failures into the order of the lines. -/
theorem mergeSort_failures {lines : List (Nat × Lines.Line)}
    (hsorted : lines.Pairwise fun a b => a.1 < b.1) :
    (lines.filterMap (failure? mapper)).Pairwise (fun a b => a.position < b.position) ∧
      (refusals mapper (Lines.values lines) ++ Lines.failures lines).mergeSort
        (fun a b => a.position ≤ b.position) = lines.filterMap (failure? mapper) := by
  have hpairwise : (lines.filterMap (failure? mapper)).Pairwise
      fun a b => a.position < b.position := by
    rw [List.pairwise_filterMap]
    refine hsorted.imp fun hlt failure hfailure other hother => ?_
    rw [position_of_failure? hfailure, position_of_failure? hother]
    exact hlt
  exact ⟨hpairwise, mergeSort_of_perm (failures_perm mapper lines) hpairwise⟩

variable (mapper) in
theorem length_records_add_refusals (values : List Lines.Numbered) :
    (records mapper values).length + (refusals mapper values).length = values.length := by
  induction values with
  | nil => rfl
  | cons numbered values ih =>
    cases hmapped : mapper numbered.2 <;>
      simp [records, refusals, hmapped, Except.toOption] at ih ⊢ <;> omega

/-- The records are those of the lines, in the order of the file. -/
theorem records_readFrom (number : Nat) (lines : List (List UInt8)) :
    records mapper (Lines.values (Lines.readFrom number lines)) =
      lines.filterMap fun line => recordOf mapper (Lines.readLine 0 line) := by
  induction lines generalizing number with
  | nil => rfl
  | cons line lines ih =>
    rw [List.filterMap_cons, ← ih (number + 1), recordOf_readLine 0 number, Lines.readFrom]
    cases hread : Lines.readLine number line with
    | blank => rfl
    | refused error => rfl
    | value value =>
      cases hmapped : mapper value <;>
        simp [Lines.values, records, recordOf, hmapped, Except.toOption]

end Dispatch

section Emission

variable {σ : Type} (emitter : Emitter) (bus : Bus σ) (schedule : Schedule) (records : List Record)
  (state : σ)

theorem totalRecords_emit :
    (emitter.emit bus schedule records state).1.totalRecords = records.length := by
  obtain ⟨called, rounds, next, -, -, -, hrun, -⟩ :=
    emit_recorded emitter bus schedule records state
  rw [hrun]
  rfl

theorem failedRecords_sublist :
    (emitter.emit bus schedule records state).1.failedRecords.Sublist records := by
  obtain ⟨called, rounds, next, hrounds, -, -, hrun, -⟩ :=
    emit_recorded emitter bus schedule records state
  have hleft := hrounds.leftover_sublist.flatMap Batch.records
  rw [Batch.flatMap_records_partition emitter.batchSize_pos] at hleft
  rw [hrun, failedRecords_ofRounds emitter emitter.maxRounds_pos hrounds]
  exact hleft

end Emission

/-- The records that the lines of a file give, in their order. -/
def Dispatch.recordsOf (mapper : Mapper) (body : List UInt8) : List Record :=
  (body.splitOn 0x0A).filterMap fun line => recordOf mapper (Lines.readLine 0 line)

/-- Dispatching a file is emitting the records of its lines; the failures are those of its lines. -/
theorem dispatch_file_eq {σ : Type} (mapper : Mapper) (emitter : Emitter) (bus : Bus σ)
    (schedule : Schedule) (body : List UInt8) (state : σ) :
    Dispatch.file mapper emitter bus schedule body state =
      (⟨(body.splitOn 0x0A).countP fun line => ¬Lines.IsBlank line,
        (Lines.readFrom 1 (body.splitOn 0x0A)).filterMap (Dispatch.failure? mapper),
        (emitter.emit bus schedule (Dispatch.recordsOf mapper body) state).1⟩,
        (emitter.emit bus schedule (Dispatch.recordsOf mapper body) state).2) := by
  have hsorted := Dispatch.mergeSort_failures mapper
    (Lines.pairwise_readFrom 1 (body.splitOn 0x0A))
  rw [Dispatch.recordsOf, ← Dispatch.records_readFrom 1, ← hsorted.2,
    ← Lines.length_values_add_failures 1]
  simp only [Dispatch.file, Dispatch.values, Lines.parse, Lines.read, Lines.split_eq_splitOn, bind,
    StateT.bind]
  rfl

/-- How a summary accounts for the lines of a file, where these records went to the emitter. -/
structure Tally {σ : Type} (mapper : Mapper) (emitter : Emitter) (bus : Bus σ) (schedule : Schedule)
    (body : List UInt8) (state : σ) (summary : DispatchSummary) (next : σ)
    (records : List Record) : Prop where
  /-- Every line counts that is not blank, one that is no text among them. -/
  total_eq : summary.total = (body.splitOn 0x0A).countP fun line => ¬Lines.IsBlank line
  positions_increase : summary.mappingFailures.Pairwise fun a b => a.position < b.position
  /-- Lines are numbered from one. -/
  failure_iff : ∀ failure, failure ∈ summary.mappingFailures ↔
    ∃ index line, (body.splitOn 0x0A)[index]? = some line ∧
      Dispatch.Loses mapper (index + 1) line failure
  records_eq : ∃ recordOf : List UInt8 → Option Record,
    (∀ line record, recordOf line = some record ↔
      ∃ value, Lines.Holds line value ∧ mapper value = .ok record) ∧
    records = (body.splitOn 0x0A).filterMap recordOf
  emission_eq : emitter.emit bus schedule records state = (summary.emission, next)
  total_split : summary.total = summary.mappingFailures.length + summary.emission.totalRecords
  failed_sublist : summary.emission.failedRecords.Sublist records
  undelivered_le : summary.undelivered ≤ summary.total
  complete_iff : summary.isComplete = true ↔ summary.undelivered = 0

/-- No line is lost or counted twice, whatever is in the file and whatever the mapper and the bus
do with it. -/
theorem dispatch_tally {σ : Type} (mapper : Mapper) (emitter : Emitter) (bus : Bus σ)
    (schedule : Schedule) (body : List UInt8) (state : σ) :
    ∃ records,
      Tally mapper emitter bus schedule body state
        (Dispatch.file mapper emitter bus schedule body state).1
        (Dispatch.file mapper emitter bus schedule body state).2 records := by
  rw [dispatch_file_eq]
  have hread := Dispatch.length_records_add_refusals mapper
    (Lines.values (Lines.readFrom 1 (body.splitOn 0x0A)))
  rw [Dispatch.records_readFrom, ← Dispatch.recordsOf] at hread
  have hcount := Lines.length_values_add_failures 1 (body.splitOn 0x0A)
  have hfailures := (Dispatch.failures_perm mapper
    (Lines.readFrom 1 (body.splitOn 0x0A))).length_eq
  rw [List.length_append] at hfailures
  have htotal := totalRecords_emit emitter bus schedule (Dispatch.recordsOf mapper body) state
  have hfailed := failedRecords_sublist emitter bus schedule (Dispatch.recordsOf mapper body) state
  refine ⟨Dispatch.recordsOf mapper body, ?_⟩
  constructor
  case total_eq => rfl
  case positions_increase =>
    exact (Dispatch.mergeSort_failures mapper (Lines.pairwise_readFrom 1 (body.splitOn 0x0A))).1
  case failure_iff =>
    intro failure
    simp only [List.mem_filterMap, Lines.mem_readFrom_iff]
    constructor
    · rintro ⟨numbered, ⟨index, line, hline, rfl⟩, hfailure⟩
      refine ⟨index, line, hline, ?_⟩
      rw [Nat.add_comm]
      exact Dispatch.failure?_eq_some_iff.1 hfailure
    · rintro ⟨index, line, hline, hloses⟩
      rw [Nat.add_comm] at hloses
      exact ⟨_, ⟨index, line, hline, rfl⟩, Dispatch.failure?_eq_some_iff.2 hloses⟩
  case records_eq => exact ⟨_, fun _ _ => Dispatch.recordOf_eq_some_iff, rfl⟩
  case emission_eq => rfl
  case total_split =>
    simp only [htotal]
    omega
  case failed_sublist => exact hfailed
  case undelivered_le =>
    have hlength := hfailed.length_le
    simp only [DispatchSummary.undelivered, DispatchSummary.unmapped, DispatchSummary.unaccepted]
    omega
  case complete_iff =>
    simp [DispatchSummary.isComplete, EmissionReport.isComplete, DispatchSummary.undelivered,
      DispatchSummary.unmapped, DispatchSummary.unaccepted]

end Intake
