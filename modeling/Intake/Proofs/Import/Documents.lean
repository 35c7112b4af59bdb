import Intake.Import.Handler

/-!
# What an import writes

The answer to an import and the reports of its failures, with every member of every document: what
stands in them does not depend on how the parts of a document are put together.
-/

namespace Intake

/-- What an answer says of one object; the error is left out where there is none. -/
def sourceDocument (source : SourceSummary) : Json :=
  .obj <|
    [("bucket", .str source.object.bucket), ("key", .str source.object.key),
      ("total", .ofNat source.total), ("unmapped", .ofNat source.unmapped),
      ("undelivered", .ofNat source.undelivered)] ++
    match source.error with
    | none => []
    | some reason => [("error", .str reason)]

/-- The answer to an import that was done. -/
def importAnswer (isComplete : Bool) (message : String) (total unmapped undelivered : Nat)
    (sources : List SourceSummary) (reports : List String) : HttpResponse :=
  ⟨if isComplete then 200 else 207, [("Content-Type", "application/json")],
    (Json.obj
      [("status", .str (if isComplete then "completed" else "partial")),
        ("message", .str message), ("total_records", .ofNat total), ("unmapped", .ofNat unmapped),
        ("undelivered", .ofNat undelivered), ("sources", .arr (sources.map sourceDocument)),
        ("reports", .arr (reports.map .str))]).render⟩

/-- The report of the records that the bus did not take. -/
def emissionDocument (object : ObjectRef) (rounds : Nat) (records : List Record)
    (failures : List FailedEntry) : Json :=
  .obj
    [("source", .str (object.bucket ++ "/" ++ object.key)), ("rounds", .ofNat rounds),
      ("records", .arr (records.map fun record =>
        .obj [("identifier", .str record.identifier), ("payload", record.payload)])),
      ("last_failures", .arr (failures.map fun failure =>
        .obj [("record_identifier", .str failure.identifier), ("error_code", .str failure.code),
          ("error_message", .str failure.message)]))]

/-- What a report says of one line that gave no record; the value is left out where there is none. -/
def lineDocument (failure : MappingFailure) : Json :=
  .obj <|
    [("position", .ofNat failure.position), ("message", .str failure.message)] ++
    match failure.raw with
    | none => []
    | some value => [("raw", value)]

/-- The report of the lines that gave no record. -/
def mappingDocument (object : ObjectRef) (failures : List MappingFailure) : Json :=
  .obj
    [("source", .str (object.bucket ++ "/" ++ object.key)),
      ("failures", .arr (failures.map lineDocument))]

theorem SourceSummary.toJson_eq (source : SourceSummary) :
    source.toJson = sourceDocument source := by
  rw [toJson, sourceDocument]
  cases source.error <;> rfl

theorem MappingFailure.toJson_eq (failure : MappingFailure) :
    failure.toJson = lineDocument failure := by
  rw [toJson, lineDocument]
  cases failure.raw <;> rfl

/-- The answer to an import is made of its summary. -/
theorem ImportOutcome.response_done (summary : ImportSummary) :
    (ImportOutcome.done summary).response =
      importAnswer summary.isComplete summary.overall.describe summary.overall.total
        summary.overall.unmapped summary.overall.unaccepted summary.sources summary.reports := by
  have hsources : summary.sources.map SourceSummary.toJson = summary.sources.map sourceDocument :=
    List.map_congr_left fun source _ => source.toJson_eq
  rw [response, body, ImportSummary.toJson, hsources]
  rfl

namespace Importer

variable (importer : Importer) (object : ObjectRef) {summary : DispatchSummary}

theorem emissionReport_eq (hfailed : summary.emission.failedRecords ≠ []) :
    importer.emissionReport object summary =
      [⟨importer.reportKey .emission object.label,
        emissionDocument object summary.emission.rounds summary.emission.failedRecords
          summary.emission.lastFailures⟩] :=
  if_neg (by simpa using hfailed)

theorem mappingReport_eq (hfailures : summary.mappingFailures ≠ []) :
    importer.mappingReport object summary =
      [⟨importer.reportKey .mapping object.label,
        mappingDocument object summary.mappingFailures⟩] := by
  have hlines : summary.mappingFailures.map MappingFailure.toJson =
      summary.mappingFailures.map lineDocument :=
    List.map_congr_left fun failure _ => failure.toJson_eq
  rw [mappingReport, if_neg (by simpa using hfailures), hlines]
  rfl

end Importer

end Intake
