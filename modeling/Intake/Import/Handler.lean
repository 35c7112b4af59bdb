import Intake.Import.Dispatch
import Intake.Import.ReportKey
import Intake.Import.Source

/-!
# The import handler

Every object of an import is read and dispatched in turn, and its failures are written as reports,
one for the records that the bus did not accept and one for the lines that were not mapped.  A
fault of one object or one report never stops the others; a refused event has no effect at all.
-/

namespace Intake

/-- Everything an import reaches outside: the bus, the objects, and the store of reports. -/
structure World (σ : Type) where
  bus : Bus σ
  list : String → String → StateM σ (Except String (List String))
  read : ObjectRef → StateM σ (Except String (List UInt8))
  write : String → List UInt8 → StateM σ (Except String Unit)

/-- Where the reports of an import go. -/
structure ReportSettings where
  folder : String
  date : String
  /-- Tells the reports of different imports of one source apart. -/
  part : String
  deriving DecidableEq, Inhabited

structure Report where
  key : String
  body : Json
  deriving DecidableEq

/-- What became of one object. -/
structure SourceSummary where
  object : ObjectRef
  total : Nat
  unmapped : Nat
  undelivered : Nat
  error : Option String
  deriving DecidableEq, Inhabited

def SourceSummary.toJson (summary : SourceSummary) : Json :=
  .obj <|
    [("bucket", .str summary.object.bucket), ("key", .str summary.object.key),
     ("total", .ofNat summary.total), ("unmapped", .ofNat summary.unmapped),
     ("undelivered", .ofNat summary.undelivered)] ++
    Json.optionalMember "error" .str summary.error

/-- What became of an import. -/
structure ImportSummary where
  overall : DispatchSummary
  readFailures : Nat
  sources : List SourceSummary
  /-- The keys of the reports that were written. -/
  reports : List String
  deriving DecidableEq, Inhabited

namespace ImportSummary

def empty : ImportSummary := ⟨.empty, 0, [], []⟩

def isComplete (summary : ImportSummary) : Bool :=
  summary.overall.isComplete && summary.readFailures == 0

def toJson (summary : ImportSummary) : Json :=
  .obj [("status", .str (if summary.isComplete then "completed" else "partial")),
    ("message", .str summary.overall.describe),
    ("total_records", .ofNat summary.overall.total),
    ("unmapped", .ofNat summary.overall.unmapped),
    ("undelivered", .ofNat summary.overall.unaccepted),
    ("sources", .arr (summary.sources.map SourceSummary.toJson)),
    ("reports", .arr (summary.reports.map .str))]

end ImportSummary

inductive ImportOutcome where
  | refused (error : RequestError)
  | listingFailed (reason : String)
  | done (summary : ImportSummary)
  deriving DecidableEq, Inhabited

/-- An answer over HTTP. -/
structure HttpResponse where
  statusCode : Nat
  headers : List (String × String)
  body : String
  deriving DecidableEq, Inhabited

def HttpResponse.toJson (response : HttpResponse) : Json :=
  .obj [("statusCode", .ofNat response.statusCode),
    ("headers", .obj (response.headers.map fun (name, text) => (name, .str text))),
    ("body", .str response.body)]

namespace ImportOutcome

def statusCode : ImportOutcome → Nat
  | .refused _ => 400
  | .listingFailed _ => 502
  | .done summary => if summary.isComplete then 200 else 207

def errorBody (code message : String) : Json :=
  .obj [("error", .str code), ("message", .str message)]

def body : ImportOutcome → Json
  | .refused error => errorBody "validation_error" error.message
  | .listingFailed reason => errorBody "listing_failed" reason
  | .done summary => summary.toJson

def response (outcome : ImportOutcome) : HttpResponse :=
  ⟨outcome.statusCode, [("Content-Type", "application/json")], outcome.body.render⟩

end ImportOutcome

/-- An import with everything it is set up with. -/
structure Importer where
  mapper : Mapper
  emitter : Emitter
  schedule : Schedule
  reports : ReportSettings

namespace Importer

variable {σ : Type}

def reportKey (importer : Importer) (kind : ReportKind) (label : String) : String :=
  ReportKey.make importer.reports.folder kind importer.reports.date label importer.reports.part

/-- The report of the records that the bus did not accept, if there are any. -/
def emissionReport (importer : Importer) (object : ObjectRef) (summary : DispatchSummary) :
    List Report :=
  if summary.emission.failedRecords.isEmpty then []
  else
    [⟨importer.reportKey .emission object.label,
      .obj [("source", .str object.label), ("rounds", .ofNat summary.emission.rounds),
        ("records", .arr (summary.emission.failedRecords.map Record.toJson)),
        ("last_failures", .arr (summary.emission.lastFailures.map FailedEntry.toJson))]⟩]

/-- The report of the lines that gave no record, if there are any. -/
def mappingReport (importer : Importer) (object : ObjectRef) (summary : DispatchSummary) :
    List Report :=
  if summary.mappingFailures.isEmpty then []
  else
    [⟨importer.reportKey .mapping object.label,
      .obj [("source", .str object.label),
        ("failures", .arr (summary.mappingFailures.map MappingFailure.toJson))]⟩]

/-- The reports that the failures of one object call for. -/
def reportsFor (importer : Importer) (object : ObjectRef) (summary : DispatchSummary) :
    List Report :=
  importer.emissionReport object summary ++ importer.mappingReport object summary

/-- Writes one report. -/
def writeReport (world : World σ) (report : Report) : StateM σ (String × Except String Unit) := do
  let result ← world.write report.key (Text.Utf8.encode report.body.renderChars)
  return (report.key, result)

def writtenKeys (writes : List (String × Except String Unit)) : List String :=
  writes.filterMap fun
    | (key, .ok ()) => some key
    | _ => none

def firstError? (writes : List (String × Except String Unit)) : Option String :=
  writes.findSome? fun
    | (_, .error reason) => some reason
    | _ => none

/-- Reads, dispatches and reports one object. -/
def importObject (importer : Importer) (world : World σ) (so : ImportSummary)
    (object : ObjectRef) : StateM σ ImportSummary := do
  match ← world.read object with
  | .error reason =>
    return { so with
      readFailures := so.readFailures + 1
      sources := so.sources ++ [⟨object, 0, 0, 0, some reason⟩] }
  | .ok body =>
    let summary ← Dispatch.file importer.mapper importer.emitter world.bus importer.schedule body
    let writes ← (importer.reportsFor object summary).mapM (writeReport world)
    return { so with
      overall := so.overall.absorb summary
      sources := so.sources ++
        [⟨object, summary.total, summary.unmapped, summary.unaccepted, firstError? writes⟩]
      reports := so.reports ++ writtenKeys writes }

def importObjects (importer : Importer) (world : World σ) (objects : List ObjectRef) :
    StateM σ ImportOutcome := do
  let summary ← objects.foldlM (importer.importObject world) .empty
  return .done summary

/-- Handles one event. -/
def handle (importer : Importer) (world : World σ) (event : Json) : StateM σ ImportOutcome := do
  match ImportSource.ofEvent event with
  | .error error => return .refused error
  | .ok (.objects objects) => importer.importObjects world objects
  | .ok (.listing request) =>
    match ← world.list request.bucket request.keyStart with
    | .error reason => return .listingFailed reason
    | .ok keys => importer.importObjects world (keys.map fun key => ⟨request.bucket, key⟩)

end Importer

end Intake
