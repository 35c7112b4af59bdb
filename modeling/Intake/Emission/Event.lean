import Intake.Emission.Batch
import Intake.Timestamp.Reader

/-!
# Events and their outcomes

A batch goes to the bus as one call with one entry per record.  The reply says for each entry, by
its place, whether it was accepted.  A batch is accepted when no entry was refused; a batch that
failed keeps the failures of its records and is submitted again as it is.
-/

namespace Intake

/-- What the events of one import have in common. -/
structure Context where
  source : String
  detailType : String
  correlationToken : String
  deriving DecidableEq, Inhabited

def Context.toJson (context : Context) : Json :=
  .obj [("source", .str context.source), ("detail_type", .str context.detailType),
    ("correlation_token", .str context.correlationToken)]

structure EventEntry where
  busName : String
  resources : List String
  detailType : String
  time : Timestamp
  detail : String
  source : String
  deriving DecidableEq

namespace EventEntry

def toJson (entry : EventEntry) : Json :=
  .obj [("eventBusName", .str entry.busName), ("resources", .arr (entry.resources.map .str)),
    ("detailType", .str entry.detailType), ("time", entry.time.toJson),
    ("detail", .str entry.detail), ("source", .str entry.source)]

def shape : Shape EventEntry :=
  EventEntry.mk <$> .required "eventBusName" .text
    <*> .required "resources" (.list .text)
    <*> .required "detailType" .text
    <*> .required "time" Timestamp.decode
    <*> .required "detail" .text
    <*> .required "source" .text

def decode : Decoder EventEntry := shape.decode "EventEntry" .unnamed

end EventEntry

/-- What the bus says about one entry. -/
structure EntryResult where
  eventId : Option String
  errorCode : Option String
  errorMessage : Option String
  deriving DecidableEq, Inhabited

namespace EntryResult

def toJson (result : EntryResult) : Json :=
  .obj <|
    Json.optionalMember "eventId" .str result.eventId ++
    Json.optionalMember "errorCode" .str result.errorCode ++
    Json.optionalMember "errorMessage" .str result.errorMessage

def shape : Shape EntryResult :=
  EntryResult.mk <$> .nullable "eventId" .text
    <*> .nullable "errorCode" .text
    <*> .nullable "errorMessage" .text

def decode : Decoder EntryResult := shape.decode "EntryResult" .unnamed

end EntryResult

structure PublishResponse where
  failedCount : Nat
  results : List EntryResult
  deriving DecidableEq, Inhabited

namespace PublishResponse

def toJson (response : PublishResponse) : Json :=
  .obj [("failedEntryCount", .ofNat response.failedCount),
    ("entries", .arr (response.results.map EntryResult.toJson))]

def shape : Shape PublishResponse :=
  PublishResponse.mk <$> .required "failedEntryCount" (.count "usize")
    <*> .defaulted "entries" (.list EntryResult.decode) []

def decode : Decoder PublishResponse := shape.decode "PublishResponse" .unnamed

end PublishResponse

/-- A call that brought no reply. -/
structure PublishError where
  reason : String
  deriving DecidableEq, Inhabited

def PublishError.message (error : PublishError) : String :=
  "publish call failed: " ++ error.reason

/-- What went wrong with one record of a batch. -/
structure FailedEntry where
  identifier : String
  code : String
  message : String
  deriving DecidableEq, Inhabited

namespace FailedEntry

def toJson (failure : FailedEntry) : Json :=
  .obj [("record_identifier", .str failure.identifier), ("error_code", .str failure.code),
    ("error_message", .str failure.message)]

def shape : Shape FailedEntry :=
  FailedEntry.mk <$> .required "record_identifier" .text
    <*> .required "error_code" .text
    <*> .required "error_message" .text

def decode : Decoder FailedEntry := shape.decode "FailedEntry" .unnamed

end FailedEntry

/-- What became of a submitted batch. -/
inductive Outcome where
  | accepted (batch : Batch)
  | failed (batch : Batch) (failures : List FailedEntry)
  deriving DecidableEq, Inhabited

namespace Outcome

def batch : Outcome → Batch
  | .accepted batch => batch
  | .failed batch _ => batch

def isFailure : Outcome → Bool
  | .accepted _ => false
  | .failed _ _ => true

def failures : Outcome → List FailedEntry
  | .accepted _ => []
  | .failed _ failures => failures

/-- The failure of every record of a batch. -/
def wholeBatch (records : List Record) (code message : String) : List FailedEntry :=
  records.map fun record => ⟨record.identifier, code, message⟩

/-- The records whose result has an error code. -/
def attributed (records : List Record) (results : List EntryResult) : List FailedEntry :=
  (records.zip results).filterMap fun (record, result) =>
    result.errorCode.map fun code => ⟨record.identifier, code, result.errorMessage.getD ""⟩

/-- What a reply means for a batch.  Failures that are counted but attributed to no record are
failures of all of them. -/
def ofResponse (batch : Batch) (response : PublishResponse) : Outcome :=
  let attributed := attributed batch.records response.results
  let failures :=
    if attributed.isEmpty && 0 < response.failedCount then
      wholeBatch batch.records "UnattributedFailure"
        (toString response.failedCount ++ " entries failed without per-entry results")
    else attributed
  if failures.isEmpty then .accepted batch else .failed batch failures

/-- A call without a reply is a failure of the whole batch. -/
def ofError (batch : Batch) (error : PublishError) : Outcome :=
  .failed batch (wholeBatch batch.records "PublishCallFailed" error.reason)

end Outcome

/-- The entries of a batch. -/
def Batch.entries (batch : Batch) (context : Context) (busName : String) (time : Timestamp) :
    List EventEntry :=
  batch.records.map fun record =>
    { busName := busName
      resources := [context.correlationToken]
      detailType := context.detailType
      time := time
      detail := record.detail
      source := context.source }

end Intake
