import Intake.Json.Reader
import Intake.Json.Shape
import Intake.Text.Blank
import Intake.Text.Form

/-!
# What an import event asks for

An event is either a notification that names objects, or a request that names a bucket and the
start of the keys to import.  A request may come inside an envelope, its body embedded or as text.
-/

namespace Intake

structure ObjectRef where
  bucket : String
  key : String
  deriving DecidableEq, Inhabited

/-- The object as reports and digests name it. -/
def ObjectRef.label (object : ObjectRef) : String := object.bucket ++ "/" ++ object.key

structure ImportRequest where
  bucket : String
  keyStart : String
  deriving DecidableEq, Inhabited

/-- Why an event is refused. -/
inductive RequestError where
  | noRecords
  | noBucketName
  | noObjectKey
  | keyNotUtf8 (raw : String) (error : Text.Utf8Error)
  | payloadNotObject
  | bodyNotObject
  | malformedBody (error : Json.SyntaxError)
  | malformedRequest (error : ShapeError)
  | blankBucket
  deriving DecidableEq, Inhabited

def RequestError.message : RequestError → String
  | .noRecords => "S3 event must include Records array"
  | .noBucketName => "S3 record must include s3.bucket.name"
  | .noObjectKey => "S3 record must include s3.object.key"
  | .keyNotUtf8 raw error => "object key '" ++ raw ++ "' is not valid UTF-8: " ++ error.message
  | .payloadNotObject => "Request payload must be a JSON object"
  | .bodyNotObject => "Request body must be a JSON object"
  | .malformedBody error => "Malformed JSON body: " ++ error.message
  | .malformedRequest error => "Malformed request: " ++ error.message
  | .blankBucket => "bucket must not be empty"

namespace Notification

def recordsOf (event : Json) : Option (List Json) :=
  (event.get? "Records").bind Json.asArray?

def isFromBucket (record : Json) : Bool :=
  (record.get? "eventSource").bind Json.asString? == some "aws:s3"

/-- A notification has records, all of them about objects. -/
def isNotification (event : Json) : Bool :=
  match recordsOf event with
  | some records => !records.isEmpty && records.all isFromBucket
  | none => false

/-- The key that a form-encoded key stands for. -/
def decodeKey (raw : String) : Except RequestError String :=
  (Text.Form.decode raw).mapError (.keyNotUtf8 raw)

/-- The object of one record. -/
def objectOf (record : Json) : Except RequestError ObjectRef := do
  match (record.at? ["s3", "bucket", "name"]).bind Json.asString? with
  | none => throw .noBucketName
  | some bucket =>
    match (record.at? ["s3", "object", "key"]).bind Json.asString? with
    | none => throw .noObjectKey
    | some raw => return ⟨bucket, ← decodeKey raw⟩

/-- The objects of all records, or the error of the first bad one. -/
def objects (event : Json) : Except RequestError (List ObjectRef) :=
  match recordsOf event with
  | none => .error .noRecords
  | some records => records.mapM objectOf

end Notification

namespace ImportRequest

def shape : Shape ImportRequest :=
  ImportRequest.mk <$> .required "bucket" .text <*> .defaulted "prefix" .text ""

def decode : Decoder ImportRequest := shape.decode "ImportRequest" .unnamed

/-- The request without the envelope. -/
def payloadOf (event : Json) : Except RequestError Json :=
  match event with
  | .obj _ =>
    match event.get? "body" with
    | none => .ok event
    | some .null => .ok (.obj [])
    | some (.obj members) => .ok (.obj members)
    | some (.str text) => (Json.parse text).mapError .malformedBody
    | some _ => .error .bodyNotObject
  | _ => .error .payloadNotObject

/-- The request in an event, whatever its bucket. -/
def ofEvent (event : Json) : Except RequestError ImportRequest := do
  let payload ← payloadOf event
  (decode payload).mapError .malformedRequest

end ImportRequest

/-- What an event asks to import. -/
inductive ImportSource where
  | objects (objects : List ObjectRef)
  | listing (request : ImportRequest)
  deriving DecidableEq, Inhabited

def ImportSource.ofEvent (event : Json) : Except RequestError ImportSource :=
  if Notification.isNotification event then (Notification.objects event).map .objects
  else do
    let request ← ImportRequest.ofEvent event
    if Text.isBlankText request.bucket then throw .blankBucket
    return .listing request

end Intake
