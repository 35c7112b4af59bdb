import Intake.Emission.Emitter
import Intake.Json.Reply

/-!
# The bus over its service

One call to the bus is one request to the service that runs it.  The service counts refused
entries with a sign; a negative count says nothing.
-/

namespace Intake

namespace BusClient

structure Output where
  failedCount : Int
  results : List EntryResult
  deriving DecidableEq, Inhabited

inductive Reply where
  | done (output : Output)
  | refused
  | unreachable
  deriving DecidableEq, Inhabited

/-- The service that answers calls; its replies may depend on everything that went before. -/
abbrev Service (σ : Type) := List EventEntry → StateM σ Reply

/-- The time of an entry in milliseconds, as the service takes it.  Whole seconds and the rest of a
second are sent side by side as one decimal, so before 1970 the rest counts away from zero. -/
def sentMillis (time : Timestamp) : Int :=
  let seconds := time.millis / 1000
  let rest := time.millis % 1000
  if 0 ≤ seconds then seconds * 1000 + rest else seconds * 1000 - rest

/-- One entry in the form in which it is sent. -/
def entryToJson (entry : EventEntry) : Json :=
  .obj [("Time", .num (.int (sentMillis entry.time))), ("Source", .str entry.source),
    ("Resources", .arr (entry.resources.map .str)), ("DetailType", .str entry.detailType),
    ("Detail", .str entry.detail), ("EventBusName", .str entry.busName)]

def requestToJson (entries : List EventEntry) : Json :=
  .obj [("Entries", .arr (entries.map entryToJson))]

/-- The result of one entry as it is received. -/
def resultShape : Shape EntryResult :=
  EntryResult.mk <$> .optional "EventId" .text
    <*> .optional "ErrorCode" .text
    <*> .optional "ErrorMessage" .text

/-- The output of a call as it is received; what is missing counts as nothing. -/
def outputShape : Shape Output :=
  (fun failedCount results => ⟨failedCount.getD 0, results.getD []⟩)
    <$> .optional "FailedEntryCount" .int32
    <*> .optional "Entries" (.list (resultShape.decodeObject "Result"))

/-- The reply to a call that was carried out.  An output that cannot be read counts as a refusal. -/
def Reply.ofOutput (document : Json) : Reply :=
  match outputShape.decodeObject "Output" document with
  | .ok output => .done output
  | .error _ => .refused

/-- What the emitter is told about a reply. -/
def interpret : Reply → Except PublishError PublishResponse
  | .done output => .ok ⟨output.failedCount.toNat, output.results⟩
  | .refused => .error ⟨"PutEvents failed: service error"⟩
  | .unreachable => .error ⟨"PutEvents failed: dispatch failure"⟩

def put {σ : Type} (service : Service σ) (entries : List EventEntry) :
    StateM σ (Except PublishError PublishResponse) := do
  return interpret (← service entries)

/-- The service as the bus of an emitter. -/
def asBus {σ : Type} (service : Service σ) (now : StateM σ Timestamp) : Bus σ :=
  ⟨now, put service⟩

end BusClient

end Intake
