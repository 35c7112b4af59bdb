import Intake.Entry.Reader
import Intake.Store.Basic

/-!
# Delivered events

An event carries an entry as its detail.  Delivering it stores the entry unless something is stored
already: the same entry again is a duplicate, and an entry of another version is a conflict, which
leaves the stored one as it is.
-/

namespace Intake

inductive Delivery where
  | created (identifier : Identifier) (version : RowVersion)
  | duplicate (identifier : Identifier)
  | conflict (identifier : Identifier) (stored : Option RowVersion) (delivered : RowVersion)
  deriving DecidableEq

namespace Delivery

def toJson : Delivery → Json
  | .created identifier version =>
    .obj [("outcome", .str "created"), ("identifier", identifier.toJson),
      ("row_version", version.toJson)]
  | .duplicate identifier =>
    .obj [("outcome", .str "duplicate"), ("identifier", identifier.toJson)]
  | .conflict identifier stored delivered =>
    .obj [("outcome", .str "conflict"), ("identifier", identifier.toJson),
      ("stored_row_version", (stored.map RowVersion.toJson).getD .null),
      ("delivered_row_version", delivered.toJson)]

end Delivery

/-- Why an event cannot be delivered. -/
inductive DeliveryError where
  | missingDetail
  | invalidEntry (error : EntryError)
  | write (error : WriteError)
  deriving DecidableEq

def DeliveryError.message : DeliveryError → String
  | .missingDetail => "event has no detail"
  | .invalidEntry error => "event detail is not a storage entry: " ++ error.message
  | .write error => error.message

namespace Delivery

/-- The entry in the detail of an event: embedded, or as text. -/
def entryOf (event : Json) : Except DeliveryError Entry :=
  match event.get? "detail" with
  | none => .error .missingDetail
  | some .null => .error .missingDetail
  | some (.str text) => (Entry.parse text).mapError .invalidEntry
  | some detail => (Entry.decode detail).mapError fun e => .invalidEntry (.shape e none)

/-- What a delivery means whose key or reservation is taken. -/
def ofStored (entry : Entry) (stored : Option Item) : Delivery :=
  let version := stored.map Item.rowVersion
  if version = some entry.rowVersion then .duplicate entry.identifier
  else .conflict entry.identifier version entry.rowVersion

end Delivery

/-- Delivers one event. -/
def EntryStore.deliver {σ : Type} (store : EntryStore σ) (event : Json) :
    StateM σ (Except DeliveryError Delivery) := do
  match Delivery.entryOf event with
  | .error error => return .error error
  | .ok entry =>
    match ← store.create entry with
    | .ok item => return .ok (.created item.identifier item.rowVersion)
    | .error (.store (.alreadyExists key)) =>
      match ← store.get key with
      | .error error => return .error (.write (.store error))
      | .ok stored => return .ok (.ofStored entry stored)
    | .error error => return .error (.write error)

end Intake
