import Intake.Entry.Basic
import Intake.Timestamp.Reader

/-!
# Reading entries out of documents

The type of an entry is looked at before anything else.  Then the fields of its content are read,
and its metadata last.  Members that belong to neither are ignored.
-/

namespace Intake

open Shape (required optional defaulted)

def Metadata.shape : Shape Metadata :=
  Metadata.mk <$> required "identifier" Identifier.decode
    <*> optional "owner" .text
    <*> optional "customerId" .text
    <*> required "createdDate" Timestamp.decode
    <*> required "modifiedDate" Timestamp.decode
    <*> required "rowVersion" RowVersion.decode

def Contributor.shape : Shape Contributor :=
  Contributor.mk <$> required "name" .text <*> optional "affiliation" .text

def Contributor.decode : Decoder Contributor := Contributor.shape.decode "Contributor" .counted

def Description.shape : Shape Description :=
  Description.mk <$> optional "mainTitle" .text
    <*> optional "abstract" .text
    <*> optional "publicationYear" .text
    <*> optional "referenceDoi" .text
    <*> defaulted "contributors" (.list Contributor.decode) []

def Description.decode : Decoder Description :=
  Description.shape.decode "EntityDescription" .counted

def decodeSize : Decoder UInt64 := fun document =>
  (Decoder.count "u64" document).map UInt64.ofNat

def AssociatedFile.shape : Shape AssociatedFile :=
  AssociatedFile.mk <$> required "identifier" Uuid.decode
    <*> required "name" .text
    <*> optional "mimeType" .text
    <*> optional "size" decodeSize
    <*> optional "license" .text

def AssociatedFile.decode : Decoder AssociatedFile :=
  AssociatedFile.shape.decode "AssociatedFile" .counted

def Resource.shape : Shape Resource :=
  Resource.mk <$> required "status" Status.decode
    <*> optional "entityDescription" Description.decode
    <*> defaulted "associatedFiles" (.list AssociatedFile.decode) []

def Ticket.shape : Shape Ticket :=
  Ticket.mk <$> required "status" Status.decode <*> required "resourceIdentifier" Identifier.decode

def Message.shape : Shape Message :=
  Message.mk <$> required "status" Status.decode
    <*> required "resourceIdentifier" Identifier.decode
    <*> optional "ticketIdentifier" Identifier.decode
    <*> optional "sender" .text
    <*> required "text" .text

def Content.shape : EntryType → Shape Content
  | .resource => Content.resource <$> Resource.shape
  | .doiRequest => Content.doiRequest <$> Ticket.shape <*> optional "doi" .text
  | .publishingRequest =>
    Content.publishingRequest <$> Ticket.shape <*> defaulted "approvedFiles" (.list Uuid.decode) []
  | .approvalRequest => Content.approvalRequest <$> Ticket.shape <*> optional "approver" .text
  | .message => Content.message <$> Message.shape

namespace EntryType

def decodeName (name : String) : Except ShapeError EntryType :=
  match ofName? name with
  | some t => .ok t
  | none => .error (.unknownVariant name (all.map EntryType.name))

/-- The type that marks an entry. -/
def decodeTag : Decoder EntryType
  | .str name => decodeName name
  | other => .error (.wrongKind other "variant identifier")

/-- A type that stands by itself: its name, or an object whose one member has that name. -/
def decode : Decoder EntryType
  | .str name => decodeName name
  | .obj [(name, content)] => do
    let t ← decodeName name
    match content with
    | .null => return t
    | other => throw (.wrongKind other "unit")
  | .obj _ => .error .notOneMember
  | other => .error (.wrongKind other "string or map")

end EntryType

namespace Entry

/-- What the record of each type is called in errors. -/
def recordName (t : EntryType) : String := t.name ++ "Entry"

/-- The type among the members of an object. -/
def tagOf (members : List Json.Member) : Except ShapeError EntryType :=
  match members.filter fun m => m.1 == "type" with
  | [] => .error (.missingField "type")
  | (_, tag) :: more => do
    let t ← EntryType.decodeTag tag
    if more.isEmpty then return t else throw (.duplicateField "type")

/-- The entry of a known type in the members of an object. -/
def ofMembers (t : EntryType) (members : List Json.Member) : Except ShapeError Entry := do
  let others := members.filter fun m => m.1 != "type"
  let content ← (Content.shape t).ofMembers others
  let metadata ← Metadata.shape.ofMembers others
  return ⟨metadata, content⟩

/-- The entry in a document. -/
def decode : Decoder Entry
  | .obj members => do
    let t ← tagOf members
    ofMembers t members
  | .arr [] => .error (.missingField "type")
  | .arr (tag :: rest) => do
    let t ← EntryType.decodeTag tag
    throw (.wrongKind (.arr rest) ("struct " ++ recordName t))
  | other => .error (.wrongKind other "internally tagged enum StorageEntry")

end Entry

end Intake
