import Intake.Entry.Basic
import Intake.Timestamp.Reader

/-!
# Entries as documents

An entry is written as one object: its type, its metadata, then the fields of its content.  Absent
fields and empty lists are left out.  The value of an entry is the same object with its members
sorted by name.
-/

namespace Intake

open Json (Member optionalMember listMember)

def Metadata.members (m : Metadata) : List Member :=
  [("identifier", m.identifier.toJson)] ++
  optionalMember "owner" .str m.owner ++
  optionalMember "customerId" .str m.customerId ++
  [("createdDate", m.createdDate.toJson),
   ("modifiedDate", m.modifiedDate.toJson),
   ("rowVersion", m.rowVersion.toJson)]

def Contributor.toJson (c : Contributor) : Json :=
  .obj (("name", .str c.name) :: optionalMember "affiliation" .str c.affiliation)

def Description.toJson (d : Description) : Json :=
  .obj <|
    optionalMember "mainTitle" .str d.mainTitle ++
    optionalMember "abstract" .str d.abstractText ++
    optionalMember "publicationYear" .str d.publicationYear ++
    optionalMember "referenceDoi" .str d.referenceDoi ++
    listMember "contributors" Contributor.toJson d.contributors

def sizeToJson (size : UInt64) : Json := .ofNat size.toNat

def AssociatedFile.toJson (f : AssociatedFile) : Json :=
  .obj <|
    [("identifier", f.identifier.toJson), ("name", .str f.name)] ++
    optionalMember "mimeType" .str f.mimeType ++
    optionalMember "size" sizeToJson f.size ++
    optionalMember "license" .str f.license

def Ticket.members (t : Ticket) : List Member :=
  [("status", Status.toJson t.status), ("resourceIdentifier", t.resource.toJson)]

def Content.members : Content → List Member
  | .resource r =>
    [("status", Status.toJson r.status)] ++
    optionalMember "entityDescription" Description.toJson r.description ++
    listMember "associatedFiles" AssociatedFile.toJson r.files
  | .doiRequest t doi => t.members ++ optionalMember "doi" .str doi
  | .publishingRequest t files => t.members ++ listMember "approvedFiles" Uuid.toJson files
  | .approvalRequest t approver => t.members ++ optionalMember "approver" .str approver
  | .message m =>
    [("status", Status.toJson m.status), ("resourceIdentifier", m.resource.toJson)] ++
    optionalMember "ticketIdentifier" Identifier.toJson m.ticket ++
    optionalMember "sender" .str m.sender ++
    [("text", .str m.text)]

namespace Entry

def members (entry : Entry) : List Member :=
  ("type", .str entry.entryType.name) :: (entry.metadata.members ++ entry.content.members)

/-- The entry as a document, fields in their order. -/
def toDocument (entry : Entry) : Json := .obj entry.members

/-- The entry as a value, fields sorted by name. -/
def toValue (entry : Entry) : Json := entry.toDocument.canonical

def render (entry : Entry) : String := entry.toDocument.render

end Entry

end Intake
