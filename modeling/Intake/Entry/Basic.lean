import Intake.Entry.Status
import Intake.Identifier
import Intake.Timestamp.Basic

/-!
# Storage entries

An entry is a resource, one of three kinds of ticket about a resource, or a message about one.
All entries carry the same metadata; what they are about is their content.
-/

namespace Intake

inductive EntryType where
  | resource
  | doiRequest
  | publishingRequest
  | approvalRequest
  | message
  deriving DecidableEq, Repr, Inhabited

namespace EntryType

def all : List EntryType :=
  [.resource, .doiRequest, .publishingRequest, .approvalRequest, .message]

def name : EntryType → String
  | .resource => "Resource"
  | .doiRequest => "DoiRequest"
  | .publishingRequest => "PublishingRequest"
  | .approvalRequest => "ApprovalRequest"
  | .message => "Message"

def ofName? (name : String) : Option EntryType :=
  all.find? fun t => t.name == name

end EntryType

structure Metadata where
  identifier : Identifier
  owner : Option String
  customerId : Option String
  createdDate : Timestamp
  modifiedDate : Timestamp
  rowVersion : RowVersion
  deriving DecidableEq

structure Contributor where
  name : String
  affiliation : Option String
  deriving DecidableEq, Inhabited

/-- What a resource describes. -/
structure Description where
  mainTitle : Option String
  abstractText : Option String
  publicationYear : Option String
  referenceDoi : Option String
  contributors : List Contributor
  deriving DecidableEq, Inhabited

structure AssociatedFile where
  identifier : Uuid
  name : String
  mimeType : Option String
  size : Option UInt64
  license : Option String
  deriving DecidableEq

structure Resource where
  status : ResourceStatus
  description : Option Description
  files : List AssociatedFile
  deriving DecidableEq

/-- What all tickets have: a status and the resource they are about. -/
structure Ticket where
  status : TicketStatus
  resource : Identifier
  deriving DecidableEq

structure Message where
  status : MessageStatus
  resource : Identifier
  ticket : Option Identifier
  sender : Option String
  text : String
  deriving DecidableEq

inductive Content where
  | resource (resource : Resource)
  | doiRequest (ticket : Ticket) (doi : Option String)
  | publishingRequest (ticket : Ticket) (approvedFiles : List Uuid)
  | approvalRequest (ticket : Ticket) (approver : Option String)
  | message (message : Message)
  deriving DecidableEq

namespace Content

def entryType : Content → EntryType
  | .resource _ => .resource
  | .doiRequest _ _ => .doiRequest
  | .publishingRequest _ _ => .publishingRequest
  | .approvalRequest _ _ => .approvalRequest
  | .message _ => .message

def statusName : Content → String
  | .resource r => Status.name r.status
  | .doiRequest t _ => Status.name t.status
  | .publishingRequest t _ => Status.name t.status
  | .approvalRequest t _ => Status.name t.status
  | .message m => Status.name m.status

/-- The resource a ticket or a message is about. -/
def about : Content → Option Identifier
  | .resource _ => none
  | .doiRequest t _ => some t.resource
  | .publishingRequest t _ => some t.resource
  | .approvalRequest t _ => some t.resource
  | .message m => some m.resource

end Content

structure Entry where
  metadata : Metadata
  content : Content
  deriving DecidableEq

namespace Entry

def entryType (entry : Entry) : EntryType := entry.content.entryType

def identifier (entry : Entry) : Identifier := entry.metadata.identifier

def rowVersion (entry : Entry) : RowVersion := entry.metadata.rowVersion

def statusName (entry : Entry) : String := entry.content.statusName

def about (entry : Entry) : Option Identifier := entry.content.about

/-- The entry stamped for a new write. -/
def touched (entry : Entry) (now : Timestamp) (version : RowVersion) : Entry :=
  { entry with metadata := { entry.metadata with modifiedDate := now, rowVersion := version } }

end Entry

/-- Metadata of an entry made now. -/
def Metadata.fresh (identifier : Identifier) (version : RowVersion) (now : Timestamp)
    (owner customerId : String) : Metadata where
  identifier := identifier
  owner := some owner
  customerId := some customerId
  createdDate := now
  modifiedDate := now
  rowVersion := version

end Intake
