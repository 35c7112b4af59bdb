import Intake.Json.Shape
import Intake.Text.Blank

/-!
# Statuses

Each kind of entry has its own list of statuses.  A status is read by its name, whatever the case
of the ASCII letters and the blanks around it, and written by its name.
-/

namespace Intake

structure UnknownStatus where
  kind : String
  text : String
  deriving DecidableEq, Inhabited

def UnknownStatus.message (error : UnknownStatus) : String :=
  "unknown " ++ error.kind ++ " status '" ++ error.text ++ "'"

/-- A list of named statuses. -/
class Status (σ : Type) where
  /-- What the kind of status is called in errors. -/
  kind : String
  all : List σ
  name : σ → String

/-- Texts that differ in the case of ASCII letters only. -/
def sameLetters (a b : String) : Bool :=
  a.toList.map Char.toLower == b.toList.map Char.toLower

namespace Status

variable {σ : Type} [Status σ]

def parse (text : String) : Except UnknownStatus σ :=
  match (all : List σ).find? fun s => sameLetters (Text.trim text) (name s) with
  | some s => .ok s
  | none => .error ⟨kind σ, Text.trim text⟩

def decode : Decoder σ := .parsed parse UnknownStatus.message "a string"

def toJson (s : σ) : Json := .str (name s)

end Status

inductive ResourceStatus where
  | draft
  | published
  | publishedMetadata
  | unpublished
  | deleted
  deriving DecidableEq, Repr, Inhabited

instance : Status ResourceStatus where
  kind := "resource"
  all := [.draft, .published, .publishedMetadata, .unpublished, .deleted]
  name
    | .draft => "Draft"
    | .published => "Published"
    | .publishedMetadata => "PublishedMetadata"
    | .unpublished => "Unpublished"
    | .deleted => "Deleted"

inductive TicketStatus where
  | new
  | pending
  | completed
  | closed
  | notApplicable
  deriving DecidableEq, Repr, Inhabited

instance : Status TicketStatus where
  kind := "ticket"
  all := [.new, .pending, .completed, .closed, .notApplicable]
  name
    | .new => "New"
    | .pending => "Pending"
    | .completed => "Completed"
    | .closed => "Closed"
    | .notApplicable => "NotApplicable"

inductive MessageStatus where
  | unread
  | read
  deriving DecidableEq, Repr, Inhabited

instance : Status MessageStatus where
  kind := "message"
  all := [.unread, .read]
  name
    | .unread => "Unread"
    | .read => "Read"

end Intake
