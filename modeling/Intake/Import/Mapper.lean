import Intake.Emission.Batch
import Intake.Entry.Decode
import Intake.Entry.Encode
import Intake.Key.Basic
import Intake.Text.Utf8

/-!
# Mapping values to records

A mapper turns one value of an imported file into a record for the bus, or says why not.  The entry
mapper lets only those values through that the table will accept.
-/

namespace Intake

/-- Why a line or a value of a file gives no record. -/
inductive MappingError where
  | invalidJson (line : Nat) (error : Json.SyntaxError)
  | invalidUtf8 (line : Nat) (error : Text.Utf8Error)
  | invalidEntry (error : ShapeError)
  | key (error : KeyError)
  | missingIdentifier (field : String)
  /-- The mapper's own reason. -/
  | rejected (reason : String)
  deriving DecidableEq, Inhabited

def MappingError.message : MappingError → String
  | .invalidJson line error => "line " ++ toString line ++ ": invalid JSON: " ++ error.message
  | .invalidUtf8 line error => "line " ++ toString line ++ ": invalid UTF-8: " ++ error.message
  | .invalidEntry error => "value is not a storage entry: " ++ error.message
  | .key error => error.message
  | .missingIdentifier field => "record has no usable '" ++ field ++ "' identifier"
  | .rejected reason => reason

abbrev Mapper := Json → Except MappingError Record

namespace Mapper

/-- The identifier in one member of a value: a text that is not blank, or a number. -/
def identifierIn (field : String) (value : Json) : Option String :=
  match value.get? field with
  | some (.str text) => if Text.isBlankText text then none else some (Text.trim text)
  | some (.num n) => some n.render
  | _ => none

/-- Keeps the value as it is and takes the identifier from one of its members. -/
def byField (field : String) : Mapper := fun value =>
  match identifierIn field value with
  | some identifier => .ok ⟨identifier, value⟩
  | none => .error (.missingIdentifier field)

def defaultField : String := "id"

/-- Reads the value as an entry whose keys can be made, and keeps the entry. -/
def byEntry : Mapper := fun value => do
  let entry ← (Entry.decode value).mapError .invalidEntry
  let _ ← entry.keys.mapError .key
  return ⟨entry.identifier.text, entry.toValue⟩

end Mapper

end Intake
