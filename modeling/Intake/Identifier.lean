import Intake.Json.Shape
import Intake.Text.Blank
import Intake.Uuid

/-!
# Identifiers and row versions

An identifier is a trimmed text without the delimiter of composite keys, so it can stand in a key.
A generated identifier starts with its creation time in a fixed number of hexadecimal digits, so
the order of identifiers is the order of their times.
-/

namespace Intake

/-- Divides the components of a composite key. -/
def keyDelimiter : Char := '#'

def holdsDelimiter (text : String) : Bool := text.toList.contains keyDelimiter

structure Identifier where
  text : String
  text_ne : text ≠ ""
  trimmed : Text.trim text = text
  no_delimiter : holdsDelimiter text = false
  deriving DecidableEq

inductive IdentifierError where
  | empty
  | containsDelimiter (text : String)
  deriving DecidableEq, Inhabited

def IdentifierError.message : IdentifierError → String
  | .empty => "identifier cannot be empty"
  | .containsDelimiter text => "identifier '" ++ text ++ "' contains the key delimiter '#'"

namespace Identifier

def parse (text : String) : Except IdentifierError Identifier :=
  if hempty : Text.trim text = "" then .error .empty
  else if hdelimiter : holdsDelimiter (Text.trim text) = true then
    .error (.containsDelimiter text)
  else .ok ⟨Text.trim text, hempty, Text.trim_trim text, by simpa using hdelimiter⟩

/-- Identifiers are ordered as their texts. -/
def le (a b : Identifier) : Bool := (compare a.text b.text).isLE

/-- The hexadecimal digits of a time in milliseconds, at least twelve. -/
def timeDigits (millis : Nat) : List Char :=
  let digits := Nat.toDigits 16 millis
  List.replicate (12 - digits.length) '0' ++ digits

/-- The text of the identifier made at a time. -/
def generatedText (millis : Nat) (uuid : Uuid) : String :=
  String.ofList (timeDigits millis ++ '-' :: uuid.simpleChars)

/-- The identifier made at a time from fresh random digits. -/
def generate (millis : Nat) (uuid : Uuid) : Except IdentifierError Identifier :=
  parse (generatedText millis uuid)

/-- The identifier made when the clock shows so many milliseconds since 1970; a clock that stands
before that makes the identifiers of the first millisecond. -/
def fresh (clock : Int) (uuid : Uuid) : Except IdentifierError Identifier :=
  generate clock.toNat uuid

def decode : Decoder Identifier :=
  .parsed parse IdentifierError.message "a string"

def toJson (identifier : Identifier) : Json := .str identifier.text

end Identifier

/-- Names one state of a stored entry; replaced on every write. -/
structure RowVersion where
  token : String
  deriving DecidableEq, Inhabited

namespace RowVersion

def ofUuid (uuid : Uuid) : RowVersion := ⟨uuid.toString⟩

def decode : Decoder RowVersion := fun document => RowVersion.mk <$> Decoder.text document

def toJson (version : RowVersion) : Json := .str version.token

end RowVersion

end Intake
