import Intake.Import.Mapper
import Intake.Json.Reader
import Intake.Text.Blank
import Intake.Text.Utf8

/-!
# Files of one JSON value per line

Lines are numbered from one and end with a line feed.  Blank lines are passed over.  A line that
cannot be read is reported by its number and has no influence on other lines.
-/

namespace Intake

/-- A line or a value that gave no record. -/
structure MappingFailure where
  position : Nat
  message : String
  /-- The value, where there was one. -/
  raw : Option Json
  deriving DecidableEq, Inhabited

namespace MappingFailure

def toJson (failure : MappingFailure) : Json :=
  .obj <|
    [("position", .ofNat failure.position), ("message", .str failure.message)] ++
    Json.optionalMember "raw" id failure.raw

def shape : Shape MappingFailure :=
  MappingFailure.mk <$> .required "position" (.count "usize")
    <*> .required "message" .text
    <*> .optional "raw" .document

def decode : Decoder MappingFailure := shape.decode "MappingFailure" .unnamed

end MappingFailure

namespace Lines

/-- The lines of a file: the bytes between its line feeds. -/
def split : List UInt8 → List (List UInt8)
  | [] => [[]]
  | b :: rest =>
    if b = 0x0A then [] :: split rest
    else
      match split rest with
      | [] => [[b]]
      | line :: lines => (b :: line) :: lines

/-- What a line holds. -/
inductive Line where
  | blank
  | value (v : Json)
  | refused (error : MappingError)
  deriving Inhabited

/-- Reads the line with a number. -/
def readLine (number : Nat) (bytes : List UInt8) : Line :=
  match Text.Utf8.decode bytes with
  | .error error => .refused (.invalidUtf8 number error)
  | .ok cs =>
    match Text.trimChars cs with
    | [] => .blank
    | text =>
      match Json.parse (String.ofList text) with
      | .ok value => .value value
      | .error error => .refused (.invalidJson number error)

/-- A value with the number of its line. -/
abbrev Numbered := Nat × Json

/-- The lines with their numbers, the first of which is given. -/
def readFrom : Nat → List (List UInt8) → List (Nat × Line)
  | _, [] => []
  | number, line :: lines => (number, readLine number line) :: readFrom (number + 1) lines

def values (lines : List (Nat × Line)) : List Numbered :=
  lines.filterMap fun
    | (number, .value v) => some (number, v)
    | _ => none

def failures (lines : List (Nat × Line)) : List MappingFailure :=
  lines.filterMap fun
    | (number, .refused error) => some ⟨number, error.message, none⟩
    | _ => none

/-- The lines of a file. -/
def read (body : List UInt8) : List (Nat × Line) := readFrom 1 (split body)

/-- The values of a file and the lines that could not be read. -/
def parse (body : List UInt8) : List Numbered × List MappingFailure :=
  let lines := read body
  (values lines, failures lines)

end Lines

end Intake
