import Intake.Entry.Decode
import Intake.Json.Reader

/-!
# Reading entries from text

A text is read as a document and the entry is read out of it.  Where that fails, the error is the
one met first from left to right: a faulty type is an error as soon as it has been read, a fault of
the text at its place, and a fault of any other field at the end of the object.
-/

namespace Intake

/-- Why a text does not hold an entry. -/
inductive EntryError where
  | fault (error : Json.SyntaxError)
  | shape (error : ShapeError) (position : Option Json.Position)
  deriving DecidableEq, Inhabited

def EntryError.message : EntryError → String
  | .fault error => error.message
  | .shape error (some position) => error.message ++ position.suffix
  | .shape error none => error.message

namespace Entry

open Json (Place skipSpace)

/-- An error and the place where it is met. -/
abbrev Located := ShapeError × Place

/-- The fault of a type, if its text can be read and it is none. -/
def tagFault? (cs : List Char) : Option Located :=
  match skipSpace cs with
  | '[' :: rest => some (.wrongKind (.arr []) "variant identifier", ⟨'[' :: rest, 0⟩)
  | '{' :: rest => some (.wrongKind (.obj []) "variant identifier", ⟨'{' :: rest, 0⟩)
  | rest =>
    match Json.scalar rest with
    | .ok (tag, rest) =>
      match EntryType.decodeTag tag with
      | .ok _ => none
      | .error e => some (e, ⟨rest, 0⟩)
    | .error _ => none

/-- The place after white space and the end of the object, if that follows. -/
def afterObjectEnd (cs : List Char) : Place :=
  match skipSpace cs with
  | '}' :: rest => ⟨rest, 0⟩
  | rest => ⟨rest, 0⟩

/-- The first fault of a type among the members of an object; `found` says that one has been read.
-/
def membersTagFault? (found : Bool) : Nat → List Char → Option Located
  | 0, _ => none
  | bound + 1, cs =>
    match Json.memberName cs with
    | .error _ => none
    | .ok (name, rest) =>
      if name = "type" ∧ found then some (.duplicateField "type", afterObjectEnd rest)
      else
        match Json.colon rest with
        | .error _ => none
        | .ok rest =>
          match if name = "type" then tagFault? rest else none with
          | some located => some located
          | none =>
            let found := found || name == "type"
            match Json.value (Json.maxDepth - 1) rest with
            | .error _ => none
            | .ok (_, rest) =>
              match skipSpace rest with
              | '}' :: rest => if found then none else some (.missingField "type", ⟨rest, 0⟩)
              | ',' :: rest => membersTagFault? found bound (skipSpace rest)
              | _ => none

/-- The first fault of a type in a text. -/
def textTagFault? (cs : List Char) : Option Located :=
  match skipSpace cs with
  | '{' :: rest =>
    match skipSpace rest with
    | '}' :: rest => some (.missingField "type", ⟨rest, 0⟩)
    | rest => membersTagFault? false rest.length rest
  | '[' :: rest =>
    match skipSpace rest with
    | ']' :: rest => some (.missingField "type", ⟨rest, 0⟩)
    | rest => tagFault? rest
  | rest =>
    match Json.scalar rest with
    | .ok (document, rest) =>
      match decode document with
      | .ok _ => none
      | .error e => some (e, ⟨rest, 0⟩)
    | .error _ => none

/-- The error of a text that holds no entry. -/
def diagnose (cs : List Char) : EntryError :=
  match textTagFault? cs with
  | some (e, place) => .shape e (some (place.locate cs))
  | none =>
    match Json.value Json.maxDepth cs with
    | .error fault => .fault (fault.locate cs)
    | .ok (document, rest) =>
      match decode document with
      | .error e => .shape e none
      | .ok _ => .fault ((Json.Fault.here .trailingCharacters (skipSpace rest)).locate cs)

/-- The entry in a text. -/
def parse (text : String) : Except EntryError Entry :=
  match Json.read text with
  | .ok document =>
    match decode document with
    | .ok entry => .ok entry
    | .error _ => .error (diagnose text.toList)
  | .error _ => .error (diagnose text.toList)

end Entry

end Intake
