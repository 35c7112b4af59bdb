import Intake.Json.Shape
import Intake.Text.Hex

/-!
# UUIDs

A UUID is 32 hexadecimal digits.  It is written in groups of 8, 4, 4, 4 and 12 digits; it is read
with or without hyphens, and with hyphens also in braces or after `urn:uuid:` in any case.
-/

namespace Intake

structure Uuid where
  digits : List (Fin 16)
  length_digits : digits.length = 32
  deriving DecidableEq

inductive UuidError where
  | invalidCharacter (c : Char) (index : Nat)
  | invalidLength (found : Nat)
  | invalidGroupCount (found : Nat)
  | invalidGroupLength (group : Nat) (expected found : Nat)
  deriving DecidableEq, Inhabited

def UuidError.message : UuidError → String
  | .invalidCharacter c index =>
    "UUID parsing failed: invalid character: found `" ++ c.toString ++ "` at " ++ toString index
  | .invalidLength found => "UUID parsing failed: invalid length: found " ++ toString found
  | .invalidGroupCount found =>
    "UUID parsing failed: invalid group count: expected 5, found " ++ toString found
  | .invalidGroupLength group expected found =>
    "UUID parsing failed: invalid group length in group " ++ toString group ++ ": expected " ++
      toString expected ++ ", found " ++ toString found

namespace Uuid

def hexValue? (c : Char) : Option (Fin 16) :=
  (Text.Hex.digit? c).bind fun n => if h : n < 16 then some ⟨n, h⟩ else none

def digitChar (d : Fin 16) : Char := Nat.digitChar d

def simpleChars (uuid : Uuid) : List Char := uuid.digits.map digitChar

/-- Cuts a list into groups of the given sizes. -/
def groups {α : Type} : List Nat → List α → List (List α)
  | [], rest => [rest]
  | size :: sizes, rest => rest.take size :: groups sizes (rest.drop size)

def toChars (uuid : Uuid) : List Char :=
  List.intercalate ['-'] (groups [8, 4, 4, 4] uuid.simpleChars)

def toString (uuid : Uuid) : String := String.ofList uuid.toChars

/-- Drops the hyphens after groups of the given sizes; none when one is not in its place. -/
def ungroup : List Nat → List Char → Option (List Char)
  | [], rest => some rest
  | size :: sizes, cs =>
    match cs.drop size with
    | '-' :: rest => (ungroup sizes rest).map (cs.take size ++ ·)
    | _ => none

/-- The UUID with these digits. -/
def ofChars? (cs : List Char) : Option Uuid :=
  match cs.mapM hexValue? with
  | some digits => if h : digits.length = 32 then some ⟨digits, h⟩ else none
  | none => none

/-- A text without the braces or the scheme around it. -/
structure Unwrapped where
  body : List Char
  /-- How many bytes were taken off in front. -/
  offset : Nat
  bare : Bool

def scheme : List Char := ['u', 'r', 'n', ':', 'u', 'u', 'i', 'd', ':']

/-- Whether a text starts with the scheme, in any case. -/
def hasScheme (cs : List Char) : Bool := (cs.take scheme.length).map Char.toLower == scheme

def unwrap (cs : List Char) : Unwrapped :=
  if 2 ≤ cs.length ∧ cs.head? = some '{' ∧ cs.getLast? = some '}' then
    ⟨(cs.drop 1).dropLast, 1, false⟩
  else if hasScheme cs then ⟨cs.drop scheme.length, scheme.length, false⟩
  else ⟨cs, 0, true⟩

/-- How many bytes the characters take. -/
def size (cs : List Char) : Nat := cs.foldr (fun c count => c.utf8Size + count) 0

/-- The size of 32 digits with their hyphens. -/
def hyphenatedSize : Nat := 36

/-- The size of the longest way to write a UUID, the one with the scheme. -/
def maxSize : Nat := 45

/-- What stands in the place of the digits and hyphens, in a text that has the size for them. -/
def hyphenatedBody? (cs : List Char) : Option (List Char) :=
  if size cs = hyphenatedSize then some cs
  else if size (unwrap cs).body = hyphenatedSize then some (unwrap cs).body
  else none

/-- The first character that is neither a digit nor a hyphen, with its place in bytes. -/
def strayCharacter? : Nat → List Char → Option (Char × Nat)
  | _, [] => none
  | index, c :: rest =>
    if c = '-' ∨ (hexValue? c).isSome then strayCharacter? (index + c.utf8Size) rest
    else some (c, index)

def hyphenPlaces : Nat → List Char → List Nat
  | _, [] => []
  | index, c :: rest =>
    if c = '-' then index :: hyphenPlaces (index + 1) rest else hyphenPlaces (index + 1) rest

/-- The first group that does not end where it should: its number, its size and the size found. -/
def wrongGroup? : Nat → Nat → List Nat → List Nat → Option (Nat × Nat × Nat)
  | group, start, size :: sizes, place :: places =>
    if place = start + size then wrongGroup? (group + 1) (place + 1) sizes places
    else some (group, size, place - start)
  | _, _, _, _ => none

/-- Why there is no UUID in an unwrapped text.  The last group is measured from its start to the
end of the whole text, which has `total` bytes. -/
def diagnose (total : Nat) (text : Unwrapped) : UuidError :=
  match strayCharacter? text.offset text.body with
  | some (c, index) => .invalidCharacter c index
  | none =>
    let places := hyphenPlaces 0 text.body
    if places.isEmpty && text.bare then .invalidLength total
    else if places.length ≠ 4 then .invalidGroupCount (places.length + 1)
    else
      match wrongGroup? 0 0 [8, 4, 4, 4] places with
      | some (group, expected, found) => .invalidGroupLength group expected found
      | none => .invalidGroupLength 4 12 (total - 24)

/-- A text of the size for hyphens is judged by its digits and hyphens alone; a text that is too long
is not looked at. -/
def read (cs : List Char) : Except UuidError Uuid :=
  if maxSize < size cs then .error (.invalidLength (size cs))
  else
    match hyphenatedBody? cs with
    | some body =>
      match (ungroup [8, 4, 4, 4] body).bind ofChars? with
      | some uuid => .ok uuid
      | none => .error (diagnose (size body) ⟨body, 0, false⟩)
    | none =>
      match ofChars? cs with
      | some uuid => .ok uuid
      | none => .error (diagnose (size cs) (unwrap cs))

def parse (text : String) : Except UuidError Uuid := read text.toList

def decode : Decoder Uuid := .parsed parse UuidError.message "a formatted UUID string"

def toJson (uuid : Uuid) : Json := .str uuid.toString

end Uuid

end Intake
