import Intake.Json.Reader
import Intake.Json.Shape
import Intake.Text.Blank
import Intake.Timestamp.Printer

/-!
# Reading timestamps

A timestamp is read from left to right and the first thing that does not fit is the error.  Blanks
may stand before every number and around the separators.  A number outside its field is an error at
once; whether the day exists is decided when the whole text has been read.
-/

namespace Intake

inductive TimestampError where
  | tooShort
  | invalid
  | outOfRange
  | impossible
  | tooLong
  deriving DecidableEq, Repr, Inhabited

def TimestampError.message : TimestampError → String
  | .tooShort => "premature end of input"
  | .invalid => "input contains invalid characters"
  | .outOfRange => "input is out of range"
  | .impossible => "no possible date and time matching input"
  | .tooLong => "trailing input"

namespace Timestamp

open Text (dropBlanks)
open Json (isDigit digitsValue byteSize)

/-- A number of one to `limit` digits. -/
def digitsUpTo (limit : Nat) (cs : List Char) : Except TimestampError (Nat × List Char) :=
  let digits := (cs.take limit).takeWhile isDigit
  if cs.isEmpty then .error .tooShort
  else if digits.isEmpty then .error .invalid
  else .ok (digitsValue digits, cs.drop digits.length)

/-- A number of one or two digits in a range, after blanks. -/
def field (least greatest : Nat) (cs : List Char) : Except TimestampError (Nat × List Char) := do
  let (n, rest) ← digitsUpTo 2 (dropBlanks cs)
  if least ≤ n ∧ n ≤ greatest then .ok (n, rest) else .error .outOfRange

def separator (c : Char) (cs : List Char) : Except TimestampError (List Char) :=
  match dropBlanks cs with
  | [] => .error .tooShort
  | first :: rest => if first = c then .ok rest else .error .invalid

/-- The years a number may name before the day is checked. -/
def yearLimit : Int := 2147483648

/-- A year: up to four digits, or a sign and any number of digits. -/
def year (cs : List Char) : Except TimestampError (Int × List Char) := do
  let (n, rest) ← match dropBlanks cs with
    | '-' :: rest => (digitsUpTo rest.length rest).map fun (n, rest) => (-(n : Int), rest)
    | '+' :: rest => (digitsUpTo rest.length rest).map fun (n, rest) => ((n : Int), rest)
    | rest => (digitsUpTo 4 rest).map fun (n, rest) => ((n : Int), rest)
  if -yearLimit ≤ n ∧ n < yearLimit then .ok (n, rest) else .error .outOfRange

/-- The character between the day and the time. -/
def dayEnd : List Char → Except TimestampError (List Char)
  | [] => .error .tooShort
  | c :: rest => if c = 'T' ∨ c = 't' ∨ c = ' ' then .ok rest else .error .invalid

/-- The nanoseconds after a point: at least one digit, the tenth and later ones dropped. -/
def fraction : List Char → Except TimestampError (Nat × List Char)
  | '.' :: rest => do
    let (n, after) ← digitsUpTo 9 rest
    let count := rest.length - after.length
    return (n * Nat.pow 10 (9 - count), after.dropWhile isDigit)
  | cs => .ok (0, cs)

/-- Two digits, the first at most `greatest`. -/
def twoDigits (greatest : Char) (cs : List Char) : Except TimestampError (Nat × List Char) :=
  match cs with
  | a :: b :: rest =>
    if isDigit a && isDigit b then
      if a ≤ greatest then .ok (digitsValue [a, b], rest) else .error .outOfRange
    else .error .invalid
  | cs => if byteSize cs < 2 then .error .tooShort else .error .invalid

def isOffsetSeparator (c : Char) : Bool := c == ':' || Text.isBlank c

/-- An offset from UTC in minutes, after its sign. -/
def offsetMinutes (cs : List Char) : Except TimestampError (Nat × List Char) := do
  let (hours, rest) ← twoDigits '9' cs
  let (minutes, rest) ← twoDigits '5' (rest.dropWhile isOffsetSeparator)
  return (hours * 60 + minutes, rest)

def isUtcName (cs : List Char) : Bool :=
  (cs.take 3).map Char.toUpper == ['U', 'T', 'C']

/-- How many minutes the local time is ahead of UTC. -/
def offset (cs : List Char) : Except TimestampError (Int × List Char) :=
  if isUtcName cs then .ok (0, cs.drop 3)
  else
    match cs with
    | [] => .error .tooShort
    | 'Z' :: rest | 'z' :: rest => .ok (0, rest)
    | '+' :: rest => (offsetMinutes rest).map fun (n, rest) => ((n : Int), rest)
    | '-' :: rest | '\u2212' :: rest =>
      (offsetMinutes rest).map fun (n, rest) => (-(n : Int), rest)
    | _ => .error .invalid

def read (cs : List Char) : Except TimestampError Timestamp := do
  let (year, cs) ← year cs
  let cs ← separator '-' cs
  let (month, cs) ← field 1 12 cs
  let cs ← separator '-' cs
  let (day, cs) ← field 1 31 cs
  let cs ← dayEnd cs
  let (hour, cs) ← field 0 23 cs
  let cs ← separator ':' cs
  let (minute, cs) ← field 0 59 cs
  let cs ← separator ':' cs
  let (second, cs) ← field 0 60 cs
  let (nano, cs) ← fraction cs
  let (offset, cs) ← offset (dropBlanks cs)
  if !(dropBlanks cs).isEmpty then throw .tooLong
  match Date.of? year month day, TimeOfDay.of? hour minute second nano with
  | some date, some time =>
    if 1440 ≤ offset.natAbs then throw .outOfRange
    match ofLocal? date time offset with
    | some t => return t
    | none => throw .impossible
  | _, _ => throw .outOfRange

def parse (text : String) : Except TimestampError Timestamp := read text.toList

def decode : Decoder Timestamp :=
  .parsed parse TimestampError.message "an RFC 3339 formatted date and time string"

def toJson (t : Timestamp) : Json := .str t.toString

end Timestamp

end Intake
