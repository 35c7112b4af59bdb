import Intake.Json.Printer
import Intake.Json.Reader

/-!
# Attribute values

The table holds values in a format of its own, in which numbers are texts.  Every JSON value has an
attribute value, and reading that back gives the value again.  Values of kinds that no JSON value
has are kept as they are and read as null.
-/

namespace Intake

inductive AttributeValue where
  /-- Nothing; the flag that comes with it means nothing and is kept. -/
  | null (flag : Bool)
  | bool (b : Bool)
  | number (text : String)
  | text (text : String)
  | list (items : List AttributeValue)
  | map (members : List (String × AttributeValue))
  | textSet (texts : List String)
  | numberSet (texts : List String)
  | binary (bytes : List UInt8)
  | binarySet (members : List (List UInt8))
  /-- A value of a kind that has no name here; it cannot be sent. -/
  | unknown
  deriving Inhabited

namespace AttributeValue

mutual

def ofJson : Json → AttributeValue
  | .null => .null true
  | .bool b => .bool b
  | .num n => .number n.render
  | .str s => .text s
  | .arr xs => .list (ofItems xs)
  | .obj ms => .map (ofMembers ms)

def ofItems : List Json → List AttributeValue
  | [] => []
  | x :: xs => ofJson x :: ofItems xs

def ofMembers : List (String × Json) → List (String × AttributeValue)
  | [] => []
  | (name, x) :: ms => (name, ofJson x) :: ofMembers ms

end

/-- The number that a text holds; a text that holds none stays a text. -/
def numberOf (digits : String) : Json :=
  match Json.parse digits with
  | .ok (.num n) => .num n
  | _ => .str digits

mutual

def toJson : AttributeValue → Json
  | .null _ => .null
  | .bool b => .bool b
  | .number digits => numberOf digits
  | .text s => .str s
  | .list xs => .arr (itemsToJson xs)
  | .map ms => .obj (Entries.ofList (membersToJson ms))
  | .textSet texts => .arr (texts.map .str)
  | .numberSet texts => .arr (texts.map numberOf)
  | .binary _ => .null
  | .binarySet _ => .null
  | .unknown => .null

def itemsToJson : List AttributeValue → List Json
  | [] => []
  | x :: xs => toJson x :: itemsToJson xs

def membersToJson : List (String × AttributeValue) → List (String × Json)
  | [] => []
  | (name, x) :: ms => (name, toJson x) :: membersToJson ms

end

end AttributeValue

end Intake
