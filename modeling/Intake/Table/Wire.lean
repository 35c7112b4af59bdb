import Intake.Json.Reply
import Intake.Table.Request

/-!
# Values and replies as they are received

A value is received as an object whose one member names its kind; a member without content and the
name of a type count for nothing.  What a request gives back is read by the fields that belong to
the request.  A reply that breaks the form in any place is not read at all.
-/

namespace Intake.Table

/-- The kinds of values. -/
inductive Kind where
  | null
  | bool
  | number
  | text
  | list
  | map
  | textSet
  | numberSet
  | binary
  | binarySet
  deriving DecidableEq, Repr

def Kind.all : List Kind :=
  [.null, .bool, .number, .text, .list, .map, .textSet, .numberSet, .binary, .binarySet]

def Kind.name : Kind → String
  | .null => "NULL"
  | .bool => "BOOL"
  | .number => "N"
  | .text => "S"
  | .list => "L"
  | .map => "M"
  | .textSet => "SS"
  | .numberSet => "NS"
  | .binary => "B"
  | .binarySet => "BS"

def Kind.ofName? (name : String) : Option Kind := Kind.all.find? fun kind => kind.name == name

/-- The member that may name the type of an object. -/
def typeMember : String := "__type"

def bytesOfJson? : Json → Option (List UInt8)
  | .str digits => Text.Base64.decode? digits.toList
  | _ => none

mutual

def valueOfJson? : Json → Option AttributeValue
  | .obj members => valueOfMembers? none members
  | _ => none

/-- The value that is found already, or else the one that the members name.  There must be exactly
one. -/
def valueOfMembers? : Option AttributeValue → List (String × Json) → Option AttributeValue
  | found, [] => found
  | found, (_, .null) :: rest => valueOfMembers? found rest
  | found, (name, content) :: rest =>
    if name = typeMember then valueOfMembers? found rest
    else
      match found, valueOfKind? (Kind.ofName? name) content with
      | none, some value => valueOfMembers? (some value) rest
      | _, _ => none

def valueOfKind? : Option Kind → Json → Option AttributeValue
  | none, _ => some .unknown
  | some .null, .bool flag => some (.null flag)
  | some .bool, .bool b => some (.bool b)
  | some .number, .str digits => some (.number digits)
  | some .text, .str s => some (.text s)
  | some .list, .arr items => (itemsOfJson? items).map .list
  | some .map, .obj members => (membersOfJson? members).map .map
  | some .textSet, .arr items => (items.mapM Json.asString?).map .textSet
  | some .numberSet, .arr items => (items.mapM Json.asString?).map .numberSet
  | some .binary, .str digits => (Text.Base64.decode? digits.toList).map .binary
  | some .binarySet, .arr items => (items.mapM bytesOfJson?).map .binarySet
  | some _, _ => none

def itemsOfJson? : List Json → Option (List AttributeValue)
  | [] => some []
  | x :: xs => do
    let value ← valueOfJson? x
    let values ← itemsOfJson? xs
    return value :: values

def membersOfJson? : List (String × Json) → Option (List (String × AttributeValue))
  | [] => some []
  | (name, x) :: ms => do
    let value ← valueOfJson? x
    let values ← membersOfJson? ms
    return (name, value) :: values

end

def decodeAttributes : Decoder AttributeMap
  | .obj members =>
    match membersOfJson? members with
    | some attributes => .ok attributes
    | none => .error (.refused "unreadable attribute")
  | other => .error (.wrongKind other "attributes")

/-! ### What requests give back -/

open Shape (optional)

/-- The units that one table or index took. -/
def capacityShape : Shape Unit :=
  (fun _ _ _ => ()) <$> optional "ReadCapacityUnits" .number
    <*> optional "WriteCapacityUnits" .number
    <*> optional "CapacityUnits" .number

def decodeCapacity : Decoder Unit := capacityShape.decodeObject "Capacity"

/-- The bytes that one vector index took. -/
def vectorShape : Shape Unit :=
  (fun _ _ => ()) <$> optional "VectorSearchRequestBytes" .number
    <*> optional "VectorWriteRequestBytes" .number

def decodeVector : Decoder Unit := vectorShape.decodeObject "VectorCapacity"

/-- The units that a request took, in all and for each index. -/
def consumedShape : Shape Unit :=
  (fun _ _ _ _ _ _ => ()) <$> optional "TableName" .text
    <*> capacityShape
    <*> optional "Table" decodeCapacity
    <*> optional "LocalSecondaryIndexes" (.dictionary decodeCapacity)
    <*> optional "GlobalSecondaryIndexes" (.dictionary decodeCapacity)
    <*> optional "VectorIndexes" (.dictionary decodeVector)

def decodeConsumed : Decoder Unit := consumedShape.decodeObject "ConsumedCapacity"

/-- How large the items of one key are. -/
def collectionShape : Shape Unit :=
  (fun _ _ => ()) <$> optional "ItemCollectionKey" decodeAttributes
    <*> optional "SizeEstimateRangeGB" (.list .number)

def decodeCollection : Decoder Unit := collectionShape.decodeObject "ItemCollectionMetrics"

/-- The output of a request.  Only items and the place where the next page starts are kept. -/
def outputShape : Request → Shape Output
  | .transact _ =>
    (fun _ _ => default) <$> optional "ConsumedCapacity" (.list decodeConsumed)
      <*> optional "ItemCollectionMetrics" (.dictionary (.list decodeCollection))
  | .put _ _ =>
    (fun _ _ _ => default) <$> optional "Attributes" decodeAttributes
      <*> optional "ConsumedCapacity" decodeConsumed
      <*> optional "ItemCollectionMetrics" decodeCollection
  | .get _ =>
    (fun item _ => ⟨item, [], none⟩) <$> optional "Item" decodeAttributes
      <*> optional "ConsumedCapacity" decodeConsumed
  | .query _ _ _ =>
    (fun items _ _ lastKey _ => ⟨none, items.getD [], lastKey⟩)
      <$> optional "Items" (.list decodeAttributes)
      <*> optional "Count" .int32
      <*> optional "ScannedCount" .int32
      <*> optional "LastEvaluatedKey" decodeAttributes
      <*> optional "ConsumedCapacity" decodeConsumed

/-- The reply to a request that was carried out.  An output that cannot be read counts as a refusal
without a code. -/
def Reply.ofOutput (request : Request) (document : Json) : Reply :=
  match (outputShape request).decodeObject request.operation document with
  | .ok output => .done output
  | .error _ => .refused "" []

/-- The name of an error, without the namespace before it and the address after it. -/
def errorName (code : String) : String :=
  let name := code.toList.takeWhile (· != ':')
  String.ofList (if name.contains '#' then (name.dropWhile (· != '#')).drop 1 else name)

/-- The reply to a request that was refused.  Reasons are taken only if all can be read. -/
def Reply.ofError (code : String) (reasons : List Json) : Reply :=
  .refused (errorName code) ((reasons.mapM (Decoder.nullable .text)).toOption.getD [])

end Intake.Table
