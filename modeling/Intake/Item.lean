import Intake.Entry.Decode
import Intake.Entry.Encode
import Intake.Key.Basic

/-!
# Stored items

An item is an entry as the table holds it: its keys, the attributes that conditions and listings
look at, and the whole entry as a value.  Reading an item back makes the keys anew from that value.
-/

namespace Intake

namespace Attribute

def partitionKey : String := "PK0"

def sortKey : String := "SK0"

def statusPartitionKey : String := "PK1"

def statusSortKey : String := "SK1"

def resourcePartitionKey : String := "PK2"

def resourceSortKey : String := "SK2"

def entryType : String := "type"

def identifier : String := "identifier"

def rowVersion : String := "rowVersion"

def data : String := "data"

end Attribute

structure Item where
  keys : KeySet
  entryType : EntryType
  identifier : Identifier
  rowVersion : RowVersion
  data : Json
  deriving DecidableEq

inductive ItemError where
  | key (error : KeyError)
  | data (error : ShapeError)
  | missingAttribute (name : String)
  deriving DecidableEq, Inhabited

def ItemError.message : ItemError → String
  | .key error => error.message
  | .data error => "entry data could not be converted: " ++ error.message
  | .missingAttribute name => "stored item has no '" ++ name ++ "' attribute"

/-- The item of an entry. -/
def Entry.item (entry : Entry) : Except KeyError Item := do
  let keys ← entry.keys
  return {
    keys := keys
    entryType := entry.entryType
    identifier := entry.identifier
    rowVersion := entry.rowVersion
    data := entry.toValue }

namespace Item

/-- The key that reserves the item's identifier. -/
def reservation (item : Item) : KeyPair := Key.reservation item.entryType item.identifier.text

/-- The attributes in the order in which they are put together. -/
def attributeList (item : Item) : List (String × Json) :=
  [(Attribute.partitionKey, .str item.keys.primary.partitionKey),
   (Attribute.sortKey, .str item.keys.primary.sortKey),
   (Attribute.statusPartitionKey, .str item.keys.byCustomerStatus.partitionKey),
   (Attribute.statusSortKey, .str item.keys.byCustomerStatus.sortKey)] ++
  (match item.keys.byResource with
   | some key =>
     [(Attribute.resourcePartitionKey, .str key.partitionKey),
      (Attribute.resourceSortKey, .str key.sortKey)]
   | none => []) ++
  [(Attribute.entryType, .str item.entryType.name),
   (Attribute.identifier, item.identifier.toJson),
   (Attribute.rowVersion, item.rowVersion.toJson),
   (Attribute.data, item.data)]

/-- The attributes as the table holds them. -/
def attributes (item : Item) : SortedMap String Json := .ofList item.attributeList

/-- The entry of an item. -/
def entry (item : Item) : Except ItemError Entry := (Entry.decode item.data).mapError .data

/-- The item in a map of attributes.  Only the data are looked at. -/
def ofAttributes (attributes : SortedMap String Json) : Except ItemError Item := do
  match attributes.get? Attribute.data with
  | none => throw (.missingAttribute Attribute.data)
  | some data =>
    let entry ← (Entry.decode data).mapError .data
    entry.item.mapError .key

def toJson (item : Item) : Json :=
  .obj [("keys", item.keys.toJson), ("entryType", .str item.entryType.name),
    ("identifier", item.identifier.toJson), ("rowVersion", item.rowVersion.toJson),
    ("data", item.data)]

def shape : Shape Item :=
  Item.mk <$> .required "keys" KeySet.decode
    <*> .required "entryType" EntryType.decode
    <*> .required "identifier" Identifier.decode
    <*> .required "rowVersion" RowVersion.decode
    <*> .required "data" .document

def decode : Decoder Item := shape.decode "PhysicalItem" .unnamed

end Item

end Intake
