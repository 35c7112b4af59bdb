import Intake.Store.Basic
import Intake.Table.AttributeValue
import Intake.Text.Base64

/-!
# Requests to the table

The table is reached by four requests.  Writes carry conditions; a transaction is applied as a
whole or not at all.  `toJson` gives a request in the form in which it is sent.
-/

namespace Intake

/-- The attributes of one stored item. -/
abbrev AttributeMap := List (String × AttributeValue)

namespace Table

/-- What must hold of the item under the key of a write. -/
inductive Condition where
  | absent
  | versionIs (expected : RowVersion)
  | presentWithVersion (expected : RowVersion)
  deriving DecidableEq

inductive Action where
  | put (item : AttributeMap) (condition : Condition)
  | delete (key : KeyPair) (condition : Option Condition)

inductive Request where
  | transact (actions : List Action)
  | put (item : AttributeMap) (condition : Condition)
  /-- Reads what is stored now, not what was stored a while ago. -/
  | get (key : KeyPair)
  | query (index : StoreIndex) (partition : String) (start : Option AttributeMap)

/-- What a request that was carried out gives back. -/
structure Output where
  item : Option AttributeMap
  items : List AttributeMap
  /-- Where the next page starts; none or empty after the last one. -/
  lastKey : Option AttributeMap
  deriving Inhabited

inductive Reply where
  | done (output : Output)
  /-- The service refused, with a code and, for a cancelled transaction, a reason per action. -/
  | refused (code : String) (reasons : List (Option String))
  /-- There is no reply, or the request was never sent. -/
  | unreachable
  deriving Inhabited

/-- The name of the operation that a request calls. -/
def Request.operation : Request → String
  | .transact _ => "TransactWriteItems"
  | .put _ _ => "PutItem"
  | .get _ => "GetItem"
  | .query _ _ _ => "Query"

/-! ### The form in which requests are sent -/

def bytesToJson (bytes : List UInt8) : Json := .str (String.ofList (Text.Base64.encode bytes))

mutual

def valueToJson : AttributeValue → Json
  | .null flag => .obj [("NULL", .bool flag)]
  | .bool b => .obj [("BOOL", .bool b)]
  | .number text => .obj [("N", .str text)]
  | .text text => .obj [("S", .str text)]
  | .list xs => .obj [("L", .arr (itemsToJson xs))]
  | .map ms => .obj [("M", .obj (membersToJson ms))]
  | .textSet texts => .obj [("SS", .arr (texts.map .str))]
  | .numberSet texts => .obj [("NS", .arr (texts.map .str))]
  | .binary bytes => .obj [("B", bytesToJson bytes)]
  | .binarySet members => .obj [("BS", .arr (members.map bytesToJson))]
  | .unknown => .obj []

def itemsToJson : List AttributeValue → List Json
  | [] => []
  | x :: xs => valueToJson x :: itemsToJson xs

def membersToJson : List (String × AttributeValue) → List (String × Json)
  | [] => []
  | (name, x) :: ms => (name, valueToJson x) :: membersToJson ms

end

def mapToJson (attributes : AttributeMap) : Json := .obj (membersToJson attributes)

/-- A condition with the names and values that it mentions. -/
structure Expression where
  text : String
  names : List (String × String)
  values : AttributeMap

def partitionName : String × String := ("#pk", Attribute.partitionKey)

def versionName : String × String := ("#rv", Attribute.rowVersion)

def expectedValue (expected : RowVersion) : String × AttributeValue :=
  (":expected", .text expected.token)

def Condition.expression : Condition → Expression
  | .absent => ⟨"attribute_not_exists(#pk)", [partitionName], []⟩
  | .versionIs expected => ⟨"#rv = :expected", [versionName], [expectedValue expected]⟩
  | .presentWithVersion expected =>
    ⟨"attribute_exists(#pk) AND #rv = :expected", [partitionName, versionName],
      [expectedValue expected]⟩

/-- The members that an expression adds to a request, under the name of its place there. -/
def Expression.members (place : String) (expression : Expression) : List Json.Member :=
  [(place, .str expression.text),
   ("ExpressionAttributeNames",
     .obj (expression.names.map fun (name, column) => (name, .str column)))] ++
  (if expression.values.isEmpty then []
   else [("ExpressionAttributeValues", mapToJson expression.values)])

def Condition.members (condition : Condition) : List Json.Member :=
  condition.expression.members "ConditionExpression"

/-- The key attributes of an item. -/
def keyAttributes (key : KeyPair) : AttributeMap :=
  [(Attribute.partitionKey, .text key.partitionKey), (Attribute.sortKey, .text key.sortKey)]

def Action.toJson (table : String) : Action → Json
  | .put item condition =>
    .obj [("Put", .obj ([("TableName", .str table), ("Item", mapToJson item)] ++
      condition.members))]
  | .delete key condition =>
    .obj [("Delete", .obj ([("TableName", .str table), ("Key", mapToJson (keyAttributes key))] ++
      (condition.map Condition.members).getD []))]

/-- The attribute that an index divides its partitions by, and its name; the primary index has
none. -/
def indexName : StoreIndex → Option String
  | .primary => none
  | .byCustomerStatus => some "ByCustomerStatus"
  | .byResource => some "ByResource"

def partitionAttribute : StoreIndex → String
  | .primary => Attribute.partitionKey
  | .byCustomerStatus => Attribute.statusPartitionKey
  | .byResource => Attribute.resourcePartitionKey

/-- What the items of a listing have in common. -/
def keyCondition (index : StoreIndex) (partition : String) : Expression :=
  ⟨"#pk = :pk", [("#pk", partitionAttribute index)], [(":pk", .text partition)]⟩

def Request.toJson (table : String) : Request → Json
  | .transact actions => .obj [("TransactItems", .arr (actions.map (Action.toJson table)))]
  | .put item condition =>
    .obj ([("TableName", .str table), ("Item", mapToJson item)] ++ condition.members)
  | .get key =>
    .obj [("TableName", .str table), ("Key", mapToJson (keyAttributes key)),
      ("ConsistentRead", .bool true)]
  | .query index partition start =>
    .obj <|
      [("TableName", .str table)] ++
      Json.optionalMember "IndexName" .str (indexName index) ++
      (keyCondition index partition).members "KeyConditionExpression" ++
      Json.optionalMember "ExclusiveStartKey" mapToJson start

end Table

end Intake
