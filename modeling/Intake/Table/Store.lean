import Intake.Table.Request
import Intake.Text.Quoted

/-!
# The store in the table

The entry store over requests to the table.  A first write is one transaction that puts the item
and the guard holding its reservation, each where nothing is yet.  A deletion is one transaction
over both.  Queries ask for page after page until a page names no next one.
-/

namespace Intake

namespace Table

/-- The service that answers requests; its replies may depend on everything that went before. -/
abbrev Client (σ : Type) := Request → StateM σ Reply

/-- The attributes of an item as they are sent. -/
def ofItem (item : Item) : AttributeMap :=
  AttributeValue.ofMembers item.attributes.toList

/-- The item in attributes that were received. -/
def toItem (attributes : AttributeMap) : Except StoreError Item :=
  (Item.ofAttributes (.ofList (AttributeValue.membersToJson attributes))).mapError fun error =>
    .unavailable (.unreadableItem error)

/-- The attributes that reserve the identifier of an item. -/
def guardOf (item : Item) : AttributeMap :=
  keyAttributes item.reservation ++ [(Attribute.identifier, .text item.identifier.text)]

def failed (request : Request) : StoreError :=
  .unavailable (.operationFailed request.operation)

/-- A transaction that was cancelled because a condition did not hold. -/
def isConditionCancellation : Reply → Bool
  | .refused code reasons =>
    code == "TransactionCanceledException" && reasons.contains (some "ConditionalCheckFailed")
  | _ => false

def isConditionFailure : Reply → Bool
  | .refused code _ => code == "ConditionalCheckFailedException"
  | _ => false

def isDone : Reply → Bool
  | .done _ => true
  | _ => false

variable {σ : Type}

/-- Sends a write whose reply says whether it was carried out. -/
def write (client : Client σ) (request : Request) (conditionFailed : Reply → Bool)
    (refusal : StoreError) : StateM σ (Except StoreError Unit) := do
  let reply ← client request
  if isDone reply then return .ok ()
  else if conditionFailed reply then return .error refusal
  else return .error (failed request)

def putIfAbsentRequest (item : Item) : Request :=
  .transact [.put (ofItem item) .absent, .put (guardOf item) .absent]

def putIfAbsent (client : Client σ) (item : Item) : StateM σ (Except StoreError Unit) :=
  write client (putIfAbsentRequest item) isConditionCancellation
    (.alreadyExists item.keys.primary)

def putWithVersion (client : Client σ) (item : Item) (expected : RowVersion) :
    StateM σ (Except StoreError Unit) :=
  write client (.put (ofItem item) (.presentWithVersion expected)) isConditionFailure
    (.concurrentModification item.keys.primary expected)

def get (client : Client σ) (key : KeyPair) : StateM σ (Except StoreError (Option Item)) := do
  match ← client (.get key) with
  | .done output =>
    match output.item with
    | none => return .ok none
    | some attributes => return (toItem attributes).map some
  | _ => return .error (failed (.get key))

def delete (client : Client σ) (key reservation : KeyPair) (expected : RowVersion) :
    StateM σ (Except StoreError Unit) :=
  write client (.transact [.delete key (some (.versionIs expected)), .delete reservation none])
    isConditionCancellation (.concurrentModification key expected)

/-- The start of the page after this one. -/
def nextStart (output : Output) : Option AttributeMap :=
  match output.lastKey with
  | some (first :: rest) => some (first :: rest)
  | _ => none

/-- The attributes on the pages from a start on, of which at most so many are asked for. -/
def queryPages (client : Client σ) (index : StoreIndex) (partition : String) :
    Nat → Option AttributeMap → StateM σ (Except StoreError (List AttributeMap))
  | 0, _ => return .error (.unavailable .endlessListing)
  | pages + 1, start => do
    match ← client (.query index partition start) with
    | .done output =>
      match nextStart output with
      | none => return .ok output.items
      | some next => do
        let rest ← queryPages client index partition pages (some next)
        return rest.map (output.items ++ ·)
    | _ => return .error (failed (.query index partition start))

def query (client : Client σ) (pageLimit : Nat) (index : StoreIndex) (partition : String) :
    StateM σ (Except StoreError (List Item)) := do
  match ← queryPages client index partition pageLimit none with
  | .ok found => return found.mapM toItem
  | .error error => return .error error

/-- The table as an entry store.  A query asks for at most `pageLimit` pages. -/
def asEntryStore (client : Client σ) (pageLimit : Nat) : EntryStore σ where
  putIfAbsent := putIfAbsent client
  putWithVersion := putWithVersion client
  get := get client
  delete := delete client
  query := query client pageLimit

/-- The store of a table as messages show it. -/
def describe (table : String) : String :=
  "DynamoDbEntryStore \x7b table_name: " ++ Text.quoted table ++ " \x7d"

end Table

end Intake
