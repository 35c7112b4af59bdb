import Intake.Table.Store

/-!
# The service behind the table

What is relied on of the service, over the conditions in the very form in which they are sent.  The
table is one map from keys to rows, in which items and reservations lie side by side.  A transaction
is carried out when all of its conditions hold and is cancelled otherwise.  Reads see what is stored
now.  A listing is cut into pages anywhere, also into empty ones; where the listings of a run are
cut is part of the state and left open.
-/

namespace Intake.Table

/-! ## Conditions -/

/-- One test of a condition, over the names that stand for attributes and values. -/
inductive Test where
  | present (name : String)
  | missing (name : String)
  | equal (name value : String)
  deriving DecidableEq

namespace Test

/-- What a word that calls a function has between its brackets. -/
def argument? (function : String) (word : List Char) : Option String :=
  let start := function.toList ++ ['(']
  if start.isPrefixOf word && word.getLast? == some ')' then
    some (String.ofList (word.drop start.length).dropLast)
  else none

def ofWords? : List (List Char) → Option Test
  | [word] =>
    ((argument? "attribute_exists" word).map .present).or
      ((argument? "attribute_not_exists" word).map .missing)
  | [name, ['='], value] => some (.equal (String.ofList name) (String.ofList value))
  | _ => none

/-- The tests in the text of a condition, all of which must hold. -/
def all? (text : String) : Option (List Test) :=
  ((text.toList.splitOn ' ').splitOn "AND".toList).mapM ofWords?

/-- The text that a row holds under a name. -/
def textAt? (row : AttributeMap) (name : String) : Option String :=
  match row.lookup name with
  | some (.text text) => some text
  | _ => none

/-- Whether a test holds of the row under a key, if there is one.  Names and values that the
expression does not explain make it meaningless; of values only texts are compared. -/
def holds? (expression : Expression) (row : Option AttributeMap) : Test → Option Bool
  | .present name => do
    let column ← expression.names.lookup name
    return (row.bind (·.lookup column)).isSome
  | .missing name => do
    let column ← expression.names.lookup name
    return (row.bind (·.lookup column)).isNone
  | .equal name value => do
    let column ← expression.names.lookup name
    let wanted ← textAt? expression.values value
    return row.bind (textAt? · column) == some wanted

end Test

def Expression.holds? (expression : Expression) (row : Option AttributeMap) : Option Bool := do
  let tests ← Test.all? expression.text
  let results ← tests.mapM (Test.holds? expression row)
  return results.all id

/-! ## Reads and writes -/

abbrev Rows := SortedMap KeyPair AttributeMap

/-- The key that the attributes of a row name. -/
def keyIn? (row : AttributeMap) : Option KeyPair := do
  let partition ← Test.textAt? row Attribute.partitionKey
  let sort ← Test.textAt? row Attribute.sortKey
  return ⟨partition, sort⟩

/-- A write to one key: of a row, or a deletion if it has none. -/
structure Write where
  key : KeyPair
  row : Option AttributeMap
  condition : Option Expression

def Action.write? : Action → Option Write
  | .put row condition => (keyIn? row).map fun key => ⟨key, some row, some condition.expression⟩
  | .delete key condition => some ⟨key, none, condition.map Condition.expression⟩

def Write.allowed? (rows : Rows) (write : Write) : Option Bool :=
  match write.condition with
  | none => some true
  | some condition => condition.holds? (rows.get? write.key)

def Write.apply (rows : Rows) (write : Write) : Rows :=
  match write.row with
  | some row => rows.insert write.key row
  | none => rows.erase write.key

/-- The reply to a request without a meaning. -/
def malformed : Reply := .refused "ValidationException" []

/-- The code that says why an action of a cancelled transaction was not carried out. -/
def reason (allowed : Bool) : String := if allowed then "None" else "ConditionalCheckFailed"

/-- All writes at once, or none.  No two of them may go to one key. -/
def transact (rows : Rows) (actions : List Action) : Reply × Rows :=
  match actions.mapM Action.write? with
  | none => (malformed, rows)
  | some writes =>
    match writes.mapM (Write.allowed? rows) with
    | none => (malformed, rows)
    | some allowed =>
      if ¬(writes.map Write.key).Nodup then (malformed, rows)
      else if allowed.all id then (.done default, writes.foldl Write.apply rows)
      else (.refused "TransactionCanceledException" (allowed.map (some ∘ reason)), rows)

def put (rows : Rows) (row : AttributeMap) (condition : Condition) : Reply × Rows :=
  match (Action.put row condition).write? with
  | none => (malformed, rows)
  | some write =>
    match write.allowed? rows with
    | none => (malformed, rows)
    | some true => (.done default, write.apply rows)
    | some false => (.refused "ConditionalCheckFailedException" [], rows)

/-! ## Listings -/

/-- The attribute that an index sorts its partitions by. -/
def sortAttribute : StoreIndex → String
  | .primary => Attribute.sortKey
  | .byCustomerStatus => Attribute.statusSortKey
  | .byResource => Attribute.resourceSortKey

/-- Where a row stands in a partition of an index. -/
structure Place where
  sortKey : String
  key : KeyPair
  deriving DecidableEq

namespace Place

/-- Rows are ordered by their sort key, and by their primary key where that is alike. -/
instance : Ord Place where
  compare := compareLex (compareOn Place.sortKey) (compareOn Place.key)

instance : Std.TransOrd Place :=
  inferInstanceAs (Std.TransCmp (compareLex (compareOn Place.sortKey) (compareOn Place.key)))

instance : Std.LawfulEqOrd Place where
  eq_of_compare {a b} h := by
    obtain ⟨hsort, hkey⟩ := Ordering.then_eq_eq.1 h
    cases a
    cases b
    rw [Place.mk.injEq]
    exact ⟨Std.LawfulEqCmp.eq_of_compare hsort, Std.LawfulEqCmp.eq_of_compare hkey⟩

/-- The place that a row has in an index, unless it is missing from the index. -/
def of? (index : StoreIndex) (row : AttributeMap) : Option Place := do
  let sortKey ← Test.textAt? row (sortAttribute index)
  let key ← keyIn? row
  return ⟨sortKey, key⟩

end Place

/-- A row with its place, if it is in the partition. -/
def placed? (index : StoreIndex) (partition : String) (row : AttributeMap) :
    Option (Place × AttributeMap) :=
  if (keyCondition index partition).holds? (some row) = some true then
    (Place.of? index row).map (·, row)
  else none

/-- The rows of one partition of an index. -/
def listing (rows : Rows) (index : StoreIndex) (partition : String) :
    SortedMap Place AttributeMap :=
  .ofList (rows.values.filterMap (placed? index partition))

/-- The attributes of a row that tell its place. -/
def cursorOf (index : StoreIndex) (row : AttributeMap) : AttributeMap :=
  row.filter fun named =>
    [Attribute.partitionKey, Attribute.sortKey, partitionAttribute index,
      sortAttribute index].contains named.1

/-- The start of a page before which no row was given yet. -/
def firstCursor (index : StoreIndex) (partition : String) : AttributeMap :=
  [(partitionAttribute index, .text partition)]

/-- The start behind a page: behind its last row, or where the page itself began. -/
def cursorAfter (index : StoreIndex) (partition : String) (start : Option AttributeMap)
    (page : List AttributeMap) : AttributeMap :=
  match page.getLast? with
  | some row => cursorOf index row
  | none => start.getD (firstCursor index partition)

/-- What is left of a listing from a start on: the rows behind the place that the start names. -/
def remaining (index : StoreIndex) (start : Option AttributeMap)
    (found : SortedMap Place AttributeMap) : List AttributeMap :=
  (found.toList.filter fun entry =>
    (start.bind (Place.of? index)).all fun place => (compare place entry.1).isLT).map Prod.snd

structure Service where
  rows : Rows
  /-- The sizes of the pages of each listing to come, without the last page, which is what is
  left. -/
  cuts : List (List Nat)
  /-- The sizes of the next pages of the listing that is under way. -/
  ahead : List Nat

namespace Service

/-- The service before the first request. -/
def fresh (cuts : List (List Nat)) : Service := ⟨.empty, cuts, []⟩

/-- The sizes of the pages to come. -/
def sizes (service : Service) : Option AttributeMap → List Nat
  | none => service.cuts.headD []
  | some _ => service.ahead

/-- The service with these sizes still to come. -/
def turned (service : Service) (start : Option AttributeMap) (ahead : List Nat) : Service :=
  { service with cuts := if start.isNone then service.cuts.tail else service.cuts, ahead := ahead }

/-- One page, and where the next one starts. -/
def page (service : Service) (index : StoreIndex) (partition : String)
    (start : Option AttributeMap) : Output × List Nat :=
  let left := remaining index start (listing service.rows index partition)
  match service.sizes start with
  | [] => (⟨none, left, none⟩, [])
  | size :: ahead =>
    let rows := left.take size
    (⟨none, rows, some (cursorAfter index partition start rows)⟩, ahead)

def answer : Client Service
  | .transact actions => fun service =>
    let (reply, rows) := transact service.rows actions
    (reply, { service with rows := rows })
  | .put row condition => fun service =>
    let (reply, rows) := put service.rows row condition
    (reply, { service with rows := rows })
  | .get key => fun service => (.done ⟨service.rows.get? key, [], none⟩, service)
  | .query index partition start => fun service =>
    let (output, ahead) := service.page index partition start
    (.done output, service.turned start ahead)

end Service

end Intake.Table
