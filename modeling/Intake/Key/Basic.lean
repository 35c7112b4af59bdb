import Intake.Entry.Basic
import Intake.Text.Upper

/-!
# Composite keys

Every entry has a primary key, a key in the index by customer and status, and, when it is about a
resource, a key in the index by resource.  A fourth key reserves its identifier.  Keys are made
anew from the entry for every write:

```text
primary             {type}#Customer#{customer}#Owner#{owner}      {type}#{identifier}
by customer, status {type}#Customer#{customer}#Status#{STATUS}    {type}#{identifier}
by resource         Resource#{resource}                           {type}#{identifier}
reservation         UniqueIdentifier#{type}#{identifier}          the same
```

No component holds the delimiter, so the components can be read back from the key.
-/

namespace Intake

structure KeyPair where
  partitionKey : String
  sortKey : String
  deriving DecidableEq, Inhabited

namespace KeyPair

/-- Keys are ordered by partition, then by sort key. -/
instance : Ord KeyPair where
  compare := compareLex (compareOn KeyPair.partitionKey) (compareOn KeyPair.sortKey)

instance : Std.TransOrd KeyPair :=
  inferInstanceAs (Std.TransCmp
    (compareLex (compareOn KeyPair.partitionKey) (compareOn KeyPair.sortKey)))

instance : Std.LawfulEqOrd KeyPair where
  eq_of_compare {a b} h := by
    obtain ⟨hpartition, hsort⟩ := Ordering.then_eq_eq.1 h
    cases a
    cases b
    rw [KeyPair.mk.injEq]
    exact ⟨Std.LawfulEqCmp.eq_of_compare hpartition, Std.LawfulEqCmp.eq_of_compare hsort⟩

def display (key : KeyPair) : String := key.partitionKey ++ " / " ++ key.sortKey

def toJson (key : KeyPair) : Json :=
  .obj [("partitionKey", .str key.partitionKey), ("sortKey", .str key.sortKey)]

def shape : Shape KeyPair :=
  KeyPair.mk <$> .required "partitionKey" .text <*> .required "sortKey" .text

def decode : Decoder KeyPair := shape.decode "KeyPair" .unnamed

end KeyPair

structure KeySet where
  primary : KeyPair
  byCustomerStatus : KeyPair
  byResource : Option KeyPair
  deriving DecidableEq, Inhabited

namespace KeySet

def toJson (keys : KeySet) : Json :=
  .obj <|
    [("primary", keys.primary.toJson), ("byCustomerStatus", keys.byCustomerStatus.toJson)] ++
    Json.optionalMember "byResource" KeyPair.toJson keys.byResource

def shape : Shape KeySet :=
  KeySet.mk <$> .required "primary" KeyPair.decode
    <*> .required "byCustomerStatus" KeyPair.decode
    <*> .optional "byResource" KeyPair.decode

def decode : Decoder KeySet := shape.decode "KeySet" .unnamed

end KeySet

/-- The parts of an entry that keys are made of, as errors name them. -/
inductive KeyComponent where
  | identifier
  | customerId
  | owner
  | status
  | resourceIdentifier
  deriving DecidableEq, Repr, Inhabited

def KeyComponent.name : KeyComponent → String
  | .identifier => "identifier"
  | .customerId => "customerId"
  | .owner => "owner"
  | .status => "status"
  | .resourceIdentifier => "resourceIdentifier"

inductive KeyError where
  | missingComponent (component : KeyComponent) (entryType : EntryType) (identifier : String)
  | delimiterInComponent (component : KeyComponent) (text : String)
  deriving DecidableEq, Inhabited

def KeyError.message : KeyError → String
  | .missingComponent component entryType identifier =>
    entryType.name ++ " " ++ identifier ++ " is missing key component '" ++ component.name ++ "'"
  | .delimiterInComponent component text =>
    "key component '" ++ component.name ++ "' contains the key delimiter: '" ++ text ++ "'"

namespace Key

/-- Components with the delimiter between them. -/
def join (components : List String) : String :=
  String.intercalate (String.singleton keyDelimiter) components

/-- A component that may stand in a key. -/
def checked (component : KeyComponent) (text : String) : Except KeyError String :=
  if holdsDelimiter text then .error (.delimiterInComponent component text) else .ok text

/-- A component that an entry must have. -/
def required (component : KeyComponent) (entryType : EntryType) (identifier : String) :
    Option String → Except KeyError String
  | none => .error (.missingComponent component entryType identifier)
  | some text =>
    if Text.isBlankText text then .error (.missingComponent component entryType identifier)
    else checked component text

/-- The partition of the entries of one type with one owner. -/
def ofOwner (entryType : EntryType) (customerId owner : String) : String :=
  join [entryType.name, "Customer", customerId, "Owner", owner]

/-- The partition of the entries of one type with one status, in upper case. -/
def ofCustomerStatus (entryType : EntryType) (customerId status : String) : String :=
  join [entryType.name, "Customer", customerId, "Status", status]

/-- The partition of the tickets and messages about one resource. -/
def ofResource (resource : String) : String :=
  join [EntryType.resource.name, resource]

def ofEntry (entryType : EntryType) (identifier : String) : String :=
  join [entryType.name, identifier]

def ownerPartition (entryType : EntryType) (customerId owner : String) :
    Except KeyError String := do
  let customerId ← checked .customerId customerId
  let owner ← checked .owner owner
  return ofOwner entryType customerId owner

/-- The status may be given in any case and with blanks around it. -/
def customerStatusPartition (entryType : EntryType) (customerId status : String) :
    Except KeyError String := do
  let customerId ← checked .customerId customerId
  let status ← checked .status (Text.upper (Text.trim status))
  return ofCustomerStatus entryType customerId status

def resourcePartition (resource : String) : Except KeyError String := do
  let resource ← checked .resourceIdentifier resource
  return ofResource resource

/-- What the sort keys of one type of entry start with. -/
def sortKeyStart (entryType : EntryType) : String :=
  entryType.name ++ String.singleton keyDelimiter

/-- The key that reserves an identifier for one entry of its type, whoever owns it. -/
def reservation (entryType : EntryType) (identifier : String) : KeyPair :=
  let key := join ["UniqueIdentifier", entryType.name, identifier]
  ⟨key, key⟩

end Key

/-- The keys of an entry. -/
def Entry.keys (entry : Entry) : Except KeyError KeySet := do
  let entryType := entry.entryType
  let identifier ← Key.checked .identifier entry.identifier.text
  let customerId ← Key.required .customerId entryType identifier entry.metadata.customerId
  let owner ← Key.required .owner entryType identifier entry.metadata.owner
  let sortKey := Key.ofEntry entryType identifier
  let byResource ← match entry.about with
    | some resource => do
      let key ← Key.resourcePartition resource.text
      pure (some (KeyPair.mk key sortKey))
    | none => pure none
  return {
    primary := ⟨Key.ofOwner entryType customerId owner, sortKey⟩
    byCustomerStatus :=
      ⟨Key.ofCustomerStatus entryType customerId (Text.upper entry.statusName), sortKey⟩
    byResource := byResource }

end Intake
