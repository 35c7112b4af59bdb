import Intake.Item

/-!
# Entry stores

A store changes only under a condition: a first write must find neither its key nor its reservation
taken, an update or a deletion must name the stored row version.  The operations on entries are
written once for every store.
-/

namespace Intake

/-- Why a store cannot answer. -/
inductive Outage where
  | operationFailed (operation : String)
  | unreadableItem (error : ItemError)
  /-- A listing went on beyond the number of pages that may be asked for. -/
  | endlessListing
  deriving DecidableEq, Inhabited

def Outage.message : Outage → String
  | .operationFailed operation => operation ++ " failed"
  | .unreadableItem error => "stored item is unreadable: " ++ error.message
  | .endlessListing => "listing has too many pages"

inductive StoreError where
  | alreadyExists (key : KeyPair)
  | concurrentModification (key : KeyPair) (expected : RowVersion)
  | unavailable (outage : Outage)
  deriving DecidableEq, Inhabited

def StoreError.message : StoreError → String
  | .alreadyExists key => "an entry already exists under " ++ key.display
  | .concurrentModification key expected =>
    "entry under " ++ key.display ++ " was modified concurrently (expected row version " ++
      expected.token ++ ")"
  | .unavailable outage => "store unavailable: " ++ outage.message

inductive StoreIndex where
  | primary
  | byCustomerStatus
  | byResource
  deriving DecidableEq, Repr, Inhabited

/-- The key of an item in an index; items may be missing from the index by resource. -/
def StoreIndex.keyOf (index : StoreIndex) (item : Item) : Option KeyPair :=
  match index with
  | .primary => some item.keys.primary
  | .byCustomerStatus => some item.keys.byCustomerStatus
  | .byResource => item.keys.byResource

/-- A store that lives in a state. -/
structure EntryStore (σ : Type) where
  /-- Writes an item whose key and reservation are both free, and takes both. -/
  putIfAbsent : Item → StateM σ (Except StoreError Unit)
  /-- Replaces the stored item if that has the expected version. -/
  putWithVersion : Item → RowVersion → StateM σ (Except StoreError Unit)
  get : KeyPair → StateM σ (Except StoreError (Option Item))
  /-- Deletes the item under a key if it has the expected version, and frees its reservation. -/
  delete : KeyPair → KeyPair → RowVersion → StateM σ (Except StoreError Unit)
  /-- The items of one partition of an index in the order of their sort keys. -/
  query : StoreIndex → String → StateM σ (Except StoreError (List Item))

inductive WriteError where
  | key (error : KeyError)
  | store (error : StoreError)
  | primaryKeyChanged (identifier : Identifier) (previous next : KeyPair)
  deriving DecidableEq

def WriteError.message : WriteError → String
  | .key error => error.message
  | .store error => error.message
  | .primaryKeyChanged identifier previous next =>
    "update of " ++ identifier.text ++ " would move it from " ++ previous.display ++ " to " ++
      next.display

/-- The time and the version that an update is stamped with. -/
structure Stamp where
  now : Timestamp
  version : RowVersion
  deriving DecidableEq

namespace EntryStore

variable {σ : Type}

/-- Stores an entry for the first time. -/
def create (store : EntryStore σ) (entry : Entry) : StateM σ (Except WriteError Item) := do
  match entry.item with
  | .error error => return .error (.key error)
  | .ok item =>
    match ← store.putIfAbsent item with
    | .error error => return .error (.store error)
    | .ok () => return .ok item

/-- Puts an entry in the place of the one it was made from.  Its primary key stays the same. -/
def update (store : EntryStore σ) (previous updated : Entry) (stamp : Stamp) :
    StateM σ (Except WriteError Entry) := do
  match previous.keys with
  | .error error => return .error (.key error)
  | .ok previousKeys =>
    let next := updated.touched stamp.now stamp.version
    match next.item with
    | .error error => return .error (.key error)
    | .ok item =>
      if item.keys.primary ≠ previousKeys.primary then
        return .error (.primaryKeyChanged next.identifier previousKeys.primary item.keys.primary)
      else
        match ← store.putWithVersion item previous.rowVersion with
        | .error error => return .error (.store error)
        | .ok () => return .ok next

def remove (store : EntryStore σ) (entry : Entry) : StateM σ (Except WriteError Unit) := do
  match entry.item with
  | .error error => return .error (.key error)
  | .ok item =>
    match ← store.delete item.keys.primary item.reservation entry.rowVersion with
    | .error error => return .error (.store error)
    | .ok () => return .ok ()

end EntryStore

end Intake
