import Intake.SortedMap
import Intake.Store.Basic

/-!
# The store in memory

Items are filed under their primary keys.  A second table holds the reservations, each with the
primary key of the item that took it.
-/

namespace Intake

structure MemoryStore where
  items : SortedMap KeyPair Item
  reservations : SortedMap KeyPair KeyPair
  deriving DecidableEq

namespace MemoryStore

def empty : MemoryStore := ⟨.empty, .empty⟩

instance : Inhabited MemoryStore := ⟨empty⟩

def size (store : MemoryStore) : Nat := store.items.size

def putIfAbsent (store : MemoryStore) (item : Item) : Except StoreError MemoryStore :=
  if store.items.contains item.keys.primary || store.reservations.contains item.reservation then
    .error (.alreadyExists item.keys.primary)
  else
    .ok ⟨store.items.insert item.keys.primary item,
      store.reservations.insert item.reservation item.keys.primary⟩

/-- Whether the item under a key has a version. -/
def holdsVersion (store : MemoryStore) (key : KeyPair) (version : RowVersion) : Bool :=
  match store.items.get? key with
  | some item => item.rowVersion = version
  | none => false

def putWithVersion (store : MemoryStore) (item : Item) (expected : RowVersion) :
    Except StoreError MemoryStore :=
  if store.holdsVersion item.keys.primary expected then
    .ok { store with items := store.items.insert item.keys.primary item }
  else .error (.concurrentModification item.keys.primary expected)

def get? (store : MemoryStore) (key : KeyPair) : Option Item := store.items.get? key

/-- The reservation is freed only if the deleted item had taken it. -/
def delete (store : MemoryStore) (key reservation : KeyPair) (expected : RowVersion) :
    Except StoreError MemoryStore :=
  if store.holdsVersion key expected then
    .ok {
      items := store.items.erase key
      reservations :=
        if store.reservations.get? reservation = some key then
          store.reservations.erase reservation
        else store.reservations }
  else .error (.concurrentModification key expected)

/-- The items of a partition in the order of their sort keys, and of their primary keys where
those are alike. -/
def query (store : MemoryStore) (index : StoreIndex) (partition : String) : List Item :=
  let matching := store.items.values.filterMap fun item =>
    match index.keyOf item with
    | some key => if key.partitionKey = partition then some (key.sortKey, item) else none
    | none => none
  (matching.mergeSort fun a b => (compare a.1 b.1).isLE).map Prod.snd

/-- The new state of an operation, or the old one with its error. -/
def commit (store : MemoryStore) : Except StoreError MemoryStore →
    Except StoreError Unit × MemoryStore
  | .ok next => (.ok (), next)
  | .error error => (.error error, store)

/-- The memory store as an entry store. -/
def asEntryStore : EntryStore MemoryStore where
  putIfAbsent item := fun store => store.commit (store.putIfAbsent item)
  putWithVersion item expected := fun store => store.commit (store.putWithVersion item expected)
  get key := fun store => (.ok (store.get? key), store)
  delete key reservation expected := fun store =>
    store.commit (store.delete key reservation expected)
  query index partition := fun store => (.ok (store.query index partition), store)

end MemoryStore

end Intake
