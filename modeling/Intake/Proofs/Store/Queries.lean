import Intake.Proofs.Key.Partition
import Intake.Proofs.Store.Listing
import Intake.Proofs.Text.Order

/-!
# Queries are exact

The partitions that queries ask for are made from the same components as the keys of entries, and
these components can be read back from both.  So a query for an owner, for a status or for a
resource lists the stored entries that have it and no other, whatever was done to the store before.
-/

namespace Intake

namespace Entry

variable {entry : Entry} {item : Item} {t : EntryType} {customerId owner : String}

theorem primary_partition_iff (hitem : entry.item = .ok item)
    (hcustomer : holdsDelimiter customerId = false) (howner : holdsDelimiter owner = false) :
    item.keys.primary.partitionKey = Key.ofOwner t customerId owner ↔
      entry.entryType = t ∧ entry.metadata.customerId = some customerId ∧
        entry.metadata.owner = some owner := by
  obtain ⟨keys, hkeys, rfl⟩ := item_eq_ok_iff.1 hitem
  obtain ⟨ownCustomer, ownOwner, hcustomerOf, hownerOf, hcustomerFree, hownerFree, hprimary, -,
    -⟩ := keys_eq_ok hkeys
  simp only [hprimary, hcustomerOf, hownerOf, Option.some.injEq]
  constructor
  · exact Key.ofOwner_injective hcustomerFree hownerFree hcustomer howner
  · rintro ⟨rfl, rfl, rfl⟩
    rfl

theorem byCustomerStatus_partition_iff {status : EntryStatus} (hitem : entry.item = .ok item)
    (hcustomer : holdsDelimiter customerId = false) :
    item.keys.byCustomerStatus.partitionKey =
        Key.ofCustomerStatus t customerId (Text.upper status.name) ↔
      entry.entryType = t ∧ entry.metadata.customerId = some customerId ∧
        entry.status = status := by
  obtain ⟨keys, hkeys, rfl⟩ := item_eq_ok_iff.1 hitem
  obtain ⟨ownCustomer, -, hcustomerOf, -, hcustomerFree, -, -, hstatus, -⟩ := keys_eq_ok hkeys
  simp only [hstatus, hcustomerOf, statusName_eq, Option.some.injEq]
  constructor
  · exact Key.ofCustomerStatus_injective hcustomerFree hcustomer
  · rintro ⟨rfl, rfl, rfl⟩
    rfl

/-- A resource is about no resource. -/
theorem entryType_ne_resource {resource : Identifier} (habout : entry.about = some resource) :
    entry.entryType ≠ .resource := by
  obtain ⟨metadata, content⟩ := entry
  cases content with
  | resource r => cases habout
  | doiRequest | publishingRequest | approvalRequest | message => exact EntryType.noConfusion

theorem byResource_partition_iff {resource : Identifier} (hitem : entry.item = .ok item) :
    item.keys.byResource.map KeyPair.partitionKey = some (Key.ofResource resource.text) ↔
      entry.entryType ≠ .resource ∧ entry.about = some resource := by
  obtain ⟨keys, hkeys, rfl⟩ := item_eq_ok_iff.1 hitem
  obtain ⟨-, -, -, -, -, -, -, -, hresource⟩ := keys_eq_ok hkeys
  rw [hresource, Option.map_map, Option.map_eq_some_iff]
  constructor
  · rintro ⟨own, habout, heq⟩
    rw [Key.ofResource_injective heq] at habout
    exact ⟨entryType_ne_resource habout, habout⟩
  · rintro ⟨-, habout⟩
    exact ⟨resource, habout, rfl⟩

end Entry

namespace MemoryStore

/-- What an index lists for the entries of a kind: each of those that are stored once, in the order
of their sort keys. -/
structure ListsExactly (store : MemoryStore) (index : StoreIndex) (kind : Entry → Prop)
    (items : List Item) : Prop where
  mem_iff : ∀ item, item ∈ items ↔
    ∃ key entry, store.get? key = some item ∧ item.entry = .ok entry ∧ kind entry
  nodup : items.Nodup
  /-- The bytes of the sort keys increase strictly. -/
  increasing : items.Pairwise fun a b => ∃ key otherKey,
    index.keyOf a = some key ∧ index.keyOf b = some otherKey ∧
      Text.bytes key.sortKey < Text.bytes otherKey.sortKey
  /-- The items of a type are those whose sort keys start as the sort keys of that type do. -/
  typed : ∀ item ∈ items, ∃ key entry, index.keyOf item = some key ∧ item.entry = .ok entry ∧
    ∀ t, entry.entryType = t ↔ (Key.sortKeyStart t).toList <+: key.sortKey.toList

namespace Consistent

variable {store : MemoryStore} {index : StoreIndex} {partition : String} {item : Item}

/-- What is listed has a key in the index, with the sort key of its primary key. -/
theorem keyOf_of_mem_query (hconsistent : store.Consistent)
    (hmem : item ∈ store.query index partition) :
    ∃ (key : KeyPair) (entry : Entry), index.keyOf item = some key ∧ entry.item = .ok item ∧
      key.sortKey = item.keys.primary.sortKey := by
  obtain ⟨⟨primary, hget⟩, hpartition⟩ := mem_query_iff.1 hmem
  obtain ⟨key, hkey, -⟩ := Option.map_eq_some_iff.1 hpartition
  obtain ⟨entry, -, hitem⟩ := hconsistent.projected hget
  exact ⟨key, entry, hkey, hitem, Entry.sortKey_of_keyOf hitem hkey⟩

/-- A query lists a kind of entry exactly if its partition is that of the kind. -/
theorem listsExactly (hconsistent : store.Consistent) {kind : Entry → Prop}
    (hkind : ∀ (entry : Entry) (item : Item), entry.item = .ok item →
      ((index.keyOf item).map KeyPair.partitionKey = some partition ↔ kind entry)) :
    ListsExactly store index kind (store.query index partition) := by
  constructor
  case mem_iff =>
    intro item
    rw [mem_query_iff]
    constructor
    · rintro ⟨⟨key, hget⟩, hpartition⟩
      obtain ⟨entry, hentry, hitem⟩ := hconsistent.projected hget
      exact ⟨key, entry, hget, hentry, (hkind entry item hitem).1 hpartition⟩
    · rintro ⟨key, entry, hget, hentry, hmatch⟩
      obtain ⟨stored, hstored, hitem⟩ := hconsistent.projected hget
      obtain rfl : entry = stored := Except.ok.inj (hentry.symm.trans hstored)
      exact ⟨⟨key, hget⟩, (hkind entry item hitem).2 hmatch⟩
  case nodup =>
    refine hconsistent.pairwise_query.imp fun hlt => ?_
    rintro rfl
    exact Entries.ne_of_compare_lt hlt rfl
  case increasing =>
    refine hconsistent.pairwise_query.imp_of_mem fun {a b} ha hb hlt => ?_
    obtain ⟨key, -, hkey, -, hsort⟩ := hconsistent.keyOf_of_mem_query ha
    obtain ⟨otherKey, -, hotherKey, -, hotherSort⟩ := hconsistent.keyOf_of_mem_query hb
    refine ⟨key, otherKey, hkey, hotherKey, ?_⟩
    rw [hsort, hotherSort]
    exact Text.compare_eq_lt_iff.1 hlt
  case typed =>
    intro item hmem
    obtain ⟨key, entry, hkey, hitem, hsort⟩ := hconsistent.keyOf_of_mem_query hmem
    refine ⟨key, entry, hkey, Entry.entry_of_item hitem, fun t => ?_⟩
    obtain ⟨keys, hkeys, rfl⟩ := Entry.item_eq_ok_iff.1 hitem
    rw [hsort, Entry.sortKey_of_keys hkeys, Key.sortKeyStart_prefix_iff]

end Consistent

/-- Whatever was done to a store that was empty, the partition of an owner lists the stored entries
of its type, customer and owner, the partition of a spelled status lists those of its type and
customer that have the status now, and the partition of a resource lists the tickets and messages
about it. -/
theorem history_query_exact (operations : List Operation) :
    let store := (asEntryStore.history operations empty).2
    (∀ (t : EntryType) (customerId owner : String),
      holdsDelimiter customerId = false → holdsDelimiter owner = false →
        ∃ partition items, Key.ownerPartition t customerId owner = .ok partition ∧
          asEntryStore.query .primary partition store = (.ok items, store) ∧
          ListsExactly store .primary
            (fun entry => entry.entryType = t ∧ entry.metadata.customerId = some customerId ∧
              entry.metadata.owner = some owner) items) ∧
    (∀ (t : EntryType) (customerId text : String) (status : EntryStatus),
      holdsDelimiter customerId = false → t.parseStatus text = .ok status →
        ∃ partition items, Key.customerStatusPartition t customerId text = .ok partition ∧
          asEntryStore.query .byCustomerStatus partition store = (.ok items, store) ∧
          ListsExactly store .byCustomerStatus
            (fun entry => entry.entryType = t ∧ entry.metadata.customerId = some customerId ∧
              entry.status = status) items) ∧
    ∀ resource : Identifier,
      ∃ partition items, Key.resourcePartition resource.text = .ok partition ∧
        asEntryStore.query .byResource partition store = (.ok items, store) ∧
        ListsExactly store .byResource
          (fun entry => entry.entryType ≠ .resource ∧ entry.about = some resource) items := by
  intro store
  have hconsistent : store.Consistent := Consistent.empty.history operations
  refine ⟨?_, ?_, ?_⟩
  · intro t customerId owner hcustomer howner
    refine ⟨_, _, Key.ownerPartition_of_free hcustomer howner t, rfl, ?_⟩
    refine hconsistent.listsExactly fun entry item hitem => ?_
    rw [← Entry.primary_partition_iff hitem hcustomer howner]
    exact Option.some_inj
  · intro t customerId text status hcustomer hparse
    refine ⟨_, _, Key.customerStatusPartition_of_parse hcustomer hparse, rfl, ?_⟩
    refine hconsistent.listsExactly fun entry item hitem => ?_
    rw [← Entry.byCustomerStatus_partition_iff hitem hcustomer]
    exact Option.some_inj
  · intro resource
    refine ⟨_, _, Key.resourcePartition_of_identifier resource, rfl, ?_⟩
    exact hconsistent.listsExactly fun entry item hitem => Entry.byResource_partition_iff hitem

/-- An unread message about the resource X1. -/
def note : Entry where
  metadata :=
    { (bareResource (some "owner@1")).metadata with
      identifier := ⟨"M1", by decide, by decide, by decide⟩ }
  content := .message
    ⟨.unread, (bareResource (some "owner@1")).identifier, none, none, "see the figures"⟩

theorem exists_item_note : ∃ item, note.item = .ok item := ⟨_, rfl⟩

/-- A message is listed for its owner, for its status in any spelling, and for its resource. -/
theorem history_query_exact_note :
    let store := (asEntryStore.history [.create note] empty).2
    holdsDelimiter "customer-1" = false ∧ holdsDelimiter "owner@1" = false ∧
      EntryType.message.parseStatus " uNREAD\n" = .ok (.message .unread) ∧
      ∃ item, note.item = .ok item ∧
        (∃ partition items, Key.ownerPartition .message "customer-1" "owner@1" = .ok partition ∧
          asEntryStore.query .primary partition store = (.ok items, store) ∧ item ∈ items) ∧
        (∃ partition items,
          Key.customerStatusPartition .message "customer-1" " uNREAD\n" = .ok partition ∧
          asEntryStore.query .byCustomerStatus partition store = (.ok items, store) ∧
            item ∈ items) ∧
        ∃ partition items, Key.resourcePartition "X1" = .ok partition ∧
          asEntryStore.query .byResource partition store = (.ok items, store) ∧ item ∈ items := by
  intro store
  have hcustomer : holdsDelimiter "customer-1" = false := by decide
  have howner : holdsDelimiter "owner@1" = false := by decide
  have hparse : EntryType.message.parseStatus " uNREAD\n" = .ok (.message .unread) := rfl
  obtain ⟨item, hitem⟩ := exists_item_note
  have hget : store.get? item.keys.primary = some item := by
    have hfree : empty.isTaken item = false := rfl
    have hstore : store = empty.file item := congrArg Prod.snd (create_of_free hitem hfree)
    rw [hstore, get?_file, if_pos rfl]
  have hentry := Entry.entry_of_item hitem
  obtain ⟨hprimary, hstatus, hresource⟩ := history_query_exact [.create note]
  obtain ⟨owned, ownedItems, howned, hownedQuery, hownedItems⟩ :=
    hprimary .message _ _ hcustomer howner
  obtain ⟨unread, unreadItems, hunread, hunreadQuery, hunreadItems⟩ :=
    hstatus .message _ _ _ hcustomer hparse
  obtain ⟨about, aboutItems, habout, haboutQuery, haboutItems⟩ :=
    hresource (bareResource (some "owner@1")).identifier
  refine ⟨hcustomer, howner, hparse, item, hitem, ⟨owned, ownedItems, howned, hownedQuery, ?_⟩,
    ⟨unread, unreadItems, hunread, hunreadQuery, ?_⟩,
    ⟨about, aboutItems, habout, haboutQuery, ?_⟩⟩
  · exact (hownedItems.mem_iff item).2 ⟨_, note, hget, hentry, rfl, rfl, rfl⟩
  · exact (hunreadItems.mem_iff item).2 ⟨_, note, hget, hentry, rfl, rfl, rfl⟩
  · exact (haboutItems.mem_iff item).2 ⟨_, note, hget, hentry, EntryType.noConfusion, rfl⟩

end MemoryStore

end Intake
