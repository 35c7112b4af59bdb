import Intake.Proofs.Store.Queries
import Intake.Proofs.Table.Rows

/-!
# Rows are read as they were written

Reading a row looks at its data only and makes everything else anew, while conditions and indexes
look at the other attributes.  Both come from one entry, so they agree.  The service keeps no order
among the members of a map, at any depth, so the row is read the same in whatever order it comes
back.
-/

namespace Intake

theorem Entries.ofList_perm {κ α : Type} [DecidableEq κ] [Ord κ] [Std.TransOrd κ]
    [Std.LawfulEqOrd κ] {entries others : List (κ × α)} (hnames : (entries.map Prod.fst).Nodup)
    (hperm : entries.Perm others) : ofList entries = ofList others := by
  have hotherNames : (others.map Prod.fst).Nodup := (hperm.map Prod.fst).nodup_iff.1 hnames
  have hmaps : SortedMap.ofList entries = SortedMap.ofList others := by
    apply SortedMap.ext_mem
    intro entry
    show entry ∈ ofList entries ↔ entry ∈ ofList others
    rw [mem_ofList_iff hnames, mem_ofList_iff hotherNames, hperm.mem_iff]
  exact congrArg SortedMap.toList hmaps

namespace AttributeValue

/-- The values are the same but for the order of members in their maps. -/
inductive Reordered : AttributeValue → AttributeValue → Prop where
  | refl (value : AttributeValue) : Reordered value value
  | trans {first second third : AttributeValue} (hfirst : Reordered first second)
      (hsecond : Reordered second third) : Reordered first third
  | members {members others : List (String × AttributeValue)}
      (hnames : (members.map Prod.fst).Nodup) (hperm : members.Perm others) :
      Reordered (.map members) (.map others)
  | inItem (before after : List AttributeValue) {value other : AttributeValue}
      (hreordered : Reordered value other) :
      Reordered (.list (before ++ value :: after)) (.list (before ++ other :: after))
  | inMember (before after : List (String × AttributeValue)) (name : String)
      {value other : AttributeValue} (hreordered : Reordered value other) :
      Reordered (.map (before ++ (name, value) :: after)) (.map (before ++ (name, other) :: after))

theorem itemsToJson_eq (items : List AttributeValue) : itemsToJson items = items.map toJson := by
  induction items with
  | nil => rfl
  | cons value items ih => rw [itemsToJson, ih, List.map_cons]

theorem names_membersToJson (members : List (String × AttributeValue)) :
    (membersToJson members).map Prod.fst = members.map Prod.fst := by
  rw [membersToJson_eq, List.map_map]
  rfl

/-- The order of members makes no difference to the document that a value stands for. -/
theorem toJson_of_reordered {value other : AttributeValue} (hreordered : Reordered value other) :
    value.toJson = other.toJson := by
  induction hreordered with
  | refl value => rfl
  | trans hfirst hsecond ihfirst ihsecond => exact ihfirst.trans ihsecond
  | members hnames hperm =>
    rw [← names_membersToJson] at hnames
    rw [toJson, toJson, Entries.ofList_perm hnames]
    rw [membersToJson_eq, membersToJson_eq]
    exact hperm.map _
  | inItem before after hreordered ih =>
    rw [toJson, toJson, itemsToJson_eq, itemsToJson_eq, List.map_append, List.map_append,
      List.map_cons, List.map_cons, ih]
  | inMember before after name hreordered ih =>
    rw [toJson, toJson, membersToJson_eq, membersToJson_eq, List.map_append, List.map_append,
      List.map_cons, List.map_cons, ih]

/-- A value of whole numbers is read back as it was written, in whatever order the members of its
maps come back, and no other such value is written like it. -/
theorem value_roundTrip {value : Json} (hcanonical : value.canonical = value)
    (hwhole : value.IsWhole) :
    (∀ stored, Reordered (ofJson value) stored → stored.toJson = value) ∧
      ∀ other : Json, other.canonical = other → other.IsWhole →
        Reordered (ofJson value) (ofJson other) → value = other := by
  have hread : ∀ stored, Reordered (ofJson value) stored → stored.toJson = value := by
    intro stored hreordered
    rw [← toJson_of_reordered hreordered, toJson_ofJson value hwhole, hcanonical]
  refine ⟨hread, ?_⟩
  intro other hcanonicalOther hwholeOther hreordered
  rw [← hread _ hreordered, toJson_ofJson other hwholeOther, hcanonicalOther]

/-- The least and the greatest whole numbers come back from inside a map in another order. -/
theorem value_roundTrip_bounds :
    let least : Json := .num (.int (-9223372036854775808))
    let greatest : Json := .num (.int 18446744073709551615)
    let value : Json := .obj [("empty", .arr []), ("numbers", .arr [least, .null, greatest])]
    let stored : AttributeValue :=
      .map [("numbers", .list [.number "-9223372036854775808", .null true,
        .number "18446744073709551615"]), ("empty", .list [])]
    value.canonical = value ∧ value.IsWhole ∧ Reordered (ofJson value) stored ∧
      stored.toJson = value := by
  intro least greatest value stored
  have hcanonical : value.canonical = value := by decide +kernel
  have hwhole : value.IsWhole := by
    have hleast : Json.InRange (-9223372036854775808) := by
      constructor <;> decide
    have hgreatest : Json.InRange 18446744073709551615 := by
      constructor <;> decide
    exact ⟨trivial, ⟨hleast, trivial, hgreatest, trivial⟩, trivial⟩
  have hreordered : Reordered (ofJson value) stored := by
    have hwritten : ofJson value = .map [("empty", .list []),
        ("numbers", .list [.number "-9223372036854775808", .null true,
          .number "18446744073709551615"])] := by
      rfl
    rw [hwritten]
    exact .members (by decide) (.swap _ _ _)
  exact ⟨hcanonical, hwhole, hreordered, (value_roundTrip hcanonical hwhole).1 stored hreordered⟩

end AttributeValue

namespace Table

open AttributeValue (Reordered)

/-- A row is read the same in any order. -/
theorem toItem_of_reordered {attributes others : AttributeMap}
    (hreordered : Reordered (.map attributes) (.map others)) :
    toItem attributes = toItem others := by
  have hdocuments := AttributeValue.toJson_of_reordered hreordered
  rw [AttributeValue.toJson, AttributeValue.toJson, Json.obj.injEq] at hdocuments
  have hmaps : SortedMap.ofList (AttributeValue.membersToJson attributes) =
      SortedMap.ofList (AttributeValue.membersToJson others) := by
    simp only [SortedMap.ofList, hdocuments]
  rw [toItem, toItem, hmaps]

section Written

variable (item : Item)

theorem lookup_partition (index : StoreIndex) :
    (ofItem item).lookup (partitionAttribute index) =
      (index.keyOf item).map fun key => .text key.partitionKey := by
  rw [lookup_ofItem]
  obtain ⟨⟨primary, byCustomerStatus, byResource⟩, entryType, identifier, rowVersion, data⟩ := item
  cases index with
  | primary => rfl
  | byCustomerStatus => rfl
  | byResource => cases byResource <;> rfl

theorem lookup_sort (index : StoreIndex) :
    (ofItem item).lookup (sortAttribute index) =
      (index.keyOf item).map fun key => .text key.sortKey := by
  rw [lookup_ofItem]
  obtain ⟨⟨primary, byCustomerStatus, byResource⟩, entryType, identifier, rowVersion, data⟩ := item
  cases index with
  | primary => rfl
  | byCustomerStatus => rfl
  | byResource => cases byResource <;> rfl

/-- Conditions on a version are about the version of the item. -/
theorem holds?_version (expected : RowVersion) :
    (Condition.versionIs expected).expression.holds? (some (ofItem item)) =
        some (decide (item.rowVersion = expected)) ∧
      (Condition.presentWithVersion expected).expression.holds? (some (ofItem item)) =
        some (decide (item.rowVersion = expected)) := by
  have hkey : (ofItem item).lookup Attribute.partitionKey =
      some (.text item.keys.primary.partitionKey) := lookup_partition item .primary
  have hversion : (some item.rowVersion.token == some expected.token) =
      decide (item.rowVersion = expected) := by
    obtain ⟨token⟩ := expected
    cases hitem : item.rowVersion with
    | mk own => simp [beq_eq_decide]
  rw [holds?_versionIs, holds?_presentWithVersion, Option.bind_some, Option.bind_some,
    textAt?_rowVersion, hkey, hversion]
  exact ⟨rfl, rfl⟩

end Written

/-- How the row of an entry is written, and what it is read as. -/
structure RoundTrip (entry : Entry) (item : Item) : Prop where
  read_eq : ∀ attributes, Reordered (.map (ofItem item)) (.map attributes) →
    toItem attributes = .ok item
  entry_eq : item.entry = .ok entry
  /-- The keys that are made anew are those of the row. -/
  keys_eq : entry.keys = .ok item.keys
  partition_eq : ∀ index : StoreIndex, (ofItem item).lookup (partitionAttribute index) =
    (index.keyOf item).map fun key => .text key.partitionKey
  sort_eq : ∀ index : StoreIndex, (ofItem item).lookup (sortAttribute index) =
    (index.keyOf item).map fun key => .text key.sortKey
  /-- The index by resource has the rows of entries about a resource. -/
  isSome_eq : ∀ name ∈ [Attribute.resourcePartitionKey, Attribute.resourceSortKey],
    ((ofItem item).lookup name).isSome = entry.about.isSome
  /-- The version that is read back is that of the row, and conditions compare it. -/
  rowVersion_eq : item.rowVersion = entry.rowVersion ∧
    (ofItem item).lookup Attribute.rowVersion = some (.text entry.rowVersion.token)
  compared : ∀ expected,
    (Condition.versionIs expected).expression.holds? (some (ofItem item)) =
        some (decide (entry.rowVersion = expected)) ∧
      (Condition.presentWithVersion expected).expression.holds? (some (ofItem item)) =
        some (decide (entry.rowVersion = expected))

/-- The row of an entry reads as the item that was written and as the entry itself, in whatever
order it comes back, and its keys and its version are those that reading makes anew. -/
theorem row_roundTrip {entry : Entry} {item : Item} (hitem : entry.item = .ok item) :
    RoundTrip entry item := by
  obtain ⟨keys, hkeys, hfields⟩ := Entry.item_eq_ok_iff.1 hitem
  have hitemKeys : item.keys = keys := congrArg Item.keys hfields
  have hversion : item.rowVersion = entry.rowVersion := congrArg Item.rowVersion hfields
  constructor
  case read_eq =>
    intro attributes hreordered
    rw [← toItem_of_reordered hreordered, toItem_ofItem hitem]
  case entry_eq => exact Entry.entry_of_item hitem
  case keys_eq => rw [hitemKeys, hkeys]
  case partition_eq => exact lookup_partition item
  case sort_eq => exact lookup_sort item
  case isSome_eq =>
    obtain ⟨customerId, owner, -, -, -, -, -, -, hresource⟩ := Entry.keys_eq_ok hkeys
    have hkey : (StoreIndex.byResource.keyOf item).isSome = entry.about.isSome := by
      rw [StoreIndex.keyOf, hitemKeys, hresource, Option.isSome_map]
    have hpartition := congrArg Option.isSome (lookup_partition item .byResource)
    have hsort := congrArg Option.isSome (lookup_sort item .byResource)
    rw [Option.isSome_map, hkey] at hpartition hsort
    exact List.forall_mem_cons.2 ⟨hpartition, List.forall_mem_singleton.2 hsort⟩
  case rowVersion_eq =>
    refine ⟨hversion, ?_⟩
    rw [← hversion, ← textAt?_eq_some, textAt?_rowVersion]
  case compared =>
    rw [← hversion]
    exact holds?_version item

/-- The row of a message about a resource has all the keys. -/
theorem row_roundTrip_note :
    ∃ item, MemoryStore.note.item = .ok item ∧ RoundTrip MemoryStore.note item := by
  obtain ⟨item, hitem⟩ := MemoryStore.exists_item_note
  exact ⟨item, hitem, row_roundTrip hitem⟩

end Table

end Intake
