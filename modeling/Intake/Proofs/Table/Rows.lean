import Intake.Proofs.Entry.Text
import Intake.Proofs.Key.Injective
import Intake.Proofs.Table.AttributeValue
import Intake.Proofs.Table.Service

/-!
# The rows of items and of reservations

What the service sees of an item is its keys and its version; what the store reads back is its data.
The row of a reservation has a primary key and nothing that an index or a condition on a version
looks at.  Conditions come down to look-ups in the row they are about.
-/

namespace Intake.Table

open Test (textAt?)

theorem textAt?_eq_some {row : AttributeMap} {name text : String} :
    textAt? row name = some text ↔ row.lookup name = some (.text text) := by
  rw [textAt?]
  split
  next found hlook => rw [hlook, Option.some.injEq, Option.some.injEq, AttributeValue.text.injEq]
  next hother =>
    constructor
    · exact nofun
    · exact fun hlook => absurd hlook (hother text)

/-! ## Attributes of an item -/

section Items

variable (item : Item)

theorem nodup_attributeList : (item.attributeList.map Prod.fst).Nodup := by
  obtain ⟨⟨primary, byCustomerStatus, byResource⟩, entryType, identifier, rowVersion, data⟩ := item
  cases byResource with
  | none =>
    have hnames : ["PK0", "SK0", "PK1", "SK1", "type", "identifier", "rowVersion", "data"].Nodup := by
      decide
    exact hnames
  | some key =>
    have hnames : ["PK0", "SK0", "PK1", "SK1", "PK2", "SK2", "type", "identifier", "rowVersion",
        "data"].Nodup := by
      decide
    exact hnames

theorem lookup_ofItem (name : String) :
    (ofItem item).lookup name = (item.attributeList.lookup name).map AttributeValue.ofJson := by
  rw [ofItem, AttributeValue.ofMembers_eq, Json.lookup_map, Json.lookup_eq_get?,
    Json.lookup_eq_get?]
  exact congrArg _ (Entries.get?_ofList (nodup_attributeList item) name)

theorem textAt?_ofItem {name : String} {text : Option String}
    (hlook : item.attributeList.lookup name = text.map Json.str) :
    textAt? (ofItem item) name = text := by
  rw [textAt?, lookup_ofItem, hlook]
  cases text with
  | none => rfl
  | some text => rfl

theorem textAt?_partition (index : StoreIndex) :
    textAt? (ofItem item) (partitionAttribute index) =
      (index.keyOf item).map KeyPair.partitionKey := by
  apply textAt?_ofItem
  obtain ⟨⟨primary, byCustomerStatus, byResource⟩, entryType, identifier, rowVersion, data⟩ := item
  cases index with
  | primary => rfl
  | byCustomerStatus => rfl
  | byResource => cases byResource <;> rfl

theorem textAt?_sort (index : StoreIndex) :
    textAt? (ofItem item) (sortAttribute index) = (index.keyOf item).map KeyPair.sortKey := by
  apply textAt?_ofItem
  obtain ⟨⟨primary, byCustomerStatus, byResource⟩, entryType, identifier, rowVersion, data⟩ := item
  cases index with
  | primary => rfl
  | byCustomerStatus => rfl
  | byResource => cases byResource <;> rfl

theorem textAt?_rowVersion :
    textAt? (ofItem item) Attribute.rowVersion = some item.rowVersion.token := by
  apply textAt?_ofItem
  obtain ⟨⟨primary, byCustomerStatus, byResource⟩, entryType, identifier, rowVersion, data⟩ := item
  cases byResource <;> rfl

theorem lookup_data : item.attributeList.lookup Attribute.data = some item.data := by
  obtain ⟨⟨primary, byCustomerStatus, byResource⟩, entryType, identifier, rowVersion, data⟩ := item
  cases byResource <;> rfl

theorem keyIn?_ofItem : keyIn? (ofItem item) = some item.keys.primary := by
  have hpartition : textAt? (ofItem item) Attribute.partitionKey =
      some item.keys.primary.partitionKey := textAt?_partition item .primary
  have hsort : textAt? (ofItem item) Attribute.sortKey = some item.keys.primary.sortKey :=
    textAt?_sort item .primary
  rw [keyIn?, hpartition, hsort]
  rfl

theorem place_ofItem (index : StoreIndex) :
    Place.of? index (ofItem item) =
      (index.keyOf item).map fun key => ⟨key.sortKey, item.keys.primary⟩ := by
  rw [Place.of?, textAt?_sort, keyIn?_ofItem]
  cases index.keyOf item <;> rfl

end Items

/-- The row of an item reads as the item. -/
theorem toItem_ofItem {entry : Entry} {item : Item} (hitem : entry.item = .ok item) :
    toItem (ofItem item) = .ok item := by
  have hdata : item.data = entry.toValue := by
    obtain ⟨keys, -, rfl⟩ := Entry.item_eq_ok_iff.1 hitem
    rfl
  have hnodup : ((AttributeValue.membersToJson (ofItem item)).map Prod.fst).Nodup := by
    rw [AttributeValue.membersToJson_eq, ofItem, AttributeValue.ofMembers_eq, List.map_map,
      List.map_map]
    exact Entries.nodup_names item.attributes.sorted
  have hlook : (SortedMap.ofList (AttributeValue.membersToJson (ofItem item))).get?
      Attribute.data = some entry.toValue.canonical := by
    refine (Entries.get?_ofList hnodup _).trans ?_
    rw [← Json.lookup_eq_get?, AttributeValue.membersToJson_eq, Json.lookup_map, lookup_ofItem,
      lookup_data, hdata, Option.map_some, Option.map_some,
      AttributeValue.toJson_ofJson _ entry.fits_toValue.1]
  rw [toItem, Item.ofAttributes, hlook]
  simp only [Entry.decode_canonical_toValue, mapError_ok, ok_bind, hitem]

/-! ## Attributes of a reservation -/

section Guards

variable (item : Item)

theorem keyIn?_guardOf : keyIn? (guardOf item) = some item.reservation := rfl

/-- A reservation is missing from the indexes but the primary one. -/
theorem textAt?_partition_guardOf {index : StoreIndex} (hindex : index ≠ .primary) :
    textAt? (guardOf item) (partitionAttribute index) = none := by
  cases index with
  | primary => exact absurd rfl hindex
  | byCustomerStatus => rfl
  | byResource => rfl

end Guards

/-! ## Conditions -/

section Conditions

variable (row : Option AttributeMap) (expected : RowVersion)

theorem Expression.holds?_one {expression : Expression} {test : Test} {result : Bool}
    (htests : Test.all? expression.text = some [test])
    (hresult : test.holds? expression row = some result) :
    expression.holds? row = some result := by
  rw [Expression.holds?, htests]
  simp [hresult]

theorem Expression.holds?_both {expression : Expression} {first second : Test} {a b : Bool}
    (htests : Test.all? expression.text = some [first, second])
    (hfirst : first.holds? expression row = some a)
    (hsecond : second.holds? expression row = some b) :
    expression.holds? row = some (a && b) := by
  rw [Expression.holds?, htests]
  simp [hfirst, hsecond]

theorem holds?_absent :
    Condition.absent.expression.holds? row =
      some (row.bind (·.lookup Attribute.partitionKey)).isNone := by
  have htests : Test.all? "attribute_not_exists(#pk)" = some [.missing "#pk"] := by decide
  exact Expression.holds?_one row htests rfl

theorem holds?_versionIs :
    (Condition.versionIs expected).expression.holds? row =
      some (row.bind (textAt? · Attribute.rowVersion) == some expected.token) := by
  have htests : Test.all? "#rv = :expected" = some [.equal "#rv" ":expected"] := by decide
  exact Expression.holds?_one row htests rfl

theorem holds?_presentWithVersion :
    (Condition.presentWithVersion expected).expression.holds? row =
      some ((row.bind (·.lookup Attribute.partitionKey)).isSome &&
        row.bind (textAt? · Attribute.rowVersion) == some expected.token) := by
  have htests : Test.all? "attribute_exists(#pk) AND #rv = :expected" =
      some [.present "#pk", .equal "#rv" ":expected"] := by decide
  exact Expression.holds?_both row htests rfl rfl

theorem holds?_keyCondition (index : StoreIndex) (partition : String) :
    (keyCondition index partition).holds? row =
      some (row.bind (textAt? · (partitionAttribute index)) == some partition) := by
  have htests : Test.all? "#pk = :pk" = some [.equal "#pk" ":pk"] := by decide
  exact Expression.holds?_one row htests rfl

end Conditions

end Intake.Table
