import Intake.Item
import Intake.Proofs.Entry.Text

/-!
# What keys determine

No component holds the delimiter, so a joined key gives its components back.  The sort key of a
primary key therefore determines the type and the identifier of its entry, and so does the
reservation, which holds nothing else.
-/

namespace Intake

namespace Key

/-- Components without the delimiter are determined by their key. -/
theorem join_injective {left right : List String} (hleft : left ≠ []) (hright : right ≠ [])
    (hfreeLeft : ∀ s ∈ left, holdsDelimiter s = false)
    (hfreeRight : ∀ s ∈ right, holdsDelimiter s = false) (heq : join left = join right) :
    left = right := by
  have hsplit : ∀ components : List String, components ≠ [] →
      (∀ s ∈ components, holdsDelimiter s = false) →
      (join components).toList.splitOn keyDelimiter = components.map String.toList := by
    intro components hne hfree
    rw [join, String.toList_intercalate, String.toList_singleton]
    apply List.splitOn_intercalate
    · intro cs hcs
      obtain ⟨s, hs, rfl⟩ := List.mem_map.1 hcs
      simpa [holdsDelimiter] using hfree s hs
    · simpa using hne
  have hmap : left.map String.toList = right.map String.toList := by
    rw [← hsplit left hleft hfreeLeft, ← hsplit right hright hfreeRight, heq]
  exact (List.map_inj_right fun _ _ h => String.toList_inj.1 h).1 hmap

theorem checked_of_free {text : String} (hfree : holdsDelimiter text = false)
    (component : KeyComponent) : checked component text = .ok text := by
  rw [checked, hfree]
  rfl

theorem checked_eq_ok {component : KeyComponent} {text result : String}
    (h : checked component text = .ok result) : result = text ∧ holdsDelimiter text = false := by
  unfold checked at h
  split at h
  next => cases h
  next hfree =>
    cases h
    exact ⟨rfl, by simpa using hfree⟩

theorem required_eq_ok {component : KeyComponent} {t : EntryType} {identifier result : String}
    {value : Option String} (h : required component t identifier value = .ok result) :
    value = some result ∧ holdsDelimiter result = false := by
  cases value with
  | none => cases h
  | some text =>
    rw [required] at h
    split at h
    next => cases h
    next =>
      obtain ⟨rfl, hfree⟩ := checked_eq_ok h
      exact ⟨rfl, hfree⟩

theorem holdsDelimiter_name (t : EntryType) : holdsDelimiter t.name = false := by
  cases t <;> rfl

theorem name_injective {t s : EntryType} (hname : t.name = s.name) : t = s := by
  have hread := congrArg EntryType.ofName? hname
  rw [EntryType.ofName?_name, EntryType.ofName?_name] at hread
  exact Option.some.inj hread

/-- A key whose last components are a type and an identifier determines both. -/
theorem typed_injective {start : List String} (hstart : ∀ s ∈ start, holdsDelimiter s = false)
    {t s : EntryType} {a b : Identifier}
    (heq : join (start ++ [t.name, a.text]) = join (start ++ [s.name, b.text])) :
    t = s ∧ a = b := by
  have hfree : ∀ (t : EntryType) (a : Identifier),
      ∀ c ∈ start ++ [t.name, a.text], holdsDelimiter c = false := by
    intro t a
    simp only [List.forall_mem_append, List.forall_mem_cons]
    exact ⟨hstart, holdsDelimiter_name t, a.no_delimiter, List.forall_mem_nil _⟩
  have hlist := join_injective (List.append_ne_nil_of_right_ne_nil _ (List.cons_ne_nil _ _))
    (List.append_ne_nil_of_right_ne_nil _ (List.cons_ne_nil _ _)) (hfree t a) (hfree s b) heq
  obtain ⟨hname, htext⟩ := List.cons.inj (List.append_cancel_left hlist)
  exact ⟨name_injective hname, Identifier.ext_text (List.cons.inj htext).1⟩

theorem resourcePartition_of_identifier (resource : Identifier) :
    resourcePartition resource.text = .ok (ofResource resource.text) := by
  rw [resourcePartition, checked_of_free resource.no_delimiter, ok_bind, pure_eq_ok]

theorem reservation_injective {t s : EntryType} {a b : Identifier}
    (heq : reservation t a.text = reservation s b.text) : t = s ∧ a = b := by
  have hstart : ∀ s ∈ ["UniqueIdentifier"], holdsDelimiter s = false := by decide
  exact typed_injective hstart (congrArg KeyPair.partitionKey heq)

theorem ofEntry_injective {t s : EntryType} {a b : Identifier}
    (heq : ofEntry t a.text = ofEntry s b.text) : t = s ∧ a = b :=
  typed_injective (List.forall_mem_nil _) heq

end Key

namespace Entry

variable {entry : Entry} {item : Item} {keys : KeySet}

/-- Stamping an entry anew does not change its keys. -/
@[simp]
theorem keys_touched (entry : Entry) (now : Timestamp) (version : RowVersion) :
    (entry.touched now version).keys = entry.keys := rfl

/-- The keys of an entry once its customer and its owner are known. -/
def keysOf (entry : Entry) (customerId owner : String) : KeySet :=
  let sortKey := Key.ofEntry entry.entryType entry.identifier.text
  { primary := ⟨Key.ofOwner entry.entryType customerId owner, sortKey⟩
    byCustomerStatus :=
      ⟨Key.ofCustomerStatus entry.entryType customerId (Text.upper entry.statusName), sortKey⟩
    byResource := entry.about.map fun resource => ⟨Key.ofResource resource.text, sortKey⟩ }

/-- The checks of identifiers cannot fail, so those of the customer and the owner are left. -/
theorem keys_eq (entry : Entry) : entry.keys = (do
    let customerId ← Key.required .customerId entry.entryType entry.identifier.text
      entry.metadata.customerId
    let owner ← Key.required .owner entry.entryType entry.identifier.text entry.metadata.owner
    return entry.keysOf customerId owner) := by
  rw [keys, Key.checked_of_free entry.identifier.no_delimiter, ok_bind]
  cases habout : entry.about with
  | none => simp only [keysOf, habout, pure_eq_ok, ok_bind, Option.map_none]
  | some resource =>
    simp only [keysOf, habout, Key.resourcePartition_of_identifier, pure_eq_ok, ok_bind,
      Option.map_some]

/-- What the keys of an entry are, and that the delimiter is in none of their components. -/
theorem keys_eq_ok (hkeys : entry.keys = .ok keys) :
    let sortKey := Key.ofEntry entry.entryType entry.identifier.text
    ∃ customerId owner, entry.metadata.customerId = some customerId ∧
      entry.metadata.owner = some owner ∧
      holdsDelimiter customerId = false ∧ holdsDelimiter owner = false ∧
      keys.primary = ⟨Key.ofOwner entry.entryType customerId owner, sortKey⟩ ∧
      keys.byCustomerStatus =
        ⟨Key.ofCustomerStatus entry.entryType customerId (Text.upper entry.statusName), sortKey⟩ ∧
      keys.byResource = entry.about.map fun resource => ⟨Key.ofResource resource.text, sortKey⟩ := by
  rw [keys_eq] at hkeys
  obtain ⟨customerId, hcustomer, hkeys⟩ := bind_eq_ok_iff.1 hkeys
  obtain ⟨owner, howner, hkeys⟩ := bind_eq_ok_iff.1 hkeys
  obtain ⟨hcustomer, hcustomerFree⟩ := Key.required_eq_ok hcustomer
  obtain ⟨howner, hownerFree⟩ := Key.required_eq_ok howner
  cases hkeys
  exact ⟨customerId, owner, hcustomer, howner, hcustomerFree, hownerFree, rfl, rfl, rfl⟩

theorem sortKey_of_keys (hkeys : entry.keys = .ok keys) :
    keys.primary.sortKey = Key.ofEntry entry.entryType entry.identifier.text := by
  obtain ⟨customerId, owner, -, -, -, -, hprimary, -, -⟩ := keys_eq_ok hkeys
  rw [hprimary]

theorem item_eq_ok_iff : entry.item = .ok item ↔ ∃ keys, entry.keys = .ok keys ∧
    item = ⟨keys, entry.entryType, entry.identifier, entry.rowVersion, entry.toValue⟩ := by
  rw [Entry.item, bind_eq_ok_iff]
  simp only [pure_eq_ok, Except.ok.injEq, eq_comm]

/-- The entry can be read back from its item. -/
theorem entry_of_item (hitem : entry.item = .ok item) : item.entry = .ok entry := by
  obtain ⟨keys, -, rfl⟩ := item_eq_ok_iff.1 hitem
  rw [Item.entry, decode_toValue, mapError_ok]

end Entry

end Intake
