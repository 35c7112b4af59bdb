import Intake.Proofs.Store.History

/-!
# The store stays consistent

Items are filed under their own keys and agree with their data, and reservations and items belong to
one another.  An update keeps the primary key, hence the type and the identifier, hence the
reservation; a removal frees the reservation of the very item it deletes.  So every run from the
empty store keeps all of it, and no type and identifier are stored twice.
-/

namespace Intake

namespace MemoryStore

/-- What holds of the store between any two operations. -/
structure Consistent (store : MemoryStore) : Prop where
  /-- Items are filed under their own primary keys. -/
  filed : ∀ {key : KeyPair} {item : Item}, store.get? key = some item → item.keys.primary = key
  /-- An item is the item of the entry that its data hold. -/
  projected : ∀ {key : KeyPair} {item : Item}, store.get? key = some item →
    ∃ entry, item.entry = .ok entry ∧ entry.item = .ok item
  /-- Every item holds its reservation. -/
  guarded : ∀ {key : KeyPair} {item : Item}, store.get? key = some item →
    store.reservations.get? item.reservation = some key
  /-- Every reservation is held by a stored item. -/
  occupied : ∀ {guard key : KeyPair}, store.reservations.get? guard = some key →
    ∃ item, store.get? key = some item ∧ item.reservation = guard

section Items

variable {entry : Entry} {item : Item}

theorem entryType_of_item (hitem : entry.item = .ok item) : item.entryType = entry.entryType := by
  obtain ⟨keys, -, rfl⟩ := Entry.item_eq_ok_iff.1 hitem
  rfl

theorem identifier_of_item (hitem : entry.item = .ok item) :
    item.identifier = entry.identifier := by
  obtain ⟨keys, -, rfl⟩ := Entry.item_eq_ok_iff.1 hitem
  rfl

theorem rowVersion_of_item (hitem : entry.item = .ok item) :
    item.rowVersion = entry.rowVersion := by
  obtain ⟨keys, -, rfl⟩ := Entry.item_eq_ok_iff.1 hitem
  rfl

/-- Items with one primary key have one reservation. -/
theorem reservation_of_primary {other : Entry} {otherItem : Item} (hitem : entry.item = .ok item)
    (hother : other.item = .ok otherItem) (hprimary : item.keys.primary = otherItem.keys.primary) :
    item.reservation = otherItem.reservation := by
  obtain ⟨keys, hkeys, rfl⟩ := Entry.item_eq_ok_iff.1 hitem
  obtain ⟨otherKeys, hotherKeys, rfl⟩ := Entry.item_eq_ok_iff.1 hother
  have hsort := congrArg KeyPair.sortKey hprimary
  rw [Entry.sortKey_of_keys hkeys, Entry.sortKey_of_keys hotherKeys] at hsort
  obtain ⟨htype, hidentifier⟩ := Key.ofEntry_injective hsort
  simp only [Item.reservation, htype, hidentifier]

end Items

theorem holdsVersion_iff {store : MemoryStore} {key : KeyPair} {version : RowVersion} :
    store.holdsVersion key version = true ↔
      ∃ item, store.get? key = some item ∧ item.rowVersion = version := by
  unfold holdsVersion get?
  cases store.items.get? key with
  | none => simp
  | some item => simp

theorem isTaken_eq_false {store : MemoryStore} {item : Item} :
    store.isTaken item = false ↔
      store.get? item.keys.primary = none ∧ store.reservations.get? item.reservation = none := by
  simp [isTaken, get?, SortedMap.contains]

/-- Delivering an entry whose item is stored does nothing. -/
theorem deliver_of_stored {store : MemoryStore} {entry : Entry} {item : Item} {event : Json}
    (hentry : Delivery.entryOf event = .ok entry) (hitem : entry.item = .ok item)
    (hget : store.get? item.keys.primary = some item) :
    asEntryStore.deliver event store = (.ok (.duplicate entry.identifier), store) := by
  have htaken : store.isTaken item = true := by
    have hcontains : store.items.contains item.keys.primary = true :=
      congrArg Option.isSome hget
    rw [isTaken, hcontains, Bool.true_or]
  have hduplicate : Delivery.ofStored entry (some item) = .duplicate entry.identifier := by
    rw [Delivery.ofStored, Option.map_some, rowVersion_of_item hitem]
    exact if_pos rfl
  rw [deliver_of_taken hentry (create_of_taken hitem htaken), hget, hduplicate]

theorem get?_file (store : MemoryStore) (item : Item) (key : KeyPair) :
    (store.file item).get? key = if key = item.keys.primary then some item else store.get? key :=
  SortedMap.get?_insert _ _ _ _

theorem get?_replace (store : MemoryStore) (item : Item) (key : KeyPair) :
    (store.replace item).get? key =
      if key = item.keys.primary then some item else store.get? key :=
  SortedMap.get?_insert _ _ _ _

theorem get?_discard (store : MemoryStore) (item : Item) (key : KeyPair) :
    (store.discard item).get? key = if key = item.keys.primary then none else store.get? key :=
  SortedMap.get?_erase _ _ _

theorem reservation_file (store : MemoryStore) (item : Item) (guard : KeyPair) :
    (store.file item).reservations.get? guard =
      if guard = item.reservation then some item.keys.primary
      else store.reservations.get? guard :=
  SortedMap.get?_insert _ _ _ _

namespace Consistent

variable {store : MemoryStore} {entry : Entry} {item : Item}

theorem empty : Consistent MemoryStore.empty where
  filed hget := by cases hget
  projected hget := by cases hget
  guarded hget := by cases hget
  occupied hguard := by cases hguard

theorem file (hconsistent : store.Consistent) (hitem : entry.item = .ok item)
    (hfree : store.isTaken item = false) : (store.file item).Consistent := by
  obtain ⟨hkey, hguard⟩ := isTaken_eq_false.1 hfree
  constructor
  · intro key other hget
    rw [get?_file] at hget
    split at hget
    next heq =>
      cases hget
      exact heq.symm
    next => exact hconsistent.filed hget
  · intro key other hget
    rw [get?_file] at hget
    split at hget
    next =>
      cases hget
      exact ⟨entry, Entry.entry_of_item hitem, hitem⟩
    next => exact hconsistent.projected hget
  · intro key other hget
    rw [get?_file] at hget
    rw [reservation_file]
    split at hget
    next heq =>
      cases hget
      rw [if_pos rfl, heq]
    next =>
      have hother := hconsistent.guarded hget
      rw [if_neg, hother]
      intro heq
      rw [heq, hguard] at hother
      cases hother
  · intro guard key hreserved
    rw [reservation_file] at hreserved
    split at hreserved
    next heq =>
      cases hreserved
      exact ⟨item, by rw [get?_file, if_pos rfl], heq.symm⟩
    next =>
      obtain ⟨other, hget, hother⟩ := hconsistent.occupied hreserved
      refine ⟨other, ?_, hother⟩
      rw [get?_file, if_neg, hget]
      intro heq
      rw [heq, hkey] at hget
      cases hget

/-- The item that is replaced has the reservation of the item that replaces it. -/
theorem replace (hconsistent : store.Consistent) (hitem : entry.item = .ok item)
    {old : Item} (hold : store.get? item.keys.primary = some old) :
    (store.replace item).Consistent := by
  obtain ⟨oldEntry, -, holdItem⟩ := hconsistent.projected hold
  have hsame : item.reservation = old.reservation :=
    reservation_of_primary hitem holdItem (hconsistent.filed hold).symm
  constructor
  · intro key other hget
    rw [get?_replace] at hget
    split at hget
    next heq =>
      cases hget
      exact heq.symm
    next => exact hconsistent.filed hget
  · intro key other hget
    rw [get?_replace] at hget
    split at hget
    next =>
      cases hget
      exact ⟨entry, Entry.entry_of_item hitem, hitem⟩
    next => exact hconsistent.projected hget
  · intro key other hget
    rw [get?_replace] at hget
    split at hget
    next heq =>
      cases hget
      rw [hsame, heq]
      exact hconsistent.guarded hold
    next => exact hconsistent.guarded hget
  · intro guard key hreserved
    obtain ⟨other, hget, hother⟩ := hconsistent.occupied hreserved
    by_cases heq : key = item.keys.primary
    · refine ⟨item, by rw [get?_replace, if_pos heq], ?_⟩
      rw [heq, hold] at hget
      cases hget
      rw [hsame, hother]
    · exact ⟨other, by rw [get?_replace, if_neg heq, hget], hother⟩

/-- The reservation that is freed is the one the deleted item held. -/
theorem reservation_discard (hconsistent : store.Consistent) (hitem : entry.item = .ok item)
    {old : Item} (hold : store.get? item.keys.primary = some old) (guard : KeyPair) :
    (store.discard item).reservations.get? guard =
      if guard = item.reservation then none else store.reservations.get? guard := by
  obtain ⟨oldEntry, -, holdItem⟩ := hconsistent.projected hold
  have hsame := reservation_of_primary hitem holdItem (hconsistent.filed hold).symm
  have hguard : store.reservations.get? item.reservation = some item.keys.primary := by
    rw [hsame]
    exact hconsistent.guarded hold
  rw [MemoryStore.discard, if_pos hguard]
  exact SortedMap.get?_erase _ _ _

theorem discard (hconsistent : store.Consistent) (hitem : entry.item = .ok item)
    {old : Item} (hold : store.get? item.keys.primary = some old) :
    (store.discard item).Consistent := by
  obtain ⟨oldEntry, -, holdItem⟩ := hconsistent.projected hold
  have hsame : item.reservation = old.reservation :=
    reservation_of_primary hitem holdItem (hconsistent.filed hold).symm
  have hguard : store.reservations.get? item.reservation = some item.keys.primary := by
    rw [hsame]
    exact hconsistent.guarded hold
  have hreservation := hconsistent.reservation_discard hitem hold
  constructor
  · intro key other hget
    rw [get?_discard] at hget
    split at hget
    next => cases hget
    next => exact hconsistent.filed hget
  · intro key other hget
    rw [get?_discard] at hget
    split at hget
    next => cases hget
    next => exact hconsistent.projected hget
  · intro key other hget
    rw [get?_discard] at hget
    split at hget
    next => cases hget
    next hne =>
      have hother := hconsistent.guarded hget
      rw [hreservation, if_neg, hother]
      intro heq
      rw [heq, hguard] at hother
      exact hne (Option.some.inj hother).symm
  · intro guard key hreserved
    rw [hreservation] at hreserved
    split at hreserved
    next => cases hreserved
    next hne =>
      obtain ⟨other, hget, hother⟩ := hconsistent.occupied hreserved
      refine ⟨other, ?_, hother⟩
      rw [get?_discard, if_neg, hget]
      intro heq
      rw [heq, hold] at hget
      cases hget
      exact hne (hother.symm.trans hsame.symm)

/-- Every change keeps the store consistent. -/
theorem step {change : Option Change} {next : MemoryStore} (hconsistent : store.Consistent)
    (hstep : Step store change next) : next.Consistent := by
  cases hstep with
  | nothing => exact hconsistent
  | filed hitem hfree => exact hconsistent.file hitem hfree
  | replaced hitem hversion =>
    obtain ⟨old, hold, -⟩ := holdsVersion_iff.1 hversion
    exact hconsistent.replace hitem hold
  | removed hitem hversion =>
    obtain ⟨old, hold, -⟩ := holdsVersion_iff.1 hversion
    exact hconsistent.discard hitem hold

theorem history (hconsistent : store.Consistent) (operations : List Operation) :
    (asEntryStore.history operations store).2.Consistent := by
  induction operations generalizing store with
  | nil => exact hconsistent
  | cons operation operations ih => exact ih (hconsistent.step (step_perform operation store))

/-- A type and an identifier are stored under one key only. -/
theorem key_unique (hconsistent : store.Consistent) {key otherKey : KeyPair} {other : Item}
    (hget : store.get? key = some item) (hother : store.get? otherKey = some other)
    (htype : item.entryType = other.entryType) (hidentifier : item.identifier = other.identifier) :
    key = otherKey := by
  have hsame : item.reservation = other.reservation := by
    rw [Item.reservation, Item.reservation, htype, hidentifier]
  have hkey := hconsistent.guarded hget
  rw [hsame, hconsistent.guarded hother] at hkey
  exact (Option.some.inj hkey).symm

/-- What is in the way of a first write is an item of the same type and identifier. -/
theorem isTaken_iff (hconsistent : store.Consistent) (hitem : entry.item = .ok item) :
    store.isTaken item = true ↔ ∃ key stored, store.get? key = some stored ∧
      stored.entryType = entry.entryType ∧ stored.identifier = entry.identifier := by
  have htype := entryType_of_item hitem
  have hidentifier := identifier_of_item hitem
  constructor
  · intro htaken
    have hreserved : ∃ key, store.reservations.get? item.reservation = some key := by
      cases hkey : store.get? item.keys.primary with
      | some stored =>
        obtain ⟨storedEntry, -, hstored⟩ := hconsistent.projected hkey
        have hsame := reservation_of_primary hstored hitem (hconsistent.filed hkey)
        exact ⟨_, hsame ▸ hconsistent.guarded hkey⟩
      | none =>
        cases hguard : store.reservations.get? item.reservation with
        | some key => exact ⟨key, rfl⟩
        | none => rw [isTaken_eq_false.2 ⟨hkey, hguard⟩] at htaken; cases htaken
    obtain ⟨key, hkey⟩ := hreserved
    obtain ⟨stored, hstored, hsame⟩ := hconsistent.occupied hkey
    obtain ⟨hsameType, hsameIdentifier⟩ := Key.reservation_injective hsame
    exact ⟨key, stored, hstored, hsameType.trans htype, hsameIdentifier.trans hidentifier⟩
  · rintro ⟨key, stored, hstored, hsameType, hsameIdentifier⟩
    have hsame : stored.reservation = item.reservation := by
      rw [Item.reservation, Item.reservation, hsameType, hsameIdentifier, htype, hidentifier]
    have hguard := hconsistent.guarded hstored
    rw [hsame] at hguard
    cases htaken : store.isTaken item with
    | true => rfl
    | false =>
      rw [(isTaken_eq_false.1 htaken).2] at hguard
      cases hguard

/-- A creation that can be keyed is refused exactly when the type and identifier are stored. -/
theorem create_alreadyExists_iff (hconsistent : store.Consistent) {keys : KeySet}
    (hkeys : entry.keys = .ok keys) :
    (∃ key, (asEntryStore.create entry store).1 = .error (.store (.alreadyExists key))) ↔
      ∃ key stored, store.get? key = some stored ∧
        stored.entryType = entry.entryType ∧ stored.identifier = entry.identifier := by
  have hitem := Entry.item_eq_ok_iff.2 ⟨keys, hkeys, rfl⟩
  rw [← hconsistent.isTaken_iff hitem]
  cases htaken : store.isTaken _ with
  | true =>
    rw [create_of_taken hitem htaken]
    exact ⟨fun _ => rfl, fun _ => ⟨_, rfl⟩⟩
  | false =>
    rw [create_of_free hitem htaken]
    simp

end Consistent

/-- Whatever was done to a store that was empty, it is consistent, no type and identifier are stored
twice, and a creation is refused as a repetition exactly when its type and identifier are stored,
provided its keys can be made; otherwise the store is not asked. -/
theorem history_consistent (operations : List Operation) :
    let store := (asEntryStore.history operations empty).2
    store.Consistent ∧
      (∀ key otherKey item other, store.get? key = some item → store.get? otherKey = some other →
        item.entryType = other.entryType → item.identifier = other.identifier →
          key = otherKey ∧ item = other) ∧
      ∀ entry : Entry, match entry.keys with
        | .error error => asEntryStore.create entry store = (.error (.key error), store)
        | .ok _ =>
          (∃ key, (asEntryStore.create entry store).1 = .error (.store (.alreadyExists key))) ↔
            ∃ key stored, store.get? key = some stored ∧
              stored.entryType = entry.entryType ∧ stored.identifier = entry.identifier := by
  have hconsistent := Consistent.empty.history operations
  refine ⟨hconsistent, ?_, ?_⟩
  · intro key otherKey item other hget hother htype hidentifier
    have hkey := hconsistent.key_unique hget hother htype hidentifier
    rw [hkey, hother] at hget
    exact ⟨hkey, (Option.some.inj hget).symm⟩
  · intro entry
    cases hkeys : entry.keys with
    | error error =>
      have hitem : entry.item = .error error := by rw [Entry.item, hkeys, error_bind]
      exact create_of_key_error hitem _
    | ok keys => exact hconsistent.create_alreadyExists_iff hkeys

/-- A resource that says nothing but what its keys need. -/
def bareResource (owner : Option String) : Entry where
  metadata :=
    { identifier := ⟨"X1", by decide, by decide, by decide⟩
      owner := owner
      customerId := some "customer-1"
      createdDate :=
        ⟨⟨2026, 2, 14, by decide, by decide, by decide, by decide, by decide, by decide⟩,
          ⟨10, 0, 0, 0, by decide, by decide, by decide, by decide⟩⟩
      modifiedDate :=
        ⟨⟨2026, 2, 14, by decide, by decide, by decide, by decide, by decide, by decide⟩,
          ⟨10, 0, 0, 0, by decide, by decide, by decide, by decide⟩⟩
      rowVersion := ⟨"v1"⟩ }
  content := .resource ⟨.published, none, []⟩

theorem exists_item_bareResource : ∃ item, (bareResource (some "owner@1")).item = .ok item :=
  ⟨_, rfl⟩

/-- Without an owner the error is that of the keys, also where type and identifier are stored. -/
theorem create_unkeyed_of_stored :
    let store := (asEntryStore.history [.create (bareResource (some "owner@1"))] empty).2
    let entry := bareResource none
    (∃ key stored, store.get? key = some stored ∧
      stored.entryType = entry.entryType ∧ stored.identifier = entry.identifier) ∧
      ¬∃ key, (asEntryStore.create entry store).1 = .error (.store (.alreadyExists key)) := by
  intro store entry
  obtain ⟨item, hitem⟩ := exists_item_bareResource
  have hstore : store = empty.file item := by
    have hfree : empty.isTaken item = false := rfl
    exact congrArg Prod.snd (create_of_free hitem hfree)
  refine ⟨⟨item.keys.primary, item, ?_, ?_, ?_⟩, ?_⟩
  · rw [hstore, get?_file, if_pos rfl]
  · exact (entryType_of_item hitem).trans rfl
  · exact (identifier_of_item hitem).trans rfl
  · have hunkeyed : (bareResource none).item =
        .error (.missingComponent .owner .resource "X1") := rfl
    rw [create_of_key_error hunkeyed]
    rintro ⟨key, hkey⟩
    cases hkey

end MemoryStore

end Intake
