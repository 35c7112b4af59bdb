import Intake.Proofs.Key.Shared
import Intake.Proofs.Store.Redelivery

/-!
# What a delivery replies

A creation is refused both for a key that is taken and for an identifier that is taken under another
key; the delivery tells the two apart by looking up its own key afterwards.  In a consistent store
an item is found there exactly when the entry of that identifier has the owner and the customer of
the delivered one, so the reply tells what is stored.
-/

namespace Intake

namespace Delivery

variable {entry : Entry} {stored : Option Item}

theorem ofStored_eq (entry : Entry) (stored : Option Item) :
    ofStored entry stored =
      if stored.map Item.rowVersion = some entry.rowVersion then .duplicate entry.identifier
      else .conflict entry.identifier (stored.map Item.rowVersion) entry.rowVersion := rfl

theorem ofStored_eq_duplicate_iff :
    ofStored entry stored = .duplicate entry.identifier ↔
      stored.map Item.rowVersion = some entry.rowVersion := by
  rw [ofStored_eq]
  split
  next hsame => exact ⟨fun _ => hsame, fun _ => rfl⟩
  next hother => exact ⟨nofun, fun hsame => absurd hsame hother⟩

theorem ofStored_eq_conflict_iff {version : Option RowVersion} :
    ofStored entry stored = .conflict entry.identifier version entry.rowVersion ↔
      stored.map Item.rowVersion = version ∧ version ≠ some entry.rowVersion := by
  rw [ofStored_eq]
  split
  next hsame =>
    constructor
    · exact nofun
    · rintro ⟨rfl, hother⟩
      exact absurd hsame hother
  next hother =>
    constructor
    · rintro ⟨⟩
      exact ⟨rfl, hother⟩
    · rintro ⟨rfl, -⟩
      rfl

theorem ofStored_cases (entry : Entry) (stored : Option Item) :
    ofStored entry stored = .duplicate entry.identifier ∨
      ∃ version, ofStored entry stored = .conflict entry.identifier version entry.rowVersion := by
  rw [ofStored_eq]
  split
  · exact .inl rfl
  · exact .inr ⟨_, rfl⟩

end Delivery

namespace MemoryStore

/-- The type and the identifier of an entry are stored for another owner or another customer. -/
def StoresElsewhere (store : MemoryStore) (entry : Entry) : Prop :=
  ∃ key stored holder, store.get? key = some stored ∧ stored.entry = .ok holder ∧
    holder.handle = entry.handle ∧
      (holder.metadata.owner ≠ entry.metadata.owner ∨
        holder.metadata.customerId ≠ entry.metadata.customerId)

/-- The reply that is due for an entry, by what is stored of its type and identifier and under its
primary key. -/
inductive Warrants (store : MemoryStore) (entry : Entry) (primary : KeyPair) : Delivery → Prop
  | created (hnew : ¬store.Stores entry.handle) :
      Warrants store entry primary (.created entry.identifier entry.rowVersion)
  | duplicate {stored : Item} (hget : store.get? primary = some stored)
      (hversion : stored.rowVersion = entry.rowVersion) :
      Warrants store entry primary (.duplicate entry.identifier)
  | conflict {stored : Item} (hget : store.get? primary = some stored)
      (hversion : stored.rowVersion ≠ entry.rowVersion) :
      Warrants store entry primary
        (.conflict entry.identifier (some stored.rowVersion) entry.rowVersion)
  | elsewhere (hheld : store.StoresElsewhere entry) :
      Warrants store entry primary (.conflict entry.identifier none entry.rowVersion)

section Outcome

variable {store : MemoryStore} {event : Json} {entry holder : Entry} {item stored : Item}
  {key : KeyPair} {delivery : Delivery}

/-- Items have one primary key when their entries agree in all that is in it. -/
theorem primary_eq_iff_of_item (hitem : entry.item = .ok item)
    (hstored : holder.item = .ok stored) :
    stored.keys.primary = item.keys.primary ↔
      holder.handle = entry.handle ∧ holder.metadata.owner = entry.metadata.owner ∧
        holder.metadata.customerId = entry.metadata.customerId := by
  obtain ⟨keys, hkeys, rfl⟩ := Entry.item_eq_ok_iff.1 hitem
  obtain ⟨holderKeys, hholderKeys, rfl⟩ := Entry.item_eq_ok_iff.1 hstored
  rw [Entry.primary_eq_iff hholderKeys hkeys, Entry.handle, Entry.handle, Prod.mk.injEq]
  tauto

/-- An identifier that is taken without its own key being taken is stored elsewhere. -/
theorem Consistent.storesElsewhere_iff (hconsistent : store.Consistent)
    (hitem : entry.item = .ok item) :
    store.StoresElsewhere entry ↔
      store.Stores entry.handle ∧ store.get? item.keys.primary = none := by
  constructor
  · rintro ⟨key, stored, holder, hget, hentry, hhandle, hother⟩
    obtain ⟨found, hfound, hstored⟩ := hconsistent.projected hget
    rw [hentry] at hfound
    cases hfound
    have hsame := (handle_of_item hstored).trans hhandle
    refine ⟨⟨key, stored, hget, hsame⟩, ?_⟩
    -- An item under the own key would be that very item, since no identifier is stored twice.
    apply Option.eq_none_iff_forall_not_mem.2
    intro own hown
    obtain ⟨ownEntry, -, hownItem⟩ := hconsistent.projected hown
    obtain ⟨hownHandle, -⟩ :=
      (primary_eq_iff_of_item hitem hownItem).1 (hconsistent.filed hown)
    obtain ⟨htype, hidentifier⟩ :=
      Prod.mk.inj (hsame.trans ((handle_of_item hownItem).trans hownHandle).symm)
    have hkey := hconsistent.key_unique hget hown htype hidentifier
    obtain ⟨-, howner, hcustomer⟩ :=
      (primary_eq_iff_of_item hitem hstored).1 ((hconsistent.filed hget).trans hkey)
    exact hother.elim (absurd howner) (absurd hcustomer)
  · rintro ⟨⟨key, stored, hget, hhandle⟩, hnone⟩
    obtain ⟨holder, hentry, hstored⟩ := hconsistent.projected hget
    rw [handle_of_item hstored] at hhandle
    refine ⟨key, stored, holder, hget, hentry, hhandle, ?_⟩
    rw [← not_and_or]
    intro hsame
    have hkey := (primary_eq_iff_of_item hitem hstored).2 ⟨hhandle, hsame⟩
    rw [hconsistent.filed hget] at hkey
    rw [← hkey, hget] at hnone
    cases hnone

/-- What no one has stored is created. -/
theorem Consistent.reply_of_new (hconsistent : store.Consistent) (hbears : Bears event entry item)
    (hnew : ¬store.Stores entry.handle) :
    (asEntryStore.deliver event store).1 =
      .ok (.created entry.identifier entry.rowVersion) := by
  rw [← hconsistent.isTaken_iff_stores hbears.2, Bool.not_eq_true] at hnew
  rw [deliver_of_created hbears.1 (create_of_free hbears.2 hnew), identifier_of_item hbears.2,
    rowVersion_of_item hbears.2]

/-- For what someone has stored the reply is up to the item under its own key. -/
theorem Consistent.reply_of_stored (hconsistent : store.Consistent)
    (hbears : Bears event entry item) (hstores : store.Stores entry.handle) :
    (asEntryStore.deliver event store).1 =
      .ok (.ofStored entry (store.get? item.keys.primary)) := by
  rw [← hconsistent.isTaken_iff_stores hbears.2] at hstores
  rw [deliver_of_taken hbears.1 (create_of_taken hbears.2 hstores)]

theorem Consistent.reply_of_get? (hconsistent : store.Consistent)
    (hbears : Bears event entry item) (hget : store.get? item.keys.primary = some stored) :
    (asEntryStore.deliver event store).1 = .ok (.ofStored entry (some stored)) := by
  obtain ⟨holder, -, hstored⟩ := hconsistent.projected hget
  obtain ⟨hhandle, -⟩ := (primary_eq_iff_of_item hbears.2 hstored).1 (hconsistent.filed hget)
  have hstores : store.Stores entry.handle :=
    ⟨_, stored, hget, (handle_of_item hstored).trans hhandle⟩
  rw [hconsistent.reply_of_stored hbears hstores, hget]

/-- Every reply to an entry that can be keyed is warranted. -/
theorem Consistent.exists_warranted (hconsistent : store.Consistent)
    (hbears : Bears event entry item) :
    ∃ delivery, (asEntryStore.deliver event store).1 = .ok delivery ∧
      store.Warrants entry item.keys.primary delivery := by
  by_cases hstores : store.Stores entry.handle
  case neg => exact ⟨_, hconsistent.reply_of_new hbears hstores, .created hstores⟩
  case pos =>
    refine ⟨_, hconsistent.reply_of_stored hbears hstores, ?_⟩
    rw [Delivery.ofStored_eq]
    cases hget : store.get? item.keys.primary with
    | none => exact .elsewhere ((hconsistent.storesElsewhere_iff hbears.2).2 ⟨hstores, hget⟩)
    | some stored =>
      simp only [Option.map_some, Option.some.injEq]
      split
      next hversion => exact .duplicate hget hversion
      next hversion => exact .conflict hget hversion

/-- A reply that is warranted is given. -/
theorem Consistent.reply_of_warrants (hconsistent : store.Consistent)
    (hbears : Bears event entry item)
    (hwarrants : store.Warrants entry item.keys.primary delivery) :
    (asEntryStore.deliver event store).1 = .ok delivery := by
  cases hwarrants with
  | created hnew => exact hconsistent.reply_of_new hbears hnew
  | @duplicate stored hget hversion =>
    have hduplicate : Delivery.ofStored entry (some stored) = .duplicate entry.identifier :=
      Delivery.ofStored_eq_duplicate_iff.2 (congrArg some hversion)
    rw [hconsistent.reply_of_get? hbears hget, hduplicate]
  | @conflict stored hget hversion =>
    have hconflict : Delivery.ofStored entry (some stored) =
        .conflict entry.identifier (some stored.rowVersion) entry.rowVersion :=
      Delivery.ofStored_eq_conflict_iff.2 ⟨rfl, fun hsame => hversion (Option.some.inj hsame)⟩
    rw [hconsistent.reply_of_get? hbears hget, hconflict]
  | elsewhere hheld =>
    obtain ⟨hstores, hnone⟩ := (hconsistent.storesElsewhere_iff hbears.2).1 hheld
    have hconflict : Delivery.ofStored entry none =
        .conflict entry.identifier none entry.rowVersion :=
      Delivery.ofStored_eq_conflict_iff.2 ⟨rfl, nofun⟩
    rw [hconsistent.reply_of_stored hbears hstores, hnone, hconflict]

end Outcome

/-- Whatever was done to a store before, one and only one reply is warranted for an entry that can
be keyed, and that is what its delivery replies. -/
theorem deliver_classified (operations : List Operation) {event : Json} {entry : Entry}
    {keys : KeySet} (hentry : Delivery.entryOf event = .ok entry) (hkeys : entry.keys = .ok keys) :
    let store := (asEntryStore.history operations empty).2
    (∀ delivery, (asEntryStore.deliver event store).1 = .ok delivery ↔
      store.Warrants entry keys.primary delivery) ∧
    ∃! delivery, store.Warrants entry keys.primary delivery := by
  intro store
  have hconsistent : store.Consistent := Consistent.empty.history operations
  have hbears : Bears event entry _ := ⟨hentry, Entry.item_eq_ok_iff.2 ⟨keys, hkeys, rfl⟩⟩
  obtain ⟨reply, hreply, hwarranted⟩ := hconsistent.exists_warranted hbears
  have honly : ∀ delivery, store.Warrants entry keys.primary delivery → delivery = reply := by
    intro delivery hwarrants
    have hgiven := hconsistent.reply_of_warrants hbears hwarrants
    rw [hreply] at hgiven
    exact (Except.ok.inj hgiven).symm
  refine ⟨fun delivery => ⟨?_, hconsistent.reply_of_warrants hbears⟩, reply, hwarranted, honly⟩
  intro hgiven
  rw [hreply] at hgiven
  cases hgiven
  exact hwarranted

/-- A resource that another owner has stored is a conflict with no version to name. -/
theorem deliver_classified_moved :
    let store := (asEntryStore.history [.create (bareResource (some "owner@1"))] empty).2
    let moved := bareResource (some "owner@2")
    Delivery.entryOf (textEvent moved) = .ok moved ∧ (∃ keys, moved.keys = .ok keys) ∧
      (asEntryStore.deliver (textEvent moved) store).1 =
        .ok (.conflict moved.identifier none moved.rowVersion) := by
  have hkeyed : ∃ keys, (bareResource (some "owner@2")).keys = .ok keys := ⟨_, rfl⟩
  intro store moved
  obtain ⟨item, hitem⟩ := exists_item_bareResource
  have hstore : store = empty.file item := by
    have hfree : empty.isTaken item = false := rfl
    exact congrArg Prod.snd (create_of_free hitem hfree)
  have hget : store.get? item.keys.primary = some item := by rw [hstore, get?_file, if_pos rfl]
  have howner : (bareResource (some "owner@1")).metadata.owner ≠ moved.metadata.owner := by decide
  have hheld : store.StoresElsewhere moved :=
    ⟨_, item, _, hget, Entry.entry_of_item hitem, rfl, .inl howner⟩
  obtain ⟨keys, hkeys⟩ := hkeyed
  have hentry := entryOf_textEvent moved
  obtain ⟨hreply, -⟩ :=
    deliver_classified [.create (bareResource (some "owner@1"))] hentry hkeys
  exact ⟨hentry, ⟨keys, hkeys⟩, (hreply _).2 (.elsewhere hheld)⟩

end MemoryStore

end Intake
