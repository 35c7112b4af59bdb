import Intake.Proofs.Store.Versions

/-!
# What an operation leaves as it was

An operation is applied or it is not, and its reply says which.  One that is not applied leaves both
tables as they were.  One that is applied does all of its change, which is about one entry: it leaves
every row but the one under the primary key of the entry, and every reservation but the one of its
type and identifier.  This holds of any store, however it came about.
-/

namespace Intake

/-- The reply of an operation that was to change the store and did. -/
def Reply.IsApplied : Reply → Prop
  | .created result => ∃ item, result = .ok item
  | .updated result => ∃ entry, result = .ok entry
  | .removed result => result = .ok ()
  | .delivered result => ∃ identifier version, result = .ok (.created identifier version)
  | .found _ => False
  | .listed _ => False

/-- The entry that an operation is to put into the store, or to take from it. -/
def Operation.entry? : Operation → Option Entry
  | .create entry => some entry
  | .update _ updated _ => some updated
  | .remove entry => some entry
  | .deliver event => (Delivery.entryOf event).toOption
  | .look _ => none
  | .list _ _ => none

def Change.entry : Change → Entry
  | .filed entry => entry
  | .replaced _ entry => entry
  | .removed entry => entry

/-- An event that was not applied made no change. -/
theorem Event.change?_of_not_applied {event : Event} (hnot : ¬event.reply.IsApplied) :
    event.change? = none := by
  unfold Event.change?
  split
  next entry item => exact absurd ⟨item, rfl⟩ hnot
  next json identifier version => exact absurd ⟨identifier, version, rfl⟩ hnot
  next previous updated stamp entry => exact absurd ⟨entry, rfl⟩ hnot
  next entry => exact absurd rfl hnot
  next => rfl

/-- The entries are stored under the same key and reserve the same identifier. -/
def Entry.SameKeys (entry other : Entry) : Prop :=
  entry.primary? = other.primary? ∧ entry.entryType = other.entryType ∧
    entry.identifier = other.identifier

/-- The key that reserves the identifier of an entry. -/
def Entry.reservation (entry : Entry) : KeyPair :=
  Key.reservation entry.entryType entry.identifier.text

namespace MemoryStore

/-- All of a change is done in the store: rows and reservations of an entry come and go together. -/
def Shows (store : MemoryStore) (key : KeyPair) : Change → Prop
  | .filed entry => store.Holds key entry ∧ store.reservations.get? entry.reservation = some key
  | .replaced _ entry => store.Holds key entry
  | .removed entry =>
    store.get? key = none ∧ store.reservations.get? entry.reservation ≠ some key

/-- The stores differ in nothing but the row and the reservation of an entry. -/
structure DiffersAt (entry : Entry) (store next : MemoryStore) : Prop where
  rows_eq : ∀ key, entry.primary? ≠ some key → next.get? key = store.get? key
  reservations_eq : ∀ (entryType : EntryType) (identifier : Identifier),
    (entryType, identifier) ≠ (entry.entryType, entry.identifier) →
      next.reservations.get? (Key.reservation entryType identifier.text) =
        store.reservations.get? (Key.reservation entryType identifier.text)

theorem DiffersAt.of_same {entry other : Entry} {store next : MemoryStore}
    (hdiffers : DiffersAt entry store next) (hsame : entry.SameKeys other) :
    DiffersAt other store next := by
  obtain ⟨hkey, htype, hidentifier⟩ := hsame
  constructor
  · rw [← hkey]
    exact hdiffers.rows_eq
  · rw [← htype, ← hidentifier]
    exact hdiffers.reservations_eq

section Steps

variable {store next : MemoryStore} {entry : Entry} {item : Item}

theorem reservation_of_item (hitem : entry.item = .ok item) :
    item.reservation = entry.reservation := by
  rw [Item.reservation, Entry.reservation, entryType_of_item hitem, identifier_of_item hitem]

theorem get?_reservation_discard (store : MemoryStore) (item : Item) (guard : KeyPair) :
    (store.discard item).reservations.get? guard =
      if guard = item.reservation ∧
          store.reservations.get? item.reservation = some item.keys.primary then none
      else store.reservations.get? guard := by
  rw [discard]
  split
  next hheld => simp only [SortedMap.get?_erase, hheld, and_true]
  next hother => rw [if_neg fun hboth => hother hboth.2]

theorem reservation_ne_of_item (hitem : entry.item = .ok item) {entryType : EntryType}
    {identifier : Identifier}
    (hother : (entryType, identifier) ≠ (entry.entryType, entry.identifier)) :
    Key.reservation entryType identifier.text ≠ item.reservation := by
  rw [reservation_of_item hitem]
  intro heq
  obtain ⟨htype, hidentifier⟩ := Key.reservation_injective heq
  apply hother
  rw [htype, hidentifier]

theorem key_ne_of_item (hitem : entry.item = .ok item) {key : KeyPair}
    (hother : entry.primary? ≠ some key) : key ≠ item.keys.primary := by
  rintro rfl
  exact hother (primary?_of_item hitem)

theorem Step.eq_of_none (hstep : Step store none next) : next = store := by
  cases hstep with
  | nothing => rfl

/-- A change is done under the key of its entry. -/
theorem Step.shows {change : Change} (hstep : Step store (some change) next) :
    ∃ key, change.entry.primary? = some key ∧ next.Shows key change := by
  cases hstep with
  | @filed entry item hitem hfree =>
    refine ⟨item.keys.primary, primary?_of_item hitem, ⟨item, hitem, rfl, ?_⟩, ?_⟩
    · rw [get?_file, if_pos rfl]
    · rw [reservation_file, if_pos (reservation_of_item hitem).symm]
  | @replaced base entry item hitem hversion =>
    refine ⟨item.keys.primary, primary?_of_item hitem, item, hitem, rfl, ?_⟩
    rw [get?_replace, if_pos rfl]
  | @removed entry item hitem hversion =>
    refine ⟨item.keys.primary, primary?_of_item hitem, ?_, ?_⟩
    · rw [get?_discard, if_pos rfl]
    · rw [get?_reservation_discard, ← reservation_of_item hitem]
      split
      next => exact nofun
      next hother => exact fun hheld => hother ⟨rfl, hheld⟩

/-- A change is of the row and the reservation of its entry. -/
theorem Step.differsAt {change : Change} (hstep : Step store (some change) next) :
    DiffersAt change.entry store next := by
  cases hstep with
  | @filed entry item hitem hfree =>
    constructor
    · intro key hother
      rw [get?_file, if_neg (key_ne_of_item hitem hother)]
    · intro entryType identifier hother
      rw [reservation_file, if_neg (reservation_ne_of_item hitem hother)]
  | @replaced base entry item hitem hversion =>
    constructor
    · intro key hother
      rw [get?_replace, if_neg (key_ne_of_item hitem hother)]
    · intro entryType identifier hother
      rfl
  | @removed entry item hitem hversion =>
    constructor
    · intro key hother
      rw [get?_discard, if_neg (key_ne_of_item hitem hother)]
    · intro entryType identifier hother
      have hne := reservation_ne_of_item hitem hother
      rw [get?_reservation_discard, if_neg fun hboth => hne hboth.1]

end Steps

section Operations

variable {store : MemoryStore}

/-- An event that is delivered carries an entry. -/
theorem exists_entry_of_deliver {event : Json} {delivery : Delivery}
    (hresult : (asEntryStore.deliver event store).1 = .ok delivery) :
    ∃ entry, Delivery.entryOf event = .ok entry := by
  cases hentry : Delivery.entryOf event with
  | ok entry => exact ⟨entry, rfl⟩
  | error e =>
    simp only [EntryStore.deliver, hentry] at hresult
    cases hresult

/-- An applied operation made a change to the entry that it is about. -/
theorem exists_change_of_applied {operation : Operation}
    (happlied : (asEntryStore.perform operation store).1.IsApplied) :
    ∃ entry change, operation.entry? = some entry ∧
      Event.change? ⟨operation, (asEntryStore.perform operation store).1⟩ = some change ∧
      change.entry.SameKeys entry := by
  cases operation with
  | create entry =>
    obtain ⟨item, hresult⟩ : ∃ item, (asEntryStore.create entry store).1 = .ok item := happlied
    refine ⟨entry, .filed entry, rfl, ?_, rfl, rfl, rfl⟩
    show Event.change? ⟨_, .created (asEntryStore.create entry store).1⟩ = _
    rw [hresult, Event.change?]
  | update previous updated stamp =>
    obtain ⟨entry, hresult⟩ :
        ∃ entry, (asEntryStore.update previous updated stamp store).1 = .ok entry := happlied
    refine ⟨updated, .replaced previous.rowVersion entry, rfl, ?_, ?_⟩
    · show Event.change? ⟨_, .updated (asEntryStore.update previous updated stamp store).1⟩ = _
      rw [hresult, Event.change?]
    · -- The keys of an entry do not depend on its stamp.
      rw [Change.entry, update_eq_ok hresult]
      exact ⟨rfl, rfl, rfl⟩
  | remove entry =>
    have hresult : (asEntryStore.remove entry store).1 = .ok () := happlied
    refine ⟨entry, .removed entry, rfl, ?_, rfl, rfl, rfl⟩
    show Event.change? ⟨_, .removed (asEntryStore.remove entry store).1⟩ = _
    rw [hresult, Event.change?]
  | deliver event =>
    obtain ⟨identifier, version, hresult⟩ : ∃ identifier version,
        (asEntryStore.deliver event store).1 = .ok (.created identifier version) := happlied
    obtain ⟨entry, hentry⟩ := exists_entry_of_deliver hresult
    refine ⟨entry, .filed entry, ?_, ?_, rfl, rfl, rfl⟩
    · rw [Operation.entry?, hentry, Except.toOption]
    · show Event.change? ⟨_, .delivered (asEntryStore.deliver event store).1⟩ = _
      rw [hresult, Event.change?, hentry, Except.toOption, Option.map_some]
  | look key => cases happlied
  | list index partition => cases happlied

end Operations

/-! ## Updates -/

section Updates

variable {store : MemoryStore} {previous updated entry : Entry} {stamp : Stamp}

/-- What a successful update found, and what it did. -/
theorem exists_of_update_ok
    (hok : (asEntryStore.update previous updated stamp store).1 = .ok entry) :
    ∃ keys item, previous.keys = .ok keys ∧
      (updated.touched stamp.now stamp.version).item = .ok item ∧
      item.keys.primary = keys.primary ∧
      store.holdsVersion item.keys.primary previous.rowVersion = true := by
  by_cases hsame : ∃ keys item, previous.keys = .ok keys ∧
      (updated.touched stamp.now stamp.version).item = .ok item ∧
        item.keys.primary = keys.primary
  · obtain ⟨keys, item, hkeys, hitem, hprimary⟩ := hsame
    refine ⟨keys, item, hkeys, hitem, hprimary, ?_⟩
    by_contra hversion
    rw [update_of_stale hkeys hitem hprimary (Bool.eq_false_iff.2 hversion)] at hok
    cases hok
  · obtain ⟨e, he⟩ := update_of_refused store fun keys item hkeys hitem hprimary =>
      hsame ⟨keys, item, hkeys, hitem, hprimary⟩
    rw [he] at hok
    cases hok

/-- An update succeeds exactly when both entries have one primary key and the row under it is of the
version that the update starts from. -/
theorem update_ok_iff :
    (∃ entry, (asEntryStore.update previous updated stamp store).1 = .ok entry) ↔
      ∃ previousKeys updatedKeys stored, previous.keys = .ok previousKeys ∧
        updated.keys = .ok updatedKeys ∧ updatedKeys.primary = previousKeys.primary ∧
        store.get? previousKeys.primary = some stored ∧
        stored.rowVersion = previous.rowVersion := by
  constructor
  · rintro ⟨entry, hok⟩
    obtain ⟨keys, item, hkeys, hitem, hprimary, hversion⟩ := exists_of_update_ok hok
    obtain ⟨updatedKeys, hupdatedKeys, rfl⟩ := Entry.item_eq_ok_iff.1 hitem
    obtain ⟨stored, hstored, hstoredVersion⟩ := holdsVersion_iff.1 hversion
    exact ⟨keys, updatedKeys, stored, hkeys, hupdatedKeys, hprimary, hprimary ▸ hstored,
      hstoredVersion⟩
  · rintro ⟨keys, updatedKeys, stored, hkeys, hupdatedKeys, hprimary, hstored, hstoredVersion⟩
    have hitem := Entry.item_eq_ok_iff.2
      ⟨updatedKeys, (updated.keys_touched stamp.now stamp.version).trans hupdatedKeys, rfl⟩
    have hversion : store.holdsVersion updatedKeys.primary previous.rowVersion = true :=
      holdsVersion_iff.2 ⟨stored, hprimary ▸ hstored, hstoredVersion⟩
    exact ⟨_, congrArg Prod.fst (update_of_version hkeys hitem hprimary hversion)⟩

end Updates

/-- An operation is applied to the row and the reservation of its entry, or it does nothing. -/
structure Settles (operation : Operation) (store : MemoryStore) (reply : Reply)
    (next : MemoryStore) : Prop where
  nothing : ¬reply.IsApplied → next = store
  differsAt : reply.IsApplied → ∃ entry, operation.entry? = some entry ∧
    DiffersAt entry store next
  whole : reply.IsApplied → ∃ entry key change, operation.entry? = some entry ∧
    entry.primary? = some key ∧ Event.change? ⟨operation, reply⟩ = some change ∧
    next.Shows key change

/-- When an update succeeds, and what it then returns and stores. -/
structure Updates (previous updated : Entry) (stamp : Stamp) (store : MemoryStore)
    (result : Except WriteError Entry) (next : MemoryStore) : Prop where
  ok_iff : (∃ entry, result = .ok entry) ↔
    ∃ previousKeys updatedKeys stored, previous.keys = .ok previousKeys ∧
      updated.keys = .ok updatedKeys ∧ updatedKeys.primary = previousKeys.primary ∧
      store.get? previousKeys.primary = some stored ∧ stored.rowVersion = previous.rowVersion
  returns : ∀ entry, result = .ok entry →
    entry = { updated with
      metadata := { updated.metadata with
        modifiedDate := stamp.now
        rowVersion := stamp.version } }
  stores : ∀ entry, result = .ok entry →
    ∃ item, entry.item = .ok item ∧ next.get? item.keys.primary = some item
  reservations_eq : ∀ entry, result = .ok entry → next.reservations = store.reservations

theorem settles (operation : Operation) (store : MemoryStore) :
    Settles operation store (asEntryStore.perform operation store).1
      (asEntryStore.perform operation store).2 := by
  have hstep := step_perform operation store
  constructor
  case nothing =>
    intro hnot
    have hnone : Event.change? ⟨operation, (asEntryStore.perform operation store).1⟩ = none :=
      Event.change?_of_not_applied hnot
    rw [hnone] at hstep
    exact hstep.eq_of_none
  case differsAt =>
    intro happlied
    obtain ⟨entry, change, hentry, hchange, hsame⟩ := exists_change_of_applied happlied
    rw [hchange] at hstep
    exact ⟨entry, hentry, hstep.differsAt.of_same hsame⟩
  case whole =>
    intro happlied
    obtain ⟨entry, change, hentry, hchange, hsame⟩ := exists_change_of_applied happlied
    rw [hchange] at hstep
    obtain ⟨key, hkey, hshows⟩ := hstep.shows
    exact ⟨entry, key, change, hentry, hsame.1 ▸ hkey, hchange, hshows⟩

theorem updates (previous updated : Entry) (stamp : Stamp) (store : MemoryStore) :
    Updates previous updated stamp store (asEntryStore.update previous updated stamp store).1
      (asEntryStore.update previous updated stamp store).2 := by
  have hreplaced : ∀ entry, (asEntryStore.update previous updated stamp store).1 = .ok entry →
      ∃ item, entry.item = .ok item ∧
        (asEntryStore.update previous updated stamp store).2 = store.replace item := by
    intro entry hok
    obtain ⟨keys, item, hkeys, hitem, hprimary, hversion⟩ := exists_of_update_ok hok
    refine ⟨item, update_eq_ok hok ▸ hitem, ?_⟩
    rw [update_of_version hkeys hitem hprimary hversion]
  constructor
  case ok_iff => exact update_ok_iff
  case returns => exact fun entry hok => update_eq_ok hok
  case stores =>
    intro entry hok
    obtain ⟨item, hitem, hnext⟩ := hreplaced entry hok
    refine ⟨item, hitem, ?_⟩
    rw [hnext, get?_replace, if_pos rfl]
  case reservations_eq =>
    intro entry hok
    obtain ⟨item, -, hnext⟩ := hreplaced entry hok
    rw [hnext, replace]

/-- A row stays as it is in every run that applies no operation to an entry with its key. -/
theorem history_get?_of_apart (operations : List Operation) (store : MemoryStore) (key : KeyPair)
    (hapart : ∀ event ∈ (asEntryStore.history operations store).1, event.reply.IsApplied →
      ∀ entry, event.operation.entry? = some entry → entry.primary? ≠ some key) :
    (asEntryStore.history operations store).2.get? key = store.get? key := by
  induction operations generalizing store with
  | nil => rfl
  | cons operation operations ih =>
    rw [history_cons] at hapart ⊢
    obtain ⟨hfirst, hlater⟩ := List.forall_mem_cons.1 hapart
    have hsettles := settles operation store
    rw [ih _ hlater]
    by_cases happlied : (asEntryStore.perform operation store).1.IsApplied
    · obtain ⟨entry, hentry, hdiffers⟩ := hsettles.differsAt happlied
      exact hdiffers.rows_eq key (hfirst happlied entry hentry)
    · rw [hsettles.nothing happlied]

/-- No operation does half of what it is to do, or anything to another row or reservation, and an
update replaces the row of its entry exactly when that is of the version it starts from. -/
theorem operation_local (store : MemoryStore) :
    (∀ operation, Settles operation store (asEntryStore.perform operation store).1
      (asEntryStore.perform operation store).2) ∧
    ∀ previous updated stamp, Updates previous updated stamp store
      (asEntryStore.update previous updated stamp store).1
      (asEntryStore.update previous updated stamp store).2 :=
  ⟨fun operation => settles operation store,
    fun previous updated stamp => updates previous updated stamp store⟩

end MemoryStore

end Intake
