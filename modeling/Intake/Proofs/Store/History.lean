import Intake.Proofs.Key.Injective
import Intake.Proofs.Store.Refusal
import Intake.Store.Memory

/-!
# Histories of a store

An operation is one call of a client, and an event is an operation with the reply it got.  The calls
of any number of clients on one store happen one after the other, so what the clients did together
is a list of operations and the history is the list of their events.  A delivery whose look-up comes
only after calls of other clients is a creation and a later look-up in such a list.

Whatever an operation does to the store in memory is one of three changes, or nothing.
-/

namespace Intake

inductive Operation where
  | create (entry : Entry)
  | update (previous updated : Entry) (stamp : Stamp)
  | remove (entry : Entry)
  | deliver (event : Json)
  | look (key : KeyPair)
  | list (index : StoreIndex) (partition : String)

inductive Reply where
  | created (result : Except WriteError Item)
  | updated (result : Except WriteError Entry)
  | removed (result : Except WriteError Unit)
  | delivered (result : Except DeliveryError Delivery)
  | found (result : Except StoreError (Option Item))
  | listed (result : Except StoreError (List Item))

structure Event where
  operation : Operation
  reply : Reply

namespace EntryStore

variable {σ : Type}

def perform (store : EntryStore σ) : Operation → StateM σ Reply
  | .create entry => return .created (← store.create entry)
  | .update previous updated stamp => return .updated (← store.update previous updated stamp)
  | .remove entry => return .removed (← store.remove entry)
  | .deliver event => return .delivered (← store.deliver event)
  | .look key => return .found (← store.get key)
  | .list index partition => return .listed (← store.query index partition)

/-- The events of operations performed one after the other. -/
def history (store : EntryStore σ) : List Operation → StateM σ (List Event)
  | [] => return []
  | operation :: operations => do
    let reply ← store.perform operation
    let events ← store.history operations
    return ⟨operation, reply⟩ :: events

end EntryStore

/-- What an operation changes in a store. -/
inductive Change where
  | filed (entry : Entry)
  /-- Put in the place of the stored entry of a version. -/
  | replaced (base : RowVersion) (entry : Entry)
  | removed (entry : Entry)

/-- The change that a successful event made; the entry of a delivery is the one it carried. -/
def Event.change? : Event → Option Change
  | ⟨.create entry, .created (.ok _)⟩ => some (.filed entry)
  | ⟨.deliver event, .delivered (.ok (.created _ _))⟩ =>
    (Delivery.entryOf event).toOption.map .filed
  | ⟨.update previous _ _, .updated (.ok next)⟩ => some (.replaced previous.rowVersion next)
  | ⟨.remove entry, .removed (.ok ())⟩ => some (.removed entry)
  | _ => none

namespace MemoryStore

/-- The store after a first write. -/
def file (store : MemoryStore) (item : Item) : MemoryStore :=
  ⟨store.items.insert item.keys.primary item,
    store.reservations.insert item.reservation item.keys.primary⟩

/-- The store after an update. -/
def replace (store : MemoryStore) (item : Item) : MemoryStore :=
  { store with items := store.items.insert item.keys.primary item }

/-- The store after a removal. -/
def discard (store : MemoryStore) (item : Item) : MemoryStore where
  items := store.items.erase item.keys.primary
  reservations :=
    if store.reservations.get? item.reservation = some item.keys.primary then
      store.reservations.erase item.reservation
    else store.reservations

def isTaken (store : MemoryStore) (item : Item) : Bool :=
  store.items.contains item.keys.primary || store.reservations.contains item.reservation

/-- What one operation may do: a change under its condition, or nothing. -/
inductive Step (store : MemoryStore) : Option Change → MemoryStore → Prop where
  | nothing : Step store none store
  | filed {entry : Entry} {item : Item} (hitem : entry.item = .ok item)
      (hfree : store.isTaken item = false) : Step store (some (.filed entry)) (store.file item)
  | replaced {base : RowVersion} {entry : Entry} {item : Item} (hitem : entry.item = .ok item)
      (hversion : store.holdsVersion item.keys.primary base = true) :
      Step store (some (.replaced base entry)) (store.replace item)
  | removed {entry : Entry} {item : Item} (hitem : entry.item = .ok item)
      (hversion : store.holdsVersion item.keys.primary entry.rowVersion = true) :
      Step store (some (.removed entry)) (store.discard item)

section Replies

variable {entry : Entry} {item : Item}

theorem create_of_key_error {error : KeyError} (hitem : entry.item = .error error)
    (store : MemoryStore) :
    asEntryStore.create entry store = (.error (.key error), store) := by
  simp only [EntryStore.create, hitem]
  rfl

theorem create_of_taken {store : MemoryStore} (hitem : entry.item = .ok item)
    (htaken : store.isTaken item = true) :
    asEntryStore.create entry store =
      (.error (.store (.alreadyExists item.keys.primary)), store) := by
  have hput : store.putIfAbsent item = .error (.alreadyExists item.keys.primary) := if_pos htaken
  simp only [EntryStore.create, hitem, bind, StateT.bind, asEntryStore, hput, commit]
  rfl

theorem create_of_free {store : MemoryStore} (hitem : entry.item = .ok item)
    (hfree : store.isTaken item = false) :
    asEntryStore.create entry store = (.ok item, store.file item) := by
  have hput : store.putIfAbsent item = .ok (store.file item) := by
    rw [putIfAbsent, ← isTaken, hfree]
    rfl
  simp only [EntryStore.create, hitem, bind, StateT.bind, asEntryStore, hput, commit]
  rfl

theorem update_of_stale {store : MemoryStore} {previous updated : Entry} {stamp : Stamp}
    {keys : KeySet} (hkeys : previous.keys = .ok keys)
    (hitem : (updated.touched stamp.now stamp.version).item = .ok item)
    (hprimary : item.keys.primary = keys.primary)
    (hversion : store.holdsVersion item.keys.primary previous.rowVersion = false) :
    asEntryStore.update previous updated stamp store =
      (.error (.store (.concurrentModification item.keys.primary previous.rowVersion)), store) := by
  have hput : store.putWithVersion item previous.rowVersion =
      .error (.concurrentModification item.keys.primary previous.rowVersion) := by
    rw [putWithVersion, hversion]
    rfl
  simp only [EntryStore.update, hkeys, hitem, hprimary, ne_eq, not_true_eq_false, if_false, bind,
    StateT.bind, asEntryStore, hput, commit]
  rw [← hprimary]
  rfl

theorem update_of_version {store : MemoryStore} {previous updated : Entry} {stamp : Stamp}
    {keys : KeySet} (hkeys : previous.keys = .ok keys)
    (hitem : (updated.touched stamp.now stamp.version).item = .ok item)
    (hprimary : item.keys.primary = keys.primary)
    (hversion : store.holdsVersion item.keys.primary previous.rowVersion = true) :
    asEntryStore.update previous updated stamp store =
      (.ok (updated.touched stamp.now stamp.version), store.replace item) := by
  have hput : store.putWithVersion item previous.rowVersion = .ok (store.replace item) := by
    rw [putWithVersion, hversion]
    rfl
  simp only [EntryStore.update, hkeys, hitem, hprimary, ne_eq, not_true_eq_false, if_false, bind,
    StateT.bind, asEntryStore, hput, commit]
  rfl

/-- An update that is refused before the store is asked leaves the store as it is. -/
theorem update_of_refused (store : MemoryStore) {previous updated : Entry} {stamp : Stamp}
    (hrefused : ∀ keys item, previous.keys = .ok keys →
      (updated.touched stamp.now stamp.version).item = .ok item →
        item.keys.primary ≠ keys.primary) :
    ∃ error, asEntryStore.update previous updated stamp store = (.error error, store) := by
  cases hkeys : previous.keys with
  | error e =>
    refine ⟨.key e, ?_⟩
    simp only [EntryStore.update, hkeys]
    rfl
  | ok keys =>
    cases hitem : (updated.touched stamp.now stamp.version).item with
    | error e =>
      refine ⟨.key e, ?_⟩
      simp only [EntryStore.update, hkeys, hitem]
      rfl
    | ok item =>
      have hne := hrefused keys item hkeys hitem
      simp only [EntryStore.update, hkeys, hitem, ne_eq, hne, not_false_eq_true, if_true]
      exact ⟨_, rfl⟩

theorem remove_of_key_error {error : KeyError} (hitem : entry.item = .error error)
    (store : MemoryStore) :
    asEntryStore.remove entry store = (.error (.key error), store) := by
  simp only [EntryStore.remove, hitem]
  rfl

theorem remove_of_stale {store : MemoryStore} (hitem : entry.item = .ok item)
    (hversion : store.holdsVersion item.keys.primary entry.rowVersion = false) :
    asEntryStore.remove entry store =
      (.error (.store (.concurrentModification item.keys.primary entry.rowVersion)), store) := by
  have hdelete : store.delete item.keys.primary item.reservation entry.rowVersion =
      .error (.concurrentModification item.keys.primary entry.rowVersion) := by
    rw [delete, hversion]
    rfl
  simp only [EntryStore.remove, hitem, bind, StateT.bind, asEntryStore, hdelete, commit]
  rfl

theorem remove_of_version {store : MemoryStore} (hitem : entry.item = .ok item)
    (hversion : store.holdsVersion item.keys.primary entry.rowVersion = true) :
    asEntryStore.remove entry store = (.ok (), store.discard item) := by
  have hdelete : store.delete item.keys.primary item.reservation entry.rowVersion =
      .ok (store.discard item) := by
    rw [delete, hversion]
    rfl
  simp only [EntryStore.remove, hitem, bind, StateT.bind, asEntryStore, hdelete, commit]
  rfl

/-- A delivery writes as the creation of its entry does. -/
theorem deliver_of_created {store next : MemoryStore} {event : Json}
    (hentry : Delivery.entryOf event = .ok entry)
    (hcreate : asEntryStore.create entry store = (.ok item, next)) :
    asEntryStore.deliver event store = (.ok (.created item.identifier item.rowVersion), next) := by
  simp only [EntryStore.deliver, hentry, bind, StateT.bind, hcreate]
  rfl

theorem deliver_of_taken {store : MemoryStore} {event : Json} {key : KeyPair}
    (hentry : Delivery.entryOf event = .ok entry)
    (hcreate : asEntryStore.create entry store = (.error (.store (.alreadyExists key)), store)) :
    asEntryStore.deliver event store = (.ok (.ofStored entry (store.get? key)), store) := by
  simp only [EntryStore.deliver, hentry, bind, StateT.bind, hcreate]
  rfl

end Replies

theorem step_create (entry : Entry) (store : MemoryStore) :
    Step store
      (Event.change? ⟨.create entry, .created (asEntryStore.create entry store).1⟩)
      (asEntryStore.create entry store).2 := by
  cases hitem : entry.item with
  | error e =>
    rw [create_of_key_error hitem]
    exact .nothing
  | ok item =>
    cases htaken : store.isTaken item with
    | true =>
      rw [create_of_taken hitem htaken]
      exact .nothing
    | false =>
      rw [create_of_free hitem htaken]
      exact .filed hitem htaken

theorem step_update (previous updated : Entry) (stamp : Stamp) (store : MemoryStore) :
    Step store
      (Event.change? ⟨.update previous updated stamp,
        .updated (asEntryStore.update previous updated stamp store).1⟩)
      (asEntryStore.update previous updated stamp store).2 := by
  by_cases hsame : ∃ keys item, previous.keys = .ok keys ∧
      (updated.touched stamp.now stamp.version).item = .ok item ∧
        item.keys.primary = keys.primary
  · obtain ⟨keys, item, hkeys, hitem, hprimary⟩ := hsame
    cases hversion : store.holdsVersion item.keys.primary previous.rowVersion with
    | true =>
      rw [update_of_version hkeys hitem hprimary hversion]
      exact .replaced hitem hversion
    | false =>
      rw [update_of_stale hkeys hitem hprimary hversion]
      exact .nothing
  · obtain ⟨e, he⟩ := update_of_refused store fun keys item hkeys hitem hprimary =>
      hsame ⟨keys, item, hkeys, hitem, hprimary⟩
    rw [he]
    exact .nothing

theorem step_remove (entry : Entry) (store : MemoryStore) :
    Step store
      (Event.change? ⟨.remove entry, .removed (asEntryStore.remove entry store).1⟩)
      (asEntryStore.remove entry store).2 := by
  cases hitem : entry.item with
  | error e =>
    rw [remove_of_key_error hitem]
    exact .nothing
  | ok item =>
    cases hversion : store.holdsVersion item.keys.primary entry.rowVersion with
    | true =>
      rw [remove_of_version hitem hversion]
      exact .removed hitem hversion
    | false =>
      rw [remove_of_stale hitem hversion]
      exact .nothing

theorem step_deliver (event : Json) (store : MemoryStore) :
    Step store
      (Event.change? ⟨.deliver event, .delivered (asEntryStore.deliver event store).1⟩)
      (asEntryStore.deliver event store).2 := by
  by_cases hborne : ∃ entry item, Bears event entry item
  · obtain ⟨entry, item, hentry, hitem⟩ := hborne
    cases htaken : store.isTaken item with
    | true =>
      rw [deliver_of_taken hentry (create_of_taken hitem htaken)]
      simp only [Delivery.ofStored]
      split <;> exact .nothing
    | false =>
      rw [deliver_of_created hentry (create_of_free hitem htaken)]
      simp only [Event.change?, hentry, Except.toOption, Option.map_some]
      exact .filed hitem htaken
  · obtain ⟨error, -, hdeliver⟩ := deliver_of_unborne asEntryStore store fun entry item hbears =>
      hborne ⟨entry, item, hbears⟩
    rw [hdeliver]
    exact .nothing

/-- The change of an event is what its operation did to the store. -/
theorem step_perform (operation : Operation) (store : MemoryStore) :
    Step store (Event.change? ⟨operation, (asEntryStore.perform operation store).1⟩)
      (asEntryStore.perform operation store).2 := by
  cases operation with
  | create entry => exact step_create entry store
  | update previous updated stamp => exact step_update previous updated stamp store
  | remove entry => exact step_remove entry store
  | deliver event => exact step_deliver event store
  | look key => exact .nothing
  | list index partition => exact .nothing

theorem history_cons (operation : Operation) (operations : List Operation) (store : MemoryStore) :
    asEntryStore.history (operation :: operations) store =
      (⟨operation, (asEntryStore.perform operation store).1⟩ ::
          (asEntryStore.history operations (asEntryStore.perform operation store).2).1,
        (asEntryStore.history operations (asEntryStore.perform operation store).2).2) := rfl

theorem history_append (first second : List Operation) (store : MemoryStore) :
    asEntryStore.history (first ++ second) store =
      ((asEntryStore.history first store).1 ++
          (asEntryStore.history second (asEntryStore.history first store).2).1,
        (asEntryStore.history second (asEntryStore.history first store).2).2) := by
  induction first generalizing store with
  | nil => rfl
  | cons operation first ih =>
    rw [List.cons_append, history_cons, ih, history_cons]
    rfl

/-- The events of a history name its operations. -/
theorem map_operation_history (operations : List Operation) (store : MemoryStore) :
    (asEntryStore.history operations store).1.map Event.operation = operations := by
  induction operations generalizing store with
  | nil => rfl
  | cons operation operations ih => rw [history_cons, List.map_cons, ih]

/-- What comes first in a history is the history of its operations, and the rest goes on from
there. -/
theorem history_split {operations : List Operation} {store : MemoryStore}
    {before after : List Event}
    (hhistory : (asEntryStore.history operations store).1 = before ++ after) :
    operations = before.map Event.operation ++ after.map Event.operation ∧
      (asEntryStore.history (before.map Event.operation) store).1 = before ∧
      (asEntryStore.history (after.map Event.operation)
        (asEntryStore.history (before.map Event.operation) store).2).1 = after := by
  have hoperations : operations = before.map Event.operation ++ after.map Event.operation := by
    rw [← List.map_append, ← hhistory, map_operation_history]
  have happend := congrArg Prod.fst
    (history_append (before.map Event.operation) (after.map Event.operation) store)
  rw [← hoperations, hhistory] at happend
  have hlength : ∀ operations store,
      (asEntryStore.history operations store).1.length = operations.length := by
    intro operations store
    rw [← List.length_map Event.operation, map_operation_history]
  obtain ⟨hbefore, hafter⟩ := List.append_inj happend (by rw [hlength, List.length_map])
  exact ⟨hoperations, hbefore.symm, hafter.symm⟩

end MemoryStore

end Intake
