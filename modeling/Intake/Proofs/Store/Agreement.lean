import Intake.Proofs.Agreement
import Intake.Proofs.Store.History

/-!
# Stores that agree

Operations on entries are written once for every store.  If two stores give the same results for the
few requests that these operations make, and keep their states related, they give the same results
for every operation, and so they do for a whole history.
-/

namespace Intake

/-- The partitions of an index that entries are looked for in. -/
def StoreIndex.Lists : StoreIndex → String → Prop
  | .primary, partition =>
    ∃ entryType customerId owner, Key.ownerPartition entryType customerId owner = .ok partition
  | .byCustomerStatus, partition =>
    ∃ entryType customerId status,
      Key.customerStatusPartition entryType customerId status = .ok partition
  | .byResource, partition => ∃ resource, Key.resourcePartition resource = .ok partition

/-- An operation whose keys are made from entries and their components. -/
def Operation.IsDerived : Operation → Prop
  | .look key => ∃ (entry : Entry) (keys : KeySet), entry.keys = .ok keys ∧ keys.primary = key
  | .list index partition => index.Lists partition
  | _ => True

namespace EntryStore

variable {σ τ : Type} {R : σ → τ → Prop} {store : EntryStore σ} {other : EntryStore τ}

/-- Both stores give the same results for the items of entries and for partitions of entries. -/
structure Mimics (R : σ → τ → Prop) (store : EntryStore σ) (other : EntryStore τ) : Prop where
  /-- The key that a first write finds taken is the one it was for. -/
  putIfAbsent : ∀ {entry : Entry} {item : Item}, entry.item = .ok item →
    Agrees R (fun result => ∀ key, result = .error (.alreadyExists key) → key = item.keys.primary)
      (store.putIfAbsent item) (other.putIfAbsent item)
  putWithVersion : ∀ {entry : Entry} {item : Item} {expected : RowVersion}, entry.item = .ok item →
    Agrees R (fun _ => True) (store.putWithVersion item expected)
      (other.putWithVersion item expected)
  get : ∀ {entry : Entry} {item : Item}, entry.item = .ok item →
    Agrees R (fun _ => True) (store.get item.keys.primary) (other.get item.keys.primary)
  delete : ∀ {entry : Entry} {item : Item} {expected : RowVersion}, entry.item = .ok item →
    Agrees R (fun _ => True) (store.delete item.keys.primary item.reservation expected)
      (other.delete item.keys.primary item.reservation expected)
  query : ∀ {index : StoreIndex} {partition : String}, index.Lists partition →
    Agrees R (fun _ => True) (store.query index partition) (other.query index partition)

namespace Mimics

theorem create (hmimics : Mimics R store other) (entry : Entry) :
    Agrees R
      (fun result => ∀ key, result = .error (.store (.alreadyExists key)) →
        ∃ item, entry.item = .ok item ∧ item.keys.primary = key)
      (store.create entry) (other.create entry) := by
  unfold EntryStore.create
  cases hitem : entry.item with
  | error error =>
    refine .pure fun key herror => ?_
    cases herror
  | ok item =>
    refine (hmimics.putIfAbsent hitem).bind fun result hresult => ?_
    cases result with
    | ok =>
      refine .pure fun key herror => ?_
      cases herror
    | error error =>
      refine .pure fun key herror => ?_
      cases herror
      exact ⟨item, rfl, (hresult key rfl).symm⟩

theorem update (hmimics : Mimics R store other) (previous updated : Entry) (stamp : Stamp) :
    Agrees R (fun _ => True) (store.update previous updated stamp)
      (other.update previous updated stamp) := by
  unfold EntryStore.update
  cases previous.keys with
  | error error => exact .pure trivial
  | ok keys =>
    cases hitem : (updated.touched stamp.now stamp.version).item with
    | error error =>
      simp only [hitem]
      exact .pure trivial
    | ok item =>
      simp only [hitem]
      split
      next => exact .pure trivial
      next =>
        refine (hmimics.putWithVersion hitem).bind fun result _ => ?_
        cases result with
        | error error => exact .pure trivial
        | ok => exact .pure trivial

theorem remove (hmimics : Mimics R store other) (entry : Entry) :
    Agrees R (fun _ => True) (store.remove entry) (other.remove entry) := by
  unfold EntryStore.remove
  cases hitem : entry.item with
  | error error => exact .pure trivial
  | ok item =>
    refine (hmimics.delete hitem).bind fun result _ => ?_
    cases result with
    | error error => exact .pure trivial
    | ok => exact .pure trivial

/-- A delivery looks for what is stored under the key that its creation found taken. -/
theorem deliver (hmimics : Mimics R store other) (event : Json) :
    Agrees R (fun _ => True) (store.deliver event) (other.deliver event) := by
  unfold EntryStore.deliver
  cases Delivery.entryOf event with
  | error error => exact .pure trivial
  | ok entry =>
    refine (hmimics.create entry).bind fun result hresult => ?_
    rcases result with (_ | (⟨key⟩ | _ | _) | _) | item
    case error.store.alreadyExists =>
      obtain ⟨item, hitem, rfl⟩ := hresult key rfl
      refine (hmimics.get hitem).bind fun found _ => ?_
      cases found with
      | error error => exact .pure trivial
      | ok stored => exact .pure trivial
    all_goals exact .pure trivial

theorem perform (hmimics : Mimics R store other) {operation : Operation}
    (hderived : operation.IsDerived) :
    Agrees R (fun _ => True) (store.perform operation) (other.perform operation) := by
  cases operation with
  | create entry => exact (hmimics.create entry).bind fun _ _ => .pure trivial
  | update previous updated stamp =>
    exact (hmimics.update previous updated stamp).bind fun _ _ => .pure trivial
  | remove entry => exact (hmimics.remove entry).bind fun _ _ => .pure trivial
  | deliver event => exact (hmimics.deliver event).bind fun _ _ => .pure trivial
  | look key =>
    obtain ⟨entry, keys, hkeys, rfl⟩ := hderived
    have hitem := Entry.item_eq_ok_iff.2 ⟨keys, hkeys, rfl⟩
    exact (hmimics.get hitem).bind fun _ _ => .pure trivial
  | list index partition => exact (hmimics.query hderived).bind fun _ _ => .pure trivial

/-- Operation after operation, both stores reply the same. -/
theorem history (hmimics : Mimics R store other) {operations : List Operation}
    (hderived : ∀ operation ∈ operations, operation.IsDerived) :
    Agrees R (fun _ => True) (store.history operations) (other.history operations) := by
  induction operations with
  | nil => exact .pure trivial
  | cons operation operations ih =>
    obtain ⟨hfirst, hrest⟩ := List.forall_mem_cons.1 hderived
    exact (hmimics.perform hfirst).bind fun _ _ => (ih hrest).bind fun _ _ => .pure trivial

end Mimics

end EntryStore

end Intake
