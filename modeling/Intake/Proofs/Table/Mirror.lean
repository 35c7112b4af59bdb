import Intake.Proofs.Key.Partition
import Intake.Proofs.Store.Listing
import Intake.Proofs.Table.Rows

/-!
# The rows that mirror a store

The one map of the service holds what the two maps of the store in memory hold: under the primary key
of a stored item its row, and under its reservation the row of that.  No key is both, since the
partition of an owner has more components than a reservation.
-/

namespace Intake

namespace Key

/-- A reservation is in no partition of an owner. -/
theorem ownerPartition_ne_reservation {t s : EntryType} {customerId owner partition : String}
    (hpartition : ownerPartition t customerId owner = .ok partition) (identifier : Identifier) :
    partition ≠ (reservation s identifier.text).partitionKey := by
  obtain ⟨checkedCustomer, hcustomer, hrest⟩ := bind_eq_ok_iff.1 hpartition
  obtain ⟨checkedOwner, howner, hjoined⟩ := bind_eq_ok_iff.1 hrest
  obtain ⟨rfl, hcustomerFree⟩ := checked_eq_ok hcustomer
  obtain ⟨rfl, hownerFree⟩ := checked_eq_ok howner
  cases hjoined
  exact ofOwner_ne_reservation hcustomerFree hownerFree identifier

end Key

theorem Entry.primary_ne_reservation {entry : Entry} {item : Item} (hitem : entry.item = .ok item)
    (other : Item) : item.keys.primary ≠ other.reservation := by
  obtain ⟨keys, hkeys, rfl⟩ := item_eq_ok_iff.1 hitem
  exact (reservation_ne_primary hkeys other.entryType other.identifier).symm

namespace MemoryStore

open Table (ofItem guardOf)

/-- The row that the service has under a key when this is stored. -/
def row? (store : MemoryStore) (key : KeyPair) : Option AttributeMap :=
  match store.get? key with
  | some item => some (ofItem item)
  | none => ((store.reservations.get? key).bind store.get?).map guardOf

namespace Consistent

variable {store : MemoryStore} {entry : Entry} {item : Item}

theorem not_reserved (hconsistent : store.Consistent) (hitem : entry.item = .ok item) :
    store.reservations.get? item.keys.primary = none := by
  cases hreserved : store.reservations.get? item.keys.primary with
  | none => rfl
  | some key =>
    obtain ⟨other, -, hother⟩ := hconsistent.occupied hreserved
    exact absurd hother.symm (Entry.primary_ne_reservation hitem other)

theorem get?_reservation (hconsistent : store.Consistent) (item : Item) :
    store.get? item.reservation = none := by
  cases hget : store.get? item.reservation with
  | none => rfl
  | some other =>
    obtain ⟨otherEntry, -, hother⟩ := hconsistent.projected hget
    exact absurd (hconsistent.filed hget) (Entry.primary_ne_reservation hother item)

/-- Under a primary key there is a row if an item is stored there, and it is the item's. -/
theorem row?_primary (hconsistent : store.Consistent) (hitem : entry.item = .ok item) :
    store.row? item.keys.primary = (store.get? item.keys.primary).map ofItem := by
  rw [row?, hconsistent.not_reserved hitem]
  cases store.get? item.keys.primary <;> rfl

theorem row?_reservation_eq_none (hconsistent : store.Consistent) :
    store.row? item.reservation = none ↔ store.reservations.get? item.reservation = none := by
  rw [row?, hconsistent.get?_reservation]
  cases hreserved : store.reservations.get? item.reservation with
  | none => simp
  | some key =>
    obtain ⟨other, hother, -⟩ := hconsistent.occupied hreserved
    simp [hother]

/-- Every row is that of a stored item or that of its reservation. -/
theorem of_row? (hconsistent : store.Consistent) {key : KeyPair} {row : AttributeMap}
    (hrow : store.row? key = some row) :
    (∃ item, store.get? key = some item ∧ row = ofItem item) ∨
      ∃ primary item, store.get? primary = some item ∧ key = item.reservation ∧
        row = guardOf item := by
  rw [row?] at hrow
  split at hrow
  next item hget =>
    cases hrow
    exact .inl ⟨item, hget, rfl⟩
  next hget =>
    obtain ⟨item, hbind, rfl⟩ := Option.map_eq_some_iff.1 hrow
    obtain ⟨primary, hreserved, hitem⟩ := Option.bind_eq_some_iff.1 hbind
    obtain ⟨other, hother, hreservation⟩ := hconsistent.occupied hreserved
    rw [hitem] at hother
    cases hother
    exact .inr ⟨primary, item, hitem, hreservation.symm, rfl⟩

theorem row?_file (hconsistent : store.Consistent) (hitem : entry.item = .ok item)
    (hfree : store.isTaken item = false) (key : KeyPair) :
    (store.file item).row? key =
      if key = item.reservation then some (guardOf item)
      else if key = item.keys.primary then some (ofItem item)
      else store.row? key := by
  have hprimary := Entry.primary_ne_reservation hitem item
  rw [row?, get?_file, reservation_file]
  by_cases hreservation : key = item.reservation
  · rw [if_pos hreservation, if_neg (hreservation ▸ hprimary.symm), hreservation,
      hconsistent.get?_reservation, if_pos rfl, Option.bind_some, get?_file, if_pos rfl]
    rfl
  · rw [if_neg hreservation, if_neg hreservation]
    by_cases hkey : key = item.keys.primary
    · rw [if_pos hkey, if_pos hkey]
    · rw [if_neg hkey, if_neg hkey, row?]
      cases hget : store.get? key with
      | some other => rfl
      | none =>
        cases hreserved : store.reservations.get? key with
        | none => rfl
        | some primary =>
          obtain ⟨other, hother, -⟩ := hconsistent.occupied hreserved
          have hne : primary ≠ item.keys.primary := by
            rintro rfl
            rw [(isTaken_eq_false.1 hfree).1] at hother
            cases hother
          simp only [Option.bind_some, get?_file, if_neg hne]

theorem row?_replace (hconsistent : store.Consistent) (hitem : entry.item = .ok item)
    {old : Item} (hold : store.get? item.keys.primary = some old) (key : KeyPair) :
    (store.replace item).row? key =
      if key = item.keys.primary then some (ofItem item) else store.row? key := by
  obtain ⟨oldEntry, -, holdItem⟩ := hconsistent.projected hold
  have hguard : guardOf item = guardOf old := by
    have hsame := reservation_of_primary hitem holdItem (hconsistent.filed hold).symm
    have hidentifier : item.identifier = old.identifier := (Key.reservation_injective hsame).2
    rw [guardOf, guardOf, hsame, hidentifier]
  rw [row?, get?_replace]
  by_cases hkey : key = item.keys.primary
  · rw [if_pos hkey, if_pos hkey]
  · rw [if_neg hkey, if_neg hkey, row?]
    cases hget : store.get? key with
    | some other => rfl
    | none =>
      show ((store.reservations.get? key).bind (store.replace item).get?).map guardOf = _
      cases hreserved : store.reservations.get? key with
      | none => rfl
      | some primary =>
        simp only [Option.bind_some, get?_replace]
        by_cases hprimary : primary = item.keys.primary
        · rw [if_pos hprimary, hprimary, hold, Option.map_some, Option.map_some, hguard]
        · rw [if_neg hprimary]

theorem row?_discard (hconsistent : store.Consistent) (hitem : entry.item = .ok item)
    {old : Item} (hold : store.get? item.keys.primary = some old) (key : KeyPair) :
    (store.discard item).row? key =
      if key = item.reservation then none
      else if key = item.keys.primary then none
      else store.row? key := by
  have hprimary := Entry.primary_ne_reservation hitem item
  rw [row?, get?_discard, hconsistent.reservation_discard hitem hold]
  by_cases hreservation : key = item.reservation
  · rw [if_pos hreservation, if_neg (hreservation ▸ hprimary.symm), hreservation,
      hconsistent.get?_reservation, if_pos rfl]
    rfl
  · rw [if_neg hreservation, if_neg hreservation]
    by_cases hkey : key = item.keys.primary
    · rw [if_pos hkey, if_pos hkey, hkey, hconsistent.not_reserved hitem]
      rfl
    · rw [if_neg hkey, if_neg hkey, row?]
      cases hget : store.get? key with
      | some other => rfl
      | none =>
        cases hreserved : store.reservations.get? key with
        | none => rfl
        | some primary =>
          obtain ⟨other, hother, hguard⟩ := hconsistent.occupied hreserved
          have hne : primary ≠ item.keys.primary := by
            rintro rfl
            obtain ⟨otherEntry, -, hotherItem⟩ := hconsistent.projected hother
            have hsame := reservation_of_primary hitem hotherItem
              (hconsistent.filed hother).symm
            exact hreservation (hguard.symm.trans hsame.symm)
          simp only [Option.bind_some, get?_discard, if_neg hne]

end Consistent

end MemoryStore

end Intake
