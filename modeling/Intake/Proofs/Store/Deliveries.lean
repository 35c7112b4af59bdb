import Intake.Proofs.Store.Consistency
import Mathlib.Data.List.Nodup

/-!
# Delivering the entries of a list

No two entries of the list share a type and an identifier.  Whatever is delivered of them, and how
often, is stored once: the first delivery creates the item of its entry, and every later one finds
that very item and is a duplicate.
-/

namespace Intake

namespace Delivery

/-- A delivery after which its entry is stored. -/
def IsSettled : Delivery → Prop
  | .created _ _ => True
  | .duplicate _ => True
  | .conflict _ _ _ => False

end Delivery

/-- No two entries have the same type and identifier. -/
def AreDistinct (entries : List Entry) : Prop :=
  (entries.map fun entry => (entry.entryType, entry.identifier)).Nodup

theorem AreDistinct.eq_of_mem {entries : List Entry} (hdistinct : AreDistinct entries) {a b : Entry}
    (ha : a ∈ entries) (hb : b ∈ entries) (htype : a.entryType = b.entryType)
    (hidentifier : a.identifier = b.identifier) : a = b :=
  List.inj_on_of_nodup_map hdistinct ha hb (Prod.ext htype hidentifier)

namespace MemoryStore

/-- The store is consistent and holds nothing but items of these entries. -/
structure HoldsOnly (entries : List Entry) (store : MemoryStore) : Prop where
  consistent : store.Consistent
  listed : ∀ {key : KeyPair} {stored : Item}, store.get? key = some stored →
    ∃ entry ∈ entries, entry.item = .ok stored

namespace HoldsOnly

variable {entries : List Entry} {store : MemoryStore} {entry : Entry} {item : Item}

theorem empty (entries : List Entry) : HoldsOnly entries MemoryStore.empty where
  consistent := .empty
  listed hget := by cases hget

/-- What is stored of the type and the identifier of an entry is the item of that entry. -/
theorem eq_of_get? (honly : HoldsOnly entries store) (hdistinct : AreDistinct entries)
    (hentry : entry ∈ entries) (hitem : entry.item = .ok item) {key : KeyPair} {stored : Item}
    (hget : store.get? key = some stored) (htype : stored.entryType = entry.entryType)
    (hidentifier : stored.identifier = entry.identifier) :
    key = item.keys.primary ∧ stored = item := by
  obtain ⟨other, hother, hstored⟩ := honly.listed hget
  have hsame : other = entry := by
    apply hdistinct.eq_of_mem hother hentry
    · rw [← entryType_of_item hstored, htype]
    · rw [← identifier_of_item hstored, hidentifier]
  rw [hsame, hitem] at hstored
  cases hstored
  exact ⟨(honly.consistent.filed hget).symm, rfl⟩

/-- One delivery settles its entry and takes nothing away. -/
theorem deliver (honly : HoldsOnly entries store) (hdistinct : AreDistinct entries)
    (hentry : entry ∈ entries) (hitem : entry.item = .ok item) {event : Json}
    (hevent : Delivery.entryOf event = .ok entry) :
    ∃ (delivery : Delivery) (next : MemoryStore),
      asEntryStore.deliver event store = (.ok delivery, next) ∧ delivery.IsSettled ∧
      HoldsOnly entries next ∧ next.get? item.keys.primary = some item ∧
      ∀ key stored, store.get? key = some stored → next.get? key = some stored := by
  cases htaken : store.isTaken item with
  | false =>
    have hcreate := create_of_free hitem htaken
    refine ⟨_, _, deliver_of_created hevent hcreate, trivial, ?_, ?_, ?_⟩
    · refine ⟨honly.consistent.file hitem htaken, ?_⟩
      intro key stored hget
      rw [get?_file] at hget
      split at hget
      next =>
        cases hget
        exact ⟨entry, hentry, hitem⟩
      next => exact honly.listed hget
    · rw [get?_file, if_pos rfl]
    · intro key stored hget
      rw [get?_file, if_neg, hget]
      rintro rfl
      rw [(isTaken_eq_false.1 htaken).1] at hget
      cases hget
  | true =>
    obtain ⟨key, stored, hget, htype, hidentifier⟩ := (honly.consistent.isTaken_iff hitem).1 htaken
    obtain ⟨rfl, rfl⟩ := honly.eq_of_get? hdistinct hentry hitem hget htype hidentifier
    have hdeliver := deliver_of_stored hevent hitem hget
    exact ⟨_, _, hdeliver, trivial, honly, hget, fun _ _ h => h⟩

/-- The step above, event after event: every delivery settles, and what was delivered or stored
before is stored in the end. -/
theorem deliveries (hdistinct : AreDistinct entries)
    (hitems : ∀ entry ∈ entries, ∃ item, entry.item = .ok item) (events : List Json)
    (hevents : ∀ event ∈ events, ∃ entry ∈ entries, Delivery.entryOf event = .ok entry)
    (honly : HoldsOnly entries store) :
    let outcome := asEntryStore.history (events.map .deliver) store
    (∀ event ∈ outcome.1, ∃ delivery, event.reply = .delivered (.ok delivery) ∧
      delivery.IsSettled) ∧
      HoldsOnly entries outcome.2 ∧
      (∀ event ∈ events, ∀ entry item, Delivery.entryOf event = .ok entry →
        entry.item = .ok item → outcome.2.get? item.keys.primary = some item) ∧
      ∀ key stored, store.get? key = some stored → outcome.2.get? key = some stored := by
  induction events generalizing store with
  | nil => exact ⟨List.forall_mem_nil _, honly, List.forall_mem_nil _, fun _ _ hget => hget⟩
  | cons event events ih =>
    obtain ⟨⟨entry, hentry, hevent⟩, hlater⟩ := List.forall_mem_cons.1 hevents
    obtain ⟨item, hitem⟩ := hitems entry hentry
    obtain ⟨delivery, next, hdeliver, hsettled, hnext, hstored, hkept⟩ :=
      honly.deliver hdistinct hentry hitem hevent
    have hperform : asEntryStore.perform (.deliver event) store =
        (.delivered (.ok delivery), next) := by
      simp only [EntryStore.perform, bind, StateT.bind, hdeliver]
      rfl
    obtain ⟨hreplies, hfinal, hdelivered, hkeptLater⟩ := ih hlater hnext
    rw [List.map_cons, history_cons, hperform]
    refine ⟨?_, hfinal, ?_, ?_⟩
    · exact List.forall_mem_cons.2 ⟨⟨delivery, rfl, hsettled⟩, hreplies⟩
    · refine List.forall_mem_cons.2 ⟨?_, hdelivered⟩
      intro other otherItem hother hotherItem
      rw [hevent] at hother
      cases hother
      rw [hitem] at hotherItem
      cases hotherItem
      exact hkeptLater _ _ hstored
    · exact fun key stored hget => hkeptLater key stored (hkept key stored hget)

end HoldsOnly

end MemoryStore

end Intake
