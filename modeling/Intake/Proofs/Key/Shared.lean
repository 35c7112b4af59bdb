import Intake.Proofs.Key.Partition
import Intake.Proofs.Store.Queries

/-!
# Which entries share a key

Every component is free of the delimiter before it is joined to others, so a key gives its
components back, and two entries share a key exactly when they agree in all components of it.  No
entry is filed under the reservation of another: the partition of an owner has more components.
-/

namespace Intake

namespace Key

variable {t s : EntryType} {a b : Identifier}

theorem ofEntry_inj : ofEntry t a.text = ofEntry s b.text ↔ t = s ∧ a = b := by
  constructor
  · exact ofEntry_injective
  · rintro ⟨rfl, rfl⟩
    rfl

theorem reservation_inj : reservation t a.text = reservation s b.text ↔ t = s ∧ a = b := by
  constructor
  · exact reservation_injective
  · rintro ⟨rfl, rfl⟩
    rfl

end Key

namespace Entry

variable {entry other : Entry} {keys otherKeys : KeySet}

section

variable (hkeys : entry.keys = .ok keys) (hother : other.keys = .ok otherKeys)

include hkeys hother

theorem primary_eq_iff : keys.primary = otherKeys.primary ↔
    entry.entryType = other.entryType ∧ entry.metadata.customerId = other.metadata.customerId ∧
      entry.metadata.owner = other.metadata.owner ∧ entry.identifier = other.identifier := by
  obtain ⟨customerId, owner, hcustomer, howner, hcustomerFree, hownerFree, hprimary, -, -⟩ :=
    keys_eq_ok hkeys
  obtain ⟨otherCustomerId, otherOwner, hotherCustomer, hotherOwner, hotherCustomerFree,
    hotherOwnerFree, hotherPrimary, -, -⟩ := keys_eq_ok hother
  rw [hprimary, hotherPrimary, KeyPair.mk.injEq, Key.ofEntry_inj, hcustomer, hotherCustomer, howner,
    hotherOwner, Option.some_inj, Option.some_inj]
  constructor
  · rintro ⟨hpartition, htype, hidentifier⟩
    obtain ⟨-, hcustomers, howners⟩ := Key.ofOwner_injective hcustomerFree hownerFree
      hotherCustomerFree hotherOwnerFree hpartition
    exact ⟨htype, hcustomers, howners, hidentifier⟩
  · rintro ⟨htype, rfl, rfl, hidentifier⟩
    exact ⟨by rw [htype], htype, hidentifier⟩

theorem byCustomerStatus_eq_iff : keys.byCustomerStatus = otherKeys.byCustomerStatus ↔
    entry.entryType = other.entryType ∧ entry.metadata.customerId = other.metadata.customerId ∧
      entry.status = other.status ∧ entry.identifier = other.identifier := by
  obtain ⟨customerId, -, hcustomer, -, hcustomerFree, -, -, hstatus, -⟩ := keys_eq_ok hkeys
  obtain ⟨otherCustomerId, -, hotherCustomer, -, hotherCustomerFree, -, -, hotherStatus, -⟩ :=
    keys_eq_ok hother
  rw [hstatus, hotherStatus, KeyPair.mk.injEq, Key.ofEntry_inj, hcustomer, hotherCustomer,
    Option.some_inj, statusName_eq, statusName_eq]
  constructor
  · rintro ⟨hpartition, htype, hidentifier⟩
    obtain ⟨-, hcustomers, hstatuses⟩ :=
      Key.ofCustomerStatus_injective hcustomerFree hotherCustomerFree hpartition
    exact ⟨htype, hcustomers, hstatuses, hidentifier⟩
  · rintro ⟨htype, rfl, hstatuses, hidentifier⟩
    exact ⟨by rw [htype, hstatuses], htype, hidentifier⟩

theorem byResource_eq_iff :
    (∃ key, keys.byResource = some key ∧ otherKeys.byResource = some key) ↔
      (∃ resource, entry.about = some resource ∧ other.about = some resource) ∧
        entry.entryType = other.entryType ∧ entry.identifier = other.identifier := by
  obtain ⟨-, -, -, -, -, -, -, -, hresource⟩ := keys_eq_ok hkeys
  obtain ⟨-, -, -, -, -, -, -, -, hotherResource⟩ := keys_eq_ok hother
  simp only [hresource, hotherResource, Option.map_eq_some_iff]
  constructor
  · rintro ⟨_, ⟨resource, habout, rfl⟩, otherResource, hotherAbout, heq⟩
    obtain ⟨hpartition, hsort⟩ := KeyPair.mk.inj heq
    obtain ⟨htype, hidentifier⟩ := Key.ofEntry_injective hsort
    rw [Key.ofResource_injective hpartition] at hotherAbout
    exact ⟨⟨resource, habout, hotherAbout⟩, htype.symm, hidentifier.symm⟩
  · rintro ⟨⟨resource, habout, hotherAbout⟩, htype, hidentifier⟩
    exact ⟨_, ⟨resource, habout, rfl⟩, resource, hotherAbout, by rw [htype, hidentifier]⟩

end

/-- What the keys of two entries tell about the entries. -/
structure KeysTell (entry other : Entry) (keys otherKeys : KeySet) : Prop where
  primary_iff : keys.primary = otherKeys.primary ↔
    entry.entryType = other.entryType ∧ entry.metadata.customerId = other.metadata.customerId ∧
      entry.metadata.owner = other.metadata.owner ∧ entry.identifier = other.identifier
  byCustomerStatus_iff : keys.byCustomerStatus = otherKeys.byCustomerStatus ↔
    entry.entryType = other.entryType ∧ entry.metadata.customerId = other.metadata.customerId ∧
      entry.status = other.status ∧ entry.identifier = other.identifier
  /-- Both have a key in the index by resource, and it is the same. -/
  byResource_iff : (∃ key, keys.byResource = some key ∧ otherKeys.byResource = some key) ↔
    (∃ resource, entry.about = some resource ∧ other.about = some resource) ∧
      entry.entryType = other.entryType ∧ entry.identifier = other.identifier
  reservation_iff : Key.reservation entry.entryType entry.identifier.text =
      Key.reservation other.entryType other.identifier.text ↔
    entry.entryType = other.entryType ∧ entry.identifier = other.identifier
  /-- Neither is filed where the other reserves its identifier. -/
  apart : Key.reservation entry.entryType entry.identifier.text ≠ otherKeys.primary ∧
    Key.reservation other.entryType other.identifier.text ≠ keys.primary

/-- Whatever texts their components are, keys are shared by those entries only that agree in the
components. -/
theorem keys_injective (hkeys : entry.keys = .ok keys) (hother : other.keys = .ok otherKeys) :
    KeysTell entry other keys otherKeys where
  primary_iff := primary_eq_iff hkeys hother
  byCustomerStatus_iff := byCustomerStatus_eq_iff hkeys hother
  byResource_iff := byResource_eq_iff hkeys hother
  reservation_iff := Key.reservation_inj
  apart := ⟨reservation_ne_primary hother _ _, reservation_ne_primary hkeys _ _⟩

/-- A message and a request that differ in nothing but their type and status. -/
theorem keys_injective_note :
    let note := MemoryStore.note
    let request := { note with
      content := .approvalRequest ⟨.new, (MemoryStore.bareResource none).identifier⟩ none }
    ∃ keys otherKeys, note.keys = .ok keys ∧ request.keys = .ok otherKeys ∧
      note.about = request.about ∧ note.identifier = request.identifier ∧
        KeysTell note request keys otherKeys :=
  ⟨_, _, rfl, rfl, rfl, rfl, keys_injective rfl rfl⟩

end Entry

end Intake
