import Intake.Proofs.Key.Partition
import Intake.Proofs.Store.Consistency
import Intake.Proofs.Text.Upper

/-!
# Which spellings lead to the partition of a status

A partition is made from the upper-case form of a status in full, while a status is read in any case
of its ASCII letters.  The two differ for the dotless i and the long s alone: a text leads to the
partition of a status exactly when it spells the status once these are read as the ASCII letters.
-/

namespace Intake

/-- Spellings in the same letters are spellings of the same status. -/
theorem Status.parse_of_sameLetters {σ : Type} [Status σ] {text other : String} {status : σ}
    (hsame : sameLetters (Text.trim text) (Text.trim other) = true)
    (hparse : parse other = .ok status) : parse text = .ok status := by
  unfold parse at hparse ⊢
  unfold sameLetters at hsame hparse ⊢
  rw [beq_iff_eq.1 hsame]
  split at hparse
  next => exact hparse
  next => cases hparse

namespace EntryStatus

theorem letterwise_upper (status : EntryStatus) :
    Text.Upper.Letterwise (Text.upper status.name).toList := by
  have hall : ∀ text ∈ all.map fun status => Text.upper status.name,
      Text.Upper.Letterwise text.toList := by
    rw [map_upper_all]
    decide +kernel
  exact hall _ (List.mem_map_of_mem (mem_all status))

theorem trim_name (status : EntryStatus) : Text.trim status.name = status.name := by
  have hall : ∀ status ∈ all, Text.trim status.name = status.name := by decide +kernel
  exact hall status (mem_all status)

theorem plain_name (status : EntryStatus) : Text.plain status.name = status.name := by
  have hall : ∀ status ∈ all, Text.plain status.name = status.name := by decide +kernel
  exact hall status (mem_all status)

/-- A text with the upper-case form of a status spells it, but for the dotless i and the long s. -/
theorem sameLetters_of_upper {status : EntryStatus} {text : String}
    (hupper : Text.upper text = Text.upper status.name) :
    sameLetters (Text.plain text) status.name = true := by
  have hword := status.letterwise_upper
  have hletters : ∀ other : String, Text.upper other = Text.upper status.name →
      (Text.plain other).toList.map Char.toLower =
        (Text.upper status.name).toList.map Char.toLower := by
    intro other hother
    rw [Text.plain, String.toList_ofList]
    apply Text.Upper.map_toLower_of_upper hword
    rw [← hother, Text.upper, String.toList_ofList]
  have hname := hletters status.name rfl
  rw [plain_name] at hname
  rw [sameLetters, beq_iff_eq, hletters text hupper, hname]

end EntryStatus

namespace EntryType

theorem parseStatus_of_sameLetters {t : EntryType} {text other : String} {status : EntryStatus}
    (hsame : sameLetters (Text.trim text) (Text.trim other) = true)
    (hparse : t.parseStatus other = .ok status) : t.parseStatus text = .ok status := by
  cases t
  all_goals
    obtain ⟨s, hs, rfl⟩ := map_eq_ok_iff.1 hparse
    exact map_eq_ok_iff.2 ⟨s, Status.parse_of_sameLetters hsame hs, rfl⟩

end EntryType

namespace Entry

variable {entry : Entry} {keys : KeySet}

/-- The name of its status spells the status of an entry. -/
theorem parseStatus_name (entry : Entry) :
    entry.entryType.parseStatus entry.status.name = .ok entry.status := by
  obtain ⟨metadata, content⟩ := entry
  cases content with
  | resource r => exact map_eq_ok_iff.2 ⟨r.status, ResourceStatus.parse_name _, rfl⟩
  | doiRequest t _ => exact map_eq_ok_iff.2 ⟨t.status, TicketStatus.parse_name _, rfl⟩
  | publishingRequest t _ => exact map_eq_ok_iff.2 ⟨t.status, TicketStatus.parse_name _, rfl⟩
  | approvalRequest t _ => exact map_eq_ok_iff.2 ⟨t.status, TicketStatus.parse_name _, rfl⟩
  | message m => exact map_eq_ok_iff.2 ⟨m.status, MessageStatus.parse_name _, rfl⟩

theorem parseStatus_plain_iff (entry : Entry) (text : String) :
    entry.entryType.parseStatus (Text.plain text) = .ok entry.status ↔
      Text.upper (Text.trim text) = Text.upper entry.status.name := by
  constructor
  · intro hparse
    rw [← EntryType.upper_of_parseStatus hparse, Text.trim_plain, Text.upper_plain]
  · intro hupper
    apply EntryType.parseStatus_of_sameLetters _ entry.parseStatus_name
    rw [Text.trim_plain, EntryStatus.trim_name]
    exact EntryStatus.sameLetters_of_upper hupper

end Entry

theorem Key.customerStatusPartition_eq_iff {t : EntryType} {customerId text : String}
    {status : EntryStatus} (hcustomer : holdsDelimiter customerId = false) :
    customerStatusPartition t customerId text =
        .ok (ofCustomerStatus t customerId (Text.upper status.name)) ↔
      Text.upper (Text.trim text) = Text.upper status.name := by
  rw [customerStatusPartition, checked_of_free hcustomer, ok_bind]
  constructor
  · intro hok
    obtain ⟨spelled, hspelled, heq⟩ := bind_eq_ok_iff.1 hok
    obtain ⟨rfl, hfree⟩ := checked_eq_ok hspelled
    exact (labelled_injective hcustomer (by decide) hfree hcustomer status.holdsDelimiter_upper
      (Except.ok.inj heq)).2.2
  · intro hupper
    rw [hupper, checked_of_free status.holdsDelimiter_upper, ok_bind, pure_eq_ok]

namespace Entry

variable {entry : Entry} {keys : KeySet} {customerId : String}

theorem statusPartition_eq_iff (hkeys : entry.keys = .ok keys)
    (hcustomer : entry.metadata.customerId = some customerId) (text : String) :
    Key.customerStatusPartition entry.entryType customerId text =
        .ok keys.byCustomerStatus.partitionKey ↔
      Text.upper (Text.trim text) = Text.upper entry.status.name := by
  obtain ⟨ownCustomerId, -, hown, -, hfree, -, -, hstatus, -⟩ := keys_eq_ok hkeys
  rw [hcustomer] at hown
  cases hown
  rw [hstatus, statusName_eq, Key.customerStatusPartition_eq_iff hfree]

/-- A text leads to the partition of an entry exactly when it spells the status of the entry, with
the dotless i and the long s read as ASCII letters.  What spells the status as it stands does so
too, and a text without these two letters does so only then. -/
theorem statusPartition_iff (hkeys : entry.keys = .ok keys)
    (hcustomer : entry.metadata.customerId = some customerId) (text : String) :
    let leads := Key.customerStatusPartition entry.entryType customerId text =
      .ok keys.byCustomerStatus.partitionKey
    (leads ↔ entry.entryType.parseStatus (Text.plain text) = .ok entry.status) ∧
    (entry.entryType.parseStatus text = .ok entry.status → leads) ∧
    ('\u0131' ∉ text.toList → '\u017F' ∉ text.toList →
      (leads ↔ entry.entryType.parseStatus text = .ok entry.status)) := by
  intro leads
  have hleads : leads ↔ entry.entryType.parseStatus (Text.plain text) = .ok entry.status := by
    rw [parseStatus_plain_iff]
    exact statusPartition_eq_iff hkeys hcustomer text
  refine ⟨hleads, ?_, ?_⟩
  · intro hparse
    exact (statusPartition_eq_iff hkeys hcustomer text).2 (EntryType.upper_of_parseStatus hparse)
  · intro hdotless hlong
    rw [hleads, Text.plain_eq_self hdotless hlong]

theorem exists_keys_bareResource :
    ∃ keys, (MemoryStore.bareResource (some "owner@1")).keys = .ok keys := by
  obtain ⟨item, hitem⟩ := MemoryStore.exists_item_bareResource
  obtain ⟨keys, hkeys, -⟩ := item_eq_ok_iff.1 hitem
  exact ⟨keys, hkeys⟩

/-- A long s, blanks and mixed case lead to the partition of the published resources. -/
theorem statusPartition_iff_long :
    let entry := MemoryStore.bareResource (some "owner@1")
    ∃ keys, entry.keys = .ok keys ∧ entry.metadata.customerId = some "customer-1" ∧
      Key.customerStatusPartition .resource "customer-1" " publi\u017FHED\n" =
        .ok keys.byCustomerStatus.partitionKey := by
  obtain ⟨keys, hkeys⟩ := exists_keys_bareResource
  have hplain : EntryType.resource.parseStatus (Text.plain " publi\u017FHED\n") =
      .ok (.resource .published) := rfl
  exact ⟨keys, hkeys, rfl, (statusPartition_iff hkeys rfl _).1.2 hplain⟩

/-- With a dotless i the partition is found, but no status is read. -/
theorem statusPartition_dotless :
    let entry := MemoryStore.bareResource (some "owner@1")
    ∃ keys, entry.keys = .ok keys ∧ entry.metadata.customerId = some "customer-1" ∧
      Key.customerStatusPartition entry.entryType "customer-1" "publ\u0131shed" =
        .ok keys.byCustomerStatus.partitionKey ∧
      entry.entryType.parseStatus "publ\u0131shed" ≠ .ok entry.status := by
  obtain ⟨keys, hkeys⟩ := exists_keys_bareResource
  have hrefused : EntryType.resource.parseStatus "publ\u0131shed" =
      .error ⟨"resource", "publ\u0131shed"⟩ := rfl
  have hupper : Text.upper (Text.trim "publ\u0131shed") = Text.upper "Published" := by
    decide +kernel
  refine ⟨keys, hkeys, rfl, (statusPartition_eq_iff hkeys rfl _).2 hupper, ?_⟩
  intro hparse
  cases hrefused.symm.trans hparse

end Entry

end Intake
