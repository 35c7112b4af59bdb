import Intake.Proofs.Entry.Spelling
import Intake.Proofs.Key.Injective

/-!
# What a partition key tells

The key of a partition can be made from every combination of components without the delimiter, and
it gives them back.  The partition of a status depends on the status alone, not on its spelling.
The start of a sort key tells the type of its entry.  No key of an entry is a reservation.
-/

namespace Intake.Key

variable {t s : EntryType} {customerId otherCustomerId : String}

section Labelled

variable {label value otherValue : String} (hcustomer : holdsDelimiter customerId = false)
  (hlabel : holdsDelimiter label = false) (hvalue : holdsDelimiter value = false)

include hcustomer hlabel hvalue

theorem free_labelled (t : EntryType) :
    ∀ component ∈ [t.name, "Customer", customerId, label, value],
      holdsDelimiter component = false := by
  simp only [List.forall_mem_cons]
  exact ⟨holdsDelimiter_name t, by decide, hcustomer, hlabel, hvalue, List.forall_mem_nil _⟩

/-- The partitions of owners and of statuses differ in their label only. -/
theorem labelled_injective (hotherCustomer : holdsDelimiter otherCustomerId = false)
    (hotherValue : holdsDelimiter otherValue = false)
    (heq : join [t.name, "Customer", customerId, label, value] =
      join [s.name, "Customer", otherCustomerId, label, otherValue]) :
    t = s ∧ customerId = otherCustomerId ∧ value = otherValue := by
  have hlist := join_injective (List.cons_ne_nil _ _) (List.cons_ne_nil _ _)
    (free_labelled hcustomer hlabel hvalue t) (free_labelled hotherCustomer hlabel hotherValue s)
    heq
  simp only [List.cons.injEq, and_true, true_and] at hlist
  exact ⟨name_injective hlist.1, hlist.2⟩

end Labelled

section Owner

variable {owner otherOwner : String} (hcustomer : holdsDelimiter customerId = false)
  (howner : holdsDelimiter owner = false)

include hcustomer howner

theorem ownerPartition_of_free (t : EntryType) :
    ownerPartition t customerId owner = .ok (ofOwner t customerId owner) := by
  rw [ownerPartition, checked_of_free hcustomer, checked_of_free howner, ok_bind, ok_bind,
    pure_eq_ok]

theorem ofOwner_injective (hotherCustomer : holdsDelimiter otherCustomerId = false)
    (hotherOwner : holdsDelimiter otherOwner = false)
    (heq : ofOwner t customerId owner = ofOwner s otherCustomerId otherOwner) :
    t = s ∧ customerId = otherCustomerId ∧ owner = otherOwner :=
  labelled_injective hcustomer (by decide) howner hotherCustomer hotherOwner heq

/-- A reservation has fewer components than the partition of an owner. -/
theorem ofOwner_ne_reservation (identifier : Identifier) :
    ofOwner t customerId owner ≠ (reservation s identifier.text).partitionKey := by
  intro heq
  have hlist := join_injective (List.cons_ne_nil _ _) (List.cons_ne_nil _ _)
    (free_labelled hcustomer (by decide) howner t) ?_ heq
  · have hlength : 5 = 3 := congrArg List.length hlist
    exact absurd hlength (by decide)
  · simp only [List.forall_mem_cons]
    exact ⟨by decide, holdsDelimiter_name s, identifier.no_delimiter, List.forall_mem_nil _⟩

end Owner

section Status

variable {status otherStatus : EntryStatus}

/-- Every spelling of a status leads to the partition of the status. -/
theorem customerStatusPartition_of_parse {text : String}
    (hcustomer : holdsDelimiter customerId = false) (hparse : t.parseStatus text = .ok status) :
    customerStatusPartition t customerId text =
      .ok (ofCustomerStatus t customerId (Text.upper status.name)) := by
  rw [customerStatusPartition, EntryType.upper_of_parseStatus hparse, checked_of_free hcustomer,
    checked_of_free status.holdsDelimiter_upper, ok_bind, ok_bind, pure_eq_ok]

theorem ofCustomerStatus_injective (hcustomer : holdsDelimiter customerId = false)
    (hotherCustomer : holdsDelimiter otherCustomerId = false)
    (heq : ofCustomerStatus t customerId (Text.upper status.name) =
      ofCustomerStatus s otherCustomerId (Text.upper otherStatus.name)) :
    t = s ∧ customerId = otherCustomerId ∧ status = otherStatus := by
  obtain ⟨htype, hcustomers, hupper⟩ := labelled_injective hcustomer (by decide)
    status.holdsDelimiter_upper hotherCustomer otherStatus.holdsDelimiter_upper heq
  exact ⟨htype, hcustomers, EntryStatus.upper_injective hupper⟩

end Status

theorem ofResource_injective {a b : Identifier} (heq : ofResource a.text = ofResource b.text) :
    a = b :=
  (ofEntry_injective heq).2

/-- The sort keys that start as those of a type are the sort keys of its entries. -/
theorem sortKeyStart_prefix_iff {identifier : Identifier} :
    (sortKeyStart t).toList <+: (ofEntry s identifier.text).toList ↔ s = t := by
  have hstart : (sortKeyStart t).toList = t.name.toList ++ [keyDelimiter] := by
    rw [sortKeyStart, String.toList_append, String.toList_singleton]
  have hkey : (ofEntry s identifier.text).toList =
      s.name.toList ++ keyDelimiter :: identifier.text.toList := by
    rw [ofEntry, join, String.toList_intercalate, String.toList_singleton]
    simp [List.intercalate]
  rw [hstart, hkey]
  constructor
  · rintro ⟨rest, hsplit⟩
    have hname : keyDelimiter ∉ s.name.toList := by
      simpa [holdsDelimiter] using holdsDelimiter_name s
    have hidentifier : keyDelimiter ∉ identifier.text.toList := by
      simpa [holdsDelimiter] using identifier.no_delimiter
    rw [List.append_assoc, List.singleton_append, eq_comm,
      List.append_cons_inj_of_notMem hname hidentifier] at hsplit
    exact name_injective (String.toList_inj.1 hsplit.1)
  · rintro rfl
    exact ⟨identifier.text.toList, by rw [List.append_assoc, List.singleton_append]⟩

end Intake.Key

namespace Intake.Entry

/-- No entry is filed under a reservation. -/
theorem reservation_ne_primary {entry : Entry} {keys : KeySet} (hkeys : entry.keys = .ok keys)
    (t : EntryType) (identifier : Identifier) :
    Key.reservation t identifier.text ≠ keys.primary := by
  obtain ⟨customerId, owner, -, -, hcustomer, howner, hprimary, -, -⟩ := keys_eq_ok hkeys
  rw [hprimary]
  intro heq
  exact Key.ofOwner_ne_reservation hcustomer howner identifier
    (congrArg KeyPair.partitionKey heq).symm

end Intake.Entry
