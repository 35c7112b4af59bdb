import Intake.Proofs.Store.Agreement
import Intake.Proofs.Table.Mirror
import Intake.Proofs.Table.Pages

/-!
# The store in the table agrees with the store in memory

A write of the table is carried out exactly when the condition of the write in memory holds, and then
changes the rows as that changes the items and the reservations.  So whatever clients do, both stores
reply the same, and the table holds nothing but the rows of what is stored.
-/

namespace Intake.Table

open Test (textAt?)

/-- The service holds what is stored, and no listing of it has as many pages as a limit. -/
structure Mirrors (pageLimit : Nat) (service : Service) (store : MemoryStore) : Prop where
  consistent : store.Consistent
  rows : ∀ key, service.rows.get? key = store.row? key
  cuts : ∀ sizes ∈ service.cuts, sizes.length < pageLimit

section Writes

variable {rows : Rows}

theorem allowed_of_condition (key : KeyPair) (row : Option AttributeMap)
    (condition : Expression) :
    Write.allowed? rows ⟨key, row, some condition⟩ = condition.holds? (rows.get? key) := rfl

theorem transact_of_writes {actions : List Action} {writes : List Write} {allowed : List Bool}
    (hwrites : actions.mapM Action.write? = some writes)
    (hallowed : writes.mapM (Write.allowed? rows) = some allowed)
    (hkeys : (writes.map Write.key).Nodup) :
    transact rows actions =
      if allowed.all id then (.done default, writes.foldl Write.apply rows)
      else (.refused "TransactionCanceledException" (allowed.map (some ∘ reason)), rows) := by
  simp only [transact, hwrites, hallowed, hkeys, not_true_eq_false, if_false]

/-- A transaction that is cancelled by the service is known by its reasons. -/
theorem isConditionCancellation_reasons {allowed : List Bool} (hall : allowed.all id = false) :
    isConditionCancellation
      (.refused "TransactionCanceledException" (allowed.map (some ∘ reason))) = true := by
  obtain ⟨result, hresult, hfalse⟩ := List.all_eq_false.1 hall
  have hreason : some "ConditionalCheckFailed" ∈ allowed.map (some ∘ reason) := by
    refine List.mem_map.2 ⟨result, hresult, ?_⟩
    cases result with
    | true => exact absurd rfl hfalse
    | false => rfl
  simpa [isConditionCancellation] using hreason

theorem write_transact {actions : List Action} {writes : List Write} {allowed : List Bool}
    {service : Service} {refusal : StoreError}
    (hwrites : actions.mapM Action.write? = some writes)
    (hallowed : writes.mapM (Write.allowed? service.rows) = some allowed)
    (hkeys : (writes.map Write.key).Nodup) :
    write Service.answer (.transact actions) isConditionCancellation refusal service =
      if allowed.all id then (.ok (), { service with rows := writes.foldl Write.apply service.rows })
      else (.error refusal, service) := by
  simp only [write, bind, StateT.bind, Service.answer, transact_of_writes hwrites hallowed hkeys]
  cases hall : allowed.all id with
  | true => rfl
  | false =>
    simp only [Bool.false_eq_true, if_false, isDone, isConditionCancellation_reasons hall]
    rfl

end Writes

namespace Mirrors

variable {pageLimit : Nat} {service : Service} {store : MemoryStore}
variable {entry : Entry} {item : Item}

theorem allowed_absent (hmirrors : Mirrors pageLimit service store) (key : KeyPair)
    (row : AttributeMap) :
    Write.allowed? service.rows ⟨key, some row, some Condition.absent.expression⟩ =
      some (store.row? key).isNone := by
  rw [allowed_of_condition, holds?_absent, hmirrors.rows]
  cases hrow : store.row? key with
  | none => rfl
  | some row =>
    obtain ⟨item, -, rfl⟩ | ⟨primary, item, -, -, rfl⟩ := hmirrors.consistent.of_row? hrow
    · have hlook : (ofItem item).lookup Attribute.partitionKey =
          some (.text item.keys.primary.partitionKey) :=
        textAt?_eq_some.1 (textAt?_partition item .primary)
      rw [Option.bind_some, hlook]
      rfl
    · rfl

/-- The version that a condition asks for under a primary key is that of the item stored there. -/
theorem version_row? (hmirrors : Mirrors pageLimit service store) (hitem : entry.item = .ok item)
    (expected : RowVersion) :
    ((service.rows.get? item.keys.primary).bind (textAt? · Attribute.rowVersion) ==
        some expected.token) = store.holdsVersion item.keys.primary expected := by
  rw [hmirrors.rows, hmirrors.consistent.row?_primary hitem, MemoryStore.holdsVersion,
    MemoryStore.get?]
  cases store.items.get? item.keys.primary with
  | none => rfl
  | some stored =>
    rw [Option.map_some, Option.bind_some, textAt?_rowVersion]
    obtain ⟨token⟩ := expected
    obtain ⟨keys, entryType, identifier, ⟨storedToken⟩, data⟩ := stored
    rw [Bool.eq_iff_iff]
    simp

theorem allowed_versionIs (hmirrors : Mirrors pageLimit service store)
    (hitem : entry.item = .ok item) (expected : RowVersion) :
    Write.allowed? service.rows
        ⟨item.keys.primary, none, some (Condition.versionIs expected).expression⟩ =
      some (store.holdsVersion item.keys.primary expected) := by
  rw [allowed_of_condition, holds?_versionIs, hmirrors.version_row? hitem]

theorem allowed_presentWithVersion (hmirrors : Mirrors pageLimit service store)
    (hitem : entry.item = .ok item) (expected : RowVersion) :
    Write.allowed? service.rows ⟨item.keys.primary, some (ofItem item),
        some (Condition.presentWithVersion expected).expression⟩ =
      some (store.holdsVersion item.keys.primary expected) := by
  rw [allowed_of_condition, holds?_presentWithVersion, hmirrors.version_row? hitem]
  cases hversion : store.holdsVersion item.keys.primary expected with
  | false => rw [Bool.and_false]
  | true =>
    obtain ⟨stored, hget, -⟩ := MemoryStore.holdsVersion_iff.1 hversion
    have hlook : (ofItem stored).lookup Attribute.partitionKey =
        some (.text stored.keys.primary.partitionKey) :=
      textAt?_eq_some.1 (textAt?_partition stored .primary)
    rw [hmirrors.rows, hmirrors.consistent.row?_primary hitem, hget, Option.map_some,
      Option.bind_some, hlook]
    rfl

theorem isTaken_eq_row? (hmirrors : Mirrors pageLimit service store)
    (hitem : entry.item = .ok item) :
    store.isTaken item =
      !((store.row? item.keys.primary).isNone && (store.row? item.reservation).isNone) := by
  have hreservation : (store.row? item.reservation).isNone =
      (store.reservations.get? item.reservation).isNone := by
    rw [Bool.eq_iff_iff, Option.isNone_iff_eq_none, Option.isNone_iff_eq_none,
      hmirrors.consistent.row?_reservation_eq_none]
  rw [hreservation, hmirrors.consistent.row?_primary hitem, MemoryStore.isTaken,
    SortedMap.contains, SortedMap.contains, MemoryStore.get?]
  cases store.items.get? item.keys.primary <;> cases store.reservations.get? item.reservation <;>
    rfl

theorem putIfAbsent (hmirrors : Mirrors pageLimit service store) (hitem : entry.item = .ok item) :
    Table.putIfAbsent Service.answer item service =
      if store.isTaken item then (.error (.alreadyExists item.keys.primary), service)
      else (.ok (), { service with
        rows := (service.rows.insert item.keys.primary (ofItem item)).insert item.reservation
          (guardOf item) }) := by
  have hwrites : [Action.put (ofItem item) .absent, .put (guardOf item) .absent].mapM
      Action.write? = some
        [⟨item.keys.primary, some (ofItem item), some Condition.absent.expression⟩,
          ⟨item.reservation, some (guardOf item), some Condition.absent.expression⟩] := by
    rw [List.mapM_cons, Action.write?, keyIn?_ofItem]
    rfl
  have hallowed : [Write.mk item.keys.primary (some (ofItem item))
        (some Condition.absent.expression),
      ⟨item.reservation, some (guardOf item), some Condition.absent.expression⟩].mapM
        (Write.allowed? service.rows) =
      some [(store.row? item.keys.primary).isNone, (store.row? item.reservation).isNone] := by
    rw [List.mapM_cons, List.mapM_cons, hmirrors.allowed_absent, hmirrors.allowed_absent]
    rfl
  have hkeys : [item.keys.primary, item.reservation].Nodup := by
    simp [Entry.primary_ne_reservation hitem item]
  rw [Table.putIfAbsent, putIfAbsentRequest, write_transact hwrites hallowed hkeys,
    hmirrors.isTaken_eq_row? hitem]
  simp only [List.all_cons, List.all_nil, Bool.and_true, id]
  cases (store.row? item.keys.primary).isNone && (store.row? item.reservation).isNone <;> rfl

theorem putWithVersion (hmirrors : Mirrors pageLimit service store)
    (hitem : entry.item = .ok item) (expected : RowVersion) :
    Table.putWithVersion Service.answer item expected service =
      if store.holdsVersion item.keys.primary expected then
        (.ok (), { service with rows := service.rows.insert item.keys.primary (ofItem item) })
      else (.error (.concurrentModification item.keys.primary expected), service) := by
  have hwrite : (Action.put (ofItem item) (.presentWithVersion expected)).write? =
      some ⟨item.keys.primary, some (ofItem item),
        some (Condition.presentWithVersion expected).expression⟩ := by
    rw [Action.write?, keyIn?_ofItem]
    rfl
  simp only [Table.putWithVersion, write, bind, StateT.bind, Service.answer, put, hwrite,
    hmirrors.allowed_presentWithVersion hitem]
  cases store.holdsVersion item.keys.primary expected <;> rfl

theorem delete (hmirrors : Mirrors pageLimit service store) (hitem : entry.item = .ok item)
    (expected : RowVersion) :
    Table.delete Service.answer item.keys.primary item.reservation expected service =
      if store.holdsVersion item.keys.primary expected then
        (.ok (), { service with
          rows := (service.rows.erase item.keys.primary).erase item.reservation })
      else (.error (.concurrentModification item.keys.primary expected), service) := by
  have hwrites : [Action.delete item.keys.primary (some (.versionIs expected)),
      .delete item.reservation none].mapM Action.write? = some
        [⟨item.keys.primary, none, some (Condition.versionIs expected).expression⟩,
          ⟨item.reservation, none, none⟩] := rfl
  have hallowed : [Write.mk item.keys.primary none
        (some (Condition.versionIs expected).expression),
      ⟨item.reservation, none, none⟩].mapM (Write.allowed? service.rows) =
      some [store.holdsVersion item.keys.primary expected, true] := by
    rw [List.mapM_cons, hmirrors.allowed_versionIs hitem]
    rfl
  have hkeys : [item.keys.primary, item.reservation].Nodup := by
    simp [Entry.primary_ne_reservation hitem item]
  rw [Table.delete, write_transact hwrites hallowed hkeys]
  simp only [List.all_cons, List.all_nil, Bool.and_true, id]
  cases store.holdsVersion item.keys.primary expected <;> rfl

theorem get (hmirrors : Mirrors pageLimit service store) (hitem : entry.item = .ok item) :
    Table.get Service.answer item.keys.primary service =
      (.ok (store.get? item.keys.primary), service) := by
  have hanswer : Service.answer (.get item.keys.primary) service =
      (.done ⟨store.row? item.keys.primary, [], none⟩, service) := by
    rw [← hmirrors.rows]
    rfl
  simp only [Table.get, bind, StateT.bind, hanswer, hmirrors.consistent.row?_primary hitem]
  cases hget : store.get? item.keys.primary with
  | none => rfl
  | some stored =>
    obtain ⟨storedEntry, -, hstored⟩ := hmirrors.consistent.projected hget
    simp only [Option.map_some, toItem_ofItem hstored]
    rfl

/-! ## Listings -/

/-- A partition that entries are looked for in has no reservation. -/
theorem guardOf_not_listed {index : StoreIndex} {partition : String}
    (hlists : index.Lists partition) (item : Item) :
    textAt? (guardOf item) (partitionAttribute index) ≠ some partition := by
  by_cases hindex : index = .primary
  · subst hindex
    obtain ⟨entryType, customerId, owner, hpartition⟩ := hlists
    intro htext
    exact Key.ownerPartition_ne_reservation hpartition item.identifier (Option.some.inj htext).symm
  · rw [textAt?_partition_guardOf item hindex]
    exact nofun

theorem keyIn?_row (hmirrors : Mirrors pageLimit service store) {key : KeyPair}
    {row : AttributeMap} (hget : service.rows.get? key = some row) : keyIn? row = some key := by
  rw [hmirrors.rows] at hget
  obtain ⟨item, hitem, rfl⟩ | ⟨primary, item, -, rfl, rfl⟩ := hmirrors.consistent.of_row? hget
  · rw [keyIn?_ofItem, hmirrors.consistent.filed hitem]
  · exact keyIn?_guardOf item

/-- No two rows have one place. -/
theorem nodup_places (hmirrors : Mirrors pageLimit service store) (index : StoreIndex)
    (partition : String) :
    ((service.rows.values.filterMap (placed? index partition)).map Prod.fst).Nodup := by
  have hkeys : service.rows.values.Pairwise fun a b => keyIn? a ≠ keyIn? b := by
    rw [SortedMap.values, List.pairwise_map]
    refine service.rows.sorted.imp_of_mem fun {a b} ha hb hlt heq => ?_
    rw [hmirrors.keyIn?_row ((SortedMap.mem_toList_iff _).1 ha),
      hmirrors.keyIn?_row ((SortedMap.mem_toList_iff _).1 hb)] at heq
    exact Entries.ne_of_compare_lt hlt (Option.some.inj heq)
  have hplace : ∀ {row : AttributeMap} {place : Place}, Place.of? index row = some place →
      keyIn? row = some place.key := by
    intro row place hplace
    obtain ⟨sortKey, -, hrest⟩ := Option.bind_eq_some_iff.1 hplace
    obtain ⟨key, hkey, hmk⟩ := Option.bind_eq_some_iff.1 hrest
    cases hmk
    exact hkey
  rw [List.Nodup, List.pairwise_map, List.pairwise_filterMap]
  refine hkeys.imp fun {a b} hne first hfirst second hsecond heq => hne ?_
  rw [hplace (placed?_eq_some.1 hfirst).2.2, hplace (placed?_eq_some.1 hsecond).2.2, heq]

/-- Where the row of a stored item stands in a listing. -/
theorem placed?_ofItem (hmirrors : Mirrors pageLimit service store) {index : StoreIndex}
    {partition : String} {key : KeyPair} {item : Item} (hget : store.get? key = some item)
    (entry : Place × AttributeMap) :
    placed? index partition (ofItem item) = some entry ↔
      (index.keyOf item).map KeyPair.partitionKey = some partition ∧
        (⟨item.keys.primary.sortKey, item.keys.primary⟩, ofItem item) = entry := by
  obtain ⟨stored, -, hitem⟩ := hmirrors.consistent.projected hget
  rw [placed?_eq_some, textAt?_partition, place_ofItem, Prod.ext_iff]
  cases hkey : index.keyOf item with
  | none => simp
  | some indexKey =>
    rw [Option.map_some, Option.map_some, Entry.sortKey_of_keyOf hitem hkey, Option.some.injEq,
      Option.some.injEq]
    tauto

/-- The rows of a listing are the rows of the items that a query lists. -/
theorem listing_eq (hmirrors : Mirrors pageLimit service store) {index : StoreIndex}
    {partition : String} (hlists : index.Lists partition) :
    (listing service.rows index partition).toList.map Prod.snd =
      (store.query index partition).map ofItem := by
  let listed : List (Place × AttributeMap) := (store.query index partition).map fun item =>
    (⟨item.keys.primary.sortKey, item.keys.primary⟩, ofItem item)
  have hsorted : Entries.Sorted listed := by
    refine List.pairwise_map.2 (hmirrors.consistent.pairwise_query.imp fun {a b} hlt => ?_)
    show (compare a.keys.primary.sortKey b.keys.primary.sortKey).then _ = .lt
    rw [hlt]
    rfl
  -- Both lists are sorted by place, so it is enough that they have the same members.
  have hsame : listing service.rows index partition = ⟨listed, hsorted⟩ := by
    apply SortedMap.ext_mem
    intro entry
    show entry ∈ Entries.ofList _ ↔ entry ∈ listed
    rw [Entries.mem_ofList_iff (hmirrors.nodup_places index partition), List.mem_filterMap,
      List.mem_map]
    constructor
    · rintro ⟨row, hrow, hentry⟩
      obtain ⟨key, hget⟩ := (SortedMap.mem_values_iff _).1 hrow
      rw [hmirrors.rows] at hget
      obtain ⟨item, hitem, rfl⟩ | ⟨primary, item, -, -, rfl⟩ := hmirrors.consistent.of_row? hget
      · obtain ⟨hpartition, heq⟩ := (hmirrors.placed?_ofItem hitem entry).1 hentry
        exact ⟨item, MemoryStore.mem_query_iff.2 ⟨⟨key, hitem⟩, hpartition⟩, heq⟩
      · exact absurd (placed?_eq_some.1 hentry).2.1 (guardOf_not_listed hlists item)
    · rintro ⟨item, hmem, heq⟩
      obtain ⟨⟨key, hitem⟩, hpartition⟩ := MemoryStore.mem_query_iff.1 hmem
      refine ⟨ofItem item, (SortedMap.mem_values_iff _).2 ⟨key, ?_⟩,
        (hmirrors.placed?_ofItem hitem entry).2 ⟨hpartition, heq⟩⟩
      rw [hmirrors.rows, MemoryStore.row?, hitem]
  rw [hsame, List.map_map]
  rfl

theorem query (hmirrors : Mirrors pageLimit service store) (hlimit : 0 < pageLimit)
    {index : StoreIndex} {partition : String} (hlists : index.Lists partition) :
    Table.query Service.answer pageLimit index partition service =
      (.ok (store.query index partition), service.turned none []) := by
  have hsizes : (service.sizes none).length < pageLimit := by
    show (service.cuts.headD []).length < pageLimit
    cases hcuts : service.cuts with
    | nil => exact hlimit
    | cons sizes later => exact hmirrors.cuts sizes (hcuts ▸ List.mem_cons_self)
  have hfound : (listing service.rows index partition).toList =
      [] ++ (listing service.rows index partition).toList := (List.nil_append _).symm
  have hpages := queryPages_listing _ _ hsizes service rfl Marks.origin hfound
  have hread : ((store.query index partition).map ofItem).mapM toItem =
      .ok (store.query index partition) := by
    refine mapM_map_eq_ok fun item hmem => ?_
    obtain ⟨⟨key, hget⟩, -⟩ := MemoryStore.mem_query_iff.1 hmem
    obtain ⟨entry, -, hitem⟩ := hmirrors.consistent.projected hget
    exact toItem_ofItem hitem
  rw [hmirrors.listing_eq hlists] at hpages
  simp only [Table.query, bind, StateT.bind, hpages]
  rw [hread]
  rfl

/-! ## Changes -/

theorem file (hmirrors : Mirrors pageLimit service store) (hitem : entry.item = .ok item)
    (hfree : store.isTaken item = false) :
    Mirrors pageLimit
      { service with
        rows := (service.rows.insert item.keys.primary (ofItem item)).insert item.reservation
          (guardOf item) }
      (store.file item) where
  consistent := hmirrors.consistent.file hitem hfree
  rows key := by
    rw [SortedMap.get?_insert, SortedMap.get?_insert, hmirrors.rows,
      hmirrors.consistent.row?_file hitem hfree]
  cuts := hmirrors.cuts

theorem replace (hmirrors : Mirrors pageLimit service store) (hitem : entry.item = .ok item)
    {old : Item} (hold : store.get? item.keys.primary = some old) :
    Mirrors pageLimit
      { service with rows := service.rows.insert item.keys.primary (ofItem item) }
      (store.replace item) where
  consistent := hmirrors.consistent.replace hitem hold
  rows key := by
    rw [SortedMap.get?_insert, hmirrors.rows, hmirrors.consistent.row?_replace hitem hold]
  cuts := hmirrors.cuts

theorem discard (hmirrors : Mirrors pageLimit service store) (hitem : entry.item = .ok item)
    {old : Item} (hold : store.get? item.keys.primary = some old) :
    Mirrors pageLimit
      { service with rows := (service.rows.erase item.keys.primary).erase item.reservation }
      (store.discard item) where
  consistent := hmirrors.consistent.discard hitem hold
  rows key := by
    rw [SortedMap.get?_erase, SortedMap.get?_erase, hmirrors.rows,
      hmirrors.consistent.row?_discard hitem hold]
  cuts := hmirrors.cuts

theorem turned (hmirrors : Mirrors pageLimit service store) :
    Mirrors pageLimit (service.turned none []) store where
  consistent := hmirrors.consistent
  rows := hmirrors.rows
  cuts sizes hsizes := hmirrors.cuts sizes (List.mem_of_mem_tail hsizes)

theorem fresh {cuts : List (List Nat)} (hcuts : ∀ sizes ∈ cuts, sizes.length < pageLimit) :
    Mirrors pageLimit (Service.fresh cuts) .empty where
  consistent := .empty
  rows _ := rfl
  cuts := hcuts

end Mirrors

/-- Request for request, the table does what the store in memory does. -/
theorem mimics {pageLimit : Nat} (hlimit : 0 < pageLimit) :
    EntryStore.Mimics (Mirrors pageLimit) (asEntryStore Service.answer pageLimit)
      MemoryStore.asEntryStore where
  putIfAbsent {entry item} hitem := by
    intro service store hmirrors
    show (Table.putIfAbsent Service.answer item service).1 =
        (store.commit (store.putIfAbsent item)).1 ∧
      Mirrors pageLimit (Table.putIfAbsent Service.answer item service).2
        (store.commit (store.putIfAbsent item)).2 ∧ ∀ key,
          (Table.putIfAbsent Service.answer item service).1 =
            .error (.alreadyExists key) → key = item.keys.primary
    rw [hmirrors.putIfAbsent hitem, MemoryStore.putIfAbsent, ← MemoryStore.isTaken]
    cases htaken : store.isTaken item with
    | true =>
      refine ⟨rfl, hmirrors, fun key herror => ?_⟩
      cases herror
      rfl
    | false =>
      refine ⟨rfl, hmirrors.file hitem htaken, fun key herror => ?_⟩
      cases herror
  putWithVersion {entry item expected} hitem := by
    intro service store hmirrors
    show (Table.putWithVersion Service.answer item expected service).1 =
        (store.commit (store.putWithVersion item expected)).1 ∧
      Mirrors pageLimit (Table.putWithVersion Service.answer item expected service).2
        (store.commit (store.putWithVersion item expected)).2 ∧ True
    rw [hmirrors.putWithVersion hitem, MemoryStore.putWithVersion]
    cases hversion : store.holdsVersion item.keys.primary expected with
    | true =>
      obtain ⟨old, hold, -⟩ := MemoryStore.holdsVersion_iff.1 hversion
      exact ⟨rfl, hmirrors.replace hitem hold, trivial⟩
    | false => exact ⟨rfl, hmirrors, trivial⟩
  get {entry item} hitem := by
    intro service store hmirrors
    show (Table.get Service.answer item.keys.primary service).1 =
        .ok (store.get? item.keys.primary) ∧
      Mirrors pageLimit (Table.get Service.answer item.keys.primary service).2 store ∧ True
    rw [hmirrors.get hitem]
    exact ⟨rfl, hmirrors, trivial⟩
  delete {entry item expected} hitem := by
    intro service store hmirrors
    show (Table.delete Service.answer item.keys.primary item.reservation expected service).1 =
        (store.commit (store.delete item.keys.primary item.reservation expected)).1 ∧
      Mirrors pageLimit
        (Table.delete Service.answer item.keys.primary item.reservation expected service).2
        (store.commit (store.delete item.keys.primary item.reservation expected)).2 ∧ True
    rw [hmirrors.delete hitem, MemoryStore.delete]
    cases hversion : store.holdsVersion item.keys.primary expected with
    | true =>
      obtain ⟨old, hold, -⟩ := MemoryStore.holdsVersion_iff.1 hversion
      exact ⟨rfl, hmirrors.discard hitem hold, trivial⟩
    | false => exact ⟨rfl, hmirrors, trivial⟩
  query {index partition} hlists := by
    intro service store hmirrors
    show (Table.query Service.answer pageLimit index partition service).1 =
        .ok (store.query index partition) ∧
      Mirrors pageLimit (Table.query Service.answer pageLimit index partition service).2 store ∧
        True
    rw [hmirrors.query hlimit hlists]
    exact ⟨rfl, hmirrors.turned, trivial⟩

/-- The rows are those of the stored items and of their reservations, and reservations are never
given out. -/
structure HoldsRowsOf (rows : Rows) (store : MemoryStore) : Prop where
  /-- Every stored item has its row and the row of its reservation. -/
  stored : ∀ key item, store.get? key = some item →
    rows.get? key = some (ofItem item) ∧ rows.get? item.reservation = some (guardOf item)
  /-- There is no other row, in particular no reservation without its item. -/
  only : ∀ key row, rows.get? key = some row →
    (∃ item, store.get? key = some item ∧ row = ofItem item) ∨
      ∃ primary item, store.get? primary = some item ∧ key = item.reservation ∧
        row = guardOf item
  /-- What is found under the primary key of an entry is an item. -/
  found : ∀ (entry : Entry) keys row, entry.keys = .ok keys →
    rows.get? keys.primary = some row →
      ∃ item, store.get? keys.primary = some item ∧ row = ofItem item
  /-- What is listed for a partition of entries is items. -/
  listed : ∀ (index : StoreIndex) partition row, index.Lists partition →
    row ∈ (listing rows index partition).values →
      ∃ key item, store.get? key = some item ∧ row = ofItem item

theorem Mirrors.holdsRowsOf {pageLimit : Nat} {service : Service} {store : MemoryStore}
    (hmirrors : Mirrors pageLimit service store) : HoldsRowsOf service.rows store where
  stored key item hget := by
    obtain ⟨entry, -, hitem⟩ := hmirrors.consistent.projected hget
    rw [hmirrors.rows, hmirrors.rows, MemoryStore.row?, MemoryStore.row?, hget,
      hmirrors.consistent.get?_reservation, hmirrors.consistent.guarded hget]
    simp only [Option.bind_some, hget, Option.map_some, and_self]
  only key row hget := by
    rw [hmirrors.rows] at hget
    exact hmirrors.consistent.of_row? hget
  found entry keys row hkeys hget := by
    have hitem := Entry.item_eq_ok_iff.2 ⟨keys, hkeys, rfl⟩
    have hrow := hmirrors.consistent.row?_primary hitem
    rw [hmirrors.rows, hrow] at hget
    obtain ⟨item, hitem, rfl⟩ := Option.map_eq_some_iff.1 hget
    exact ⟨item, hitem, rfl⟩
  listed index partition row hlists hmem := by
    rw [SortedMap.values, hmirrors.listing_eq hlists] at hmem
    obtain ⟨item, hitem, rfl⟩ := List.mem_map.1 hmem
    obtain ⟨⟨key, hget⟩, -⟩ := MemoryStore.mem_query_iff.1 hitem
    exact ⟨key, item, hget, rfl⟩

/-- However the listings of a run are cut, the store in the table and the store in memory, both
empty at first, reply the same to every operation, and the table holds the rows of what is stored
and nothing else. -/
theorem history_agrees {pageLimit : Nat} (hlimit : 0 < pageLimit) {cuts : List (List Nat)}
    (hcuts : ∀ sizes ∈ cuts, sizes.length < pageLimit) {operations : List Operation}
    (hderived : ∀ operation ∈ operations, operation.IsDerived) :
    let run := (asEntryStore Service.answer pageLimit).history operations
      (Service.fresh cuts)
    let memory := MemoryStore.asEntryStore.history operations .empty
    run.1 = memory.1 ∧ HoldsRowsOf run.2.rows memory.2 := by
  intro run memory
  obtain ⟨hreplies, hmirrors, -⟩ :=
    (mimics hlimit).history hderived (Service.fresh cuts) .empty (.fresh hcuts)
  exact ⟨hreplies, hmirrors.holdsRowsOf⟩

theorem keys_bareResource :
    (MemoryStore.bareResource (some "owner@1")).keys = .ok
      ⟨⟨"Resource#Customer#customer-1#Owner#owner@1", "Resource#X1"⟩,
        ⟨"Resource#Customer#customer-1#Status#PUBLISHED", "Resource#X1"⟩, none⟩ := by
  rfl

/-- A resource is created, delivered again, listed, found and removed. -/
def resourceLife : List Operation :=
  [.create (MemoryStore.bareResource (some "owner@1")),
    .deliver (.obj [("detail", (MemoryStore.bareResource (some "owner@1")).toValue)]),
    .list .primary "Resource#Customer#customer-1#Owner#owner@1",
    .look ⟨"Resource#Customer#customer-1#Owner#owner@1", "Resource#X1"⟩,
    .remove (MemoryStore.bareResource (some "owner@1"))]

theorem isDerived_resourceLife : ∀ operation ∈ resourceLife, operation.IsDerived := by
  have hpartition : StoreIndex.primary.Lists "Resource#Customer#customer-1#Owner#owner@1" :=
    ⟨.resource, "customer-1", "owner@1", rfl⟩
  simp only [resourceLife, List.forall_mem_cons]
  exact ⟨trivial, trivial, hpartition, ⟨_, _, keys_bareResource, rfl⟩, trivial,
    List.forall_mem_nil _⟩

/-- The listing is cut into three pages, the first of them empty. -/
theorem history_agrees_threePages :
    let run := (asEntryStore Service.answer 3).history resourceLife
      (Service.fresh [[0, 1]])
    let memory := MemoryStore.asEntryStore.history resourceLife .empty
    run.1 = memory.1 ∧ HoldsRowsOf run.2.rows memory.2 := by
  have hcuts : ∀ sizes ∈ [[0, 1]], sizes.length < 3 := by decide
  have hlimit : 0 < 3 := by decide
  exact history_agrees hlimit hcuts isDerived_resourceLife

end Intake.Table
