import Intake.Proofs.Store.Consistency
import Mathlib.Data.List.Sort

/-!
# What a query lists

A query lists the items whose key in the index has the partition.  The sort keys of all indexes are
made of the type and the identifier, which no two items share, so the order of the list is strict
and the list is told by what is on it.
-/

namespace Intake

namespace SortedMap

variable {κ α : Type} [DecidableEq κ] [Ord κ] [Std.TransOrd κ] [Std.LawfulEqOrd κ]

omit [DecidableEq κ] in
theorem ext_mem {a b : SortedMap κ α} (hmem : ∀ entry, entry ∈ a.toList ↔ entry ∈ b.toList) :
    a = b := by
  have hirreflexive : Std.Irrefl fun x y : κ × α => compare x.1 y.1 = .lt :=
    ⟨fun x hlt => Entries.ne_of_compare_lt hlt rfl⟩
  have hantisymmetric : Std.Antisymm fun x y : κ × α => compare x.1 y.1 = .lt :=
    ⟨fun x y hlt hgt => absurd rfl (Entries.ne_of_compare_lt (Std.TransCmp.lt_trans hlt hgt))⟩
  have hlist : a.toList = b.toList := a.sorted.eq_of_mem_iff b.sorted hmem
  cases a
  cases b
  cases hlist
  rfl

theorem ext_get? {a b : SortedMap κ α} (hget : ∀ key, a.get? key = b.get? key) : a = b := by
  apply ext_mem
  rintro ⟨key, value⟩
  rw [a.mem_toList_iff, b.mem_toList_iff, hget]

end SortedMap

/-- The sort key of an item is the same in every index. -/
theorem Entry.sortKey_of_keyOf {entry : Entry} {item : Item} (hitem : entry.item = .ok item)
    {index : StoreIndex} {key : KeyPair} (hkey : index.keyOf item = some key) :
    key.sortKey = item.keys.primary.sortKey := by
  obtain ⟨keys, hkeys, rfl⟩ := Entry.item_eq_ok_iff.1 hitem
  obtain ⟨customerId, owner, -, -, -, -, hprimary, hstatus, hresource⟩ := Entry.keys_eq_ok hkeys
  cases index with
  | primary =>
    cases hkey
    rfl
  | byCustomerStatus =>
    cases hkey
    rw [hprimary, hstatus]
  | byResource =>
    rw [StoreIndex.keyOf, hresource] at hkey
    obtain ⟨resource, -, rfl⟩ := Option.map_eq_some_iff.1 hkey
    rw [hprimary]

namespace MemoryStore

variable {store : MemoryStore} {index : StoreIndex} {partition : String} {item : Item}

/-- An item with its sort key, if it is in the partition. -/
def withSortKey? (index : StoreIndex) (partition : String) (item : Item) : Option (String × Item) :=
  match index.keyOf item with
  | some key => if key.partitionKey = partition then some (key.sortKey, item) else none
  | none => none

theorem withSortKey?_eq_some {sortKey : String} {other : Item} :
    withSortKey? index partition other = some (sortKey, item) ↔
      other = item ∧ index.keyOf item = some ⟨partition, sortKey⟩ := by
  rw [withSortKey?]
  constructor
  · intro hsome
    split at hsome
    next key hkey =>
      split at hsome
      next hpartition =>
        cases hsome
        exact ⟨rfl, by rw [hkey, ← hpartition]⟩
      next => cases hsome
    next => cases hsome
  · rintro ⟨rfl, hkey⟩
    simp only [hkey, if_true]

/-- What a query lists before it sorts. -/
def matching (store : MemoryStore) (index : StoreIndex) (partition : String) :
    List (String × Item) :=
  store.items.values.filterMap (withSortKey? index partition)

theorem query_eq (store : MemoryStore) (index : StoreIndex) (partition : String) :
    store.query index partition =
      ((store.matching index partition).mergeSort fun a b => (compare a.1 b.1).isLE).map
        Prod.snd := rfl

theorem mem_matching_iff {sortKey : String} :
    (sortKey, item) ∈ store.matching index partition ↔
      item ∈ store.items.values ∧ index.keyOf item = some ⟨partition, sortKey⟩ := by
  rw [matching, List.mem_filterMap]
  constructor
  · rintro ⟨other, hother, hsome⟩
    obtain ⟨rfl, hkey⟩ := withSortKey?_eq_some.1 hsome
    exact ⟨hother, hkey⟩
  · rintro ⟨hitem, hkey⟩
    exact ⟨item, hitem, withSortKey?_eq_some.2 ⟨rfl, hkey⟩⟩

theorem mem_query_iff :
    item ∈ store.query index partition ↔
      (∃ key, store.get? key = some item) ∧
        (index.keyOf item).map KeyPair.partitionKey = some partition := by
  have hvalues : item ∈ store.items.values ↔ ∃ key, store.get? key = some item :=
    store.items.mem_values_iff
  rw [query_eq, List.mem_map, ← hvalues]
  constructor
  · rintro ⟨⟨sortKey, other⟩, hmem, rfl⟩
    obtain ⟨hitem, hkey⟩ := mem_matching_iff.1 (List.mem_mergeSort.1 hmem)
    exact ⟨hitem, by rw [hkey, Option.map_some]⟩
  · rintro ⟨hitem, hpartition⟩
    obtain ⟨⟨_, sortKey⟩, hkey, rfl⟩ := Option.map_eq_some_iff.1 hpartition
    exact ⟨(sortKey, item), List.mem_mergeSort.2 (mem_matching_iff.2 ⟨hitem, hkey⟩), rfl⟩

namespace Consistent

variable {entry : Entry}

/-- Items under different keys have different sort keys. -/
theorem key_eq_of_sortKey (hconsistent : store.Consistent) {key otherKey : KeyPair} {other : Item}
    (hget : store.get? key = some item) (hother : store.get? otherKey = some other)
    (hsort : item.keys.primary.sortKey = other.keys.primary.sortKey) : key = otherKey := by
  obtain ⟨entry, -, hitem⟩ := hconsistent.projected hget
  obtain ⟨otherEntry, -, hotherItem⟩ := hconsistent.projected hother
  obtain ⟨keys, hkeys, rfl⟩ := Entry.item_eq_ok_iff.1 hitem
  obtain ⟨otherKeys, hotherKeys, rfl⟩ := Entry.item_eq_ok_iff.1 hotherItem
  rw [Entry.sortKey_of_keys hkeys, Entry.sortKey_of_keys hotherKeys] at hsort
  obtain ⟨htype, hidentifier⟩ := Key.ofEntry_injective hsort
  exact hconsistent.key_unique hget hother htype hidentifier

theorem matching_sortKey (hconsistent : store.Consistent) {sortKey : String}
    (hmem : (sortKey, item) ∈ store.matching index partition) :
    sortKey = item.keys.primary.sortKey := by
  obtain ⟨hvalue, hkey⟩ := mem_matching_iff.1 hmem
  obtain ⟨key, hget⟩ := store.items.mem_values_iff.1 hvalue
  obtain ⟨entry, -, hitem⟩ := hconsistent.projected hget
  exact Entry.sortKey_of_keyOf hitem hkey

theorem pairwise_matching (hconsistent : store.Consistent) :
    (store.matching index partition).Pairwise fun a b => a.1 ≠ b.1 := by
  have hvalues : store.items.values.Pairwise fun a b =>
      a.keys.primary.sortKey ≠ b.keys.primary.sortKey := by
    rw [SortedMap.values, List.pairwise_map]
    refine store.items.sorted.imp_of_mem fun {a b} ha hb hlt hsort => ?_
    have hget : store.get? a.1 = some a.2 := store.items.mem_toList_iff.1 ha
    have hother : store.get? b.1 = some b.2 := store.items.mem_toList_iff.1 hb
    exact Entries.ne_of_compare_lt hlt (hconsistent.key_eq_of_sortKey hget hother hsort)
  rw [matching, List.pairwise_filterMap]
  refine hvalues.imp_of_mem fun {a b} ha hb hne first hfirst second hsecond heq => hne ?_
  have hfirstMem : first ∈ store.matching index partition := List.mem_filterMap.2 ⟨a, ha, hfirst⟩
  have hsecondMem : second ∈ store.matching index partition :=
    List.mem_filterMap.2 ⟨b, hb, hsecond⟩
  rw [(withSortKey?_eq_some.1 hfirst).1, (withSortKey?_eq_some.1 hsecond).1,
    ← hconsistent.matching_sortKey hfirstMem, ← hconsistent.matching_sortKey hsecondMem, heq]

/-- The items of a query come in the order of their sort keys, no two of which are alike. -/
theorem pairwise_query (hconsistent : store.Consistent) :
    (store.query index partition).Pairwise fun a b =>
      compare a.keys.primary.sortKey b.keys.primary.sortKey = .lt := by
  have htransitive : ∀ a b c : String × Item, (compare a.1 b.1).isLE = true →
      (compare b.1 c.1).isLE = true → (compare a.1 c.1).isLE = true :=
    fun _ _ _ => Std.TransCmp.isLE_trans
  have htotal : ∀ a b : String × Item,
      ((compare a.1 b.1).isLE || (compare b.1 a.1).isLE) = true := by
    intro a b
    have hswap : compare b.1 a.1 = (compare a.1 b.1).swap := Std.OrientedCmp.eq_swap
    rw [hswap]
    cases compare a.1 b.1 <;> rfl
  have hsorted : ((store.matching index partition).mergeSort
      fun a b => (compare a.1 b.1).isLE).Pairwise fun a b => (compare a.1 b.1).isLE = true :=
    List.pairwise_mergeSort htransitive htotal _
  have hdifferent : ((store.matching index partition).mergeSort
      fun a b => (compare a.1 b.1).isLE).Pairwise fun a b => a.1 ≠ b.1 :=
    (List.Perm.pairwise_iff Ne.symm (List.mergeSort_perm _ _)).2 hconsistent.pairwise_matching
  rw [query_eq, List.pairwise_map]
  refine (hsorted.and hdifferent).imp_of_mem fun {a b} ha hb ⟨hle, hne⟩ => ?_
  rw [← hconsistent.matching_sortKey (List.mem_mergeSort.1 ha),
    ← hconsistent.matching_sortKey (List.mem_mergeSort.1 hb)]
  cases hcompare : compare a.1 b.1 with
  | lt => rfl
  | eq => exact absurd (Std.LawfulEqCmp.eq_of_compare hcompare) hne
  | gt =>
    rw [hcompare] at hle
    cases hle

end Consistent

end MemoryStore

end Intake
