import Intake.Emission.Batch
import Mathlib.Algebra.Order.Floor.Div

/-!
# The batches of a list

Filling groups one after another cuts the list at the multiples of the size.  The batch with a
number therefore holds the records from that multiple on, the numbers count up from zero, and every
position of the list lies in the batch whose number is its quotient by the size.  So there are as
many batches as the quotient of the lengths, rounded up, and none but the last may be short.
-/

namespace Intake.Batch

/-- How many batches of a size there are for so many records. -/
def count (size total : Nat) : Nat := (total + size - 1) / size

/-- The batch with a number. -/
def cut (size : Nat) (records : List Record) (index : Nat) : Batch :=
  ⟨index, (records.drop (index * size)).take size⟩

section Fill

variable {α : Type} {size : Nat}

/-- The group that is being filled is completed from the rest of the list. -/
theorem fill_of_lt (current xs : List α) (hcurrent : current.length < size)
    (hne : current.reverse ++ xs ≠ []) :
    fill size current xs =
      (current.reverse ++ xs).take size :: fill size [] ((current.reverse ++ xs).drop size) := by
  induction xs generalizing current with
  | nil =>
    rw [List.append_nil] at hne ⊢
    have hempty : current.isEmpty = false := by
      simpa using hne
    have hle : current.reverse.length ≤ size := by
      rw [List.length_reverse]
      omega
    rw [fill, hempty, List.take_of_length_le hle, List.drop_of_length_le hle]
    rfl
  | cons x rest ih =>
    have hmove : (x :: current).reverse ++ rest = current.reverse ++ x :: rest := by simp
    rw [fill]
    split
    next hfull =>
      have hlength : (x :: current).reverse.length = size := by
        rw [List.length_reverse, List.length_cons, hfull]
      rw [← hmove, List.take_left' hlength, List.drop_left' hlength]
    next hfull =>
      have hnext := ih (x :: current) (by rw [List.length_cons]; omega) (by simp)
      rw [hnext, hmove]

theorem fill_nil : fill size ([] : List α) [] = [] := rfl

theorem fill_cut (hsize : 0 < size) {xs : List α} (hne : xs ≠ []) :
    fill size [] xs = xs.take size :: fill size [] (xs.drop size) :=
  fill_of_lt [] xs hsize hne

theorem count_zero (hsize : 0 < size) : count size 0 = 0 := by
  rw [count, Nat.zero_add]
  exact Nat.div_eq_of_lt (by omega)

theorem count_step (hsize : 0 < size) {total : Nat} (htotal : 0 < total) :
    count size total = count size (total - size) + 1 := by
  unfold count
  by_cases hle : size ≤ total
  · have hsplit : total + size - 1 = (total - size + size - 1) + size := by omega
    rw [hsplit, Nat.add_div_right _ hsize]
  · have hzero : total - size = 0 := by omega
    have hone : total + size - 1 = (total - 1) + size := by omega
    rw [hzero, hone, Nat.add_div_right _ hsize, Nat.div_eq_of_lt (by omega), Nat.zero_add,
      Nat.div_eq_of_lt (by omega)]

theorem fill_eq (hsize : 0 < size) (xs : List α) :
    fill size [] xs =
      (List.range (count size xs.length)).map fun i => (xs.drop (i * size)).take size := by
  induction hlength : xs.length using Nat.strongRecOn generalizing xs with
  | ind total ih =>
    by_cases hempty : xs = []
    · rw [hempty, List.length_nil] at hlength
      rw [hempty, fill_nil, ← hlength, count_zero hsize, List.range_zero, List.map_nil]
    · have hpos : 0 < total := hlength ▸ List.length_pos_iff.2 hempty
      have hdrop : (xs.drop size).length = total - size := by rw [List.length_drop, hlength]
      have hlater : ∀ i, ((xs.drop size).drop (i * size)).take size =
          (xs.drop ((i + 1) * size)).take size := by
        intro i
        rw [List.drop_drop, Nat.succ_mul, Nat.add_comm]
      rw [fill_cut hsize hempty, ih (total - size) (by omega) _ hdrop, count_step hsize hpos,
        List.range_succ_eq_map, List.map_cons, List.map_map, Nat.zero_mul, List.drop_zero]
      simp only [hlater]
      rfl

/-- Groups that are full, but for the last, are filled again when their items are. -/
theorem fill_flatten {groups : List (List α)}
    (hfull : groups.Pairwise fun group _ => group.length = size)
    (hgroups : ∀ group ∈ groups, group ≠ [] ∧ group.length ≤ size) :
    fill size [] groups.flatten = groups := by
  induction groups with
  | nil => rfl
  | cons group groups ih =>
    obtain ⟨⟨hne, hle⟩, hrest⟩ := List.forall_mem_cons.1 hgroups
    obtain ⟨hlength, hfullRest⟩ := List.pairwise_cons.1 hfull
    have hsize : 0 < size := Nat.lt_of_lt_of_le (List.length_pos_iff.2 hne) hle
    rw [List.flatten_cons, fill_cut hsize (List.append_ne_nil_of_left_ne_nil hne _)]
    -- Only the last group may be short, and then the list ends with it.
    cases groups with
    | nil =>
      rw [List.flatten_nil, List.append_nil, List.take_of_length_le hle,
        List.drop_of_length_le hle, fill_nil]
    | cons next groups =>
      have hgroup := hlength next List.mem_cons_self
      rw [List.take_left' hgroup, List.drop_left' hgroup, ih hfullRest hrest]

end Fill

variable {size : Nat}

theorem map_records_partition (records : List Record) :
    (partition size records).map Batch.records = fill size [] records := by
  apply List.ext_getElem
  · simp [partition]
  · intro index hleft hright
    simp [partition]

theorem partition_eq (hsize : 0 < size) (records : List Record) :
    partition size records = (List.range (count size records.length)).map (cut size records) := by
  rw [partition, fill_eq hsize]
  apply List.ext_getElem
  · simp
  · intro i hleft hright
    simp [cut]

theorem length_partition (hsize : 0 < size) (records : List Record) :
    (partition size records).length = count size records.length := by
  rw [partition_eq hsize, List.length_map, List.length_range]

section Partition

variable (hsize : 0 < size) {records : List Record} {batch : Batch}

include hsize

theorem count_le_iff {total index : Nat} : index < count size total ↔ index * size < total := by
  rw [count, Nat.lt_div_iff_mul_lt hsize]
  omega

theorem eq_cut_of_mem (hbatch : batch ∈ partition size records) :
    batch = cut size records batch.index ∧ batch.index < count size records.length := by
  rw [partition_eq hsize] at hbatch
  obtain ⟨index, hindex, rfl⟩ := List.mem_map.1 hbatch
  exact ⟨rfl, List.mem_range.1 hindex⟩

theorem cut_mem {index : Nat} (hindex : index < count size records.length) :
    cut size records index ∈ partition size records := by
  rw [partition_eq hsize]
  exact List.mem_map_of_mem (List.mem_range.2 hindex)

variable (records) in
/-- Batches are numbered in their order. -/
theorem pairwise_index_partition :
    (partition size records).Pairwise fun a b => a.index < b.index := by
  rw [partition_eq hsize, List.pairwise_map]
  exact List.pairwise_lt_range

theorem records_ne_nil (hbatch : batch ∈ partition size records) : batch.records ≠ [] := by
  obtain ⟨heq, hindex⟩ := eq_cut_of_mem hsize hbatch
  have hlt := (count_le_iff hsize).1 hindex
  rw [heq, cut, ← List.length_pos_iff, List.length_take, List.length_drop]
  omega

theorem length_records_le (hbatch : batch ∈ partition size records) :
    batch.records.length ≤ size := by
  obtain ⟨heq, -⟩ := eq_cut_of_mem hsize hbatch
  rw [heq, cut]
  exact List.length_take_le _ _

variable (records) in
/-- Every batch that another one follows is full. -/
theorem pairwise_full_partition :
    (partition size records).Pairwise fun batch _ => batch.records.length = size := by
  refine (pairwise_index_partition hsize records).imp_of_mem ?_
  intro batch later hbatch hlater hlt
  obtain ⟨heq, -⟩ := eq_cut_of_mem hsize hbatch
  obtain ⟨-, hcount⟩ := eq_cut_of_mem hsize hlater
  have hnext := (count_le_iff hsize).1 (Nat.lt_of_le_of_lt hlt hcount)
  rw [Nat.succ_mul] at hnext
  rw [heq, cut, List.length_take, List.length_drop]
  omega

/-- The records of some of the batches are cut into those batches again. -/
theorem partition_flatMap_records {batches : List Batch}
    (hbatches : batches.Sublist (partition size records)) :
    (partition size (batches.flatMap Batch.records)).map Batch.records =
      batches.map Batch.records := by
  rw [map_records_partition, List.flatMap_def]
  apply fill_flatten
  · exact List.pairwise_map.2 ((pairwise_full_partition hsize records).sublist hbatches)
  · rw [List.forall_mem_map]
    intro batch hbatch
    have hmem := hbatches.subset hbatch
    exact ⟨records_ne_nil hsize hmem, length_records_le hsize hmem⟩

variable (records) in
theorem flatMap_records_partition : (partition size records).flatMap Batch.records = records := by
  have htake : ∀ n, ((List.range n).map (cut size records)).flatMap Batch.records =
      records.take (n * size) := by
    intro n
    induction n with
    | zero => simp
    | succ n ih =>
      rw [List.range_succ, List.map_append, List.flatMap_append, ih, Nat.succ_mul, List.take_add]
      simp [cut]
  have hall : records.length ≤ count size records.length * size := by
    have hnot := mt (count_le_iff hsize).2 (Nat.lt_irrefl (count size records.length))
    omega
  rw [partition_eq hsize, htake, List.take_of_length_le hall]

variable (records) in
theorem partition_eq_nil_iff : partition size records = [] ↔ records = [] := by
  constructor
  · intro hnil
    rw [← flatMap_records_partition hsize records, hnil, List.flatMap_nil]
  · rintro rfl
    rfl

/-- The records of the list are those of its batches. -/
theorem mem_records_iff {record : Record} :
    record ∈ records ↔ ∃ batch ∈ partition size records, record ∈ batch.records := by
  rw [← List.mem_flatMap, flatMap_records_partition hsize records]

end Partition

/-! ## Positions -/

/-- The positions of the records of a batch in the list that was cut. -/
def positions (size : Nat) (batch : Batch) : List Nat :=
  (List.range batch.records.length).map fun offset => batch.index * size + offset

section Positions

variable (hsize : 0 < size) {records : List Record} {batches : List Batch}

include hsize

theorem mem_positions_iff {batch : Batch} (hbatch : batch ∈ partition size records)
    {position : Nat} : position ∈ positions size batch ↔
      position < records.length ∧ position / size = batch.index := by
  obtain ⟨heq, hindex⟩ := eq_cut_of_mem hsize hbatch
  have hlength : batch.records.length = min size (records.length - batch.index * size) := by
    rw [heq, cut, List.length_take, List.length_drop]
  have hdiv : position / size = batch.index ↔
      batch.index * size ≤ position ∧ position < batch.index * size + size := by
    rw [Nat.div_eq_iff hsize]
    omega
  rw [positions, List.mem_map, hdiv]
  constructor
  · rintro ⟨offset, hoffset, rfl⟩
    have hlt := List.mem_range.1 hoffset
    omega
  · rintro ⟨hlt, hle, hend⟩
    exact ⟨position - batch.index * size, List.mem_range.2 (by omega), by omega⟩

/-- What stands at the positions of a batch are its records. -/
theorem getElem?_positions {batch : Batch} (hbatch : batch ∈ partition size records) :
    (positions size batch).map (fun position => records[position]?) = batch.records.map some := by
  obtain ⟨heq, hindex⟩ := eq_cut_of_mem hsize hbatch
  have hget : ∀ offset < batch.records.length,
      records[batch.index * size + offset]? = batch.records[offset]? := by
    intro offset hoffset
    rw [heq, cut] at hoffset ⊢
    rw [List.length_take] at hoffset
    rw [List.getElem?_take_of_lt (by omega), List.getElem?_drop]
  apply List.ext_getElem
  · simp [positions]
  · intro offset hleft hright
    have hoffset : offset < batch.records.length := by simpa using hright
    simp [positions, hget offset hoffset, List.getElem?_eq_getElem hoffset]

/-- The positions of batches in order are in order. -/
theorem pairwise_positions (hbatches : batches.Sublist (partition size records)) :
    (batches.flatMap (positions size)).Pairwise (· < ·) := by
  rw [List.pairwise_flatMap]
  refine ⟨?_, ?_⟩
  · intro batch _
    rw [positions, List.pairwise_map]
    exact List.pairwise_lt_range.imp fun hlt => Nat.add_lt_add_left hlt _
  · refine ((pairwise_index_partition hsize records).sublist hbatches).imp_of_mem ?_
    intro a b ha hb hlt x hx y hy
    obtain ⟨-, hxindex⟩ := (mem_positions_iff hsize (hbatches.subset ha)).1 hx
    obtain ⟨-, hyindex⟩ := (mem_positions_iff hsize (hbatches.subset hb)).1 hy
    apply Nat.lt_of_not_le
    intro hle
    have hdiv := Nat.div_le_div_right (c := size) hle
    omega

end Positions

/-! ## The whole cut -/

/-- The batches cut the records at the multiples of the size. -/
structure Cuts (size : Nat) (records : List Record) (batches : List Batch) : Prop where
  length_eq : batches.length = records.length ⌈/⌉ size
  /-- A batch has its place for its number, and the records from that multiple up to the next, or
  to the end of the list. -/
  getElem_eq : ∀ index (hindex : index < batches.length), batches[index] =
    ⟨index, records.extract (index * size) (min ((index + 1) * size) records.length)⟩
  ne_nil : ∀ batch ∈ batches, batch.records ≠ []
  full : ∀ batch ∈ batches.dropLast, batch.records.length = size
  whole : batches.flatMap Batch.records = records

/-- The batches of a list of records, held against the number of them that was worked out before:
none when there are more or fewer. -/
def tallied? (size : Nat) (records : List Record) : Except BatchError (Option (List Batch)) := do
  let batches ← partition? size records
  return if batches.length = records.length ⌈/⌉ size then some batches else none

theorem cut_eq_extract (size : Nat) (records : List Record) (index : Nat) :
    cut size records index =
      ⟨index, records.extract (index * size) (min ((index + 1) * size) records.length)⟩ := by
  rw [cut, List.extract_eq_take_drop, List.take_eq_take_iff.2]
  rw [List.length_drop, Nat.succ_mul]
  omega

theorem getElem_partition (hsize : 0 < size) (records : List Record) (index : Nat)
    (hindex : index < (partition size records).length) :
    (partition size records)[index] = cut size records index := by
  simp [partition_eq hsize]

theorem full_of_mem_dropLast (hsize : 0 < size) {records : List Record} {batch : Batch}
    (hbatch : batch ∈ (partition size records).dropLast) : batch.records.length = size := by
  have hne : partition size records ≠ [] := by
    intro hnil
    rw [hnil] at hbatch
    cases hbatch
  have hfull := pairwise_full_partition hsize records
  rw [← List.dropLast_concat_getLast hne, List.pairwise_append] at hfull
  exact hfull.2.2 batch hbatch _ List.mem_cons_self

theorem cuts_partition (hsize : 0 < size) (records : List Record) :
    Cuts size records (partition size records) where
  length_eq := length_partition hsize records
  getElem_eq index hindex := by
    rw [getElem_partition hsize, cut_eq_extract]
  ne_nil _ hbatch := records_ne_nil hsize hbatch
  full _ hbatch := full_of_mem_dropLast hsize hbatch
  whole := flatMap_records_partition hsize records

/-- For a positive size every list of records is cut at the multiples of the size, and there are
always as many batches as was worked out before. -/
theorem exists_cuts (hsize : 0 < size) (records : List Record) :
    ∃ batches, partition? size records = .ok batches ∧
      tallied? size records = .ok (some batches) ∧ Cuts size records batches := by
  have hcut : partition? size records = .ok (partition size records) :=
    if_neg (Nat.ne_of_gt hsize)
  have hcuts := cuts_partition hsize records
  have htally : tallied? size records = .ok (some (partition size records)) := by
    rw [tallied?, hcut, ok_bind, if_pos hcuts.length_eq]
    rfl
  exact ⟨partition size records, hcut, htally, hcuts⟩

/-- Seven records, three at a time: the last batch has one record. -/
theorem exists_cuts_remainder :
    let records : List Record := (List.range 7).map fun i => ⟨toString i, .ofNat i⟩
    0 < 3 ∧ ∃ batches, partition? 3 records = .ok batches ∧
      tallied? 3 records = .ok (some batches) ∧ Cuts 3 records batches :=
  ⟨by decide, exists_cuts (by decide) _⟩

end Intake.Batch
