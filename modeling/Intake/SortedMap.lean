/-!
# Maps as sorted association lists

A map is a list of entries in strictly increasing key order, so two maps with the same look-ups
are equal.  The list operations come first, because documents hold their members as plain lists;
`SortedMap` bundles such a list with its order.
-/

namespace Intake

variable {κ : Type} {α : Type}

namespace Entries

/-- Puts an entry where its key belongs, in place of an entry with the same key. -/
def insert [Ord κ] (key : κ) (value : α) : List (κ × α) → List (κ × α)
  | [] => [(key, value)]
  | (k, v) :: rest =>
    match compare key k with
    | .lt => (key, value) :: (k, v) :: rest
    | .eq => (key, value) :: rest
    | .gt => (k, v) :: insert key value rest

def erase [Ord κ] (key : κ) : List (κ × α) → List (κ × α)
  | [] => []
  | (k, v) :: rest => if compare key k = .eq then rest else (k, v) :: erase key rest

def get? [Ord κ] (key : κ) : List (κ × α) → Option α
  | [] => none
  | (k, v) :: rest => if compare key k = .eq then some v else get? key rest

/-- The entries in key order; of two with one key the later stays. -/
def ofList [Ord κ] (entries : List (κ × α)) : List (κ × α) :=
  entries.foldl (fun map entry => insert entry.1 entry.2 map) []

/-- Keys increase strictly. -/
def Sorted [Ord κ] (entries : List (κ × α)) : Prop :=
  entries.Pairwise fun a b => compare a.1 b.1 = .lt

section Order

variable [Ord κ]

theorem mem_insert {key : κ} {value : α} {entries : List (κ × α)} {entry : κ × α}
    (hmem : entry ∈ insert key value entries) : entry = (key, value) ∨ entry ∈ entries := by
  induction entries with
  | nil => simpa [insert] using hmem
  | cons first rest ih =>
    obtain ⟨k, v⟩ := first
    unfold insert at hmem
    split at hmem
    · simpa using hmem
    · simp only [List.mem_cons] at hmem ⊢
      exact hmem.imp_right .inr
    · simp only [List.mem_cons] at hmem ⊢
      rcases hmem with h | h
      · exact .inr (.inl h)
      · rcases ih h with h | h
        · exact .inl h
        · exact .inr (.inr h)

theorem sorted_insert [Std.TransOrd κ] {key : κ} {value : α} {entries : List (κ × α)}
    (hsorted : Sorted entries) : Sorted (insert key value entries) := by
  induction entries with
  | nil => simp [insert, Sorted]
  | cons first rest ih =>
    obtain ⟨k, v⟩ := first
    obtain ⟨hfirst, hrest⟩ := List.pairwise_cons.1 hsorted
    unfold insert
    split
    next hlt =>
      refine List.pairwise_cons.2 ⟨fun entry hentry => ?_, hsorted⟩
      rcases List.mem_cons.1 hentry with rfl | hentry
      · exact hlt
      · exact Std.TransCmp.lt_trans hlt (hfirst entry hentry)
    next heq =>
      refine List.pairwise_cons.2 ⟨fun entry hentry => ?_, hrest⟩
      exact Std.TransCmp.lt_of_eq_of_lt heq (hfirst entry hentry)
    next hgt =>
      refine List.pairwise_cons.2 ⟨fun entry hentry => ?_, ih hrest⟩
      rcases mem_insert hentry with rfl | hentry
      · exact Std.OrientedCmp.lt_of_gt hgt
      · exact hfirst entry hentry

theorem sorted_erase {key : κ} {entries : List (κ × α)} (hsorted : Sorted entries) :
    Sorted (erase key entries) := by
  have hsub : (erase key entries).Sublist entries := by
    clear hsorted
    induction entries with
    | nil => simp [erase]
    | cons first rest ih =>
      unfold erase
      split
      · exact List.sublist_cons_self _ _
      · exact ih.cons_cons _
  exact hsorted.sublist hsub

theorem sorted_ofList [Std.TransOrd κ] (entries : List (κ × α)) : Sorted (ofList entries) := by
  have hfold : ∀ (map : List (κ × α)), Sorted map →
      Sorted (entries.foldl (fun map entry => insert entry.1 entry.2 map) map) := by
    induction entries with
    | nil => exact fun _ h => h
    | cons first rest ih => exact fun map h => ih _ (sorted_insert h)
  exact hfold [] List.Pairwise.nil

end Order

section Lookup

variable [DecidableEq κ] [Ord κ] [Std.LawfulEqOrd κ]

omit [DecidableEq κ] in
theorem ne_of_compare_lt {a b : κ} (hlt : compare a b = .lt) : a ≠ b := by
  rintro rfl
  have heq : compare a a = .eq := Std.ReflCmp.compare_self
  rw [heq] at hlt
  exact absurd hlt (by decide)

theorem get?_cons (other key : κ) (value : α) (rest : List (κ × α)) :
    get? other ((key, value) :: rest) = if other = key then some value else get? other rest := by
  simp only [get?, Std.LawfulEqCmp.compare_eq_iff_eq]

theorem get?_insert [Std.OrientedOrd κ] (key other : κ) (value : α) (entries : List (κ × α)) :
    get? other (insert key value entries) =
      if other = key then some value else get? other entries := by
  induction entries with
  | nil => simp only [insert, get?_cons]
  | cons first rest ih =>
    obtain ⟨k, v⟩ := first
    unfold insert
    split
    next => rw [get?_cons]
    next heq =>
      have hkey : key = k := Std.LawfulEqCmp.compare_eq_iff_eq.1 heq
      rw [get?_cons, get?_cons, hkey]
      split <;> rfl
    next hgt =>
      have hne : k ≠ key := ne_of_compare_lt (Std.OrientedCmp.lt_of_gt hgt)
      rw [get?_cons, get?_cons, ih]
      by_cases hother : other = k
      · rw [if_pos hother, if_neg (hother ▸ hne), if_pos hother]
      · rw [if_neg hother, if_neg hother]

theorem mem_of_get? {key : κ} {value : α} {entries : List (κ × α)}
    (hget : get? key entries = some value) : (key, value) ∈ entries := by
  induction entries with
  | nil => simp [get?] at hget
  | cons first rest ih =>
    obtain ⟨k, v⟩ := first
    rw [get?_cons] at hget
    split at hget
    next hkey =>
      cases hget
      rw [hkey]
      exact List.mem_cons_self
    next => exact List.mem_cons_of_mem _ (ih hget)

/-- Where no key occurs twice, what is listed is found. -/
theorem get?_of_mem {key : κ} {value : α} {entries : List (κ × α)}
    (hnames : (entries.map Prod.fst).Nodup) (hmem : (key, value) ∈ entries) :
    get? key entries = some value := by
  induction entries with
  | nil => simp at hmem
  | cons first rest ih =>
    obtain ⟨k, v⟩ := first
    obtain ⟨hfirst, hrest⟩ := List.nodup_cons.1 hnames
    rw [get?_cons]
    rcases List.mem_cons.1 hmem with heq | hlater
    · cases heq
      rw [if_pos rfl]
    · have hne : key ≠ k := by
        rintro rfl
        exact hfirst (List.mem_map.2 ⟨_, hlater, rfl⟩)
      rw [if_neg hne, ih hrest hlater]

theorem get?_erase {entries : List (κ × α)} (hsorted : Sorted entries) (key other : κ) :
    get? other (erase key entries) = if other = key then none else get? other entries := by
  induction entries with
  | nil => simp [erase, get?]
  | cons first rest ih =>
    obtain ⟨k, v⟩ := first
    obtain ⟨hfirst, hrest⟩ := List.pairwise_cons.1 hsorted
    unfold erase
    split
    next heq =>
      have hkey : key = k := Std.LawfulEqCmp.compare_eq_iff_eq.1 heq
      by_cases hother : other = key
      · rw [if_pos hother]
        cases hget : get? other rest with
        | none => rfl
        | some value =>
          have hne : k ≠ other := ne_of_compare_lt (hfirst _ (mem_of_get? hget))
          exact absurd (hother.trans hkey).symm hne
      · rw [if_neg hother, get?_cons, if_neg (hkey ▸ hother)]
    next heq =>
      have hne : k ≠ key := fun hkey => heq (Std.LawfulEqCmp.compare_eq_iff_eq.2 hkey.symm)
      rw [get?_cons, get?_cons, ih hrest]
      by_cases hother : other = k
      · rw [if_pos hother, if_neg (hother ▸ hne), if_pos hother]
      · rw [if_neg hother, if_neg hother]

theorem not_mem_names_iff {key : κ} {entries : List (κ × α)} :
    key ∉ entries.map Prod.fst ↔ get? key entries = none := by
  induction entries with
  | nil => simp [get?]
  | cons first rest ih =>
    obtain ⟨k, v⟩ := first
    rw [get?_cons, List.map_cons, List.mem_cons, not_or, ih]
    by_cases hkey : key = k <;> simp [hkey]

omit [DecidableEq κ] in
theorem nodup_names {entries : List (κ × α)} (hsorted : Sorted entries) :
    (entries.map Prod.fst).Nodup :=
  List.pairwise_map.2 (hsorted.imp ne_of_compare_lt)

/-- Where no key occurs twice, sorting does not change what is found. -/
theorem get?_ofList [Std.OrientedOrd κ] {entries : List (κ × α)}
    (hnames : (entries.map Prod.fst).Nodup) (key : κ) :
    get? key (ofList entries) = get? key entries := by
  have hfold : ∀ map : List (κ × α),
      get? key (entries.foldl (fun map entry => insert entry.1 entry.2 map) map) =
        (get? key entries).or (get? key map) := by
    induction entries with
    | nil => exact fun map => rfl
    | cons first rest ih =>
      intro map
      obtain ⟨k, v⟩ := first
      obtain ⟨hk, hrest⟩ := List.nodup_cons.1 hnames
      rw [List.foldl_cons, ih hrest, get?_insert, get?_cons]
      by_cases hkey : key = k
      · rw [if_pos hkey, if_pos hkey, hkey, not_mem_names_iff.1 hk, Option.none_or, Option.some_or]
      · rw [if_neg hkey, if_neg hkey]
  rw [ofList, hfold, get?, Option.or_none]

omit [DecidableEq κ] [Std.LawfulEqOrd κ] in
theorem mem_ofList {entries : List (κ × α)} {entry : κ × α} (hmem : entry ∈ ofList entries) :
    entry ∈ entries := by
  have hfold : ∀ map : List (κ × α),
      entry ∈ entries.foldl (fun map entry => insert entry.1 entry.2 map) map →
        entry ∈ entries ∨ entry ∈ map := by
    clear hmem
    induction entries with
    | nil => exact fun map h => .inr h
    | cons first rest ih =>
      intro map h
      rw [List.foldl_cons] at h
      rcases ih _ h with hrest | hinsert
      · exact .inl (List.mem_cons_of_mem _ hrest)
      · rcases mem_insert hinsert with heq | hmap
        · exact .inl (heq ▸ List.mem_cons_self)
        · exact .inr hmap
  exact (hfold [] hmem).resolve_right List.not_mem_nil

theorem mem_ofList_iff [Std.OrientedOrd κ] {entries : List (κ × α)}
    (hnames : (entries.map Prod.fst).Nodup) {entry : κ × α} :
    entry ∈ ofList entries ↔ entry ∈ entries := by
  refine ⟨mem_ofList, fun hmem => mem_of_get? ?_⟩
  rw [get?_ofList hnames, get?_of_mem hnames hmem]

end Lookup

end Entries

/-- A finite map whose entries are listed in key order. -/
structure SortedMap (κ : Type) (α : Type) [Ord κ] where
  toList : List (κ × α)
  sorted : Entries.Sorted toList

namespace SortedMap

variable [Ord κ]

def empty : SortedMap κ α := ⟨[], List.Pairwise.nil⟩

instance : Inhabited (SortedMap κ α) := ⟨empty⟩

instance [DecidableEq κ] [DecidableEq α] : DecidableEq (SortedMap κ α) := fun a b =>
  if h : a.toList = b.toList then
    .isTrue (by cases a; cases b; cases h; rfl)
  else .isFalse fun hab => h (by rw [hab])

def size (map : SortedMap κ α) : Nat := map.toList.length

def get? (map : SortedMap κ α) (key : κ) : Option α := Entries.get? key map.toList

def contains (map : SortedMap κ α) (key : κ) : Bool := (map.get? key).isSome

/-- The stored values in key order. -/
def values (map : SortedMap κ α) : List α := map.toList.map Prod.snd

def erase (map : SortedMap κ α) (key : κ) : SortedMap κ α :=
  ⟨Entries.erase key map.toList, Entries.sorted_erase map.sorted⟩

@[simp]
theorem get?_empty (key : κ) : (empty : SortedMap κ α).get? key = none := rfl

section Lookup

variable [DecidableEq κ] [Std.LawfulEqOrd κ]

theorem get?_erase (map : SortedMap κ α) (key other : κ) :
    (map.erase key).get? other = if other = key then none else map.get? other :=
  Entries.get?_erase map.sorted key other

theorem mem_toList_iff (map : SortedMap κ α) {key : κ} {value : α} :
    (key, value) ∈ map.toList ↔ map.get? key = some value :=
  ⟨Entries.get?_of_mem (Entries.nodup_names map.sorted), Entries.mem_of_get?⟩

theorem mem_values_iff (map : SortedMap κ α) {value : α} :
    value ∈ map.values ↔ ∃ key, map.get? key = some value := by
  simp only [values, List.mem_map, Prod.exists, exists_eq_right, mem_toList_iff]

end Lookup

variable [Std.TransOrd κ]

def insert (map : SortedMap κ α) (key : κ) (value : α) : SortedMap κ α :=
  ⟨Entries.insert key value map.toList, Entries.sorted_insert map.sorted⟩

def ofList (entries : List (κ × α)) : SortedMap κ α :=
  ⟨Entries.ofList entries, Entries.sorted_ofList entries⟩

theorem get?_insert [DecidableEq κ] [Std.LawfulEqOrd κ] (map : SortedMap κ α) (key other : κ)
    (value : α) :
    (map.insert key value).get? other = if other = key then some value else map.get? other :=
  Entries.get?_insert key other value map.toList

end SortedMap

end Intake
