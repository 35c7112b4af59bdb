import Intake.Proofs.Json.Document

/-!
# Documents that carry the same members

A record can be read from its document as it was written or from the value of that document.  A
layout is a rearrangement that keeps texts, numbers and the order of lists, and under whose objects
every name still leads to the rearranged member.  The document itself and its value are layouts, and
so is one after the other.

The second part bounds documents: a document fits a depth when it is no deeper and has whole numbers
only, which is what makes its compact text readable.
-/

namespace Intake.Json

section Lookup

variable {α β : Type}

theorem lookup_eq_get? (name : String) (members : List (String × α)) :
    members.lookup name = Entries.get? name members := by
  induction members with
  | nil => rfl
  | cons m members ih =>
    obtain ⟨n, a⟩ := m
    rw [Entries.get?_cons, List.lookup_cons, ih]
    by_cases hname : name = n
    · simp [hname]
    · rw [if_neg hname, beq_eq_false_iff_ne.2 hname]

/-- The member of this name is the first one. -/
theorem lookup_cons_if (other name : String) (a : α) (members : List (String × α)) :
    List.lookup other ((name, a) :: members) =
      if other = name then some a else members.lookup other := by
  rw [lookup_eq_get?, Entries.get?_cons, lookup_eq_get?]

theorem lookup_filter (keep : String → Bool) (name : String) (members : List (String × α)) :
    (members.filter fun m => keep m.1).lookup name =
      if keep name then members.lookup name else none := by
  induction members with
  | nil => simp
  | cons m members ih =>
    obtain ⟨n, a⟩ := m
    rw [List.filter_cons]
    by_cases hname : name = n
    · subst hname
      cases hkeep : keep name <;> simp [ih, hkeep]
    · cases hkeep : keep n <;> simp [ih, lookup_cons_if, hname]

theorem lookup_filter_ne (other name : String) (members : List (String × α)) :
    (members.filter fun m => m.1 != other).lookup name =
      if name = other then none else members.lookup name := by
  rw [lookup_filter fun n => n != other]
  by_cases hname : name = other <;> simp [hname]

theorem lookup_map (f : α → β) (name : String) (members : List (String × α)) :
    (members.map fun m => (m.1, f m.2)).lookup name = (members.lookup name).map f := by
  induction members with
  | nil => rfl
  | cons m members ih =>
    rw [List.map_cons, List.lookup_cons, List.lookup_cons, ih]
    cases name == m.1 <;> rfl

end Lookup

theorem filter_name_eq {name : String} {document : Json} {members : List Member}
    (hnames : (members.map Prod.fst).Nodup) (hlook : members.lookup name = some document) :
    (members.filter fun m => m.1 == name) = [(name, document)] := by
  induction members with
  | nil => cases hlook
  | cons m members ih =>
    obtain ⟨n, d⟩ := m
    obtain ⟨hn, hrest⟩ := List.nodup_cons.1 hnames
    rw [lookup_cons_if] at hlook
    split at hlook
    next hname =>
      cases hlook
      cases hname
      have hothers : (members.filter fun m => m.1 == name) = [] := by
        apply List.filter_eq_nil_iff.2
        intro m hm heq
        have hmem : m.1 ∈ members.map Prod.fst := List.mem_map_of_mem hm
        exact hn ((beq_iff_eq.1 heq) ▸ hmem)
      rw [List.filter_cons_of_pos (by simp), hothers]
    next hname =>
      rw [List.filter_cons_of_neg (by simpa using fun h => hname h.symm), ih hrest hlook]

theorem canonicalItems_eq (items : List Json) : canonicalItems items = items.map canonical := by
  induction items with
  | nil => rfl
  | cons x items ih => rw [canonicalItems, ih, List.map_cons]

theorem canonicalMembers_eq (members : List Member) :
    canonicalMembers members = members.map fun m => (m.1, canonical m.2) := by
  induction members with
  | nil => rfl
  | cons m members ih => rw [canonicalMembers, ih, List.map_cons]

/-- A rearrangement of documents that readers of records do not notice. -/
structure Layout where
  apply : Json → Json
  str : ∀ text, apply (.str text) = .str text
  num : ∀ n, apply (.num n) = .num n
  arr : ∀ items, apply (.arr items) = .arr (items.map apply)
  obj : ∀ members : List Member, (members.map Prod.fst).Nodup →
    ∃ others : List Member, apply (.obj members) = .obj others ∧
      (others.map Prod.fst).Nodup ∧
      ∀ name, others.lookup name = (members.lookup name).map apply

namespace Layout

/-- Documents as they were written. -/
def written : Layout where
  apply := id
  str _ := rfl
  num _ := rfl
  arr items := by rw [List.map_id, id]
  obj members hnames := ⟨members, rfl, hnames, fun name => by rw [Option.map_id, id]⟩

/-- Documents as values. -/
def sorted : Layout where
  apply := canonical
  str _ := rfl
  num _ := rfl
  arr items := by rw [canonical, canonicalItems_eq]
  obj members hnames := by
    refine ⟨Entries.ofList (canonicalMembers members), rfl,
      Entries.nodup_names (Entries.sorted_ofList _), ?_⟩
    intro name
    have hmapped : ((canonicalMembers members).map Prod.fst).Nodup := by
      rw [canonicalMembers_eq, List.map_map]
      exact hnames
    rw [lookup_eq_get?, Entries.get?_ofList hmapped, ← lookup_eq_get?, canonicalMembers_eq,
      lookup_map]

/-- One rearrangement after another. -/
def after (second first : Layout) : Layout where
  apply document := second.apply (first.apply document)
  str text := by rw [first.str, second.str]
  num n := by rw [first.num, second.num]
  arr items := by
    rw [first.arr, second.arr, List.map_map]
    rfl
  obj members hnames := by
    obtain ⟨others, hothers, hnodup, hlook⟩ := first.obj members hnames
    obtain ⟨final, hfinal, hnodupFinal, hlookFinal⟩ := second.obj others hnodup
    refine ⟨final, by rw [hothers, hfinal], hnodupFinal, ?_⟩
    intro name
    rw [hlookFinal, hlook, Option.map_map]
    rfl

end Layout

/-! ## Members that may be left out -/

section Optional

variable {α : Type} (name : String) (write : α → Json)

theorem lookup_optionalMember (other : String) (value : Option α) :
    (optionalMember name write value).lookup other =
      if other = name then value.map write else none := by
  cases value with
  | none => simp [optionalMember]
  | some a =>
    by_cases hname : other = name
    · simp [optionalMember, hname]
    · simp [optionalMember, hname, lookup_cons_if]

theorem lookup_listMember (other : String) (items : List α) :
    (listMember name write items).lookup other =
      if other = name then if items.isEmpty then none else some (.arr (items.map write))
      else none := by
  unfold listMember
  by_cases hempty : items.isEmpty = true
  · simp [hempty]
  · by_cases hname : other = name
    · simp [hempty, hname]
    · simp [hempty, hname, lookup_cons_if]

theorem names_optionalMember (value : Option α) :
    ((optionalMember name write value).map Prod.fst).Sublist [name] := by
  cases value with
  | none => exact List.nil_sublist _
  | some a => exact List.Sublist.refl _

theorem names_listMember (items : List α) :
    ((listMember name write items).map Prod.fst).Sublist [name] := by
  unfold listMember
  split
  · exact List.nil_sublist _
  · exact List.Sublist.refl _

theorem mem_optionalMember {value : Option α} {m : Member}
    (hm : m ∈ optionalMember name write value) : ∃ a ∈ value, m = (name, write a) := by
  cases value with
  | none => cases hm
  | some a => exact ⟨a, rfl, List.mem_singleton.1 hm⟩

theorem mem_listMember {items : List α} {m : Member} (hm : m ∈ listMember name write items) :
    m = (name, .arr (items.map write)) := by
  unfold listMember at hm
  split at hm
  · cases hm
  · exact List.mem_singleton.1 hm

end Optional

/-! ## Documents of bounded depth -/

/-- A document that is no deeper than this and has whole numbers only. -/
def Fits (bound : Nat) (document : Json) : Prop := document.IsWhole ∧ document.depth ≤ bound

section Fits

variable {bound : Nat}

theorem fits_str (text : String) : Fits bound (.str text) := ⟨trivial, Nat.zero_le _⟩

theorem fits_arr_iff {items : List Json} :
    Fits (bound + 1) (.arr items) ↔ ∀ x ∈ items, Fits bound x := by
  have hitems : AreWhole items ∧ depthItems items ≤ bound ↔ ∀ x ∈ items, Fits bound x := by
    induction items with
    | nil => simp [AreWhole, depthItems]
    | cons x items ih =>
      rw [List.forall_mem_cons, ← ih, AreWhole, depthItems, Fits, Nat.max_le]
      exact and_and_and_comm
  rw [← hitems, Fits, IsWhole, depth, Nat.add_comm 1, Nat.add_le_add_iff_right]

theorem fits_obj_iff {members : List Member} :
    Fits (bound + 1) (.obj members) ↔ ∀ m ∈ members, Fits bound m.2 := by
  have hmembers : MembersWhole members ∧ depthMembers members ≤ bound ↔
      ∀ m ∈ members, Fits bound m.2 := by
    induction members with
    | nil => simp [MembersWhole, depthMembers]
    | cons m members ih =>
      rw [List.forall_mem_cons, ← ih, MembersWhole, depthMembers, Fits, Nat.max_le]
      exact and_and_and_comm
  rw [← hmembers, Fits, IsWhole, depth, Nat.add_comm 1, Nat.add_le_add_iff_right]

theorem Fits.mono {smaller : Nat} {document : Json} (hfits : Fits smaller document)
    (hle : smaller ≤ bound) : Fits bound document :=
  ⟨hfits.1, Nat.le_trans hfits.2 hle⟩

theorem fits_optionalMember {α : Type} {name : String} {write : α → Json} {value : Option α}
    (hwrite : ∀ a, Fits bound (write a)) :
    ∀ m ∈ optionalMember name write value, Fits bound m.2 := by
  intro m hm
  obtain ⟨a, -, rfl⟩ := mem_optionalMember name write hm
  exact hwrite a

theorem fits_listMember {α : Type} {name : String} {write : α → Json} {items : List α}
    (hwrite : ∀ a, Fits bound (write a)) :
    ∀ m ∈ listMember name write items, Fits (bound + 1) m.2 := by
  intro m hm
  rw [mem_listMember name write hm]
  apply fits_arr_iff.2
  intro x hx
  obtain ⟨a, -, rfl⟩ := List.mem_map.1 hx
  exact hwrite a

/-- The value of a document fits where the document does. -/
theorem fits_canonical : ∀ (bound : Nat) (document : Json), Fits bound document →
    Fits bound document.canonical
  | 0, .arr xs, hfits => absurd hfits.2 (by simp [depth])
  | 0, .obj ms, hfits => absurd hfits.2 (by simp [depth])
  | bound + 1, .arr xs, hfits => by
    rw [canonical, canonicalItems_eq, fits_arr_iff]
    intro y hy
    obtain ⟨x, hx, rfl⟩ := List.mem_map.1 hy
    exact fits_canonical bound x (fits_arr_iff.1 hfits x hx)
  | bound + 1, .obj ms, hfits => by
    rw [canonical, canonicalMembers_eq, fits_obj_iff]
    intro n hn
    obtain ⟨m, hm, rfl⟩ := List.mem_map.1 (Entries.mem_ofList hn)
    exact fits_canonical bound m.2 (fits_obj_iff.1 hfits m hm)
  | _, .null, hfits => hfits
  | _, .bool _, hfits => hfits
  | _, .num _, hfits => hfits
  | _, .str _, hfits => hfits

end Fits

end Intake.Json
