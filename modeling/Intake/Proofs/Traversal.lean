import Intake.Except
import Mathlib.Data.List.Forall2

/-!
# Lists that are mapped or refused as a whole

A computation that may fail is applied to each item of a list in turn.  The list is mapped exactly
when every item is, and otherwise the first item that fails gives the error.
-/

namespace Intake

/-- Items are mapped one by one, and all of them or none. -/
theorem mapM_eq_ok_iff {ε α β : Type} {f : α → Except ε β} {items : List α} {results : List β} :
    items.mapM f = .ok results ↔ List.Forall₂ (fun a b => f a = .ok b) items results := by
  induction items generalizing results with
  | nil =>
    rw [List.mapM_nil, List.forall₂_nil_left_iff, pure_eq_ok, Except.ok.injEq, eq_comm]
  | cons a items ih =>
    constructor
    · intro hok
      rw [List.mapM_cons] at hok
      obtain ⟨b, hb, hok⟩ := bind_eq_ok_iff.1 hok
      obtain ⟨rest, hrest, hok⟩ := bind_eq_ok_iff.1 hok
      cases hok
      exact .cons hb (ih.1 hrest)
    · rintro (_ | ⟨hb, hrest⟩)
      rw [List.mapM_cons, hb, ok_bind, ih.2 hrest]
      rfl

/-- A list of items is related to another list when each of its items is related to something. -/
theorem exists_forall₂_iff {α β : Type} {R : α → β → Prop} {items : List α} :
    (∃ results, List.Forall₂ R items results) ↔ ∀ a ∈ items, ∃ b, R a b := by
  induction items with
  | nil => exact ⟨fun _ => List.forall_mem_nil _, fun _ => ⟨[], .nil⟩⟩
  | cons a items ih =>
    rw [List.forall_mem_cons, ← ih]
    constructor
    · rintro ⟨_, _ | ⟨hb, hrest⟩⟩
      exact ⟨⟨_, hb⟩, ⟨_, hrest⟩⟩
    · rintro ⟨⟨b, hb⟩, ⟨rest, hrest⟩⟩
      exact ⟨b :: rest, .cons hb hrest⟩

/-- The error of the first item that cannot be mapped is the error of the list. -/
theorem mapM_eq_error_iff {ε α β : Type} {f : α → Except ε β} {items : List α} {error : ε} :
    items.mapM f = .error error ↔
      ∃ before item after, items = before ++ item :: after ∧ (∀ a ∈ before, ∃ b, f a = .ok b) ∧
        f item = .error error := by
  induction items with
  | nil => simp
  | cons a items ih =>
    rw [List.mapM_cons, bind_eq_error_iff]
    constructor
    · rintro (ha | ⟨b, ha, hrest⟩)
      · exact ⟨[], a, items, rfl, List.forall_mem_nil _, ha⟩
      · have herror : items.mapM f = .error error := by
          rcases bind_eq_error_iff.1 hrest with herror | ⟨_, _, hpure⟩
          · exact herror
          · cases hpure
        obtain ⟨before, item, after, rfl, hbefore, hitem⟩ := ih.1 herror
        exact ⟨a :: before, item, after, rfl, List.forall_mem_cons.2 ⟨⟨b, ha⟩, hbefore⟩, hitem⟩
    · rintro ⟨before, item, after, heq, hbefore, hitem⟩
      cases before with
      | nil =>
        cases heq
        exact .inl hitem
      | cons first before =>
        cases heq
        obtain ⟨⟨b, ha⟩, hbefore⟩ := List.forall_mem_cons.1 hbefore
        refine .inr ⟨b, ha, ?_⟩
        rw [ih.2 ⟨before, item, after, rfl, hbefore, hitem⟩, error_bind]

end Intake
