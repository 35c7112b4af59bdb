/-!
# Computations that agree

Two computations over different states agree when they give the same result from related states and
leave related states behind.  Computations that are put together in the same way from steps that
agree do so themselves.  With one computation on both sides, this says what the computation keeps.
-/

namespace Intake

section Agrees

variable {σ τ α β : Type} {R : σ → τ → Prop} {P : α → Prop} {Q : β → Prop}

/-- Run from related states, both computations give the same result, which has a property, and end
in related states. -/
def Agrees (R : σ → τ → Prop) (P : α → Prop) (m : StateM σ α) (n : StateM τ α) : Prop :=
  ∀ s t, R s t → (m s).1 = (n t).1 ∧ R (m s).2 (n t).2 ∧ P (m s).1

namespace Agrees

theorem pure {a : α} (ha : P a) :
    Agrees R P (Pure.pure a : StateM σ α) (Pure.pure a : StateM τ α) :=
  fun _ _ hrelated => ⟨rfl, hrelated, ha⟩

theorem bind {m : StateM σ α} {n : StateM τ α} {f : α → StateM σ β} {g : α → StateM τ β}
    (hfirst : Agrees R P m n) (hnext : ∀ a, P a → Agrees R Q (f a) (g a)) :
    Agrees R Q (m >>= f) (n >>= g) := by
  intro s t hrelated
  obtain ⟨hresult, hstates, hproperty⟩ := hfirst s t hrelated
  have hrest := hnext (m s).1 hproperty (m s).2 (n t).2 hstates
  show (f (m s).1 (m s).2).1 = (g (n t).1 (n t).2).1 ∧
    R (f (m s).1 (m s).2).2 (g (n t).1 (n t).2).2 ∧ Q (f (m s).1 (m s).2).1
  rw [← hresult]
  exact hrest

/-- Step after step over a list, both computations give the same results. -/
theorem mapM {f : α → StateM σ β} {g : α → StateM τ β} (items : List α)
    (hstep : ∀ a ∈ items, Agrees R (fun _ => True) (f a) (g a)) :
    Agrees R (fun _ => True) (items.mapM f) (items.mapM g) := by
  induction items with
  | nil =>
    rw [List.mapM_nil, List.mapM_nil]
    exact .pure trivial
  | cons a items ih =>
    obtain ⟨hfirst, hrest⟩ := List.forall_mem_cons.1 hstep
    rw [List.mapM_cons, List.mapM_cons]
    exact hfirst.bind fun _ _ => (ih hrest).bind fun _ _ => .pure trivial

end Agrees

end Agrees

end Intake
