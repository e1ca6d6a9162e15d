import Mathlib.Data.List.Basic

/-!
# `OtelHive.Lib.Joins`: two texts with a separator between them

Texts that may hold the separator can be joined to one text in several ways. `join_eq_iff` says
which pairs of texts have the same join: equal ones, and those where the separator stands at
another place (`Regroups`).
-/

set_option autoImplicit false

namespace OtelHive.Lib

variable {α : Type}

/-- The separator of the second pair stands further right. -/
def Regroups (sep a b c d : List α) : Prop :=
  ∃ shift, shift ≠ [] ∧ c = a ++ shift ∧ sep ++ b = shift ++ sep ++ d

theorem Regroups.join_eq {sep a b c d : List α} (h : Regroups sep a b c d) :
    a ++ sep ++ b = c ++ sep ++ d := by
  obtain ⟨shift, -, rfl, hrest⟩ := h
  rw [List.append_assoc, hrest]
  simp only [List.append_assoc]

/-- The pairs with the same join. -/
theorem join_eq_iff (sep a b c d : List α) :
    a ++ sep ++ b = c ++ sep ++ d ↔
      (a = c ∧ b = d) ∨ Regroups sep a b c d ∨ Regroups sep c d a b := by
  constructor
  · intro h
    rw [List.append_assoc, List.append_assoc, List.append_eq_append_iff] at h
    -- One of the first texts is the other one with a shift.
    rcases h with ⟨shift, hc, hrest⟩ | ⟨shift, ha, hrest⟩
    · by_cases hshift : shift = []
      · subst hshift
        left
        simp at hc hrest
        exact ⟨hc.symm, hrest⟩
      · exact Or.inr (Or.inl ⟨shift, hshift, hc, by rw [hrest, List.append_assoc]⟩)
    · by_cases hshift : shift = []
      · subst hshift
        left
        simp at ha hrest
        exact ⟨ha, hrest.symm⟩
      · exact Or.inr (Or.inr ⟨shift, hshift, ha, by rw [hrest, List.append_assoc]⟩)
  · rintro (⟨rfl, rfl⟩ | h | h)
    · rfl
    · exact h.join_eq
    · exact h.join_eq.symm

/-- A separator of one element: the first text goes on with it. -/
theorem regroups_singleton (u : α) (a b c d : List α) :
    Regroups [u] a b c d ↔ ∃ x, c = a ++ [u] ++ x ∧ b = x ++ [u] ++ d := by
  constructor
  · rintro ⟨shift, hshift, rfl, hrest⟩
    cases shift with
    | nil => exact absurd rfl hshift
    | cons v x =>
      simp only [List.cons_append, List.nil_append, List.cons.injEq] at hrest
      exact ⟨x, by simp [hrest.1], hrest.2⟩
  · rintro ⟨x, rfl, rfl⟩
    exact ⟨u :: x, List.cons_ne_nil u x, by simp, by simp⟩

end OtelHive.Lib
