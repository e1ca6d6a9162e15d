import Mathlib.Data.List.Forall2
import Mathlib.Data.List.MinMax
import Mathlib.Data.List.Sort

/-!
# `OtelHive.Lib.Related`: tables with related rows

Two tables whose rows are related one by one (`List.Forall₂ R`). A query that reads only what
related rows have in common finds related rows in both: `any`, `find?`, `filter`, `ORDER BY` with a
key, and the row with the largest key. An insert, an update and a delete keep the rows related.

Mathlib has the rules for `map`, `++` and `filter` in the form of its relators. They are restated
here for functions that are applied to both tables.
-/

set_option autoImplicit false

namespace OtelHive.Lib

open List (Forall₂)

section Related

variable {α β : Type} {R : α → β → Prop} {l : List α} {l' : List β}

/-! ### Queries -/

theorem exists_of_mem_forall₂ (h : Forall₂ R l l') {a : α} (ha : a ∈ l) : ∃ b ∈ l', R a b := by
  induction h with
  | nil => cases ha
  | cons hab _ ih =>
    rcases List.mem_cons.mp ha with rfl | ha
    · exact ⟨_, List.mem_cons_self, hab⟩
    · obtain ⟨b, hb, hab⟩ := ih ha
      exact ⟨b, List.mem_cons_of_mem _ hb, hab⟩

theorem any_of_forall₂ (h : Forall₂ R l l') {p : α → Bool} {q : β → Bool}
    (hpq : ∀ a b, R a b → p a = q b) : l.any p = l'.any q := by
  induction h with
  | nil => rfl
  | cons hab _ ih => rw [List.any_cons, List.any_cons, hpq _ _ hab, ih]

/-- The first rows that a query finds, if it finds any. -/
theorem find?_of_forall₂ (h : Forall₂ R l l') {p : α → Bool} {q : β → Bool}
    (hpq : ∀ a b, R a b → p a = q b) : Option.Rel R (l.find? p) (l'.find? q) := by
  induction h with
  | nil => exact .none
  | cons hab _ ih =>
    rw [List.find?_cons, List.find?_cons, hpq _ _ hab]
    split
    · exact .some hab
    · exact ih

theorem filter_of_forall₂ (h : Forall₂ R l l') {p : α → Bool} {q : β → Bool}
    (hpq : ∀ a b, R a b → p a = q b) : Forall₂ R (l.filter p) (l'.filter q) := by
  induction h with
  | nil => exact .nil
  | cons hab _ ih =>
    rw [List.filter_cons, List.filter_cons, hpq _ _ hab]
    split
    · exact .cons hab ih
    · exact ih

/-- Related rows are read as the same values. -/
theorem map_eq_of_forall₂ {γ : Type} (h : Forall₂ R l l') {f : α → γ} {g : β → γ}
    (hfg : ∀ a b, R a b → f a = g b) : l.map f = l'.map g := by
  induction h with
  | nil => rfl
  | cons hab _ ih => rw [List.map_cons, List.map_cons, hfg _ _ hab, ih]

theorem map_eq_of_rel {γ : Type} {x : Option α} {y : Option β} (h : Option.Rel R x y) {f : α → γ}
    {g : β → γ} (hfg : ∀ a b, R a b → f a = g b) : x.map f = y.map g := by
  cases h with
  | none => rfl
  | some hab => exact congrArg some (hfg _ _ hab)

/-! ### Orders -/

section Order

variable {κ : Type} [LinearOrder κ] {key : α → κ} {key' : β → κ}

theorem orderedInsert_of_forall₂ (h : Forall₂ R l l') (hkey : ∀ a b, R a b → key a = key' b)
    {a : α} {b : β} (hab : R a b) :
    Forall₂ R (l.orderedInsert (fun x y => key y ≤ key x) a)
      (l'.orderedInsert (fun x y => key' y ≤ key' x) b) := by
  induction h with
  | nil => exact .cons hab .nil
  | cons hcd hrest ih =>
    rw [List.orderedInsert, List.orderedInsert, hkey _ _ hab, hkey _ _ hcd]
    split
    · exact .cons hab (.cons hcd hrest)
    · exact .cons hcd ih

/-- `ORDER BY key DESC`. -/
theorem insertionSort_of_forall₂ (h : Forall₂ R l l') (hkey : ∀ a b, R a b → key a = key' b) :
    Forall₂ R (l.insertionSort fun x y => key y ≤ key x)
      (l'.insertionSort fun x y => key' y ≤ key' x) := by
  induction h with
  | nil => exact .nil
  | cons hab _ ih => exact orderedInsert_of_forall₂ ih hkey hab

end Order

/-- `ORDER BY key DESC LIMIT 1`. -/
theorem argmax_of_forall₂ {κ : Type} [Preorder κ] [DecidableLT κ] {key : α → κ} {key' : β → κ}
    (h : Forall₂ R l l') (hkey : ∀ a b, R a b → key a = key' b) :
    Option.Rel R (l.argmax key) (l'.argmax key') := by
  have hstep : ∀ (x : Option α) (y : Option β) a b, Option.Rel R x y → R a b →
      Option.Rel R (List.argAux (fun b c => key c < key b) x a)
        (List.argAux (fun b c => key' c < key' b) y b) := by
    intro x y a b hxy hab
    cases hxy with
    | none => exact .some hab
    | some hcd =>
      simp only [List.argAux, hkey _ _ hab, hkey _ _ hcd]
      split
      · exact .some hab
      · exact .some hcd
  have hfold : ∀ (x : Option α) (y : Option β), Option.Rel R x y →
      Option.Rel R (l.foldl (List.argAux fun b c => key c < key b) x)
        (l'.foldl (List.argAux fun b c => key' c < key' b) y) := by
    induction h with
    | nil => exact fun x y hxy => hxy
    | cons hab _ ih => exact fun x y hxy => ih _ _ (hstep x y _ _ hxy hab)
  exact hfold none none .none

/-! ### Writes -/

theorem concat_of_forall₂ (h : Forall₂ R l l') {a : α} {b : β} (hab : R a b) :
    Forall₂ R (l ++ [a]) (l' ++ [b]) := by
  induction h with
  | nil => exact .cons hab .nil
  | cons hcd _ ih => exact .cons hcd ih

/-- An update of the rows that a condition names. -/
theorem update_of_forall₂ (h : Forall₂ R l l') {p : α → Prop} {q : β → Prop} [DecidablePred p]
    [DecidablePred q] {f : α → α} {g : β → β} (hpq : ∀ a b, R a b → (p a ↔ q b))
    (hfg : ∀ a b, R a b → R (f a) (g b)) :
    Forall₂ R (l.map fun a => if p a then f a else a) (l'.map fun b => if q b then g b else b) := by
  induction h with
  | nil => exact .nil
  | @cons a b l l' hab _ ih =>
    rw [List.map_cons, List.map_cons]
    refine .cons ?_ ih
    by_cases hp : p a
    · rw [if_pos hp, if_pos ((hpq a b hab).mp hp)]
      exact hfg a b hab
    · rw [if_neg hp, if_neg fun hq => hp ((hpq a b hab).mpr hq)]
      exact hab

end Related

end OtelHive.Lib
