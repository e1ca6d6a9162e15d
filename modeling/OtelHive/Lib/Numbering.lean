import Mathlib.Data.List.Perm.Basic
import Mathlib.Data.List.Nodup
import Mathlib.Algebra.Order.Ring.Int

/-!
# `OtelHive.Lib.Numbering`: numbers that are given out one after the other

`numbersAfter l k` are the `k` numbers that follow the largest one of `l`, or 0 if there is none.
A list that has grown from `l` by `k` numbers is numbered if these are its new ones. Then a further
number keeps it numbered exactly if it is one more than the largest (`perm_concat_after_iff`).
-/

set_option autoImplicit false

namespace OtelHive.Lib

/-- The largest number of the list, or 0. -/
def largest (l : List Int) : Int := l.max?.getD 0

/-- The `k` numbers after the largest one. -/
def numbersAfter (l : List Int) (k : Nat) : List Int :=
  (List.range k).map fun (i : Nat) => largest l + 1 + (i : Int)

variable {l l' : List Int} {k : Nat}

theorem le_top {x : Int} (hx : x ∈ l) : x ≤ largest l := by
  unfold largest
  cases hmax : l.max? with
  | none =>
    rw [List.max?_eq_none_iff] at hmax
    rw [hmax] at hx
    cases hx
  | some m => exact (List.max?_eq_some_iff.mp hmax).2 x hx

theorem top_mem (h : l ≠ []) : largest l ∈ l := by
  unfold largest
  cases hmax : l.max? with
  | none => exact absurd (List.max?_eq_none_iff.mp hmax) h
  | some m => exact (List.max?_eq_some_iff.mp hmax).1

theorem mem_after {x : Int} : x ∈ numbersAfter l k ↔ largest l < x ∧ x ≤ largest l + k := by
  unfold numbersAfter
  rw [List.mem_map]
  constructor
  · rintro ⟨i, hi, rfl⟩
    have hlt := List.mem_range.mp hi
    omega
  · rintro ⟨hlow, hhigh⟩
    refine ⟨(x - largest l - 1).toNat, List.mem_range.mpr ?_, ?_⟩ <;> omega

/-- The new numbers are distinct, and none of them is an old one. -/
theorem nodup_append_after (h : l.Nodup) (k : Nat) : (l ++ numbersAfter l k).Nodup := by
  rw [List.nodup_append]
  refine ⟨h, ?_, ?_⟩
  · unfold numbersAfter
    refine List.nodup_range.map ?_
    intro i j hij
    simpa using hij
  · intro x hx y hy heq
    have hle := le_top hx
    have hlt := (mem_after.mp hy).1
    omega

/-- The largest number after `k` steps. -/
theorem le_of_perm_after (h : l'.Perm (l ++ numbersAfter l k)) {x : Int} (hx : x ∈ l') :
    x ≤ largest l + k := by
  rcases List.mem_append.mp (h.mem_iff.mp hx) with hx | hx
  · have hle := le_top hx
    omega
  · exact (mem_after.mp hx).2

theorem mem_of_perm_after (h : l'.Perm (l ++ numbersAfter l k)) (hne : l' ≠ []) :
    largest l + k ∈ l' := by
  rw [h.mem_iff, List.mem_append]
  cases k with
  | zero =>
    have hl : l ≠ [] := by
      rintro rfl
      exact hne (List.perm_nil.mp h)
    have hzero : largest l + ((0 : Nat) : Int) = largest l := by omega
    rw [hzero]
    exact Or.inl (top_mem hl)
  | succ k => exact Or.inr (mem_after.mpr ⟨by omega, le_refl _⟩)

/-- A further number keeps the numbering exactly if it is the next one. -/
theorem perm_concat_after_iff (h : l'.Perm (l ++ numbersAfter l k)) (x : Int) :
    (l' ++ [x]).Perm (l ++ numbersAfter l (k + 1)) ↔ x = largest l + 1 + k := by
  have hsucc : l ++ numbersAfter l (k + 1) = (l ++ numbersAfter l k) ++ [largest l + 1 + k] := by
    unfold numbersAfter
    rw [List.range_succ, List.map_append, List.append_assoc]
    rfl
  rw [hsucc]
  constructor
  · intro hperm
    have hlast := (h.append_right [x]).symm.trans hperm
    rw [List.perm_append_left_iff] at hlast
    exact List.singleton_perm_singleton.mp hlast
  · rintro rfl
    exact h.append_right _

end OtelHive.Lib
