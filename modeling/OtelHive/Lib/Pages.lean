import Mathlib.Data.List.Sort

/-!
# `OtelHive.Lib.Pages`: rows in an order, page by page

`ORDER BY key DESC` puts rows with larger keys first, and rows with equal keys in any order.
`Arrangement` is one such order of the rows. There is only one when no two rows have equal keys
(`Arrangement.sorted_eq`), and otherwise ties can be broken by another key (`Arrangement.byTie`).

`LIMIT n OFFSET k * n` is the page `k` of the rows in that order. A page and the rows after it are
the rows from the page on (`page_append_drop`).
-/

set_option autoImplicit false

namespace OtelHive.Lib

/-! ### Arrangements -/

section Arrangement

variable {α β γ : Type} [LinearOrder β] [LinearOrder γ]

/-- The rows in descending order of a key. -/
structure Arrangement (key : α → β) (rows : List α) where
  sorted : List α
  perm : sorted.Perm rows
  ordered : sorted.Pairwise fun a b => key b ≤ key a

variable {key : α → β} {rows : List α}

/-- When the keys decrease along the rows in some order, that order is the only arrangement. -/
theorem Arrangement.sorted_eq (arr : Arrangement key rows) {sorted : List α}
    (hperm : sorted.Perm rows) (h : sorted.Pairwise fun a b => key b < key a) :
    arr.sorted = sorted := by
  have hnodup : (sorted.map key).Nodup := by
    rw [List.Nodup, List.pairwise_map]
    exact h.imp fun hlt => hlt.ne'
  have hle : sorted.Pairwise fun a b => key b ≤ key a := h.imp le_of_lt
  have hsame : arr.sorted.Perm sorted := arr.perm.trans hperm.symm
  refine List.Perm.eq_of_pairwise ?_ arr.ordered hle hsame
  -- Rows with one key are one row.
  intro a b ha hb hba hab
  exact List.inj_on_of_nodup_map hnodup (hsame.mem_iff.mp ha) hb (le_antisymm hab hba)

/-- A row comes before another one with a smaller key, or with the same key and a tie that is not
smaller. -/
def TieOrder (key : α → β) (tie : α → γ) (a b : α) : Prop :=
  key b < key a ∨ key b = key a ∧ tie a ≤ tie b

instance (key : α → β) (tie : α → γ) (a b : α) : Decidable (TieOrder key tie a b) :=
  inferInstanceAs (Decidable (_ ∨ _))

theorem pairwise_tieOrder (key : α → β) (tie : α → γ) (rows : List α) :
    (rows.insertionSort (TieOrder key tie)).Pairwise (TieOrder key tie) := by
  have : Std.Total (TieOrder key tie) := by
    constructor
    intro a b
    rcases lt_trichotomy (key a) (key b) with hlt | heq | hlt
    · exact Or.inr (Or.inl hlt)
    · rcases le_total (tie a) (tie b) with hle | hle
      · exact Or.inl (Or.inr ⟨heq.symm, hle⟩)
      · exact Or.inr (Or.inr ⟨heq, hle⟩)
    · exact Or.inl (Or.inl hlt)
  have : IsTrans α (TieOrder key tie) := by
    constructor
    rintro a b c (hab | ⟨hab, hle⟩) (hbc | ⟨hbc, hle'⟩)
    · exact Or.inl (hbc.trans hab)
    · exact Or.inl (hbc ▸ hab)
    · exact Or.inl (hab ▸ hbc)
    · exact Or.inr ⟨hbc.trans hab, hle.trans hle'⟩
  exact List.pairwise_insertionSort _ rows

/-- Ties are broken by another key. -/
def Arrangement.byTie (key : α → β) (tie : α → γ) (rows : List α) : Arrangement key rows where
  sorted := rows.insertionSort (TieOrder key tie)
  perm := List.perm_insertionSort _ _
  ordered := (pairwise_tieOrder key tie rows).imp fun h => h.elim le_of_lt fun h => h.1.le

end Arrangement

/-! ### Pages -/

section Pages

variable {α : Type} (l : List α) (n k : Nat)

/-- The page `k` of size `n`, counted from zero. -/
def page : List α := (l.drop (k * n)).take n

theorem page_append_drop : page l n k ++ l.drop ((k + 1) * n) = l.drop (k * n) := by
  rw [page, Nat.succ_mul, ← List.drop_drop, List.take_append_drop]

theorem page_eq_nil_iff (hn : 0 < n) : page l n k = [] ↔ l.length ≤ k * n := by
  rw [page, List.take_eq_nil_iff, List.drop_eq_nil_iff]
  omega

end Pages

end OtelHive.Lib
