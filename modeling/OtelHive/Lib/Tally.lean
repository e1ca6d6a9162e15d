import Mathlib.Algebra.Group.Nat.Defs
import OtelHive.Lib.Table

/-!
# `OtelHive.Lib.Tally`: summaries of a table

A loop over the rows of a table fills a Go map. `index` stores each row under its key, and `tally`
counts the rows of each key, where a row may have none.

With a primary key, the index is the table (`lookup_index`, `length_index`). A tally reads as
`countP` (`getD_lookup_tally`), so it does not depend on the order of the rows.

`foldl_countP_key` is the sum of the counts of some keys: it leaves out exactly the rows that have
none of these keys.
-/

set_option autoImplicit false

namespace OtelHive.Lib

variable {ρ κ : Type} [DecidableEq κ]

/-! ### The index -/

/-- The rows under their keys. A later row replaces an earlier one. -/
def index (key : ρ → κ) (rows : List ρ) : GoMap κ ρ :=
  rows.foldl (fun m row => m.insert (key row) row) ∅

section Index

variable {key : ρ → κ} {rows : List ρ}

/-- The loop of `index`, from any map. -/
theorem lookup_foldl_insert (hnodup : (rows.map key).Nodup) (m : GoMap κ ρ) (k : κ) :
    (rows.foldl (fun m row => m.insert (key row) row) m).lookup k
      = (rows.find? (key · == k)).or (m.lookup k) := by
  induction rows generalizing m with
  | nil => rfl
  | cons row rows ih =>
    rw [List.map_cons, List.nodup_cons] at hnodup
    rw [List.foldl_cons, ih hnodup.2, GoMap.lookup_insert_eq, List.find?_cons]
    by_cases hk : k = key row
    · -- No later row has the key.
      subst hk
      have hnone : rows.find? (key · == key row) = none := by
        rw [List.find?_eq_none]
        intro other hother hsame
        exact hnodup.1 (List.mem_map.mpr ⟨other, hother, by simpa using hsame⟩)
      simp [hnone]
    · have hne : (key row == k) = false := by simpa using Ne.symm hk
      rw [hne, if_neg hk]

/-- With a primary key, the index finds the rows that the table finds. -/
theorem lookup_index (hnodup : (rows.map key).Nodup) (k : κ) :
    (index key rows).lookup k = rows.find? (key · == k) := by
  rw [index, lookup_foldl_insert hnodup, GoMap.lookup_empty, Option.or_none]

/-- With a primary key, the index has an entry for each row. -/
theorem length_index (hnodup : (rows.map key).Nodup) :
    (index key rows).entries.length = rows.length := by
  have hperm : (index key rows).keys.Perm (rows.map key) := by
    rw [List.perm_ext_iff_of_nodup (index key rows).keys_nodup hnodup]
    intro k
    rw [GoMap.mem_keys_iff, lookup_index hnodup, ← Option.isSome_iff_exists, List.find?_isSome,
      List.mem_map]
    simp
  rw [← GoMap.length_keys, hperm.length_eq, List.length_map]

end Index

/-! ### The tally -/

/-- How many rows have each key. -/
def tally (key : ρ → Option κ) (rows : List ρ) : GoMap κ Nat :=
  rows.foldl (fun counts row =>
    match key row with
    | none => counts
    | some k => counts.insert k ((counts.lookup k).getD 0 + 1)) ∅

section Tally

variable {key : ρ → Option κ} {rows : List ρ}

/-- A key that is missing counts as zero. -/
theorem getD_lookup_tally (k : κ) :
    ((tally key rows).lookup k).getD 0 = rows.countP fun row => key row = some k := by
  have hfold : ∀ counts : GoMap κ Nat,
      ((rows.foldl (fun counts row =>
          match key row with
          | none => counts
          | some k => counts.insert k ((counts.lookup k).getD 0 + 1)) counts).lookup k).getD 0
        = (counts.lookup k).getD 0 + rows.countP fun row => key row = some k := by
    induction rows with
    | nil =>
      intro counts
      rw [List.countP_nil]
      rfl
    | cons row rows ih =>
      intro counts
      rw [List.foldl_cons, ih, List.countP_cons]
      cases hkey : key row with
      | none => simp
      | some k' =>
        dsimp only
        rw [GoMap.lookup_insert_eq]
        by_cases hk : k = k'
        · subst hk
          simp
          omega
        · simp [hk, Ne.symm hk]
  rw [tally, hfold, GoMap.lookup_empty]
  simp

/-- The rows with the key `k`, and the rows that have neither it nor one of the other keys. -/
theorem countP_key_add {ks : List κ} {k : κ} (hnew : k ∉ ks) :
    (rows.countP fun row => key row = some k)
        + (rows.countP fun row => ∀ k' ∈ k :: ks, key row ≠ some k')
      = rows.countP fun row => ∀ k' ∈ ks, key row ≠ some k' := by
  induction rows with
  | nil => rfl
  | cons row rows ih =>
    rw [List.countP_cons, List.countP_cons, List.countP_cons]
    by_cases hkey : key row = some k
    · -- No other key is the key of the row.
      have hfree : ∀ k' ∈ ks, key row ≠ some k' := by
        rintro k' hk' hsame
        rw [hkey, Option.some.injEq] at hsame
        exact hnew (hsame ▸ hk')
      have htaken : ¬ ∀ k' ∈ k :: ks, key row ≠ some k' :=
        fun h => h k List.mem_cons_self hkey
      rw [if_pos (decide_eq_true hkey), if_neg (by rw [decide_eq_true_eq]; exact htaken),
        if_pos (decide_eq_true hfree)]
      omega
    · have hiff : (∀ k' ∈ k :: ks, key row ≠ some k') ↔ ∀ k' ∈ ks, key row ≠ some k' := by
        rw [List.forall_mem_cons]
        exact and_iff_right hkey
      simp only [hkey, hiff, decide_false, Bool.false_eq_true, if_false]
      omega

/-- The counts of distinct keys add up to the rows that have one of them. -/
theorem foldl_countP_key {α : Type} {k : α → κ} {items : List α} (hnodup : (items.map k).Nodup)
    (n : Nat) :
    items.foldl (fun n item => n + rows.countP fun row => key row = some (k item)) n
        + (rows.countP fun row => ∀ k' ∈ items.map k, key row ≠ some k')
      = n + rows.length := by
  induction items generalizing n with
  | nil =>
    have hall : (rows.countP fun row => ∀ k' ∈ ([] : List α).map k, key row ≠ some k')
        = rows.length := by
      rw [List.countP_eq_length]
      intro row _
      simp
    rw [hall]
    rfl
  | cons item items ih =>
    rw [List.map_cons, List.nodup_cons] at hnodup
    have hstep : (rows.countP fun row => key row = some (k item))
          + (rows.countP fun row => ∀ k' ∈ k item :: items.map k, key row ≠ some k')
        = rows.countP fun row => ∀ k' ∈ items.map k, key row ≠ some k' := countP_key_add hnodup.1
    have hrest := ih hnodup.2 (n + rows.countP fun row => key row = some (k item))
    rw [List.foldl_cons, List.map_cons]
    omega

end Tally

end OtelHive.Lib
