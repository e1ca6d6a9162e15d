import Mathlib.Init

/-!
# `OtelHive.Lib.References`: foreign keys

The rows of one table refer to the keys of another: `ref` reads the key that a row refers to, if
it does, and `key` the key of a row that can be referred to. `Refers` says that each reference
finds its row. A delete with `ON DELETE CASCADE` keeps it, and without the cascade it is kept
exactly if no row refers to the deleted key.
-/

set_option autoImplicit false

namespace OtelHive.Lib

variable {α β κ : Type} {ref : β → Option κ} {key : α → κ} {rows rows' : List β}
  {table table' : List α} {k : κ}

/-- Each row that refers to a key finds a row of the table with that key. -/
def Refers (ref : β → Option κ) (key : α → κ) (rows : List β) (table : List α) : Prop :=
  ∀ b ∈ rows, ∀ k, ref b = some k → ∃ a ∈ table, key a = k

theorem refers_nil : Refers ref key [] table :=
  fun _ hb => absurd hb List.not_mem_nil

/-- Fewer rows, and a table with the same keys or more. -/
theorem Refers.of_subset (h : Refers ref key rows table) (hrows : ∀ b ∈ rows', b ∈ rows)
    (htable : ∀ a ∈ table, ∃ a' ∈ table', key a' = key a) : Refers ref key rows' table' := by
  intro b hb k hk
  obtain ⟨a, ha, rfl⟩ := h b (hrows b hb) k hk
  exact htable a ha

/-- A new row finds what it refers to exactly if all rows do. -/
theorem Refers.concat_iff (h : Refers ref key rows table) (b : β) :
    Refers ref key (rows ++ [b]) table ↔ ∀ k, ref b = some k → ∃ a ∈ table, key a = k := by
  constructor
  · intro h'
    exact h' b (List.mem_append_right _ List.mem_cons_self)
  · intro hb b' hb'
    rcases List.mem_append.mp hb' with hold | hnew
    · exact h b' hold
    · rw [List.mem_singleton.mp hnew]
      exact hb

/-- A key without a row has no row that refers to it. -/
theorem Refers.ne_of_missing (h : Refers ref key rows table) (hmissing : ∀ a ∈ table, key a ≠ k) :
    ∀ b ∈ rows, ref b ≠ some k := by
  intro b hb hk
  obtain ⟨a, ha, hkey⟩ := h b hb k hk
  exact hmissing a ha hkey

/-- After the rows of a key have been deleted from the table, the references that are left find
their row exactly if none is to that key. -/
theorem Refers.delete_iff [DecidableEq κ] (h : Refers ref key rows table)
    (hrows : ∀ b ∈ rows', b ∈ rows) :
    Refers ref key rows' (table.filter fun a => key a != k) ↔ ∀ b ∈ rows', ref b ≠ some k := by
  constructor
  · intro h'
    refine h'.ne_of_missing ?_
    intro a ha
    simpa using (List.mem_filter.mp ha).2
  · intro hnone b hb k' hk'
    obtain ⟨a, ha, rfl⟩ := h b (hrows b hb) k' hk'
    refine ⟨a, List.mem_filter.mpr ⟨ha, ?_⟩, rfl⟩
    rw [bne_iff_ne]
    intro heq
    exact hnone b hb (heq ▸ hk')

/-- The rows after a delete that cascades or not. -/
theorem mem_cascade [DecidableEq κ] {cascades : Bool} {b : β}
    (hb : b ∈ if cascades then rows.filter fun b => ref b != some k else rows) : b ∈ rows := by
  cases cascades with
  | true => exact (List.mem_filter.mp hb).1
  | false => exact hb

/-- A delete leaves no reference to the key exactly if it cascades or there was none. -/
theorem forall_cascade_iff [DecidableEq κ] (cascades : Bool) :
    (∀ b ∈ (if cascades then rows.filter fun b => ref b != some k else rows), ref b ≠ some k) ↔
      cascades = true ∨ ∀ b ∈ rows, ref b ≠ some k := by
  cases cascades with
  | true =>
    refine ⟨fun _ => Or.inl rfl, fun _ b hb => ?_⟩
    simpa using (List.mem_filter.mp hb).2
  | false => simp

end OtelHive.Lib
