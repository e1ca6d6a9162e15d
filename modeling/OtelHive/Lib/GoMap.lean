import Mathlib.Data.List.AList

/-!
# `OtelHive.Lib.GoMap`: finite keyed maps

A `GoMap κ ν` is a list of key-value pairs without a repeated key (`AList`), in some
iteration order. Lookups do not depend on the order, and a loop over the map reads
`entries` in that order. A statement about every map is therefore a statement about every
iteration order.

Mathlib states the lookup lemmas of `insert` and `erase` for the equal key and for a
different key apart. The lemmas here join them in one `if`, the form the proofs rewrite
with, and add three operations: `modify` at one key, `eraseAll` of a list of keys, and
`filterMap` on the values.
-/

set_option autoImplicit false

namespace OtelHive.Lib

/-- A finite map from `κ` to `ν`, with an iteration order. -/
abbrev GoMap (κ ν : Type) : Type := AList (fun _ : κ => ν)

/-- The order in which a loop visits a list of keys. Go picks one at every loop. -/
structure IterOrder (κ : Type) where
  visit : List κ → List κ
  perm : ∀ ks, (visit ks).Perm ks

/-- The loop visits the keys as the list has them. -/
def IterOrder.asIs {κ : Type} : IterOrder κ where
  visit ks := ks
  perm ks := .refl ks

namespace GoMap

variable {κ ν : Type} [DecidableEq κ]

/-- Apply `f` to the value at `k`, if there is one. -/
def modify (m : GoMap κ ν) (k : κ) (f : ν → ν) : GoMap κ ν :=
  match m.lookup k with
  | some v => m.insert k (f v)
  | none => m

/-- Erase every key of a list. -/
def eraseAll (m : GoMap κ ν) (ks : List κ) : GoMap κ ν :=
  ks.foldl (fun m k => m.erase k) m

/-- Pass the values through `f`, and drop the keys for which it has no result. -/
def filterMap {μ : Type} (m : GoMap κ ν) (f : ν → Option μ) : GoMap κ μ where
  entries := m.entries.filterMap fun e => (f e.2).map fun v => (⟨e.1, v⟩ : Sigma fun _ : κ => μ)
  nodupKeys := by
    have hkeys : (m.entries.filterMap fun e =>
        (f e.2).map fun v => (⟨e.1, v⟩ : Sigma fun _ : κ => μ)).keys.Sublist m.entries.keys := by
      generalize m.entries = entries
      induction entries with
      | nil => exact List.Sublist.slnil
      | cons e entries ih =>
        rw [List.filterMap_cons]
        split
        · exact ih.cons e.1
        · rename_i hsome
          obtain ⟨v, _, rfl⟩ := Option.map_eq_some_iff.mp hsome
          exact ih.cons_cons e.1
    exact List.Nodup.sublist hkeys m.nodupKeys

/-- The values that a loop over the map visits, in the order of the loop. -/
def values (m : GoMap κ ν) (order : IterOrder κ) : List ν :=
  (order.visit m.keys).filterMap m.lookup

/-- The key-value pairs in iteration order. -/
def toList (m : GoMap κ ν) : List (κ × ν) :=
  m.entries.map fun e => (e.1, e.2)

/-- A lookup after an insert. -/
theorem lookup_insert_eq (m : GoMap κ ν) (k k' : κ) (v : ν) :
    (m.insert k v).lookup k' = if k' = k then some v else m.lookup k' := by
  split
  · rename_i h
    subst h
    exact AList.lookup_insert m
  · rename_i h
    exact AList.lookup_insert_ne h

/-- A lookup after an erase. -/
theorem lookup_erase_eq (m : GoMap κ ν) (k k' : κ) :
    (m.erase k).lookup k' = if k' = k then none else m.lookup k' := by
  split
  · rename_i h
    subst h
    exact AList.lookup_erase k' m
  · rename_i h
    exact AList.lookup_erase_ne h

/-- A lookup after `modify`. -/
theorem lookup_modify (m : GoMap κ ν) (k k' : κ) (f : ν → ν) :
    (m.modify k f).lookup k' = if k' = k then (m.lookup k').map f else m.lookup k' := by
  unfold modify
  cases h : m.lookup k with
  | none =>
    by_cases hk : k' = k
    · subst hk
      simp [h]
    · simp [hk]
  | some v =>
    rw [lookup_insert_eq]
    by_cases hk : k' = k
    · subst hk
      simp [h]
    · simp [hk]

/-- `eraseAll` leaves the other keys alone. -/
theorem lookup_eraseAll_of_notMem {m : GoMap κ ν} {ks : List κ} {k : κ} (h : k ∉ ks) :
    (m.eraseAll ks).lookup k = m.lookup k := by
  induction ks generalizing m with
  | nil => rfl
  | cons k₀ ks ih =>
    rw [List.mem_cons, not_or] at h
    show (eraseAll (m.erase k₀) ks).lookup k = m.lookup k
    rw [ih h.2, lookup_erase_eq, if_neg h.1]

/-- A lookup after `eraseAll`. -/
theorem lookup_eraseAll (m : GoMap κ ν) (ks : List κ) (k : κ) [Decidable (k ∈ ks)] :
    (m.eraseAll ks).lookup k = if k ∈ ks then none else m.lookup k := by
  split
  · rename_i h
    induction ks generalizing m with
    | nil => cases h
    | cons k₀ ks ih =>
      show (eraseAll (m.erase k₀) ks).lookup k = none
      by_cases hks : k ∈ ks
      · have : Decidable (k ∈ ks) := .isTrue hks
        exact ih (m.erase k₀) hks
      · have hk : k = k₀ := (List.mem_cons.mp h).resolve_right hks
        rw [lookup_eraseAll_of_notMem hks, lookup_erase_eq, if_pos hk]
  · rename_i h
    exact lookup_eraseAll_of_notMem h

@[simp] theorem lookup_empty (k : κ) : (∅ : GoMap κ ν).lookup k = none :=
  AList.lookup_empty k

/-- A key is in the map when its lookup finds a value. -/
theorem mem_keys_iff (m : GoMap κ ν) (k : κ) : k ∈ m.keys ↔ ∃ v, m.lookup k = some v := by
  rw [← AList.mem_keys, ← AList.lookup_isSome, Option.isSome_iff_exists]

/-- The pairs of the loop are the entries. -/
theorem mem_toList_iff (m : GoMap κ ν) (k : κ) (v : ν) :
    (k, v) ∈ m.toList ↔ m.lookup k = some v := by
  have hentries : m.lookup k = some v ↔ (⟨k, v⟩ : Sigma fun _ : κ => ν) ∈ m.entries :=
    AList.mem_lookup_iff
  rw [hentries, toList, List.mem_map]
  constructor
  · rintro ⟨e, he, heq⟩
    cases heq
    exact he
  · intro h
    exact ⟨⟨k, v⟩, h, rfl⟩

omit [DecidableEq κ] in
/-- No key comes twice in the loop. -/
theorem nodup_keys_toList (m : GoMap κ ν) : (m.toList.map Prod.fst).Nodup := by
  rw [toList, List.map_map]
  exact m.nodupKeys

omit [DecidableEq κ] in
theorem length_keys (m : GoMap κ ν) : m.keys.length = m.entries.length := List.length_map _

omit [DecidableEq κ] in
/-- Of two maps of one size, the second has no key beyond those of the first, if it has all of
them. -/
theorem keys_subset_of_length_eq {m m' : GoMap κ ν}
    (hsize : m.entries.length = m'.entries.length) (hsub : m.keys ⊆ m'.keys) :
    m'.keys ⊆ m.keys := by
  have hsubperm : m.keys.Subperm m'.keys := List.subperm_of_subset m.keys_nodup hsub
  have hperm : m.keys.Perm m'.keys := by
    refine hsubperm.perm_of_length_le ?_
    rw [length_keys, length_keys, hsize]
  exact hperm.symm.subset

end GoMap

end OtelHive.Lib
