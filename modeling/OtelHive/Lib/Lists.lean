import Mathlib.Init

/-!
# `OtelHive.Lib.Lists`: lists that record what has begun

A list records entries in the order in which they began. A new entry is appended, and an entry
that goes on is replaced at its index. The lemmas say what an index finds after either, which
entries there are, what holds of all of them, and that a replacement can lower a count.
-/

set_option autoImplicit false

namespace OtelHive.Lib

variable {α : Type} {l : List α} {i j : Nat} {a b : α}

theorem lt_length_of_getElem? (h : l[i]? = some a) : i < l.length :=
  (List.getElem?_eq_some_iff.mp h).1

/-- The entries after one of them has been replaced. -/
theorem getElem?_set_iff (h : i < l.length) (b : α) :
    (l.set i b)[j]? = some a ↔ (j = i ∧ b = a) ∨ (j ≠ i ∧ l[j]? = some a) := by
  rw [List.getElem?_set]
  by_cases heq : j = i
  · subst heq
    simp [h]
  · simp [heq, Ne.symm heq]

/-- A new entry is the last one. -/
theorem getElem?_concat_iff :
    (l ++ [b])[j]? = some a ↔ (j = l.length ∧ b = a) ∨ l[j]? = some a := by
  by_cases hlt : j < l.length
  · rw [List.getElem?_append_left hlt]
    have hne : j ≠ l.length := by omega
    simp [hne]
  · rw [List.getElem?_append_right (by omega), List.getElem?_eq_none (l := l) (by omega)]
    by_cases heq : j = l.length
    · simp [heq]
    · have hpos : j - l.length ≠ 0 := by omega
      simp [heq, hpos]

/-- New entries leave the others where they are. -/
theorem getElem?_append_of_getElem? (h : l[i]? = some a) (m : List α) :
    (l ++ m)[i]? = some a := by
  rw [List.getElem?_append_left (lt_length_of_getElem? h)]
  exact h

/-- The entries, apart from the one at an index. -/
theorem mem_iff_of_getElem? (h : l[i]? = some a) : b ∈ l ↔ b = a ∨ b ∈ l.eraseIdx i := by
  rw [List.mem_eraseIdx_iff_getElem?, List.mem_iff_getElem?]
  constructor
  · rintro ⟨j, hj⟩
    by_cases heq : j = i
    · subst heq
      rw [h, Option.some.injEq] at hj
      exact Or.inl hj.symm
    · exact Or.inr ⟨j, heq, hj⟩
  · rintro (rfl | ⟨j, _, hj⟩)
    · exact ⟨i, h⟩
    · exact ⟨j, hj⟩

/-- The entries after the one at an index has been replaced. -/
theorem mem_set_iff (h : l[i]? = some a) {c : α} : c ∈ l.set i b ↔ c = b ∨ c ∈ l.eraseIdx i := by
  rw [List.mem_eraseIdx_iff_getElem?, List.mem_iff_getElem?]
  simp only [getElem?_set_iff (lt_length_of_getElem? h)]
  constructor
  · rintro ⟨j, ⟨rfl, rfl⟩ | ⟨hne, hj⟩⟩
    · exact Or.inl rfl
    · exact Or.inr ⟨j, hne, hj⟩
  · rintro (rfl | ⟨j, hne, hj⟩)
    · exact ⟨i, Or.inl ⟨rfl, rfl⟩⟩
    · exact ⟨j, Or.inr ⟨hne, hj⟩⟩

/-- What holds of all entries and of the one that replaces one of them. -/
theorem forall_mem_set {P : α → Prop} (h : ∀ c ∈ l, P c) (hb : P b) (i : Nat) :
    ∀ c ∈ l.set i b, P c := by
  intro c hmem
  rcases List.mem_or_eq_of_mem_set hmem with hold | hsame
  · exact h c hold
  · rw [hsame]
    exact hb

/-- What holds of all entries and of a new one. -/
theorem forall_mem_concat {P : α → Prop} (h : ∀ c ∈ l, P c) (hb : P b) : ∀ c ∈ l ++ [b], P c :=
  List.forall_mem_append.mpr ⟨h, List.forall_mem_singleton.mpr hb⟩

/-- The entry at an index goes from one that counts to one that does not. -/
theorem countP_set_lt {p : α → Bool} (h : l[i]? = some a) (ha : p a = true)
    (hb : p b = false) : (l.set i b).countP p < l.countP p := by
  obtain ⟨hlt, hget⟩ := List.getElem?_eq_some_iff.mp h
  have hpos : 0 < l.countP p := List.countP_pos_iff.mpr ⟨a, List.mem_of_getElem? h, ha⟩
  rw [List.countP_set hlt, hget, ha, hb]
  simp only [if_true, Bool.false_eq_true, if_false]
  omega

end OtelHive.Lib
