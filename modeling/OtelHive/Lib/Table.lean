import Mathlib.Data.List.MinMax
import Mathlib.Data.List.Sort
import OtelHive.Lib.GoMap

/-!
# `OtelHive.Lib.Table`: keyed tables

A table is a list of rows, and `key` reads the primary key of a row. It stands for the finite map
`fun k => rows.find? (key · == k)`, and the lemmas say what an insert, an update and a delete do to
this map. `SameMap` says that a `GoMap` stands for the same map. It survives the operations, and
then a loop over the `GoMap` visits the same rows, in any order (`SameMap.values_perm`).

`Untied` says that one row alone is the largest in an order. Then `argmax` does not depend on the
order of the rows (`argmax_perm`), and otherwise it does (`argmax_cons_of_forall_le`).

`TopRows` is what a query with an order and a limit may return: a prefix of a sorted arrangement of
the rows.
-/

set_option autoImplicit false

namespace OtelHive.Lib

/-! ### The rows of a key -/

section Rows

variable {ρ κ : Type} [DecidableEq κ] {key : ρ → κ} {rows : List ρ} {row : ρ} {k : κ}

/-- A key has a row when the map has a value there. -/
theorem any_key_eq (key : ρ → κ) (rows : List ρ) (k : κ) :
    rows.any (key · == k) = (rows.find? (key · == k)).isSome := by
  rw [Bool.eq_iff_iff, List.any_eq_true, List.find?_isSome]

theorem any_key_iff : rows.any (key · == k) = true ↔ ∃ row ∈ rows, key row = k := by
  simp

/-- A key without a row. -/
theorem not_any_key_iff : ¬ rows.any (key · == k) = true ↔ ∀ row ∈ rows, key row ≠ k := by
  simp

/-- The row that is found carries the key. -/
theorem key_of_find? (h : rows.find? (key · == k) = some row) : key row = k := by
  have hmatch := List.find?_some h
  simpa using hmatch

/-- With a primary key, the row that is found is the one with the key. -/
theorem find?_key_iff (hnodup : (rows.map key).Nodup) :
    rows.find? (key · == k) = some row ↔ row ∈ rows ∧ key row = k := by
  constructor
  · intro h
    exact ⟨List.mem_of_find?_eq_some h, key_of_find? h⟩
  · rintro ⟨hrow, rfl⟩
    have hsome : (rows.find? (key · == key row)).isSome := by
      rw [← any_key_eq]
      exact List.any_eq_true.mpr ⟨row, hrow, beq_self_eq_true _⟩
    obtain ⟨found, hfound⟩ := Option.isSome_iff_exists.mp hsome
    have hsame : found = row :=
      List.inj_on_of_nodup_map hnodup (List.mem_of_find?_eq_some hfound) hrow (key_of_find? hfound)
    rw [hfound, hsame]

/-- The map after the insert of a row whose key is new. -/
theorem find?_concat_key (hnew : rows.find? (key · == key row) = none) (k : κ) :
    (rows ++ [row]).find? (key · == k)
      = if k = key row then some row else rows.find? (key · == k) := by
  rw [List.find?_append]
  by_cases hk : k = key row
  · subst hk
    simp [hnew]
  · simp [hk, Ne.symm hk]

/-- The map after a delete. -/
theorem find?_filter_key (k k' : κ) :
    (rows.filter fun row => key row != k).find? (key · == k')
      = if k' = k then none else rows.find? (key · == k') := by
  rw [List.find?_filter]
  by_cases hk : k' = k
  · subst hk
    rw [if_pos rfl, List.find?_eq_none]
    intro row _ hrow
    simp at hrow
  · rw [if_neg hk]
    refine congrArg (fun p => List.find? p rows) ?_
    funext row
    by_cases hrow : key row = k'
    · simp [hrow, hk]
    · simp [hrow]

/-- With a primary key, a filter keeps the row of a key or drops it. -/
theorem find?_filter_of_nodup (hnodup : (rows.map key).Nodup) (p : ρ → Bool) (k : κ) :
    (rows.filter p).find? (key · == k) = (rows.find? (key · == k)).filter p := by
  have hkept : ((rows.filter p).map key).Nodup := hnodup.sublist (List.filter_sublist.map _)
  cases hfind : rows.find? (key · == k) with
  | none =>
    rw [List.find?_eq_none] at hfind
    show _ = none
    rw [List.find?_eq_none]
    intro row hrow
    exact hfind row (List.mem_of_mem_filter hrow)
  | some row =>
    obtain ⟨hrow, hkey⟩ := (find?_key_iff hnodup).mp hfind
    cases hp : p row with
    | true =>
      rw [Option.filter_some_pos hp, find?_key_iff hkept]
      exact ⟨List.mem_filter.mpr ⟨hrow, hp⟩, hkey⟩
    | false =>
      rw [Option.filter_some_neg (by simp [hp]), List.find?_eq_none]
      intro other hother hsame
      obtain ⟨hmem, hpother⟩ := List.mem_filter.mp hother
      have heq : other = row :=
        List.inj_on_of_nodup_map hnodup hmem hrow (by simpa [hkey] using hsame)
      rw [heq, hp] at hpother
      cases hpother

/-- The map after an update that keeps the keys. -/
theorem find?_update_key {f : ρ → ρ} (hf : ∀ row, key (f row) = key row) (k k' : κ) :
    (rows.map fun row => if key row = k then f row else row).find? (key · == k')
      = if k' = k then (rows.find? (key · == k')).map f else rows.find? (key · == k') := by
  have hpred : ((fun row => key row == k') ∘ fun row => if key row = k then f row else row)
      = fun row => key row == k' := by
    funext row
    simp only [Function.comp_apply]
    split
    · rw [hf]
    · rfl
  rw [List.find?_map, hpred]
  cases hfind : rows.find? (key · == k') with
  | none => simp
  | some row =>
    simp only [Option.map_some, key_of_find? hfind]
    split <;> rfl

/-- The keys after an update that keeps them. -/
theorem map_key_update {f : ρ → ρ} (hf : ∀ row, key (f row) = key row) (k : κ) :
    (rows.map fun row => if key row = k then f row else row).map key = rows.map key := by
  rw [List.map_map]
  refine List.map_congr_left ?_
  intro row _
  simp only [Function.comp_apply]
  split
  · exact hf row
  · rfl

/-- The keys after the insert of a row whose key is new. -/
theorem nodup_concat_key (hnodup : (rows.map key).Nodup) (hnew : ¬ rows.any (key · == key row)) :
    ((rows ++ [row]).map key).Nodup := by
  rw [List.map_append, List.map_singleton, List.nodup_append]
  refine ⟨hnodup, List.nodup_singleton _, ?_⟩
  intro k hk k' hk' heq
  obtain ⟨old, hold, rfl⟩ := List.mem_map.mp hk
  rw [List.mem_singleton] at hk'
  exact hnew (List.any_eq_true.mpr ⟨old, hold, by simp [heq, hk']⟩)

end Rows

/-! ### The rows of a Go map -/

section Values

variable {ρ τ κ : Type} [DecidableEq κ] {key : ρ → κ} {rows : List ρ}

theorem mem_values {m : GoMap κ ρ} (order : IterOrder κ) {row : ρ} :
    row ∈ m.values order ↔ ∃ k, m.lookup k = some row := by
  rw [GoMap.values, List.mem_filterMap]
  constructor
  · rintro ⟨k, _, h⟩
    exact ⟨k, h⟩
  · rintro ⟨k, h⟩
    exact ⟨k, (order.perm _).mem_iff.mpr ((GoMap.mem_keys_iff m k).mpr ⟨row, h⟩), h⟩

/-- When each row is stored under its key, the rows are visited in the order of the keys. -/
theorem map_key_values {m : GoMap κ ρ} (hkey : ∀ k row, m.lookup k = some row → key row = k)
    (order : IterOrder κ) : (m.values order).map key = order.visit m.keys := by
  rw [GoMap.values, List.map_filterMap]
  have hself : ∀ k ∈ order.visit m.keys, (m.lookup k).map key = some k := by
    intro k hk
    obtain ⟨row, hrow⟩ := (GoMap.mem_keys_iff m k).mp ((order.perm _).mem_iff.mp hk)
    rw [hrow, Option.map_some, hkey k row hrow]
  rw [List.filterMap_congr hself, List.filterMap_some]

/-- The table and the Go map stand for the same map, up to what `f` forgets. -/
def SameMap (f : ρ → τ) (key : ρ → κ) (rows : List ρ) (m : GoMap κ ρ) : Prop :=
  ∀ k, (rows.find? (key · == k)).map f = (m.lookup k).map f

/-- They have rows for the same keys. -/
theorem SameMap.any_eq {m : GoMap κ ρ} {f : ρ → τ} (h : SameMap f key rows m) (k : κ) :
    rows.any (key · == k) = (m.lookup k).isSome := by
  rw [any_key_eq, ← Option.isSome_map (f := f), h k, Option.isSome_map]

/-- The inserts of two rows under a new key keep the map the same exactly if the rows are. -/
theorem SameMap.insert_iff {m : GoMap κ ρ} {f : ρ → τ} (h : SameMap f key rows m) {k : κ}
    (hnew : m.lookup k = none) (row row' : ρ) (hkey : key row = k) :
    SameMap f key (rows ++ [row]) (m.insert k row') ↔ f row = f row' := by
  subst hkey
  have hfind : rows.find? (key · == key row) = none := by
    rw [← Option.map_eq_none_iff (f := f), h, hnew, Option.map_none]
  constructor
  · intro h'
    have hrow := h' (key row)
    rw [find?_concat_key hfind, if_pos rfl, GoMap.lookup_insert_eq, if_pos rfl] at hrow
    exact Option.some.inj hrow
  · intro hrow k
    rw [find?_concat_key hfind, GoMap.lookup_insert_eq]
    split
    · rw [Option.map_some, Option.map_some, hrow]
    · exact h k

theorem SameMap.delete {m : GoMap κ ρ} {f : ρ → τ} (h : SameMap f key rows m) (k : κ) :
    SameMap f key (rows.filter fun row => key row != k) (m.erase k) := by
  intro k'
  rw [find?_filter_key, GoMap.lookup_erase_eq]
  split
  · rfl
  · exact h k'

/-- Updates that keep the keys, and agree on rows that are the same. -/
theorem SameMap.update {m : GoMap κ ρ} {f : ρ → τ} (h : SameMap f key rows m) (k : κ)
    {g g' : ρ → ρ} (hkey : ∀ row, key (g row) = key row)
    (hg : ∀ row row', f row = f row' → f (g row) = f (g' row')) :
    SameMap f key (rows.map fun row => if key row = k then g row else row) (m.modify k g') := by
  intro k'
  rw [find?_update_key hkey, GoMap.lookup_modify]
  split
  · have hrow := h k'
    cases hrows : rows.find? (key · == k') with
    | none =>
      rw [hrows, Option.map_none] at hrow
      rw [Option.map_eq_none_iff.mp hrow.symm]
      rfl
    | some row =>
      rw [hrows, Option.map_some] at hrow
      obtain ⟨row', hrow', heq⟩ := Option.map_eq_some_iff.mp hrow.symm
      rw [hrow']
      exact congrArg some (hg row row' heq.symm)
  · exact h k'

/-- A Go map and a table that stand for the same map, up to what `f` forgets, have the same rows up
to their order and what `f` forgets. -/
theorem SameMap.values_perm {m : GoMap κ ρ} {f : ρ → τ} (h : SameMap f key rows m)
    (key' : τ → κ) (hf : ∀ row, key' (f row) = key row)
    (hnodup : (rows.map key).Nodup) (order : IterOrder κ) :
    ((m.values order).map f).Perm (rows.map f) := by
  have hcomp : key' ∘ f = key := funext hf
  have hkey : ∀ k row, m.lookup k = some row → key row = k := by
    intro k row hrow
    have hsome := h k
    rw [hrow, Option.map_some] at hsome
    obtain ⟨row', hrow', heq⟩ := Option.map_eq_some_iff.mp hsome
    rw [← hf, ← heq, hf]
    exact key_of_find? hrow'
  have hvalues : ((m.values order).map f).Nodup := by
    refine List.Nodup.of_map key' ?_
    rw [List.map_map, hcomp, map_key_values hkey]
    exact (order.perm _).nodup_iff.mpr m.nodupKeys
  have hrows : (rows.map f).Nodup := by
    refine List.Nodup.of_map key' ?_
    rw [List.map_map, hcomp]
    exact hnodup
  rw [List.perm_ext_iff_of_nodup hvalues hrows]
  intro t
  simp only [List.mem_map, mem_values]
  constructor
  · rintro ⟨row, ⟨k, hk⟩, rfl⟩
    have hsome := h k
    rw [hk, Option.map_some] at hsome
    obtain ⟨row', hrow', heq⟩ := Option.map_eq_some_iff.mp hsome
    exact ⟨row', List.mem_of_find?_eq_some hrow', heq⟩
  · rintro ⟨row, hrow, rfl⟩
    have hsome := h (key row)
    rw [(find?_key_iff hnodup).mpr ⟨hrow, rfl⟩, Option.map_some] at hsome
    obtain ⟨row', hrow', heq⟩ := Option.map_eq_some_iff.mp hsome.symm
    exact ⟨row', ⟨key row, hrow'⟩, heq⟩

/-- The order that visits one key first. -/
def IterOrder.first (k : κ) : IterOrder κ where
  visit ks := if k ∈ ks then k :: ks.erase k else ks
  perm ks := by
    split
    · rename_i hk
      exact (List.perm_cons_erase hk).symm
    · exact List.Perm.refl _

end Values

/-! ### The largest row -/

section Largest

variable {α β : Type} [LinearOrder β] {f : α → β} {l l' : List α} {a b : α}

/-- One element at most is the largest. -/
def Untied (f : α → β) (l : List α) : Prop :=
  ∀ a ∈ l, ∀ b ∈ l, (∀ c ∈ l, f c ≤ f a) → f a = f b → a = b

/-- Without a tie, the largest element does not depend on the order of the list. -/
theorem argmax_perm (h : Untied f l) (hperm : l'.Perm l) : l'.argmax f = l.argmax f := by
  cases hmax' : l'.argmax f with
  | none =>
    rw [List.argmax_eq_none] at hmax'
    subst hmax'
    rw [List.nil_perm.mp hperm, List.argmax_nil]
  | some a =>
    cases hmax : l.argmax f with
    | none =>
      rw [List.argmax_eq_none] at hmax
      subst hmax
      rw [List.perm_nil.mp hperm, List.argmax_nil] at hmax'
      cases hmax'
    | some b =>
      have ha := hperm.mem_iff.mp (List.argmax_mem hmax')
      have hb := List.argmax_mem hmax
      have hle : ∀ c ∈ l, f c ≤ f a := by
        intro c hc
        exact List.le_of_mem_argmax (hperm.mem_iff.mpr hc) hmax'
      rw [h a ha b hb hle (le_antisymm (List.le_of_mem_argmax ha hmax) (hle b hb))]

/-- A largest element that comes first is the one that `argmax` finds. -/
theorem argmax_cons_of_forall_le (h : ∀ c ∈ l, f c ≤ f a) : (a :: l).argmax f = some a := by
  rw [List.argmax_cons]
  cases hmax : l.argmax f with
  | none => rfl
  | some c => exact if_neg (not_lt.mpr (h c (List.argmax_mem hmax)))

/-- A new element leaves the list without a tie exactly if it does not tie with the largest. -/
theorem Untied.concat_iff (h : Untied f l) (hnew : b ∉ l) :
    Untied f (l ++ [b]) ↔ ∀ a ∈ l.argmax f, f a ≠ f b := by
  constructor
  · intro h' a ha heq
    have hmem := List.argmax_mem ha
    have hle : ∀ c ∈ l ++ [b], f c ≤ f a := by
      intro c hc
      rcases List.mem_append.mp hc with hc | hc
      · exact List.le_of_mem_argmax hc ha
      · rw [List.mem_singleton.mp hc, heq]
    have hab := h' a (List.mem_append_left _ hmem) b (by simp) hle heq
    exact hnew (hab ▸ hmem)
  · -- A largest element of the longer list is one of the shorter, or the new one.
    intro hne a ha c hc hle heq
    have hold : ∀ x ∈ l, (∀ y ∈ l ++ [b], f y ≤ f x) → f x ≠ f b := by
      intro x hx hxle hxb
      cases hmax : l.argmax f with
      | none =>
        rw [List.argmax_eq_none] at hmax
        rw [hmax] at hx
        cases hx
      | some m =>
        refine hne m hmax ?_
        rw [← hxb]
        exact le_antisymm (hxle m (List.mem_append_left _ (List.argmax_mem hmax)))
          (List.le_of_mem_argmax hx hmax)
    rcases List.mem_append.mp ha with haold | hanew <;>
      rcases List.mem_append.mp hc with hcold | hcnew
    · exact h a haold c hcold (fun x hx => hle x (List.mem_append_left _ hx)) heq
    · rw [List.mem_singleton.mp hcnew] at heq
      exact absurd heq (hold a haold hle)
    · rw [List.mem_singleton.mp hanew] at heq
      refine absurd heq.symm (hold c hcold ?_)
      intro y hy
      rw [← heq, ← List.mem_singleton.mp hanew]
      exact hle y hy
    · rw [List.mem_singleton.mp hanew, List.mem_singleton.mp hcnew]

/-- A new row leaves the rows with `p` without a tie exactly if it has not got `p` or does not tie
with the largest of them. -/
theorem Untied.filter_concat_iff {p : α → Bool} (h : Untied f (l.filter p)) (hnew : b ∉ l) :
    Untied f ((l ++ [b]).filter p)
      ↔ (p b = true → ∀ a ∈ (l.filter p).argmax f, f a ≠ f b) := by
  rw [List.filter_append]
  cases hb : p b with
  | false =>
    rw [List.filter_singleton, hb, cond_false, List.append_nil]
    exact ⟨fun _ hp => absurd hp Bool.false_ne_true, fun _ => h⟩
  | true =>
    rw [List.filter_singleton, hb, cond_true,
      h.concat_iff fun hmem => hnew (List.mem_filter.mp hmem).1]
    exact ⟨fun hne _ => hne, fun hne => hne rfl⟩

end Largest

/-! ### The largest row of a Go map -/

section LargestValue

variable {ρ κ β : Type} [DecidableEq κ] [LinearOrder β] {key : ρ → κ} {rows : List ρ} {f : ρ → β}
  {m : GoMap κ ρ}

/-- A loop can begin at any row. -/
theorem values_first {k : κ} {row : ρ} (h : m.lookup k = some row) :
    ∃ rest, m.values (IterOrder.first k) = row :: rest := by
  have hmem : k ∈ m.keys := (GoMap.mem_keys_iff m k).mpr ⟨row, h⟩
  refine ⟨(m.keys.erase k).filterMap m.lookup, ?_⟩
  rw [GoMap.values, IterOrder.first]
  simp only [if_pos hmem]
  exact List.filterMap_cons_some h

/-- The loops over a Go map all find the largest row of the table exactly if one row alone is the
largest. -/
theorem argmax_values_iff (hnodup : (rows.map key).Nodup) (h : SameMap id key rows m)
    (p : ρ → Bool) :
    (∀ order, ((m.values order).filter p).argmax f = (rows.filter p).argmax f)
      ↔ Untied f (rows.filter p) := by
  have hfind : ∀ k, rows.find? (key · == k) = m.lookup k := by
    intro k
    have hk := h k
    rwa [Option.map_id, id, id] at hk
  have hlookup : ∀ row ∈ rows, m.lookup (key row) = some row := by
    intro row hrow
    rw [← hfind, find?_key_iff hnodup]
    exact ⟨hrow, rfl⟩
  constructor
  · intro hall a ha b hb hle heq
    -- A loop that begins at a largest row finds this row.
    have hfirst : ∀ c ∈ rows.filter p, (∀ x ∈ rows.filter p, f x ≤ f c) →
        (rows.filter p).argmax f = some c := by
      intro c hc hcle
      obtain ⟨hcrows, hcp⟩ := List.mem_filter.mp hc
      obtain ⟨rest, hrest⟩ := values_first (hlookup c hcrows)
      rw [← hall (IterOrder.first (key c)), hrest, List.filter_cons_of_pos hcp]
      refine argmax_cons_of_forall_le ?_
      intro x hx
      obtain ⟨hxrest, hxp⟩ := List.mem_filter.mp hx
      have hxvalues : x ∈ m.values (IterOrder.first (key c)) := by
        rw [hrest]
        exact List.mem_cons_of_mem _ hxrest
      obtain ⟨k, hk⟩ := (mem_values _).mp hxvalues
      rw [← hfind] at hk
      exact hcle x (List.mem_filter.mpr ⟨List.mem_of_find?_eq_some hk, hxp⟩)
    have hafirst := hfirst a ha hle
    rw [hfirst b hb fun x hx => heq ▸ hle x hx, Option.some.injEq] at hafirst
    exact hafirst.symm
  · intro huntied order
    have hperm := SameMap.values_perm h key (fun _ => rfl) hnodup order
    rw [List.map_id, List.map_id] at hperm
    exact argmax_perm huntied (hperm.filter p)

end LargestValue

/-! ### Queries with an order and a limit -/

/-- `ORDER BY key DESC LIMIT n` may return `result` on the rows. -/
def TopRows {α β : Type} [LinearOrder β] (key : α → β) (rows : List α) (n : Nat)
    (result : List α) : Prop :=
  ∃ sorted : List α, sorted.Perm rows ∧ sorted.Pairwise (fun a b => key b ≤ key a) ∧
    result = sorted.take n

section TopRows

variable {α β : Type} [LinearOrder β] {key : α → β} {rows rows' result : List α} {n : Nat}

theorem TopRows.perm (h : TopRows key rows n result) (hperm : rows.Perm rows') :
    TopRows key rows' n result := by
  obtain ⟨sorted, hsorted, hpairwise, hresult⟩ := h
  exact ⟨sorted, hsorted.trans hperm, hpairwise, hresult⟩

/-- The rows of an insertion sort. -/
theorem topRows_insertionSort (key : α → β) (rows : List α) (n : Nat) :
    TopRows key rows n ((rows.insertionSort fun a b => key b ≤ key a).take n) := by
  have : Std.Total fun a b : α => key b ≤ key a := ⟨fun a b => le_total (key b) (key a)⟩
  have : IsTrans α fun a b => key b ≤ key a := ⟨fun _ _ _ hab hbc => hbc.trans hab⟩
  exact ⟨_, List.perm_insertionSort _ rows, List.pairwise_insertionSort _ rows, rfl⟩

/-- A largest row may come first. -/
theorem topRows_argmax (key : α → β) (rows : List α) :
    TopRows key rows 1 (rows.argmax key).toList := by
  cases hmax : rows.argmax key with
  | none =>
    rw [List.argmax_eq_none] at hmax
    rw [hmax]
    exact ⟨[], List.Perm.refl _, List.Pairwise.nil, rfl⟩
  | some a =>
    obtain ⟨before, after, hrows⟩ := List.append_of_mem (List.argmax_mem hmax)
    obtain ⟨rest, hrest, hsorted, -⟩ := topRows_insertionSort key (before ++ after) 0
    refine ⟨a :: rest, ?_, ?_, rfl⟩
    · rw [hrows]
      exact (hrest.cons a).trans List.perm_middle.symm
    · refine List.pairwise_cons.mpr ⟨?_, hsorted⟩
      intro b hb
      refine List.le_of_mem_argmax ?_ hmax
      rw [hrows]
      have hmem := hrest.mem_iff.mp hb
      rcases List.mem_append.mp hmem with hmem | hmem
      · exact List.mem_append_left _ hmem
      · exact List.mem_append_right _ (List.mem_cons_of_mem a hmem)

/-- The first row is a largest one. -/
theorem TopRows.le_head {a b : α} (h : TopRows key rows n (a :: result)) (hb : b ∈ rows) :
    key b ≤ key a := by
  obtain ⟨sorted, hsorted, hpairwise, hresult⟩ := h
  cases sorted with
  | nil => simp at hresult
  | cons c sorted =>
    cases n with
    | zero => simp at hresult
    | succ n =>
      rw [List.take_succ_cons, List.cons.injEq] at hresult
      rw [hresult.1]
      rcases List.mem_cons.mp (hsorted.mem_iff.mpr hb) with rfl | hb
      · exact le_rfl
      · exact (List.pairwise_cons.mp hpairwise).1 b hb

end TopRows

end OtelHive.Lib
