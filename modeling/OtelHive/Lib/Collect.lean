import Mathlib.Init

/-!
# `OtelHive.Lib.Collect`: loops that collect results

Two loops. The first one runs a function that can fail over a list, and a failure ends it without
a result: `List.mapM` in `Except`. The second one keeps the first entry of each key
(`firstOfEachKey`).
-/

set_option autoImplicit false

namespace OtelHive.Lib

/-! ### A loop that can fail -/

section MapM

variable {ε α β : Type} {f : α → Except ε β} {l : List α}

/-- What does not fail has a result. -/
theorem exists_eq_ok {x : Except ε β} (h : x.isOk = true) : ∃ b, x = .ok b := by
  cases x with
  | error e => cases h
  | ok b => exact ⟨b, rfl⟩

/-- The loop has a result exactly if no round fails. -/
theorem isOk_mapM_iff : (l.mapM f).isOk = true ↔ ∀ a ∈ l, (f a).isOk = true := by
  induction l with
  | nil => exact ⟨fun _ a ha => absurd ha List.not_mem_nil, fun _ => rfl⟩
  | cons a l ih =>
    rw [List.mapM_cons, List.forall_mem_cons, ← ih]
    cases f a with
    | error e =>
      constructor
      · intro h
        cases h
      · intro h
        cases h.1
    | ok b =>
      cases l.mapM f with
      | error e =>
        constructor
        · intro h
          cases h
        · intro h
          cases h.2
      | ok bs => exact ⟨fun _ => ⟨rfl, rfl⟩, fun _ => rfl⟩

/-- The results of the loop are the results of its rounds. -/
theorem mem_of_mapM_eq_ok {bs : List β} (h : l.mapM f = .ok bs) {b : β} :
    b ∈ bs ↔ ∃ a ∈ l, f a = .ok b := by
  induction l generalizing bs with
  | nil =>
    cases h
    constructor
    · intro hb
      cases hb
    · rintro ⟨a, ha, _⟩
      cases ha
  | cons a l ih =>
    rw [List.mapM_cons] at h
    cases hfa : f a with
    | error e =>
      rw [hfa] at h
      cases h
    | ok c =>
      cases hrest : l.mapM f with
      | error e =>
        rw [hfa, hrest] at h
        cases h
      | ok cs =>
        rw [hfa, hrest] at h
        cases h
        rw [List.mem_cons, ih hrest]
        constructor
        · rintro (rfl | ⟨a', ha', hb⟩)
          · exact ⟨a, List.mem_cons_self, hfa⟩
          · exact ⟨a', List.mem_cons_of_mem a ha', hb⟩
        · rintro ⟨a', ha', hb⟩
          rcases List.mem_cons.mp ha' with rfl | hl
          · rw [hfa] at hb
            cases hb
            exact Or.inl rfl
          · exact Or.inr ⟨a', hl, hb⟩

/-- A loop whose rounds each have a list of results. -/
theorem mem_of_map_flatten_eq_ok {f : α → Except ε (List β)} {bs : List β}
    (h : (l.mapM f).map List.flatten = .ok bs) {b : β} :
    b ∈ bs ↔ ∃ a ∈ l, ∃ cs, f a = .ok cs ∧ b ∈ cs := by
  cases hlists : l.mapM f with
  | error e =>
    rw [hlists] at h
    cases h
  | ok lists =>
    rw [hlists] at h
    cases h
    rw [List.mem_flatten]
    constructor
    · rintro ⟨cs, hcs, hb⟩
      obtain ⟨a, ha, hfa⟩ := (mem_of_mapM_eq_ok hlists).mp hcs
      exact ⟨a, ha, cs, hfa, hb⟩
    · rintro ⟨a, ha, cs, hfa, hb⟩
      exact ⟨cs, (mem_of_mapM_eq_ok hlists).mpr ⟨a, ha, hfa⟩, hb⟩

/-- A loop with a result has the results of each round. -/
theorem exists_round_of_map_flatten_eq_ok {f : α → Except ε (List β)} {bs : List β}
    (h : (l.mapM f).map List.flatten = .ok bs) {a : α} (ha : a ∈ l) :
    ∃ cs, f a = .ok cs ∧ ∀ b ∈ cs, b ∈ bs := by
  have hok : (l.mapM f).isOk = true := by
    cases hlists : l.mapM f with
    | error e =>
      rw [hlists] at h
      cases h
    | ok lists => rfl
  obtain ⟨cs, hfa⟩ := exists_eq_ok (isOk_mapM_iff.mp hok a ha)
  refine ⟨cs, hfa, ?_⟩
  intro b hb
  exact (mem_of_map_flatten_eq_ok h).mpr ⟨a, ha, cs, hfa, hb⟩

end MapM

/-! ### A loop that keeps the first entry of each key -/

section Keys

variable {α κ : Type} [DecidableEq κ] {key : α → κ}

/-- The entries whose key is neither the key of an entry before them nor a seen one. -/
def firstOfEachKey (key : α → κ) : List κ → List α → List α
  | _, [] => []
  | seen, a :: l =>
    if key a ∈ seen then firstOfEachKey key seen l
    else a :: firstOfEachKey key (key a :: seen) l

theorem mem_of_mem_firstOfEachKey {seen : List κ} {l : List α} {a : α}
    (h : a ∈ firstOfEachKey key seen l) : a ∈ l := by
  induction l generalizing seen with
  | nil => cases h
  | cons b l ih =>
    rw [firstOfEachKey] at h
    split at h
    · exact List.mem_cons_of_mem b (ih h)
    · rcases List.mem_cons.mp h with rfl | hl
      · exact List.mem_cons_self
      · exact List.mem_cons_of_mem b (ih hl)

/-- Each key is still there, unless it was seen before. -/
theorem exists_mem_firstOfEachKey {seen : List κ} {l : List α} {a : α} (ha : a ∈ l)
    (hseen : key a ∉ seen) : ∃ b ∈ firstOfEachKey key seen l, key b = key a := by
  induction l generalizing seen with
  | nil => cases ha
  | cons b l ih =>
    rw [firstOfEachKey]
    rcases List.mem_cons.mp ha with rfl | hl
    · rw [if_neg hseen]
      exact ⟨a, List.mem_cons_self, rfl⟩
    · split
      · exact ih hl hseen
      · by_cases heq : key a = key b
        · exact ⟨b, List.mem_cons_self, heq.symm⟩
        · have hnew : key a ∉ key b :: seen := by
            rw [List.mem_cons, not_or]
            exact ⟨heq, hseen⟩
          obtain ⟨c, hc, hkey⟩ := ih hl hnew
          exact ⟨c, List.mem_cons_of_mem b hc, hkey⟩

/-- Let the key of an entry decide whether it has a property. Then the loop keeps an entry with
the property exactly if there is one. -/
theorem exists_firstOfEachKey_iff {p : α → Prop} {l : List α}
    (hp : ∀ a ∈ l, ∀ b ∈ l, key a = key b → p a → p b) :
    (∃ a ∈ firstOfEachKey key [] l, p a) ↔ ∃ a ∈ l, p a := by
  constructor
  · rintro ⟨a, ha, hpa⟩
    exact ⟨a, mem_of_mem_firstOfEachKey ha, hpa⟩
  · rintro ⟨a, ha, hpa⟩
    have hkept : ∃ b ∈ firstOfEachKey key [] l, key b = key a :=
      exists_mem_firstOfEachKey ha List.not_mem_nil
    obtain ⟨b, hb, hkey⟩ := hkept
    exact ⟨b, hb, hp a ha b (mem_of_mem_firstOfEachKey hb) hkey.symm hpa⟩

/-- The loop keeps an entry with the property exactly if there is one whose key no entry without
the property has before it. -/
theorem exists_firstOfEachKey_iff_split {p : α → Prop} {seen : List κ} {l : List α} :
    (∃ a ∈ firstOfEachKey key seen l, p a) ↔
      ∃ before a after, l = before ++ a :: after ∧ p a ∧ key a ∉ seen ∧
        ∀ b ∈ before, ¬ p b → key b ≠ key a := by
  induction l generalizing seen with
  | nil =>
    constructor
    · rintro ⟨a, ha, _⟩
      cases ha
    · rintro ⟨before, a, after, hl, _⟩
      simp at hl
  | cons c l ih =>
    rw [firstOfEachKey]
    split
    · rename_i hseen
      rw [ih]
      constructor
      · rintro ⟨before, a, after, rfl, hp, hnew, hbefore⟩
        refine ⟨c :: before, a, after, rfl, hp, hnew, ?_⟩
        rw [List.forall_mem_cons]
        refine ⟨?_, hbefore⟩
        intro _ heq
        exact hnew (heq ▸ hseen)
      · rintro ⟨before, a, after, hl, hp, hnew, hbefore⟩
        cases before with
        | nil =>
          cases hl
          exact absurd hseen hnew
        | cons b before =>
          cases hl
          exact ⟨before, a, after, rfl, hp, hnew, (List.forall_mem_cons.mp hbefore).2⟩
    · rename_i hseen
      by_cases hpc : p c
      · constructor
        · intro _
          exact ⟨[], c, l, rfl, hpc, hseen, fun b hb => absurd hb List.not_mem_nil⟩
        · intro _
          exact ⟨c, List.mem_cons_self, hpc⟩
      -- The entry is kept without the property, and its key hides the later ones.
      · have hrest : (∃ a ∈ c :: firstOfEachKey key (key c :: seen) l, p a) ↔
            ∃ a ∈ firstOfEachKey key (key c :: seen) l, p a := by
          simp [hpc]
        rw [hrest, ih]
        constructor
        · rintro ⟨before, a, after, rfl, hp, hnew, hbefore⟩
          rw [List.mem_cons, not_or] at hnew
          refine ⟨c :: before, a, after, rfl, hp, hnew.2, ?_⟩
          rw [List.forall_mem_cons]
          exact ⟨fun _ heq => hnew.1 heq.symm, hbefore⟩
        · rintro ⟨before, a, after, hl, hp, hnew, hbefore⟩
          cases before with
          | nil =>
            cases hl
            exact absurd hp hpc
          | cons b before =>
            cases hl
            obtain ⟨hc, hrest⟩ := List.forall_mem_cons.mp hbefore
            refine ⟨before, a, after, rfl, hp, ?_, hrest⟩
            rw [List.mem_cons, not_or]
            exact ⟨fun heq => hc hpc heq.symm, hnew⟩

end Keys

end OtelHive.Lib
