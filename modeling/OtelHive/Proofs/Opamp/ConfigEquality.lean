import OtelHive.Opamp.Agent

/-!
# `OtelHive.Proofs.Opamp.ConfigEquality`: when two remote configs are equal

`isEqualConfigSet` compares the sizes of two maps and then visits the files of the first one. So it
never visits a key that the second map alone has. `GoMap.keys_subset_of_length_eq` counts the keys:
there is no such key.

`contents` is what a remote config stands for, with the file of every name and without the order of
the map and the hash. `isEqualRemoteConfig` decides the equality of `contents`
(`isEqualRemoteConfig_iff_contents`), and from there it is an equivalence.

The Go functions first compare the pointers. Equal pointers have the same contents, which compare
equal (`isEqualRemoteConfig_self`), so this test changes no result.
-/

set_option autoImplicit false

namespace OtelHive.Opamp

open OtelHive.Lib

/-- Two maps with the same keys, and with equal bodies and content types under each key. -/
def SameFiles (m1 m2 : GoMap String AgentConfigFile) : Prop :=
  (∀ k, k ∈ m1.keys ↔ k ∈ m2.keys) ∧
    ∀ k f1 f2, m1.lookup k = some f1 → m2.lookup k = some f2 →
      f1.body = f2.body ∧ f1.contentType = f2.contentType

/-- Both remote configs are nil, or neither has a config map, or their maps have the same files. -/
inductive SameConfig : Option AgentRemoteConfig → Option AgentRemoteConfig → Prop where
  | bothNil : SameConfig none none
  | noMap {c1 c2 : AgentRemoteConfig} (h1 : c1.config = none) (h2 : c2.config = none) :
      SameConfig (some c1) (some c2)
  | sameFiles {c1 c2 : AgentRemoteConfig} {m1 m2 : AgentConfigMap} (h1 : c1.config = some m1)
      (h2 : c2.config = some m2) (h : SameFiles m1.configMap m2.configMap) :
      SameConfig (some c1) (some c2)

/-- What a remote config stands for. -/
def contents (c : Option AgentRemoteConfig) : Option (Option (String → Option AgentConfigFile)) :=
  c.map fun c => c.config.map fun m k => m.configMap.lookup k

/-! ### Files -/

theorem isEqualConfigFile_iff (f1 f2 : AgentConfigFile) :
    isEqualConfigFile f1 f2 = true ↔ f1 = f2 := by
  obtain ⟨body1, type1⟩ := f1
  obtain ⟨body2, type2⟩ := f2
  simp [isEqualConfigFile]

/-- Maps have the same files when every lookup agrees. -/
theorem sameFiles_iff (m1 m2 : GoMap String AgentConfigFile) :
    SameFiles m1 m2 ↔ ∀ k, m1.lookup k = m2.lookup k := by
  constructor
  · rintro ⟨hkeys, hfiles⟩ k
    have hk := hkeys k
    rw [GoMap.mem_keys_iff, GoMap.mem_keys_iff] at hk
    cases h1 : m1.lookup k with
    | none =>
      cases h2 : m2.lookup k with
      | none => rfl
      | some f2 =>
        obtain ⟨f1, hf1⟩ := hk.mpr ⟨f2, h2⟩
        rw [h1] at hf1
        cases hf1
    | some f1 =>
      obtain ⟨f2, h2⟩ := hk.mp ⟨f1, h1⟩
      obtain ⟨hbody, htype⟩ := hfiles k f1 f2 h1 h2
      have hsame : f1 = f2 := (isEqualConfigFile_iff f1 f2).mp (by
        simp [isEqualConfigFile, hbody, htype])
      rw [h2, hsame]
  · intro h
    refine ⟨?_, ?_⟩
    · intro k
      rw [GoMap.mem_keys_iff, GoMap.mem_keys_iff, h k]
    · intro k f1 f2 h1 h2
      rw [h k, h2] at h1
      cases h1
      exact ⟨rfl, rfl⟩

/-! ### Maps -/

/-- For maps of one size, the loop looks for every file of the first map in the second. -/
theorem isEqualConfigSet_of_length_eq {m1 m2 : AgentConfigMap}
    (hsize : m1.configMap.entries.length = m2.configMap.entries.length) :
    isEqualConfigSet (some m1) (some m2) = true ↔
      ∀ k f, m1.configMap.lookup k = some f → m2.configMap.lookup k = some f := by
  simp only [isEqualConfigSet, hsize, bne_self_eq_false, Bool.false_eq_true, if_false,
    List.all_eq_true]
  constructor
  · intro h k f hf
    have hk := h (k, f) ((GoMap.mem_toList_iff _ k f).mpr hf)
    cases h2 : m2.configMap.lookup k with
    | none => simp [h2] at hk
    | some f2 =>
      simp only [h2] at hk
      rw [(isEqualConfigFile_iff f f2).mp hk]
  · rintro h ⟨k, f⟩ hmem
    have hf := h k f ((GoMap.mem_toList_iff _ k f).mp hmem)
    simp only [hf]
    exact (isEqualConfigFile_iff f f).mpr rfl

/-- Maps of two sizes are not equal. -/
theorem isEqualConfigSet_of_length_ne {m1 m2 : AgentConfigMap}
    (hsize : m1.configMap.entries.length ≠ m2.configMap.entries.length) :
    isEqualConfigSet (some m1) (some m2) = false := by
  simp [isEqualConfigSet, hsize]

/-- Two config maps are equal exactly if every lookup agrees. -/
theorem isEqualConfigSet_iff (m1 m2 : AgentConfigMap) :
    isEqualConfigSet (some m1) (some m2) = true ↔
      ∀ k, m1.configMap.lookup k = m2.configMap.lookup k := by
  by_cases hsize : m1.configMap.entries.length = m2.configMap.entries.length
  · rw [isEqualConfigSet_of_length_eq hsize]
    constructor
    · intro hloop k
      have hsub : m1.configMap.keys ⊆ m2.configMap.keys := by
        intro k hk
        obtain ⟨f, hf⟩ := (GoMap.mem_keys_iff _ _).mp hk
        exact (GoMap.mem_keys_iff _ _).mpr ⟨f, hloop k f hf⟩
      cases h1 : m1.configMap.lookup k with
      | some f => rw [hloop k f h1]
      | none =>
        cases h2 : m2.configMap.lookup k with
        | none => rfl
        | some f =>
          -- The loop does not visit this key. The sizes rule it out.
          have hk : k ∈ m1.configMap.keys :=
            GoMap.keys_subset_of_length_eq hsize hsub ((GoMap.mem_keys_iff _ _).mpr ⟨f, h2⟩)
          obtain ⟨f', hf'⟩ := (GoMap.mem_keys_iff _ _).mp hk
          rw [h1] at hf'
          cases hf'
    · intro h k f hf
      rw [← h k, hf]
  · rw [isEqualConfigSet_of_length_ne hsize]
    refine iff_of_false Bool.false_ne_true ?_
    intro h
    have hkeys : ∀ k, k ∈ m1.configMap.keys ↔ k ∈ m2.configMap.keys := by
      intro k
      rw [GoMap.mem_keys_iff, GoMap.mem_keys_iff, h k]
    have hperm := (List.perm_ext_iff_of_nodup m1.configMap.keys_nodup
      m2.configMap.keys_nodup).mpr hkeys
    exact hsize (by rw [← GoMap.length_keys, ← GoMap.length_keys, hperm.length_eq])

/-! ### Remote configs -/

/-- `isEqualRemoteConfig` decides the equality of what the configs stand for. -/
theorem isEqualRemoteConfig_iff_contents (c1 c2 : Option AgentRemoteConfig) :
    isEqualRemoteConfig c1 c2 = true ↔ contents c1 = contents c2 := by
  cases c1 with
  | none => cases c2 <;> simp [isEqualRemoteConfig, contents]
  | some c1 =>
    cases c2 with
    | none => simp [isEqualRemoteConfig, contents]
    | some c2 =>
      simp only [isEqualRemoteConfig, contents, Option.map_some, Option.some.injEq]
      cases c1.config with
      | none => cases c2.config <;> simp [isEqualConfigSet]
      | some m1 =>
        cases c2.config with
        | none => simp [isEqualConfigSet]
        | some m2 =>
          rw [isEqualConfigSet_iff, Option.map_some, Option.map_some, Option.some.injEq,
            funext_iff]

/-- A config equals itself. -/
theorem isEqualRemoteConfig_self (c : Option AgentRemoteConfig) : isEqualRemoteConfig c c = true :=
  (isEqualRemoteConfig_iff_contents c c).mpr rfl

theorem sameConfig_iff_contents (c1 c2 : Option AgentRemoteConfig) :
    SameConfig c1 c2 ↔ contents c1 = contents c2 := by
  constructor
  · intro h
    cases h with
    | bothNil => rfl
    | noMap h1 h2 => simp [contents, h1, h2]
    | sameFiles h1 h2 h =>
      have hlookup := (sameFiles_iff _ _).mp h
      simp [contents, h1, h2, hlookup]
  · intro h
    cases c1 with
    | none =>
      cases c2 with
      | none => exact .bothNil
      | some c2 => cases h
    | some c1 =>
      cases c2 with
      | none => cases h
      | some c2 =>
        simp only [contents, Option.map_some, Option.some.injEq] at h
        cases h1 : c1.config with
        | none =>
          rw [h1, Option.map_none] at h
          exact .noMap h1 (Option.map_eq_none_iff.mp h.symm)
        | some m1 =>
          rw [h1, Option.map_some] at h
          obtain ⟨m2, h2, hlookup⟩ := Option.map_eq_some_iff.mp h.symm
          refine .sameFiles h1 h2 ((sameFiles_iff _ _).mpr ?_)
          intro k
          exact (congrFun hlookup k).symm

/-- Two remote configs are equal for the server exactly if both are nil, neither has a map, or the
maps have the same files. This is an equivalence. -/
theorem isEqualRemoteConfig_extensional (c1 c2 : Option AgentRemoteConfig) :
    (isEqualRemoteConfig c1 c2 = true ↔ SameConfig c1 c2) ∧
      Equivalence fun c1 c2 => isEqualRemoteConfig c1 c2 = true := by
  refine ⟨?_, ?_⟩
  · rw [isEqualRemoteConfig_iff_contents, sameConfig_iff_contents]
  · refine ⟨isEqualRemoteConfig_self, ?_, ?_⟩
    · intro c1 c2 h
      rw [isEqualRemoteConfig_iff_contents] at h ⊢
      exact h.symm
    · intro c1 c2 c3 h12 h23
      rw [isEqualRemoteConfig_iff_contents] at h12 h23 ⊢
      exact h12.trans h23

end OtelHive.Opamp
