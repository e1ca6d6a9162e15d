import OtelHive.Lib.Table
import OtelHive.Sqlite.Storage

/-!
# `OtelHive.Proofs.Sqlite.Storage`: reads after writes

What `getAgent` returns after `createAgent` and `updateAgent`, and what the latest-config
queries return after `createConfig`.
-/

set_option autoImplicit false

namespace OtelHive.Sqlite.Storage

open OtelHive.Lib
open OtelHive.Types

/-! ### Primary keys -/

/-- No id repeats in a table. -/
structure UniqueIds (s : Storage) : Prop where
  agents : (s.agents.map Agent.id).Nodup
  groups : (s.groups.map Group.id).Nodup
  configs : (s.configs.map Config.id).Nodup

theorem uniqueIds_empty : empty.UniqueIds :=
  ⟨List.nodup_nil, List.nodup_nil, List.nodup_nil⟩

theorem UniqueIds.updateAgent {s : Storage} (h : s.UniqueIds) (id : UUID) {f : Agent → Agent}
    (hf : ∀ row, (f row).id = row.id) : (s.written (s.updateAgent id f)).1.UniqueIds := by
  unfold Storage.updateAgent
  split
  · refine ⟨?_, h.groups, h.configs⟩
    show ((s.agents.map fun row => if row.id = id then f row else row).map Agent.id).Nodup
    rw [map_key_update hf]
    exact h.agents
  · exact h

/-- Every operation keeps the ids unique, on any connection. -/
theorem UniqueIds.perform {s : Storage} (h : s.UniqueIds) (foreignKeys : Bool) (now : Time)
    (op : Operation) : (s.perform foreignKeys now op).1.UniqueIds := by
  have hkept : ∀ (p : Config → Bool),
      ((if foreignKeys then s.configs.filter p else s.configs).map Config.id).Nodup := by
    intro p
    cases foreignKeys with
    | true => exact h.configs.sublist (List.filter_sublist.map _)
    | false => exact h.configs
  cases op with
  | createAgent agent =>
    show (s.written (s.createAgent agent)).1.UniqueIds
    unfold Storage.createAgent
    split
    · exact h
    · rename_i hnew
      exact ⟨nodup_concat_key h.agents hnew, h.groups, h.configs⟩
  | updateAgentStatus id status => exact h.updateAgent id fun _ => rfl
  | updateAgentLastSeen id lastSeen => exact h.updateAgent id fun _ => rfl
  | updateAgentEffectiveConfig id effectiveConfig => exact h.updateAgent id fun _ => rfl
  | deleteAgent id =>
    show (s.written (s.deleteAgent foreignKeys id)).1.UniqueIds
    unfold Storage.deleteAgent
    split
    · exact ⟨h.agents.sublist (List.filter_sublist.map _), h.groups, hkept _⟩
    · exact h
  | createGroup group =>
    show (s.written (s.createGroup group)).1.UniqueIds
    unfold Storage.createGroup
    split
    · exact h
    · rename_i hnew
      exact ⟨h.agents, nodup_concat_key h.groups hnew, h.configs⟩
  | deleteGroup id =>
    show (s.written (s.deleteGroup foreignKeys id)).1.UniqueIds
    unfold Storage.deleteGroup
    split
    · exact ⟨h.agents, h.groups.sublist (List.filter_sublist.map _), hkept _⟩
    · exact h
  | createConfig config =>
    show (s.written (s.createConfig foreignKeys config)).1.UniqueIds
    unfold Storage.createConfig
    split
    · exact h
    · rename_i hnew
      split
      · exact h
      · exact ⟨h.agents, h.groups, nodup_concat_key h.configs hnew⟩
  | getAgent | listAgents | getGroup | listGroups | getConfig | getLatestConfigForAgent
  | getLatestConfigForGroup | listConfigs => exact h

/-! ### Agents -/

/-- An agent has a row when `getAgent` finds one. -/
theorem any_agents_eq (s : Storage) (id : UUID) :
    s.agents.any (·.id == id) = (s.getAgent id).isSome :=
  any_key_eq Agent.id s.agents id

/-- `createAgent` fails for an id that has a row. -/
theorem createAgent_of_none {s : Storage} {agent : Agent} (h : s.getAgent agent.id = none) :
    s.createAgent agent
      = .ok { s with agents := s.agents ++ [{ agent with effectiveConfig := [] }] } := by
  unfold createAgent
  rw [any_agents_eq, h]
  rfl

/-- The rows after `createAgent`. -/
theorem getAgent_createAgent {s s' : Storage} {agent : Agent} (h : s.createAgent agent = .ok s')
    (id : UUID) :
    s'.getAgent id
      = if id = agent.id then some { agent with effectiveConfig := [] } else s.getAgent id := by
  unfold createAgent at h
  split at h
  · cases h
  · rename_i hnew
    cases h
    have hnone : s.getAgent agent.id = none := by
      rw [any_agents_eq] at hnew
      simpa using hnew
    have hnew' : s.getAgent ({ agent with effectiveConfig := [] } : Agent).id = none := hnone
    exact find?_concat_key hnew' id

/-- `updateAgent` fails for an id without a row. -/
theorem updateAgent_of_some {s : Storage} {id : UUID} {row : Agent}
    (h : s.getAgent id = some row) (f : Agent → Agent) :
    s.updateAgent id f
      = .ok { s with agents := s.agents.map fun agent => if agent.id = id then f agent else agent
      } := by
  unfold updateAgent
  rw [any_agents_eq, h]
  rfl

/-- The rows after `updateAgent`, for a change that keeps the id. -/
theorem getAgent_updateAgent {s s' : Storage} {id : UUID} {f : Agent → Agent}
    (h : s.updateAgent id f = .ok s') (hf : ∀ row, (f row).id = row.id) (id' : UUID) :
    s'.getAgent id' = if id' = id then (s.getAgent id').map f else s.getAgent id' := by
  unfold updateAgent at h
  split at h
  · cases h
    exact find?_update_key hf id id'
  · cases h

/-! ### Latest config -/

/-- The order of the latest-config queries: by version, and by time within a version. -/
theorem latestKey_lt_iff (c d : Config) :
    latestKey c < latestKey d ↔
      c.version < d.version ∨ c.version = d.version ∧ c.createdAt < d.createdAt := by
  unfold latestKey
  rw [Prod.Lex.toLex_lt_toLex]

/-- A config that is not after another one in the order has no higher version. -/
theorem version_le_of_latestKey_le {c d : Config} (h : latestKey c ≤ latestKey d) :
    c.version ≤ d.version := by
  unfold latestKey at h
  rw [Prod.Lex.toLex_le_toLex] at h
  rcases h with h | h
  · exact h.le
  · exact h.1.le

/-- Among the rows of `l` and a later row `c`, the latest is `c` exactly when no row of `l` has a
higher version. -/
theorem argmax_concat_eq_some_iff {l : List Config} {c : Config}
    (hnew : ∀ d ∈ l, d.createdAt < c.createdAt) :
    (l ++ [c]).argmax latestKey = some c ↔ ∀ d ∈ l, d.version ≤ c.version := by
  rw [List.argmax_concat]
  cases hmax : l.argmax latestKey with
  | none =>
    rw [List.argmax_eq_none] at hmax
    subst hmax
    simp
  | some m =>
    have hmem : m ∈ l := List.argmax_mem hmax
    have htop : ∀ d ∈ l, d.version ≤ m.version := by
      intro d hd
      exact version_le_of_latestKey_le (List.le_of_mem_argmax hd hmax)
    have hkey : latestKey m < latestKey c ↔ m.version ≤ c.version := by
      rw [latestKey_lt_iff, le_iff_lt_or_eq]
      have htime := hnew m hmem
      constructor
      · intro h
        rcases h with h | h
        · exact Or.inl h
        · exact Or.inr h.1
      · intro h
        rcases h with h | h
        · exact Or.inl h
        · exact Or.inr ⟨h, htime⟩
    show (if latestKey m < latestKey c then some c else some m) = some c ↔ _
    split
    · rename_i hlt
      refine ⟨fun _ => ?_, fun _ => rfl⟩
      intro d hd
      exact (htop d hd).trans (hkey.mp hlt)
    · rename_i hnot
      constructor
      · intro heq
        -- The new row is later than every row of `l`.
        cases heq
        exact absurd (hnew _ hmem) (lt_irrefl _)
      · intro h
        exact absurd (hkey.mpr (h m hmem)) hnot

/-- A config that is created comes after the others. -/
theorem configs_createConfig {s s' : Storage} {foreignKeys : Bool} {c : Config}
    (h : s.createConfig foreignKeys c = .ok s') : s'.configs = s.configs ++ [c] := by
  unfold createConfig at h
  split at h
  · cases h
  · split at h
    · cases h
    · cases h
      rfl

/-- After a row is created that is later than the others, it is the latest of the rows with
`p` exactly when no row with `p` has a higher version. -/
theorem latestWhere_createConfig_iff {s s' : Storage} {foreignKeys : Bool} {c : Config}
    (h : s.createConfig foreignKeys c = .ok s') (hnew : ∀ d ∈ s.configs, d.createdAt < c.createdAt)
    {p : Config → Bool} (hp : p c = true) :
    s'.latestWhere p = some c ↔ ∀ d ∈ s.configs, p d = true → d.version ≤ c.version := by
  unfold createConfig at h
  split at h
  · cases h
  · split at h
    · cases h
    · cases h
      unfold latestWhere
      dsimp only
      rw [List.filter_append, List.filter_singleton, hp, cond_true,
        argmax_concat_eq_some_iff]
      · simp only [List.mem_filter, and_imp]
      · intro d hd
        exact hnew d (List.mem_filter.mp hd).1

end OtelHive.Sqlite.Storage
