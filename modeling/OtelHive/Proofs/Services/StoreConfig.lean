import OtelHive.Proofs.Sqlite.Storage
import OtelHive.Services.AgentService

/-!
# `OtelHive.Proofs.Services.StoreConfig`: what `StoreConfigForAgent` leaves behind

The call reads the agent, reads its latest config and inserts a row with the next version. Each of
the three can fail. An error of the first and of the third ends the call, and nothing is stored
(`storeConfigForAgent_of_not_stores`). An error of the second is dropped, and the new row has
version 1, as for an agent without configs. So the call is all or nothing exactly if the versions
that the agent has leave room for the new one (`allOrNothing_iff`).
-/

set_option autoImplicit false

namespace OtelHive.Services

open OtelHive.Lib
open OtelHive.Sqlite (Storage)
open OtelHive.Sqlite.Storage (latestKey)
open OtelHive.Types

/-! ### Versions -/

/-- The version after a version is larger exactly if there is one. -/
theorem GoInt.lt_succ_iff {x : GoInt} : x.1 < (GoInt.succ x).1 ↔ x.1 < 2 ^ 63 - 1 := by
  constructor
  · intro h
    by_contra hmax
    obtain ⟨z, hz⟩ := x
    simp only [GoInt.succ, GoInt.wrap] at h
    simp only at hmax
    omega
  · intro h
    rw [GoInt.succ_val h]
    omega

/-- The configs of the agent. -/
def ofAgent (agentID : UUID) (configs : List Config) : List Config :=
  configs.filter (·.agentID == some agentID)

theorem mem_ofAgent {agentID : UUID} {configs : List Config} {d : Config} :
    d ∈ ofAgent agentID configs ↔ d ∈ configs ∧ d.agentID = some agentID := by
  simp [ofAgent]

/-- A config is the latest of the agent if its version is above all others. -/
theorem getLatestConfigForAgent_concat {s s' : Storage} {agentID : UUID} {config : Config}
    (hconfigs : s'.configs = s.configs ++ [config]) (hagent : config.agentID = some agentID)
    (h : ∀ d ∈ ofAgent agentID s.configs, d.version.1 < config.version.1) :
    s'.getLatestConfigForAgent agentID = some config := by
  unfold Storage.getLatestConfigForAgent Storage.latestWhere
  rw [hconfigs, List.filter_append, List.filter_singleton, hagent, beq_self_eq_true, cond_true,
    List.argmax_concat]
  cases hmax : (s.configs.filter (·.agentID == some agentID)).argmax latestKey with
  | none => rfl
  | some latest =>
    have hlt : latestKey latest < latestKey config :=
      (Sqlite.Storage.latestKey_lt_iff latest config).mpr
        (Or.inl (h latest (List.argmax_mem hmax)))
    exact if_pos hlt

/-- The agent's latest config has a version that no other config of the agent exceeds. -/
theorem version_le_latest {s : Storage} {agentID : UUID} {latest : Config}
    (h : s.getLatestConfigForAgent agentID = some latest) :
    latest ∈ ofAgent agentID s.configs ∧
      ∀ d ∈ ofAgent agentID s.configs, d.version.1 ≤ latest.version.1 := by
  refine ⟨List.argmax_mem h, ?_⟩
  intro d hd
  exact Sqlite.Storage.version_le_of_latestKey_le (List.le_of_mem_argmax hd h)

theorem ofAgent_eq_nil {s : Storage} {agentID : UUID}
    (h : s.getLatestConfigForAgent agentID = none) : ofAgent agentID s.configs = [] :=
  List.argmax_eq_none.mp h

/-! ### The call -/

section Call

variable (env : Env) (s : Storage) (agentID : UUID) (content : Bytes)

/-- The call stores a row: the agent is read and accepts remote config, and the insert succeeds. -/
structure Stores : Prop where
  read : env.faults .getAgent = none
  accepts : ∃ agent, s.getAgent agentID = some agent ∧
    agent.capabilities.contains "accepts_remote_config" = true
  inserted : env.faults .createConfig = none
  fresh : ∀ config ∈ s.configs, config.id ≠ env.newUUID

/-- The versions of the agent leave room for the next one: that is 1 if the read of the latest
config fails. -/
def LeavesRoom : Prop :=
  ∀ d ∈ ofAgent agentID s.configs,
    d.version.1 < if env.faults .getLatestConfigForAgent = none then 2 ^ 63 - 1 else 1

/-- The database after the call. The insert is the only write, so an error leaves it as it was. -/
def storeAfter : Storage :=
  match storeConfigForAgent env s agentID content with
  | .error _ => s
  | .ok (_, s') => s'

/-- The call returns an error and leaves the configs as they are, or it returns a config that is
stored and is the latest of the agent, with a version above all earlier ones. -/
def AllOrNothing : Prop :=
  match storeConfigForAgent env s agentID content with
  | .error _ => (storeAfter env s agentID content).configs = s.configs
  | .ok (config, _) =>
    (storeAfter env s agentID content).configs = s.configs ++ [config] ∧
      (storeAfter env s agentID content).getLatestConfigForAgent agentID = some config ∧
      ∀ d ∈ ofAgent agentID s.configs, d.version.1 < config.version.1

/-- The row that the call inserts. -/
def newConfig : Config where
  id := env.newUUID
  agentID := some agentID
  configHash := hexEncode (sha256 content)
  content
  version := nextVersion env s agentID
  createdAt := env.now

end Call

variable {env : Env} {s : Storage} {agentID : UUID} {content : Bytes}

theorem storeConfigForAgent_of_stores (h : Stores env s agentID) :
    storeConfigForAgent env s agentID content = .ok (newConfig env s agentID content,
      { s with configs := s.configs ++ [newConfig env s agentID content] }) := by
  obtain ⟨agent, hagent, hcapability⟩ := h.accepts
  have hget : getAgent env s agentID = .ok (some agent) := by
    rw [← hagent]
    exact Env.call_of_faults_eq_none h.read _
  have hnew : s.configs.any (·.id == env.newUUID) = false := by
    simpa using h.fresh
  -- The agent has a row, so the foreign key of the new config holds.
  have hrefs : s.referencesExist (newConfig env s agentID content) = true := by
    unfold Storage.referencesExist
    have hany : s.agents.any (·.id == agentID) = true := by
      rw [Sqlite.Storage.any_agents_eq, hagent]
      rfl
    simp [newConfig, hany]
  have hcreate : createConfig env s (newConfig env s agentID content)
      = .ok { s with configs := s.configs ++ [newConfig env s agentID content] } := by
    unfold createConfig
    rw [Env.call_of_faults_eq_none h.inserted]
    unfold Storage.createConfig
    rw [show s.configs.any (·.id == (newConfig env s agentID content).id) = false from hnew, hrefs]
    simp
  unfold newConfig at hcreate
  unfold storeConfigForAgent
  rw [hget]
  simp only [hcapability, Bool.not_true, Bool.false_eq_true, if_false]
  rw [hcreate]
  rfl

/-- A call that returns a config has stored a row. -/
theorem stores_of_ok {config : Config} {s' : Storage}
    (h : storeConfigForAgent env s agentID content = .ok (config, s')) :
    Stores env s agentID := by
  unfold storeConfigForAgent at h
  split at h
  · cases h
  · cases h
  · rename_i agent hget
    split at h
    · cases h
    · rename_i hcapability
      dsimp only at h
      split at h
      · cases h
      · rename_i store hcreate
        obtain ⟨hread, hagent⟩ := Env.call_eq_ok hget
        obtain ⟨hinserted, hinsert⟩ := Env.call_eq_ok hcreate
        unfold Storage.createConfig at hinsert
        split at hinsert
        · cases hinsert
        · rename_i hnew
          refine ⟨hread, ⟨agent, Except.ok.inj hagent, by simpa using hcapability⟩, hinserted, ?_⟩
          simpa using hnew

/-- Without a row to store, the call returns an error. -/
theorem storeConfigForAgent_of_not_stores (h : ¬ Stores env s agentID) :
    ∃ err, storeConfigForAgent env s agentID content = .error err := by
  cases hresult : storeConfigForAgent env s agentID content with
  | error err => exact ⟨err, rfl⟩
  | ok result => exact absurd (stores_of_ok hresult) h

/-- The next version is above all versions of the agent exactly if they leave room for it. -/
theorem lt_nextVersion_iff :
    (∀ d ∈ ofAgent agentID s.configs, d.version.1 < (nextVersion env s agentID).1) ↔
      LeavesRoom env s agentID := by
  unfold LeavesRoom nextVersion getLatestConfigForAgent
  cases hread : env.faults .getLatestConfigForAgent with
  -- The dropped error.
  | some err =>
    simp [Env.call, hread]
  | none =>
    rw [Env.call_of_faults_eq_none hread]
    cases hlatest : s.getLatestConfigForAgent agentID with
    | none =>
      rw [ofAgent_eq_nil hlatest]
      simp
    | some latest =>
      obtain ⟨hmem, hle⟩ := version_le_latest hlatest
      rw [if_pos rfl]
      constructor
      · intro h d hd
        exact (hle d hd).trans_lt (GoInt.lt_succ_iff.mp (h latest hmem))
      · intro h d hd
        exact (hle d hd).trans_lt (GoInt.lt_succ_iff.mpr (h latest hmem))

/-- The call is all or nothing exactly if it stores no row or the versions of the agent leave room
for the new one. -/
theorem allOrNothing_iff (env : Env) (s : Storage) (agentID : UUID) (content : Bytes) :
    AllOrNothing env s agentID content ↔ (Stores env s agentID → LeavesRoom env s agentID) := by
  unfold AllOrNothing storeAfter
  by_cases hstores : Stores env s agentID
  · rw [storeConfigForAgent_of_stores hstores, ← lt_nextVersion_iff]
    constructor
    · rintro ⟨-, -, hversion⟩ -
      exact hversion
    · intro h
      exact ⟨rfl, getLatestConfigForAgent_concat rfl rfl (h hstores), h hstores⟩
  · obtain ⟨err, herr⟩ : ∃ err, storeConfigForAgent env s agentID content = .error err :=
      storeConfigForAgent_of_not_stores hstores
    rw [herr]
    exact iff_of_true rfl fun h => absurd h hstores

/-! ### A dropped error -/

/-- A database with an agent that accepts remote config and has a config of version 1. -/
def oneConfig : Storage where
  agents := [{
    id := .nil, name := "a", labels := ∅, status := .online, lastSeen := 0, groupID := none,
    groupName := none, version := "1", capabilities := ["accepts_remote_config"], createdAt := 0,
    updatedAt := 0 }]
  groups := []
  configs := [{
    id := "c-1", agentID := some .nil, configHash := "h", content := [1], version := .wrap 1,
    createdAt := 1 }]

/-- The read of the latest config fails, and the new config gets version 1 as well. -/
theorem version_reused :
    (storeConfigForAgent { Env.quiet 2 "c-2" with
        faults := fun op => if op = .getLatestConfigForAgent then some "busy" else none }
        oneConfig .nil [2]).map (fun result => (ofAgent .nil result.2.configs).map
          fun config => (config.id, config.version.1))
        = .ok [("c-1", 1), ("c-2", 1)] ∧
      ¬ ∀ env s agentID content, AllOrNothing env s agentID content := by
  refine ⟨rfl, ?_⟩
  intro hall
  have hroom := (allOrNothing_iff _ _ _ _).mp (hall { Env.quiet 2 "c-2" with
    faults := fun op => if op = .getLatestConfigForAgent then some "busy" else none }
    oneConfig .nil [2]) ⟨rfl, ⟨_, rfl, by decide⟩, rfl, by decide⟩
  exact absurd (hroom _ (mem_ofAgent.mpr ⟨List.mem_cons_self, rfl⟩)) (by decide)

end OtelHive.Services
