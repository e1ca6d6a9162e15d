import OtelHive.Api.Handlers
import OtelHive.Proofs.Sqlite.Storage

/-!
# `OtelHive.Proofs.Api.LatestConfig`: which config is the latest after a write

The latest-config queries order the configs of a target by version first and by time second.
The version of a new config is the client's own on `HandleCreateConfig` and
`HandleUpdateConfig`. `StoreConfigForAgent` takes the version after the agent's latest.
`HandleAssignConfig` takes the version after that of the config it copies, which belongs to
any target.

`createConfig_latest_iff` says for a row that is later than the others when it is the latest
of its target. `written_config_latest` reads it for each of the four write paths.
-/

set_option autoImplicit false

namespace OtelHive.Api

open OtelHive.Opamp
open OtelHive.Services
open OtelHive.Sqlite (Storage)
open OtelHive.Types (Config)

/-- What a config is for. -/
inductive Target where
  | agent (id : UUID)
  | group (id : String)
deriving DecidableEq

/-- The config is for the target. -/
def Target.has : Target → Config → Bool
  | .agent id, config => config.agentID == some id
  | .group id, config => config.groupID == some id

/-- `GetLatestConfigForAgent` and `GetLatestConfigForGroup`. -/
def getLatestConfig (s : Storage) : Target → Option Config
  | .agent id => s.getLatestConfigForAgent id
  | .group id => s.getLatestConfigForGroup id

/-- No stored config of the target has a higher version. -/
def TopVersion (s : Storage) (target : Target) (config : Config) : Prop :=
  ∀ d ∈ s.configs, target.has d = true → d.version ≤ config.version

/-- The latest-config query of a target is the latest of its rows. -/
theorem getLatestConfig_eq (s : Storage) (target : Target) :
    getLatestConfig s target = s.latestWhere target.has := by
  cases target <;> rfl

/-- A config that is later than the stored ones is the latest of its target exactly when no
stored config of the target has a higher version. -/
theorem createConfig_latest_iff {env : Env} {s s' : Storage} {config : Config} {target : Target}
    (h : createConfig env s config = .ok s')
    (hnew : ∀ d ∈ s.configs, d.createdAt < config.createdAt) (htarget : target.has config = true) :
    getLatestConfig s' target = some config ↔ TopVersion s target config := by
  obtain ⟨-, hcreate⟩ := Env.call_eq_ok h
  rw [getLatestConfig_eq]
  exact Storage.latestWhere_createConfig_iff hcreate hnew htarget

/-! ### The write paths -/

/-- A handler step that leads to `s'` with `reply` has stored the config of its reply, with the
time of the request. -/
def StoresWritten (env : Env) (s s' : State) (reply : Reply) : Prop :=
  ∀ config, reply.written = some config →
    createConfig env s.store config = .ok s'.store ∧ config.createdAt = env.now

/-- A reply without a config has stored nothing to speak of. -/
theorem storesWritten_of_none {env : Env} {s s' : State} {reply : Reply}
    (h : reply.written = none) : StoresWritten env s s' reply := by
  intro config hconfig
  rw [h] at hconfig
  cases hconfig

theorem handleCreateConfig_storesWritten {env : Env} {delivery : Delivery}
    {body : Except String CreateConfigRequest} {s s' : State} {reply : Reply}
    (h : handleCreateConfig env delivery body s = (s', reply)) : StoresWritten env s s' reply := by
  unfold handleCreateConfig at h
  split at h
  · cases h
    exact storesWritten_of_none rfl
  · dsimp only at h
    split at h
    · cases h
      exact storesWritten_of_none rfl
    · rename_i store hstore
      cases h
      intro config hconfig
      cases hconfig
      exact ⟨hstore, rfl⟩

theorem handleUpdateConfig_storesWritten {env : Env} {configID : String}
    {body : Except String UpdateConfigRequest} {s s' : State} {reply : Reply}
    (h : handleUpdateConfig env configID body s = (s', reply)) :
    StoresWritten env s s' reply := by
  unfold handleUpdateConfig at h
  split at h
  · cases h
    exact storesWritten_of_none rfl
  · split at h
    · cases h
      exact storesWritten_of_none rfl
    · split at h
      · cases h
        exact storesWritten_of_none rfl
      · cases h
        exact storesWritten_of_none rfl
      · split at h
        · cases h
          exact storesWritten_of_none rfl
        · dsimp only at h
          split at h
          · cases h
            exact storesWritten_of_none rfl
          · rename_i store hstore
            cases h
            intro config hconfig
            cases hconfig
            exact ⟨hstore, rfl⟩

theorem handleAssignConfig_storesWritten {env : Env} {delivery : Delivery} {groupID : String}
    {body : Except String AssignConfigRequest} {s s' : State} {reply : Reply}
    (h : handleAssignConfig env delivery groupID body s = (s', reply)) :
    StoresWritten env s s' reply := by
  unfold handleAssignConfig at h
  split at h
  · cases h
    exact storesWritten_of_none rfl
  · split at h
    · cases h
      exact storesWritten_of_none rfl
    · split at h
      · split at h
        · dsimp only at h
          split at h
          · cases h
            exact storesWritten_of_none rfl
          · rename_i store hstore
            cases h
            intro config hconfig
            cases hconfig
            exact ⟨hstore, rfl⟩
        · cases h
          exact storesWritten_of_none rfl
      · cases h
        exact storesWritten_of_none rfl

/-- A handler that stores the config of its reply makes it the latest of each of its targets
exactly when no stored config of the target has a higher version. -/
theorem written_latest_iff {env : Env} {s s' : State} {reply : Reply} {config : Config}
    {target : Target} (hstores : StoresWritten env s s' reply)
    (hnew : ∀ d ∈ s.store.configs, d.createdAt < env.now)
    (hwritten : reply.written = some config) (htarget : target.has config = true) :
    getLatestConfig s'.store target = some config ↔ TopVersion s.store target config := by
  obtain ⟨hcreate, htime⟩ := hstores config hwritten
  refine createConfig_latest_iff hcreate ?_ htarget
  rw [htime]
  exact hnew

/-- `StoreConfigForAgent` stores the config it returns, for the agent, with the next version. -/
theorem storeConfigForAgent_ok {env : Env} {s s' : Storage} {agentID : UUID} {content : Bytes}
    {config : Config} (h : storeConfigForAgent env s agentID content = .ok (config, s')) :
    createConfig env s config = .ok s' ∧ config.createdAt = env.now ∧
      config.agentID = some agentID ∧ config.version = nextVersion env s agentID := by
  unfold storeConfigForAgent at h
  split at h
  · cases h
  · cases h
  · split at h
    · cases h
    · dsimp only at h
      split at h
      · cases h
      · rename_i store hstore
        cases h
        exact ⟨hstore, rfl, rfl, rfl⟩

/-- The next version is above the versions of all configs of the agent, when the read of the
latest one succeeds and its version is not the largest `int`. -/
theorem topVersion_nextVersion {env : Env} {s : Storage} {agentID : UUID} {config : Config}
    (hread : env.faults .getLatestConfigForAgent = none)
    (hmax : ∀ d ∈ s.configs, d.agentID = some agentID → d.version.1 < 2 ^ 63 - 1)
    (hversion : config.version = nextVersion env s agentID) :
    TopVersion s (.agent agentID) config := by
  intro d hd htarget
  have hget : getLatestConfigForAgent env s agentID = .ok (s.getLatestConfigForAgent agentID) :=
    Env.call_of_faults_eq_none hread _
  have hfilter : d ∈ s.configs.filter (·.agentID == some agentID) :=
    List.mem_filter.mpr ⟨hd, htarget⟩
  have hlatest : s.getLatestConfigForAgent agentID
      = (s.configs.filter (·.agentID == some agentID)).argmax Storage.latestKey := rfl
  rw [hversion]
  unfold nextVersion
  rw [hget]
  cases hcase : s.getLatestConfigForAgent agentID with
  | none =>
    -- An agent without a latest config has no config.
    rw [hlatest, List.argmax_eq_none] at hcase
    rw [hcase] at hfilter
    cases hfilter
  | some latestConfig =>
    rw [hlatest] at hcase
    have hmem := List.mem_filter.mp (List.argmax_mem hcase)
    have hle : d.version ≤ latestConfig.version :=
      Storage.version_le_of_latestKey_le (List.le_of_mem_argmax hfilter hcase)
    have hlt := GoInt.lt_succ (hmax latestConfig hmem.1 (by simpa using hmem.2))
    exact hle.trans hlt.le

/-- Take a write that is later than every stored config.

A created or updated config is the latest of a target it names exactly when no stored config
of the target has a higher version. The same condition is enough for an assigned config. The
config that `StoreConfigForAgent` stores is the latest of its agent, when the read of the
latest config succeeds and its version is not the largest `int`. -/
theorem written_config_latest (env : Env) (s : State)
    (hnew : ∀ d ∈ s.store.configs, d.createdAt < env.now) :
    (∀ delivery body s' reply config target,
      handleCreateConfig env delivery body s = (s', reply) → reply.written = some config →
      Target.has target config = true →
      (getLatestConfig s'.store target = some config ↔ TopVersion s.store target config)) ∧
    (∀ configID body s' reply config target,
      handleUpdateConfig env configID body s = (s', reply) → reply.written = some config →
      Target.has target config = true →
      (getLatestConfig s'.store target = some config ↔ TopVersion s.store target config)) ∧
    (∀ delivery groupID body s' reply config target,
      handleAssignConfig env delivery groupID body s = (s', reply) →
      reply.written = some config → Target.has target config = true →
      TopVersion s.store target config → getLatestConfig s'.store target = some config) ∧
    (∀ agentID content config store',
      storeConfigForAgent env s.store agentID content = .ok (config, store') →
      env.faults .getLatestConfigForAgent = none →
      (∀ d ∈ s.store.configs, d.agentID = some agentID → d.version.1 < 2 ^ 63 - 1) →
      getLatestConfig store' (.agent agentID) = some config) := by
  refine ⟨?_, ?_, ?_, ?_⟩
  · intro delivery body s' reply config target h hwritten htarget
    exact written_latest_iff (handleCreateConfig_storesWritten h) hnew hwritten htarget
  · intro configID body s' reply config target h hwritten htarget
    exact written_latest_iff (handleUpdateConfig_storesWritten h) hnew hwritten htarget
  · intro delivery groupID body s' reply config target h hwritten htarget htop
    exact (written_latest_iff (handleAssignConfig_storesWritten h) hnew hwritten htarget).mpr htop
  · intro agentID content config store' h hread hmax
    obtain ⟨hcreate, htime, hagent, hversion⟩ := storeConfigForAgent_ok h
    have htarget : Target.has (.agent agentID) config = true := by
      simp [Target.has, hagent]
    refine (createConfig_latest_iff hcreate ?_ htarget).mpr
      (topVersion_nextVersion hread hmax hversion)
    rw [htime]
    exact hnew

/-! ### A lower version -/

/-- A database with the group `"g"`, and no agent. -/
def oneGroup : State where
  store := {
    agents := []
    groups := [{ id := "g", name := "g", labels := ∅, createdAt := 0, updatedAt := 0 }]
    configs := [] }
  sender := { agents := newAgents }

/-- A request to create a config of the group `"g"`. -/
def groupConfigRequest (content : Bytes) (version : GoInt) : CreateConfigRequest where
  groupID := some "g"
  configHash := "h"
  content
  version

/-- No push is confirmed, and loops follow the order of the map. -/
def silentDelivery : Delivery where
  acked _ := false
  order := ⟨fun ids => ids, fun ids => .refl ids⟩

/-- The state after a config of version 5 is created. -/
def afterVersionFive : State :=
  (handleCreateConfig (.quiet 1 "c-1") silentDelivery
    (.ok (groupConfigRequest [1] ⟨5, by decide⟩)) oneGroup).1

theorem written_config_latest_version_six :
    ∃ s' reply config,
      handleCreateConfig (.quiet 2 "c-2") silentDelivery
        (.ok (groupConfigRequest [2] ⟨6, by decide⟩)) afterVersionFive = (s', reply) ∧
      reply.written = some config ∧ getLatestConfig s'.store (.group "g") = some config := by
  refine ⟨_, _, _, rfl, rfl, ?_⟩
  refine ((written_config_latest (.quiet 2 "c-2") afterVersionFive ?_).1 silentDelivery
    (.ok (groupConfigRequest [2] ⟨6, by decide⟩)) _ _ _ (.group "g") rfl rfl rfl).mpr ?_
  · decide +kernel
  · show ∀ d ∈ afterVersionFive.store.configs, _
    decide +kernel

/-- A config of version 1 that is created after one of version 5 is not the latest. -/
theorem lower_version_not_latest :
    ¬ ∀ (env : Env) (s : State), (∀ d ∈ s.store.configs, d.createdAt < env.now) →
      ∀ delivery body s' reply config target,
        handleCreateConfig env delivery body s = (s', reply) → reply.written = some config →
        Target.has target config = true → getLatestConfig s'.store target = some config := by
  intro hall
  have hlatest := hall (.quiet 2 "c-2") afterVersionFive (by decide +kernel) silentDelivery
    (.ok (groupConfigRequest [2] ⟨1, by decide⟩)) _ _ _ (.group "g") rfl rfl rfl
  have hstored : (getLatestConfig (handleCreateConfig (.quiet 2 "c-2") silentDelivery
      (.ok (groupConfigRequest [2] ⟨1, by decide⟩)) afterVersionFive).1.store
      (.group "g")).map (·.version.1) = some 5 := by decide +kernel
  have hclash : some (5 : Int) = some 1 :=
    hstored.symm.trans (congrArg (Option.map (·.version.1)) hlatest)
  exact absurd hclash (by decide)

end OtelHive.Api
