import OtelHive.Proofs.Opamp.Server

/-!
# `OtelHive.Proofs.Opamp.FirstConnect`: the config in the first response

`processAgentGrouping` resolves the config of an agent and stores it as its custom config.
It reads the capability to accept remote config from the status of the agent, and for a new
agent there is no status yet: `UpdateStatus` stores the first one after the grouping. So the
grouping of a first message resolves nothing (`resolveGrouping_of_no_status`). Then the
report recalculates the remote config from the empty custom config, and the response carries
a file without a byte (`onMessage_first_remoteConfig`).

`priorityResolution` is what the priority agent, group, default gives for an agent.
`DeliversResolution` says that a first message is answered with it.
-/

set_option autoImplicit false

namespace OtelHive.Opamp

open OtelHive.Lib
open OtelHive.Sqlite (Storage)

/-- The config of an agent by priority: its latest agent config, else the latest config of
the group its description names, else the default. -/
def priorityResolution (store : Storage) (id : UUID) (desc : AgentDescription) : Bytes :=
  match store.getLatestConfigForAgent id with
  | some agentConfig => agentConfig.content
  | none =>
    if (extractGroupInfo desc).1 = "" then defaultOTelConfig
    else
      match store.getLatestConfigForGroup (extractGroupInfo desc).1 with
      | some groupConfig => groupConfig.content
      | none => defaultOTelConfig

/-- A first message of an agent that accepts remote config:

- `uid`: the message names the instance `id`;
- `absent`: the agent is not registered;
- `described`, `accepts`: the message carries a description and the capability;
- `stale`: it reports no config hash, or another one than that of the resolution;
- `reads`: the two reads of the resolution succeed. -/
structure FirstMessage (env : Env) (srv : Server) (msg : AgentToServer) (id : UUID)
    (desc : AgentDescription) : Prop where
  uid : UUID.ofSlice msg.instanceUid = .ok id
  absent : srv.agents.findAgent id = none
  described : msg.agentDescription = some desc
  accepts : msg.capabilities &&& AgentCapabilities.acceptsRemoteConfig ≠ 0
  stale : ∀ rcs, msg.remoteConfigStatus = some rcs →
    rcs.lastRemoteConfigHash
      ≠ (remoteConfigOf (priorityResolution srv.store id desc)).configHash
  reads : env.faults .getLatestConfigForAgent = none ∧ env.faults .getLatestConfigForGroup = none

/-- The response of the handler carries a remote config whose only file is `body`. -/
def RespondsWith (env : Env) (conn : Conn) (msg : AgentToServer) (srv : Server) (body : Bytes) :
    Prop :=
  ∃ response srv' cfg, Server.onMessage env conn msg srv = .ok (response, srv') ∧
    response.remoteConfig = some cfg ∧ cfg.onlyBody = some body

/-- The response carries the priority resolution, and its body is not empty. -/
def DeliversResolution (env : Env) (conn : Conn) (msg : AgentToServer) (srv : Server)
    (id : UUID) (desc : AgentDescription) : Prop :=
  RespondsWith env conn msg srv (priorityResolution srv.store id desc) ∧
    priorityResolution srv.store id desc ≠ []

namespace Agent

/-- An agent without a status has no capability. -/
theorem hasCapability_of_no_status {agent : Agent} (h : agent.status = none)
    (capability : UInt64) : agent.hasCapability capability = false := by
  simp [hasCapability, h]

/-- The grouping of an agent without a status resolves no config. -/
theorem resolveGrouping_of_no_status (env : Env) (store : Storage) {agent : Agent}
    (h : agent.status = none) (msg : AgentToServer) :
    (agent.resolveGrouping env store msg).2 = none := by
  cases hdesc : msg.agentDescription with
  | none => simp [resolveGrouping, hdesc]
  | some desc =>
    cases hconfig : (agent.resolveGrouping env store msg).2 with
    | none => rfl
    | some config =>
      -- A config is resolved only for an agent with the capability.
      have hcap := (resolveGrouping_some hdesc).2 config hconfig
      rw [hasCapability_of_no_status h] at hcap
      cases hcap

/-- The grouping of an agent without a status leaves its two configs alone. -/
theorem processAgentGrouping_of_no_status (env : Env) (store : Storage) {agent : Agent}
    (h : agent.status = none) (msg : AgentToServer) :
    (agent.processAgentGrouping env store msg).customInstanceConfig = agent.customInstanceConfig ∧
      (agent.processAgentGrouping env store msg).remoteConfig = agent.remoteConfig := by
  unfold processAgentGrouping
  dsimp only
  rw [resolveGrouping_of_no_status env store h msg]
  show (agent.resolveGrouping env store msg).1.customInstanceConfig = _ ∧
    (agent.resolveGrouping env store msg).1.remoteConfig = _
  cases hdesc : msg.agentDescription with
  | none => simp [resolveGrouping, hdesc]
  | some desc =>
    rw [(resolveGrouping_some hdesc).1]
    exact ⟨rfl, rfl⟩

end Agent

/-- The response to the first message of an agent carries the remote config of the empty
body, whatever the store holds. -/
theorem onMessage_first_remoteConfig {env : Env} {conn : Conn} {msg : AgentToServer}
    {srv srv' : Server} {response : ServerToAgent} {id : UUID}
    (huid : UUID.ofSlice msg.instanceUid = .ok id) (habsent : srv.agents.findAgent id = none)
    (h : Server.onMessage env conn msg srv = .ok (response, srv')) :
    response.remoteConfig = some (remoteConfigOf []) := by
  obtain ⟨instanceId, agent, response₀, watchers, hid, hupdate, rfl, _⟩ := Server.onMessage_ok h
  rw [huid] at hid
  cases hid
  rw [Agents.findOrCreateAgent_snd_of_none habsent] at hupdate
  have hstatus : (newAgent id conn).status = none := rfl
  obtain ⟨hcustom, hremote⟩ :=
    Agent.processAgentGrouping_of_no_status env srv.store hstatus msg
  obtain ⟨groupID, groupName, custom, remote, hgrouped⟩ :=
    Agent.processAgentGrouping_frame env srv.store (newAgent id conn) msg
  rw [hgrouped] at hupdate hcustom hremote
  -- No remote config was held, so the recalculation is a change and goes into the response.
  have hchanged : Agent.reportChangesConfig
      { newAgent id conn with
        groupID, groupName, customInstanceConfig := custom, remoteConfig := remote } msg
      = true := by
    simp only at hremote
    rw [hremote]
    rfl
  obtain ⟨_, _, hsend⟩ := Agent.updateStatus_ok hupdate
  rw [Server.calcConnectionSettings_remoteConfig, hsend hchanged]
  simp only at hcustom
  rw [hcustom]
  rfl

/-- The first message of an agent is never answered with the priority resolution: the
response carries a file without a byte. -/
theorem onMessage_never_delivers_resolution (env : Env) (conn : Conn) (msg : AgentToServer)
    (srv : Server) (id : UUID) (desc : AgentDescription) (h : FirstMessage env srv msg id desc) :
    ¬ DeliversResolution env conn msg srv id desc := by
  intro hdelivers
  obtain ⟨⟨response, srv', cfg, hok, hremote, hbody⟩, hne⟩ := hdelivers
  rw [onMessage_first_remoteConfig h.uid h.absent hok] at hremote
  cases hremote
  rw [onlyBody_remoteConfigOf] at hbody
  exact hne (Option.some.inj hbody).symm

/-! ### A first message -/

/-- A message with an empty description and the capability to accept remote config. -/
def firstReport (uid : UUID) : AgentToServer where
  instanceUid := uid.bytes
  agentDescription := some ⟨[], []⟩
  capabilities := AgentCapabilities.acceptsRemoteConfig

/-- The report is a first message for a server that has just started. -/
theorem firstMessage_firstReport :
    FirstMessage (.quiet 0 "") (.newServer .empty "" "") (firstReport .nil) .nil
      ⟨[], []⟩ where
  uid := rfl
  absent := rfl
  described := rfl
  accepts := by decide
  stale := by
    intro rcs h
    cases h
  reads := ⟨rfl, rfl⟩

theorem onMessage_never_delivers_resolution_empty_store :
    FirstMessage (.quiet 0 "") (.newServer .empty "" "") (firstReport .nil) .nil
      ⟨[], []⟩ ∧
    ¬ DeliversResolution (.quiet 0 "") 0 (firstReport .nil) (.newServer .empty "" "") .nil
      ⟨[], []⟩ :=
  ⟨firstMessage_firstReport,
    onMessage_never_delivers_resolution _ _ _ _ _ _ firstMessage_firstReport⟩

/-- On the empty store the resolution is the default config, and the first response carries
the empty file. -/
theorem firstReport_gets_empty_file :
    ¬ ∀ env conn msg srv id desc, FirstMessage env srv msg id desc →
      DeliversResolution env conn msg srv id desc := by
  intro hall
  obtain ⟨⟨response, srv', cfg, hok, hremote, hbody⟩, _⟩ :=
    hall (.quiet 0 "") 0 (firstReport .nil) (.newServer .empty "" "") .nil ⟨[], []⟩
      firstMessage_firstReport
  rw [onMessage_first_remoteConfig rfl rfl hok] at hremote
  cases hremote
  rw [onlyBody_remoteConfigOf] at hbody
  exact defaultOTelConfig_ne_nil (Option.some.inj hbody).symm

end OtelHive.Opamp
