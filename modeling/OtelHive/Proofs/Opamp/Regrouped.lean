import OtelHive.Proofs.Opamp.RemoteConfig

/-!
# `OtelHive.Proofs.Opamp.Regrouped`: a config that the grouping changed

When the description of an agent names another group, `processAgentGrouping` can give it
another remote config. It computes whether the config changed and only logs it. The
recalculation of `UpdateStatus`, a moment later, finds no difference. So the new config is in
the response exactly if the agent has reported a config status, now or before, whose hash is
another one (`deliversGrouping_iff`).
-/

set_option autoImplicit false

namespace OtelHive.Opamp

open OtelHive.Lib
open OtelHive.Sqlite (Storage)

/-- A message on which the grouping changes the remote config of its agent:

- `uid`, `registered`: the message names a registered agent;
- `reported`, `accepts`: the agent has a status and accepts remote config;
- `described`: the message carries a description;
- `changed`: the grouping leaves another remote config. -/
structure Regrouping (env : Env) (srv : Server) (msg : AgentToServer) (id : UUID)
    (agent : Agent) : Prop where
  uid : UUID.ofSlice msg.instanceUid = .ok id
  registered : srv.agents.findAgent id = some agent
  reported : agent.status ≠ none
  accepts : agent.hasCapability AgentCapabilities.acceptsRemoteConfig = true
  described : msg.agentDescription ≠ none
  changed : (agent.processAgentGrouping env srv.store msg).remoteConfig ≠ agent.remoteConfig

/-- The handler answers with the remote config that the grouping left, unless the config status
in force already names its hash. -/
def DeliversGrouping (env : Env) (conn : Conn) (msg : AgentToServer) (srv : Server)
    (agent : Agent) : Prop :=
  ∃ response srv' cfg, Server.onMessage env conn msg srv = .ok (response, srv') ∧
    (agent.processAgentGrouping env srv.store msg).remoteConfig = some cfg ∧
    (response.remoteConfig = some cfg ∨
      ∃ rcs, agent.statusInForce msg = some rcs ∧ rcs.lastRemoteConfigHash = cfg.configHash)

namespace Agent

/-- The grouping keeps the status. -/
theorem status_processAgentGrouping (env : Env) (store : Storage) (agent : Agent)
    (msg : AgentToServer) : (agent.processAgentGrouping env store msg).status = agent.status := by
  obtain ⟨_, _, _, _, hgrouped⟩ := processAgentGrouping_frame env store agent msg
  rw [hgrouped]

/-- A remote config that the grouping changed is that of the custom config, whatever the agent
held before. -/
theorem remoteConfig_of_changed {env : Env} {store : Storage} {agent : Agent}
    {msg : AgentToServer}
    (h : (agent.processAgentGrouping env store msg).remoteConfig ≠ agent.remoteConfig) :
    (agent.processAgentGrouping env store msg).remoteConfig
      = some (remoteConfigOf (agent.processAgentGrouping env store msg).customInstanceConfig) := by
  have hresolve : (agent.resolveGrouping env store msg).1.remoteConfig = agent.remoteConfig := by
    cases hdesc : msg.agentDescription with
    | none => simp [resolveGrouping, hdesc]
    | some desc => rw [(resolveGrouping_some hdesc).1]
  unfold processAgentGrouping at h ⊢
  dsimp only at h ⊢
  rw [setInitialConfig_eq] at h ⊢
  cases hconfig : (agent.resolveGrouping env store msg).2 with
  | none =>
    rw [hconfig] at h
    exact absurd hresolve h
  | some body => rfl

/-- The grouping keeps the config status in force. -/
theorem statusInForce_processAgentGrouping (env : Env) (store : Storage) (agent : Agent)
    (msg : AgentToServer) :
    (agent.processAgentGrouping env store msg).statusInForce msg = agent.statusInForce msg := by
  unfold statusInForce
  rw [status_processAgentGrouping]

end Agent

section Regrouping

variable {env : Env} {srv : Server} {msg : AgentToServer} {id : UUID} {agent : Agent}

/-- The grouping has set both configs, so the invariants hold after it. -/
theorem Regrouping.invariant (h : Regrouping env srv msg id agent) :
    (agent.processAgentGrouping env srv.store msg).Synced ∧
      (agent.processAgentGrouping env srv.store msg).Configured := by
  have hremote := Agent.remoteConfig_of_changed h.changed
  constructor
  · intro cfg hcfg
    rw [hremote] at hcfg
    exact (Option.some.inj hcfg).symm
  · intro _
    rw [hremote]
    rfl

/-- The message names its agent, so the id has its sixteen bytes. -/
theorem Regrouping.length_le (h : Regrouping env srv msg id agent) :
    16 ≤ msg.instanceUid.length := by
  by_contra hshort
  have huid := h.uid
  rw [UUID.ofSlice, dif_neg hshort] at huid
  cases huid

/-- The handler answers with the remote config that `UpdateStatus` answers with, after the
grouping of the registered agent. -/
theorem Regrouping.onMessage_remoteConfig_iff (h : Regrouping env srv msg id agent) (conn : Conn)
    (config : Option AgentRemoteConfig) :
    (∃ response srv', Server.onMessage env conn msg srv = .ok (response, srv') ∧
      response.remoteConfig = config) ↔
    ∃ agent' response watchers, (agent.processAgentGrouping env srv.store msg).updateStatus
        env.x509 msg {} = .ok (agent', response, watchers) ∧ response.remoteConfig = config := by
  have hcreate : (srv.agents.findOrCreateAgent id conn).2 = agent := by
    rw [Agents.findOrCreateAgent_of_some h.registered]
  constructor
  · rintro ⟨response, srv', hok, hconfig⟩
    obtain ⟨id', agent', response₀, watchers, hid, hupdate, rfl, -⟩ := Server.onMessage_ok hok
    rw [h.uid] at hid
    cases hid
    rw [hcreate] at hupdate
    rw [Server.calcConnectionSettings_remoteConfig] at hconfig
    exact ⟨agent', response₀, watchers, hupdate, hconfig⟩
  · rintro ⟨agent', response, watchers, hupdate, hconfig⟩
    have hupdate' : ((srv.agents.findOrCreateAgent id conn).2.processAgentGrouping env srv.store
        msg).updateStatus env.x509 msg {} = .ok (agent', response, watchers) := by
      rw [hcreate]
      exact hupdate
    refine ⟨_, _, bind_ok h.uid (bind_ok hupdate' rfl), ?_⟩
    rw [Server.calcConnectionSettings_remoteConfig]
    exact hconfig

end Regrouping

/-- A config that the grouping changed is delivered exactly if a config status is in force, and
the handler answers the message at all. -/
theorem deliversGrouping_iff (env : Env) (conn : Conn) (msg : AgentToServer) (srv : Server)
    (id : UUID) (agent : Agent) (h : Regrouping env srv msg id agent) :
    DeliversGrouping env conn msg srv agent ↔
      agent.statusInForce msg ≠ none ∧ SafeMessage env.x509 msg := by
  have hremote := Agent.remoteConfig_of_changed h.changed
  have hforce := agent.statusInForce_processAgentGrouping env srv.store msg
  have hanswer := h.onMessage_remoteConfig_iff conn
  obtain ⟨hsynced, hconfigured⟩ := h.invariant
  have hreported : (agent.processAgentGrouping env srv.store msg).status ≠ none := by
    rw [Agent.status_processAgentGrouping]
    exact h.reported
  unfold DeliversGrouping
  generalize agent.processAgentGrouping env srv.store msg = grouped at *
  constructor
  · rintro ⟨response, srv', cfg, hok, hcfg, hdelivered⟩
    obtain ⟨agent', response₀, watchers, hupdate, hconfig⟩ := (hanswer _).mp ⟨_, _, hok, rfl⟩
    refine ⟨?_, h.length_le, (Agent.updateStatus_ok_iff hconfigured env.x509 msg {}).mp
      ⟨_, hupdate⟩⟩
    rcases hdelivered with hsent | ⟨rcs, hrcs, _⟩
    · obtain ⟨hiff, _⟩ := Agent.updateStatus_remoteConfig_iff hsynced hconfigured hreported hupdate
      obtain ⟨rcs, hrcs, _⟩ := hiff.mp (by rw [hconfig, hsent]; rfl)
      rw [← hforce, hrcs]
      exact Option.some_ne_none rcs
    · rw [hrcs]
      exact Option.some_ne_none rcs
  · rintro ⟨hforced, hsafe⟩
    obtain ⟨⟨agent', response₀, watchers⟩, hupdate⟩ :=
      (Agent.updateStatus_ok_iff hconfigured env.x509 msg {}).mpr hsafe.2
    obtain ⟨hiff, hcfg⟩ := Agent.updateStatus_remoteConfig_iff hsynced hconfigured hreported hupdate
    obtain ⟨response, srv', hok, hconfig⟩ := (hanswer _).mpr ⟨_, _, _, hupdate, rfl⟩
    refine ⟨response, srv', remoteConfigOf grouped.customInstanceConfig, hok, hremote, ?_⟩
    rw [hconfig, configHash_remoteConfigOf]
    obtain ⟨rcs, hrcs⟩ := Option.ne_none_iff_exists'.mp hforced
    by_cases hsame : rcs.lastRemoteConfigHash = sha256 grouped.customInstanceConfig
    · exact Or.inr ⟨rcs, hrcs, hsame⟩
    · -- Another hash is in force, so the response carries the config.
      have hsome := hiff.mpr ⟨rcs, by rw [hforce, hrcs], hsame⟩
      obtain ⟨cfg, hresponse⟩ := Option.isSome_iff_exists.mp hsome
      refine Or.inl ?_
      rw [hresponse, hcfg cfg hresponse]

/-! ### An agent that changes its group -/

/-- A database with the config `[2]` of the agent `UUID.nil`. -/
def configuredStore : Storage where
  agents := []
  groups := []
  configs := [{
    id := "c-1", agentID := some .nil, configHash := "", content := [2], version := .wrap 1
    createdAt := 0 }]

/-- A report of a group id, from an agent that accepts remote config. -/
def groupReport (groupID : String) (remoteConfigStatus : Option RemoteConfigStatus) :
    AgentToServer where
  instanceUid := UUID.nil.bytes
  agentDescription := some ⟨[⟨"group.id", some (.stringValue groupID)⟩], []⟩
  capabilities := AgentCapabilities.acceptsRemoteConfig
  remoteConfigStatus

/-- An agent of the group `a` that names the group `b` in its second report gets the stored
config, whatever config status that report has. -/
theorem regrouping_second_report :
    ∃ srv agent, run Server.step (.newServer configuredStore "" "")
        [.message (.quiet 0 "") 1 (groupReport "a" none)] = some srv ∧
      ∀ status, Regrouping (.quiet 1 "") srv (groupReport "b" status) .nil agent ∧
        agent.statusInForce (groupReport "b" status) = status := by
  have hend : ((run Server.step (.newServer configuredStore "" "")
      [.message (.quiet 0 "") 1 (groupReport "a" none)]).bind fun srv =>
        (srv.agents.findAgent .nil).map fun agent =>
          (agent.status.isSome, agent.hasCapability AgentCapabilities.acceptsRemoteConfig,
            agent.status.bind (·.remoteConfigStatus),
            (agent.processAgentGrouping (.quiet 1 "") srv.store
              (groupReport "b" none)).remoteConfig.map (·.configHash)
              == agent.remoteConfig.map (·.configHash)))
      = some (true, true, none, false) := by decide +kernel
  obtain ⟨srv, hrun, hend⟩ := Option.bind_eq_some_iff.mp hend
  obtain ⟨agent, hfind, hfields⟩ := Option.map_eq_some_iff.mp hend
  simp only [Prod.mk.injEq] at hfields
  obtain ⟨hstatus, haccepts, hnone, hchanged⟩ := hfields
  refine ⟨srv, agent, hrun, ?_⟩
  intro status
  refine ⟨⟨rfl, hfind, ?_, haccepts, Option.some_ne_none _, ?_⟩, ?_⟩
  · rw [← Option.isSome_iff_ne_none]
    exact hstatus
  · -- The grouping does not read the config status of the message.
    intro hsame
    have hnone' : (agent.processAgentGrouping (.quiet 1 "") srv.store
        (groupReport "b" none)).remoteConfig = agent.remoteConfig := hsame
    rw [hnone', beq_self_eq_true] at hchanged
    cases hchanged
  · unfold Agent.statusInForce
    rw [hnone]
    cases status <;> rfl

/-- A second report with a config status is answered with the new config. -/
theorem deliversGrouping_reported_status :
    ∃ srv agent, Regrouping (.quiet 1 "") srv
        (groupReport "b" (some { lastRemoteConfigHash := [] })) .nil agent ∧
      DeliversGrouping (.quiet 1 "") 1 (groupReport "b" (some { lastRemoteConfigHash := [] })) srv
        agent := by
  obtain ⟨srv, agent, _, hall⟩ := regrouping_second_report
  obtain ⟨hregrouping, hforce⟩ := hall (some { lastRemoteConfigHash := [] })
  refine ⟨srv, agent, hregrouping, (deliversGrouping_iff _ _ _ _ _ _ hregrouping).mpr ?_⟩
  refine ⟨?_, by decide, by decide, ?_⟩
  · rw [hforce]
    exact Option.some_ne_none _
  · intro settings hsettings
    cases hsettings

/-- A second report without a config status is answered without a config. -/
theorem regrouped_config_not_sent :
    ¬ ∀ env conn msg srv id agent, Regrouping env srv msg id agent →
      DeliversGrouping env conn msg srv agent := by
  intro hall
  obtain ⟨srv, agent, hrun, hregrouping⟩ := regrouping_second_report
  obtain ⟨hregrouping, hforce⟩ := hregrouping none
  have hend : ((run Server.step (.newServer configuredStore "" "")
      [.message (.quiet 0 "") 1 (groupReport "a" none)]).map fun srv =>
        (Server.onMessage (.quiet 1 "") 1 (groupReport "b" none) srv).toOption.bind
          (·.1.remoteConfig.map (·.configHash)))
      = some none := by decide +kernel
  obtain ⟨response, srv', cfg, hok, _, hdelivered⟩ := hall _ 1 _ _ _ _ hregrouping
  rw [hrun, Option.map_some, hok, Option.some.injEq] at hend
  rcases hdelivered with hsent | ⟨rcs, hrcs, _⟩
  · have hnone : response.remoteConfig.map (·.configHash) = none := hend
    rw [hsent] at hnone
    cases hnone
  · rw [hforce] at hrcs
    cases hrcs

end OtelHive.Opamp
