import OtelHive.Opamp.Server

/-!
# `OtelHive.Proofs.Opamp.Agent`: what the sections do to an agent

One specification lemma for each section of `Opamp.Agent`. Proofs about the handlers use
these lemmas and do not unfold the sections.

`remoteConfigOf body` is the remote config with the single file `body`. `Synced` is the
invariant that ties `remoteConfig` to `customInstanceConfig`: every section that writes one
of them leaves `remoteConfig = some (remoteConfigOf customInstanceConfig)`.
-/

set_option autoImplicit false

namespace OtelHive.Opamp

open OtelHive.Lib

/-! ### The remote config of a body -/

/-- The remote config that `calcRemoteConfig` builds for a body. -/
def remoteConfigOf (body : Bytes) : AgentRemoteConfig where
  config := some (singleFile body)
  configHash := sha256 (hashInput (singleFile body))

/-- The file under the empty name, in iteration order. -/
theorem toList_singleFile (body : Bytes) :
    (singleFile body).configMap.toList = [("", { body })] := rfl

/-- The hash covers the body alone: the key and the content type are empty. -/
theorem hashInput_singleFile (body : Bytes) : hashInput (singleFile body) = body := by
  simp [hashInput, toList_singleFile]

/-- The hash of a remote config is the digest of its body. -/
theorem configHash_remoteConfigOf (body : Bytes) :
    (remoteConfigOf body).configHash = sha256 body := by
  rw [remoteConfigOf, hashInput_singleFile]

/-- Two single-file configs are equal for the server when their bodies are. -/
theorem isEqualConfigSet_singleFile (a b : Bytes) :
    isEqualConfigSet (some (singleFile a)) (some (singleFile b)) = (a == b) := by
  have hlength : (singleFile a).configMap.entries.length
      = (singleFile b).configMap.entries.length := rfl
  have hlookup : (singleFile b).configMap.lookup "" = some { body := b } :=
    AList.lookup_insert _
  simp only [isEqualConfigSet, hlength, bne_self_eq_false, Bool.false_eq_true, if_false,
    toList_singleFile, List.all_cons, List.all_nil, Bool.and_true, hlookup, isEqualConfigFile,
    beq_self_eq_true]

/-- Remote configs of two bodies are equal for the server when the bodies are. -/
theorem isEqualRemoteConfig_remoteConfigOf (a b : Bytes) :
    isEqualRemoteConfig (some (remoteConfigOf a)) (some (remoteConfigOf b)) = (a == b) :=
  isEqualConfigSet_singleFile a b

/-- The body of the only file of a remote config. -/
def AgentRemoteConfig.onlyBody (cfg : AgentRemoteConfig) : Option Bytes :=
  match cfg.config.map (·.configMap.toList) with
  | some [(_, file)] => some file.body
  | _ => none

@[simp] theorem onlyBody_remoteConfigOf (body : Bytes) :
    (remoteConfigOf body).onlyBody = some body := rfl

namespace Agent

/-- The remote config, if there is one, is that of the custom config. -/
def Synced (agent : Agent) : Prop :=
  ∀ cfg, agent.remoteConfig = some cfg → cfg = remoteConfigOf agent.customInstanceConfig

/-- The server holds `body` for the agent: as its custom config, and as the only file of its
remote config. -/
def Holds (agent : Agent) (body : Bytes) : Prop :=
  agent.customInstanceConfig = body ∧
    agent.remoteConfig.bind AgentRemoteConfig.onlyBody = some body

/-- An agent holds one body at most. -/
theorem Holds.unique {agent : Agent} {a b : Bytes} (ha : agent.Holds a) (hb : agent.Holds b) :
    a = b :=
  ha.1.symm.trans hb.1

/-! ### `setCustomConfig` -/

/-- `setCustomConfig` leaves the agent with the body of the file under the empty name. Only
the watchers depend on whether the config changed. -/
theorem setCustomConfig_file (agent : Agent) (config : CustomConfig) (notify : Option ChanId) :
    ∃ watchers, (agent.setCustomConfig config notify).1
      = { agent with
          customInstanceConfig := config.file.body
          remoteConfig := some (remoteConfigOf config.file.body)
          statusUpdateWatchers := watchers } := by
  unfold setCustomConfig
  dsimp only
  split
  · exact ⟨agent.statusUpdateWatchers ++ notify.toList, rfl⟩
  · exact ⟨agent.statusUpdateWatchers, rfl⟩

/-- `setCustomConfig` sends the config, unless the agent has it already. -/
theorem setCustomConfig_snd (agent : Agent) (config : CustomConfig) (notify : Option ChanId) :
    (agent.setCustomConfig config notify).2
      = if isEqualRemoteConfig agent.remoteConfig (some (remoteConfigOf config.file.body))
        then .notifyNow
        else .send { remoteConfig := some (remoteConfigOf config.file.body) } := by
  have hcalc : ({ agent with customInstanceConfig := config.file.body } :
      Agent).calcRemoteConfig.2
        = !isEqualRemoteConfig agent.remoteConfig (some (remoteConfigOf config.file.body)) := rfl
  unfold setCustomConfig
  dsimp only
  rw [hcalc]
  cases isEqualRemoteConfig agent.remoteConfig (some (remoteConfigOf config.file.body)) <;> rfl

/-- After a push the agent has the pushed body. -/
theorem setCustomConfig_fst (agent : Agent) (body : Bytes) (notify : Option ChanId) :
    ∃ watchers, (agent.setCustomConfig (.single body) notify).1
      = { agent with
          customInstanceConfig := body
          remoteConfig := some (remoteConfigOf body)
          statusUpdateWatchers := watchers } :=
  setCustomConfig_file agent (.single body) notify

/-- After a push the server holds the pushed body for the agent. -/
theorem holds_setCustomConfig (agent : Agent) (body : Bytes) (notify : Option ChanId) :
    (agent.setCustomConfig (.single body) notify).1.Holds body := by
  obtain ⟨watchers, h⟩ := setCustomConfig_fst agent body notify
  rw [h]
  exact ⟨rfl, rfl⟩

/-! ### `processAgentGrouping` -/

/-- A message without a description does not group the agent. -/
theorem processAgentGrouping_of_none (env : Env) (store : Sqlite.Storage) (agent : Agent)
    {msg : AgentToServer} (h : msg.agentDescription = none) :
    agent.processAgentGrouping env store msg = agent := by
  simp [processAgentGrouping, resolveGrouping, h, setInitialConfig]

/-- What `resolveGrouping` does: the group fields follow the description, and the config, if
there is one, is the resolution for an agent that accepts remote config. -/
theorem resolveGrouping_some {env : Env} {store : Sqlite.Storage} {agent : Agent}
    {msg : AgentToServer} {desc : AgentDescription} (h : msg.agentDescription = some desc) :
    (agent.resolveGrouping env store msg).1
        = { agent with
            groupID := some (extractGroupInfo desc).1
            groupName := some (extractGroupInfo desc).2 } ∧
    (∀ config, (agent.resolveGrouping env store msg).2 = some config →
      agent.hasCapability AgentCapabilities.acceptsRemoteConfig = true) := by
  unfold resolveGrouping
  rw [h]
  dsimp only
  split
  · rename_i hcond
    refine ⟨rfl, ?_⟩
    intro config _
    exact (Bool.and_eq_true_iff.mp hcond).2
  · refine ⟨rfl, ?_⟩
    intro config hconfig
    cases hconfig

/-- `setInitialConfig` changes the custom config and the remote config only. -/
theorem setInitialConfig_eq (agent : Agent) (config : Option Bytes) :
    agent.setInitialConfig config
      = match config with
        | none => agent
        | some body =>
          { agent with
            customInstanceConfig := body
            remoteConfig := some (remoteConfigOf body) } := by
  cases config <;> rfl

/-! ### `updateStatus` -/

/-- The status after a report: the first report as it is, and later ones merged field by
field. -/
def mergeStatus (status : Option AgentToServer) (msg : AgentToServer) : AgentToServer :=
  match status with
  | none => msg
  | some prev =>
    { prev with
      sequenceNum := msg.sequenceNum
      agentDescription := msg.agentDescription <|> prev.agentDescription
      health := msg.health <|> prev.health
      remoteConfigStatus := msg.remoteConfigStatus <|> prev.remoteConfigStatus }

/-- A report changes the description when it is the first one, or brings another one. -/
def descrChanged (status : Option AgentToServer) (msg : AgentToServer) : Bool :=
  match status with
  | none => true
  | some prev => msg.agentDescription.isSome && prev.agentDescription != msg.agentDescription

/-- The description of a report replaces the one before it. -/
theorem mergeDescription_eq (status msg : AgentToServer) :
    mergeDescription status msg
      = ({ status with agentDescription := msg.agentDescription <|> status.agentDescription },
          msg.agentDescription.isSome && status.agentDescription != msg.agentDescription) := by
  unfold mergeDescription
  cases hmsg : msg.agentDescription with
  | none => rfl
  | some desc =>
    cases status
    dsimp only
    split
    · rename_i heq
      simp [heq]
    · rename_i hne
      simp [hne]

/-- The config status of a report replaces the one before it. -/
theorem mergeRemoteConfigStatus_eq (status msg : AgentToServer) :
    mergeRemoteConfigStatus status msg
      = { status with
          remoteConfigStatus := msg.remoteConfigStatus <|> status.remoteConfigStatus } := by
  unfold mergeRemoteConfigStatus
  cases hmsg : msg.remoteConfigStatus with
  | none => rfl
  | some rcs =>
    cases status
    dsimp only
    split
    · rfl
    · rename_i heq
      simp only [Option.isSome_some, Bool.true_and, bne_iff_ne, ne_eq, not_not] at heq
      simp [heq]

/-- `updateHealth` on an agent with the status `status`. -/
theorem updateHealth_with_status (agent : Agent) (status msg : AgentToServer) :
    ∃ startedAt, updateHealth { agent with status := some status } msg
      = { agent with
          status := some { status with health := msg.health <|> status.health }
          startedAt } := by
  unfold updateHealth
  cases hmsg : msg.health with
  | none => exact ⟨_, rfl⟩
  | some health =>
    dsimp only
    split
    · exact ⟨_, rfl⟩
    · exact ⟨_, rfl⟩

/-- `updateRemoteConfigStatus` on an agent with the status `status`. -/
theorem updateRemoteConfigStatus_with_status (agent : Agent) (status msg : AgentToServer) :
    updateRemoteConfigStatus { agent with status := some status } msg
      = { agent with
          status := some { status with
            remoteConfigStatus := msg.remoteConfigStatus <|> status.remoteConfigStatus } } := by
  unfold updateRemoteConfigStatus
  cases hmsg : msg.remoteConfigStatus <;> rfl

/-- A report merged with itself is that report. -/
theorem mergeStatus_self (msg : AgentToServer) : mergeStatus (some msg) msg = msg := by
  have horElse : ∀ {α : Type} (x : Option α), (x <|> x) = x := by
    intro α x
    cases x <;> rfl
  simp only [mergeStatus, horElse]

/-- `updateAgentDescription`, `updateHealth` and `updateRemoteConfigStatus` on an agent that
has a status merge the report into it. -/
theorem updates_of_some {agent : Agent} {prev : AgentToServer} (h : agent.status = some prev)
    (msg : AgentToServer) :
    ∃ startedAt, ((agent.updateAgentDescription msg).1.updateHealth msg).updateRemoteConfigStatus
        msg = { agent with status := some (mergeStatus (some prev) msg), startedAt } ∧
      (agent.updateAgentDescription msg).2 = descrChanged (some prev) msg := by
  have hdesc : agent.updateAgentDescription msg
      = ({ agent with status := some { prev with
            sequenceNum := msg.sequenceNum
            agentDescription := msg.agentDescription <|> prev.agentDescription
            remoteConfigStatus := msg.remoteConfigStatus <|> prev.remoteConfigStatus } },
          descrChanged (some prev) msg) := by
    unfold updateAgentDescription
    rw [h]
    simp only [mergeDescription_eq, mergeRemoteConfigStatus_eq]
    rfl
  rw [hdesc]
  obtain ⟨startedAt, hhealth⟩ := updateHealth_with_status agent
    { prev with
      sequenceNum := msg.sequenceNum
      agentDescription := msg.agentDescription <|> prev.agentDescription
      remoteConfigStatus := msg.remoteConfigStatus <|> prev.remoteConfigStatus } msg
  refine ⟨startedAt, ?_, rfl⟩
  rw [hhealth]
  refine (updateRemoteConfigStatus_with_status { agent with startedAt } _ msg).trans ?_
  cases hrcs : msg.remoteConfigStatus <;> simp [mergeStatus, hrcs]

/-- `updateStatusField` merges the report. `startedAt` is the other field it writes. -/
theorem updateStatusField_eq (agent : Agent) (msg : AgentToServer) :
    ∃ startedAt, agent.updateStatusField msg
      = ({ agent with status := some (mergeStatus agent.status msg), startedAt },
          descrChanged agent.status msg) := by
  unfold updateStatusField
  cases hstatus : agent.status with
  | none =>
    -- The first report is stored, and then merged with itself.
    have hself : ({ agent with status := some msg } : Agent).status = some msg := rfl
    obtain ⟨startedAt, hmerge, _⟩ := updates_of_some hself msg
    refine ⟨startedAt, ?_⟩
    dsimp only
    rw [hmerge, mergeStatus_self, Bool.or_true]
    rfl
  | some prev =>
    obtain ⟨startedAt, hmerge, hchanged⟩ := updates_of_some hstatus msg
    refine ⟨startedAt, ?_⟩
    dsimp only
    rw [hmerge, hchanged, Bool.or_false]

/-- The remote config after a report: recalculated when the description changed. -/
def reportedRemoteConfig (agent : Agent) (msg : AgentToServer) : Option AgentRemoteConfig :=
  if descrChanged agent.status msg then some (remoteConfigOf agent.customInstanceConfig)
  else agent.remoteConfig

/-- The report changed the remote config. -/
def reportChangesConfig (agent : Agent) (msg : AgentToServer) : Bool :=
  descrChanged agent.status msg
    && !isEqualRemoteConfig agent.remoteConfig
      (some (remoteConfigOf agent.customInstanceConfig))

/-- The agent and the flag after the recalculation that a changed description asks for. -/
theorem calc_after_report (agent : Agent) (msg : AgentToServer) (startedAt : Option Int) :
    (if descrChanged agent.status msg = true then
        ({ agent with status := some (mergeStatus agent.status msg), startedAt } :
          Agent).calcRemoteConfig
      else ({ agent with status := some (mergeStatus agent.status msg), startedAt }, false))
      = ({ agent with
            status := some (mergeStatus agent.status msg)
            startedAt
            remoteConfig := agent.reportedRemoteConfig msg },
          agent.reportChangesConfig msg) := by
  unfold reportedRemoteConfig reportChangesConfig
  cases descrChanged agent.status msg <;> rfl

/-- `updateEffectiveConfig` writes the effective config only. -/
theorem updateEffectiveConfig_ok {agent agent' : Agent} {msg : AgentToServer}
    (h : agent.updateEffectiveConfig msg = .ok agent') :
    ∃ effectiveConfig, agent' = { agent with effectiveConfig } := by
  unfold updateEffectiveConfig at h
  split at h
  · cases h
    exact ⟨_, rfl⟩
  · cases h
  · split at h
    · cases h
      exact ⟨_, rfl⟩
    · cases h
      exact ⟨_, rfl⟩

/-- What `processStatusUpdate` does when it does not panic. A config that the report changed
is in the response. -/
theorem processStatusUpdate_ok {agent agent' : Agent} {msg : AgentToServer}
    {response response' : ServerToAgent}
    (h : agent.processStatusUpdate msg response = .ok (agent', response')) :
    (∃ startedAt effectiveConfig, agent' = { agent with
        status := some (mergeStatus agent.status msg)
        startedAt
        effectiveConfig
        remoteConfig := agent.reportedRemoteConfig msg }) ∧
    (agent.reportChangesConfig msg = true →
      response'.remoteConfig = agent.reportedRemoteConfig msg) := by
  obtain ⟨startedAt, hfield⟩ := updateStatusField_eq agent msg
  unfold processStatusUpdate at h
  rw [hfield] at h
  dsimp only at h
  rw [calc_after_report] at h
  dsimp only at h
  obtain ⟨sendConfig, hsend, h⟩ := bind_eq_ok h
  obtain ⟨agent₂, heffective, h⟩ := bind_eq_ok h
  obtain ⟨effectiveConfig, rfl⟩ := updateEffectiveConfig_ok heffective
  cases h
  refine ⟨⟨startedAt, effectiveConfig, rfl⟩, ?_⟩
  intro hchanged
  rw [hchanged] at hsend
  cases hsend
  rfl

/-- `processConnectionSettingsRequest` leaves the remote config and the flags of the response
alone. -/
theorem processConnectionSettingsRequest_frame {x509 : X509}
    {request : Option OpAMPConnectionSettingsRequest} {response response' : ServerToAgent}
    (h : processConnectionSettingsRequest x509 request response = .ok response') :
    response'.remoteConfig = response.remoteConfig ∧ response'.flags = response.flags := by
  have herr : ∀ errMsg, (addErrorResponse errMsg response).remoteConfig = response.remoteConfig ∧
      (addErrorResponse errMsg response).flags = response.flags := by
    intro errMsg
    unfold addErrorResponse
    split
    · exact ⟨rfl, rfl⟩
    · split <;> exact ⟨rfl, rfl⟩
  unfold processConnectionSettingsRequest at h
  repeat' split at h
  all_goals cases h
  all_goals first
    | exact ⟨rfl, rfl⟩
    | exact herr _

/-- The answer to a connection settings request leaves the remote config and the flags of the
response alone. -/
theorem answerConnectionSettings_frame {x509 : X509} {msg : AgentToServer}
    {response response' : ServerToAgent}
    (h : answerConnectionSettings x509 msg response = .ok response') :
    response'.remoteConfig = response.remoteConfig ∧ response'.flags = response.flags := by
  unfold answerConnectionSettings at h
  split at h
  · exact processConnectionSettingsRequest_frame h
  · cases h
    exact ⟨rfl, rfl⟩

/-- What `updateStatus` does when it does not panic. It empties the watchers and returns
them. -/
theorem updateStatus_ok {agent agent' : Agent} {x509 : X509} {msg : AgentToServer}
    {response response' : ServerToAgent} {watchers : List ChanId}
    (h : agent.updateStatus x509 msg response = .ok (agent', response', watchers)) :
    (∃ startedAt effectiveConfig, agent' = { agent with
        status := some (mergeStatus agent.status msg)
        startedAt
        effectiveConfig
        remoteConfig := agent.reportedRemoteConfig msg
        statusUpdateWatchers := [] }) ∧
    watchers = agent.statusUpdateWatchers ∧
    (agent.reportChangesConfig msg = true →
      response'.remoteConfig = agent.reportedRemoteConfig msg) := by
  unfold updateStatus at h
  obtain ⟨⟨agent₁, response₁⟩, hprocess, h⟩ := bind_eq_ok h
  obtain ⟨response₂, hsettings, h⟩ := bind_eq_ok h
  obtain ⟨⟨startedAt, effectiveConfig, rfl⟩, hsend⟩ := processStatusUpdate_ok hprocess
  cases h
  refine ⟨⟨startedAt, effectiveConfig, rfl⟩, rfl, ?_⟩
  intro hchanged
  rw [(answerConnectionSettings_frame hsettings).1]
  exact hsend hchanged

/-! ### The remote-config invariant -/

/-- A new agent is synced: it has no remote config. -/
theorem synced_newAgent (instanceId : UUID) (conn : Conn) : (newAgent instanceId conn).Synced := by
  intro cfg h
  cases h

/-- The grouping keeps the remote config in step with the custom config. -/
theorem Synced.processAgentGrouping {agent : Agent} (hsynced : agent.Synced) (env : Env)
    (store : Sqlite.Storage) (msg : AgentToServer) :
    (agent.processAgentGrouping env store msg).Synced := by
  have hresolve : (agent.resolveGrouping env store msg).1.customInstanceConfig
        = agent.customInstanceConfig ∧
      (agent.resolveGrouping env store msg).1.remoteConfig = agent.remoteConfig := by
    unfold resolveGrouping
    split
    · exact ⟨rfl, rfl⟩
    · dsimp only
      split <;> exact ⟨rfl, rfl⟩
  unfold Agent.processAgentGrouping
  dsimp only
  rw [setInitialConfig_eq]
  split
  · intro cfg hcfg
    rw [hresolve.2] at hcfg
    rw [hresolve.1]
    exact hsynced cfg hcfg
  · intro cfg hcfg
    cases hcfg
    rfl

/-- A status report keeps the remote config in step with the custom config. -/
theorem Synced.updateStatus {agent agent' : Agent} (hsynced : agent.Synced) {x509 : X509}
    {msg : AgentToServer} {response response' : ServerToAgent} {watchers : List ChanId}
    (h : agent.updateStatus x509 msg response = .ok (agent', response', watchers)) :
    agent'.Synced := by
  obtain ⟨⟨startedAt, effectiveConfig, rfl⟩, _, _⟩ := updateStatus_ok h
  intro cfg hcfg
  dsimp only at hcfg
  unfold reportedRemoteConfig at hcfg
  split at hcfg
  · cases hcfg
    rfl
  · exact hsynced cfg hcfg

end Agent

end OtelHive.Opamp
