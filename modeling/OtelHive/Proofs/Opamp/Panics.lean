import OtelHive.Proofs.Opamp.Server

/-!
# `OtelHive.Proofs.Opamp.Panics`: where a message handler panics

`onMessage` can panic in four places: the conversion of the instance uid to an array, the
effective config without its inner map, the comparison with a missing remote config, and the
text of the nil error after a failed signature check. An agent with a status has a remote
config (`Agent.Configured`), so the third one is unreachable on a registry of such agents. The
others depend on the message alone (`SafeMessage`), and `Server.answers_iff_of_configured` has
no condition on the database.

All but the first are between `Lock` and `Unlock` of `UpdateStatus`, which has no deferred
unlock: such a panic leaves the mutex of the agent locked (`Server.holdsMutex`).
-/

set_option autoImplicit false

namespace OtelHive.Opamp

open OtelHive.Lib
open OtelHive.Sqlite (Storage)

/-! ### Agents with a remote config -/

namespace Agent

/-- An agent that has reported has a remote config. -/
def Configured (agent : Agent) : Prop := agent.status.isSome → agent.remoteConfig.isSome

theorem configured_newAgent (id : UUID) (conn : Conn) : (newAgent id conn).Configured := by
  intro h
  cases h

/-- The grouping replaces the remote config or keeps it. -/
theorem Configured.processAgentGrouping {agent : Agent} (h : agent.Configured) (env : Env)
    (store : Storage) (msg : AgentToServer) :
    (agent.processAgentGrouping env store msg).Configured := by
  have hresolve : (agent.resolveGrouping env store msg).1.status = agent.status ∧
      (agent.resolveGrouping env store msg).1.remoteConfig = agent.remoteConfig := by
    cases hdesc : msg.agentDescription with
    | none => simp [resolveGrouping, hdesc]
    | some desc =>
      rw [(resolveGrouping_some hdesc).1]
      exact ⟨rfl, rfl⟩
  unfold Agent.processAgentGrouping
  dsimp only
  rw [setInitialConfig_eq]
  -- Either no initial config was looked up, or `calcRemoteConfig` has just run.
  split
  · intro hstatus
    rw [hresolve.1] at hstatus
    rw [hresolve.2]
    exact h hstatus
  · exact fun _ => rfl

/-- After a report the agent has a remote config: the first report calculates one. -/
theorem isSome_reportedRemoteConfig {agent : Agent} (h : agent.Configured) (msg : AgentToServer) :
    (agent.reportedRemoteConfig msg).isSome := by
  unfold reportedRemoteConfig
  cases hstatus : agent.status with
  | none =>
    -- The first report counts as a change of the description.
    simp [descrChanged]
  | some status =>
    split
    · rfl
    · exact h (by rw [hstatus]; rfl)

/-! ### The panics of a report -/

/-- The comparison of the hashes returns when the agent has a remote config. -/
theorem shouldSendConfig_ok {agent : Agent} (h : agent.remoteConfig.isSome)
    (configChanged : Bool) : ∃ send, agent.shouldSendConfig configChanged = .ok send := by
  obtain ⟨cfg, hcfg⟩ := Option.isSome_iff_exists.mp h
  unfold shouldSendConfig remoteConfigDiffers
  rw [hcfg]
  split
  · exact ⟨_, rfl⟩
  · split <;> exact ⟨_, rfl⟩

/-- The effective config is read when it is absent or has its inner map. -/
theorem updateEffectiveConfig_ok_iff (agent : Agent) (msg : AgentToServer) :
    (∃ agent', agent.updateEffectiveConfig msg = .ok agent') ↔
      msg.effectiveConfig ≠ some ⟨none⟩ := by
  unfold updateEffectiveConfig
  constructor
  · rintro ⟨agent', h⟩ hnil
    rw [hnil] at h
    cases h
  · intro hne
    split
    · exact ⟨_, rfl⟩
    · rename_i hnil
      exact absurd hnil hne
    · split <;> exact ⟨_, rfl⟩

/-- A report of an agent with a remote config panics at a missing inner map only. -/
theorem processStatusUpdate_ok_iff {agent : Agent} (h : agent.Configured) (msg : AgentToServer)
    (response : ServerToAgent) :
    (∃ r, agent.processStatusUpdate msg response = .ok r) ↔
      msg.effectiveConfig ≠ some ⟨none⟩ := by
  obtain ⟨startedAt, hfield⟩ := updateStatusField_eq agent msg
  have hremote := isSome_reportedRemoteConfig h msg
  unfold processStatusUpdate
  rw [hfield]
  dsimp only
  rw [calc_after_report]
  dsimp only
  obtain ⟨send, hsend⟩ := @shouldSendConfig_ok { agent with
    status := some (mergeStatus agent.status msg)
    startedAt
    remoteConfig := agent.reportedRemoteConfig msg } hremote (agent.reportChangesConfig msg)
  rw [hsend]
  constructor
  · rintro ⟨r, hr⟩
    obtain ⟨_, _, hr⟩ := bind_eq_ok hr
    obtain ⟨agent', heffective, _⟩ := bind_eq_ok hr
    exact (updateEffectiveConfig_ok_iff _ msg).mp ⟨agent', heffective⟩
  · intro hne
    obtain ⟨agent', heffective⟩ := (updateEffectiveConfig_ok_iff { agent with
      status := some (mergeStatus agent.status msg)
      startedAt
      remoteConfig := agent.reportedRemoteConfig msg } msg).mpr hne
    exact ⟨_, bind_ok rfl (bind_ok heffective rfl)⟩

/-- The certificate request of the message, if it parses, has a valid signature. -/
def SignatureValid (x509 : X509) (request : Option OpAMPConnectionSettingsRequest) : Prop :=
  ∀ certificateRequest csrDer csr, request.bind (·.certificateRequest) = some certificateRequest →
    x509.pemDecode certificateRequest.csr = some csrDer →
    x509.parseCertificateRequest csrDer = .ok csr → csr.signatureValid = true

/-- What `SignatureValid` says of a request with a certificate request. -/
theorem signatureValid_iff {x509 : X509} {request : Option OpAMPConnectionSettingsRequest}
    {certificateRequest : CertificateRequestMessage}
    (h : request.bind (·.certificateRequest) = some certificateRequest) :
    SignatureValid x509 request ↔ ∀ csrDer,
      x509.pemDecode certificateRequest.csr = some csrDer → ∀ csr,
        x509.parseCertificateRequest csrDer = .ok csr → csr.signatureValid = true := by
  constructor
  · intro hvalid csrDer hpem csr hparse
    exact hvalid certificateRequest csrDer csr h hpem hparse
  · intro hvalid certificateRequest' csrDer csr h' hpem hparse
    rw [h] at h'
    cases h'
    exact hvalid csrDer hpem csr hparse

/-- A connection settings request panics at an invalid signature only. -/
theorem processConnectionSettingsRequest_ok_iff (x509 : X509)
    (request : Option OpAMPConnectionSettingsRequest) (response : ServerToAgent) :
    (∃ r, processConnectionSettingsRequest x509 request response = .ok r) ↔
      SignatureValid x509 request := by
  unfold processConnectionSettingsRequest
  cases hcert : request.bind (·.certificateRequest) with
  | none => simp [SignatureValid, hcert]
  | some certificateRequest =>
    rw [signatureValid_iff hcert]
    dsimp only
    cases hpem : x509.pemDecode certificateRequest.csr with
    | none => simp
    | some csrDer =>
      simp only [Option.some.injEq, forall_eq']
      cases hparse : x509.parseCertificateRequest csrDer with
      | error err => simp
      | ok csr =>
        cases hvalid : csr.signatureValid with
        | false => simp [hvalid]
        | true => by_cases hname : csr.commonName = "" <;> simp [hvalid, hname]

end Agent

/-- A message that `onMessage` answers: the uid has sixteen bytes, an effective config comes
with its inner map, and a certificate request that parses has a valid signature. -/
def SafeMessage (x509 : X509) (msg : AgentToServer) : Prop :=
  16 ≤ msg.instanceUid.length ∧ msg.effectiveConfig ≠ some ⟨none⟩ ∧
    ∀ settings, msg.connectionSettingsRequest = some settings →
      Agent.SignatureValid x509 settings.opamp

/-- The answer to a connection settings request panics at an invalid signature only. -/
theorem Agent.answerConnectionSettings_ok_iff (x509 : X509) (msg : AgentToServer)
    (response : ServerToAgent) :
    (∃ r, answerConnectionSettings x509 msg response = .ok r) ↔
      ∀ settings, msg.connectionSettingsRequest = some settings →
        SignatureValid x509 settings.opamp := by
  unfold answerConnectionSettings
  cases hsettings : msg.connectionSettingsRequest with
  | none => simp
  | some settings =>
    dsimp only
    rw [processConnectionSettingsRequest_ok_iff]
    simp

/-- `updateStatus` panics for the effective config or for the signature. -/
theorem Agent.updateStatus_ok_iff {agent : Agent} (h : agent.Configured) (x509 : X509)
    (msg : AgentToServer) (response : ServerToAgent) :
    (∃ r, agent.updateStatus x509 msg response = .ok r) ↔
      msg.effectiveConfig ≠ some ⟨none⟩ ∧
        ∀ settings, msg.connectionSettingsRequest = some settings →
          SignatureValid x509 settings.opamp := by
  unfold updateStatus
  constructor
  · rintro ⟨r, hr⟩
    obtain ⟨⟨agent', response'⟩, hprocess, hr⟩ := bind_eq_ok hr
    obtain ⟨response'', hsettings, _⟩ := bind_eq_ok hr
    exact ⟨(processStatusUpdate_ok_iff h msg response).mp ⟨_, hprocess⟩,
      (answerConnectionSettings_ok_iff x509 msg response').mp ⟨response'', hsettings⟩⟩
  · rintro ⟨heffective, hsignature⟩
    obtain ⟨⟨agent', response'⟩, hprocess⟩ :=
      (processStatusUpdate_ok_iff h msg response).mpr heffective
    obtain ⟨response'', hsettings⟩ :=
      (answerConnectionSettings_ok_iff x509 msg response').mpr hsignature
    exact ⟨_, bind_ok hprocess (bind_ok hsettings rfl)⟩

namespace Server

/-- Every registered agent that has reported has a remote config. -/
def Configured (agents : Agents) : Prop :=
  ∀ id agent, agents.findAgent id = some agent → agent.Configured

/-- The handler panics between `Lock` and `Unlock` of `UpdateStatus`, so the mutex of the
agent stays locked. -/
def holdsMutex (env : Env) (conn : Conn) (msg : AgentToServer) (srv : Server) : Bool :=
  match UUID.ofSlice msg.instanceUid with
  | .error _ => false
  | .ok instanceId =>
    !(((srv.agents.findOrCreateAgent instanceId conn).2.processAgentGrouping env srv.store
      msg).updateStatus env.x509 msg {}).isOk

/-- The handler returns a response, and it has released the mutex of the agent. -/
def Answers (env : Env) (conn : Conn) (msg : AgentToServer) (srv : Server) : Prop :=
  (∃ response srv', onMessage env conn msg srv = .ok (response, srv')) ∧
    holdsMutex env conn msg srv = false

/-- The agent that the handler works on has a remote config if it has reported. -/
theorem Configured.findOrCreateAgent {agents : Agents} (h : Configured agents) (id : UUID)
    (conn : Conn) : (agents.findOrCreateAgent id conn).2.Configured := by
  cases hfind : agents.findAgent id with
  | some agent =>
    rw [Agents.findOrCreateAgent_of_some hfind]
    exact h id agent hfind
  | none =>
    rw [Agents.findOrCreateAgent_snd_of_none hfind]
    exact Agent.configured_newAgent id conn

/-- A handler answers exactly the safe messages. -/
theorem answers_iff_of_configured {srv : Server} (h : Configured srv.agents) (env : Env)
    (conn : Conn) (msg : AgentToServer) :
    Answers env conn msg srv ↔ SafeMessage env.x509 msg := by
  unfold Answers SafeMessage onMessage holdsMutex
  by_cases hlength : 16 ≤ msg.instanceUid.length
  · obtain ⟨id, hid⟩ : ∃ id, UUID.ofSlice msg.instanceUid = .ok id := by
      unfold UUID.ofSlice
      rw [dif_pos hlength]
      exact ⟨_, rfl⟩
    rw [hid]
    -- So the comparison of the hashes does not dereference nil.
    have hconfigured : ((srv.agents.findOrCreateAgent id conn).2.processAgentGrouping env
        srv.store msg).Configured :=
      (h.findOrCreateAgent id conn).processAgentGrouping env srv.store msg
    have hupdate := Agent.updateStatus_ok_iff hconfigured env.x509 msg {}
    constructor
    · rintro ⟨⟨response, srv', hok⟩, _⟩
      obtain ⟨_, hid', hok⟩ := bind_eq_ok hok
      cases hid'
      obtain ⟨r, hr, _⟩ := bind_eq_ok hok
      exact ⟨hlength, hupdate.mp ⟨r, hr⟩⟩
    · rintro ⟨_, hsafe⟩
      obtain ⟨⟨agent, response, watchers⟩, hr⟩ := hupdate.mpr hsafe
      refine ⟨⟨_, _, bind_ok rfl (bind_ok hr rfl)⟩, ?_⟩
      dsimp only
      rw [hr]
      rfl
  · -- The conversion panics before an agent is looked up.
    have hid : UUID.ofSlice msg.instanceUid = .error .sliceToArray := by
      unfold UUID.ofSlice
      rw [dif_neg hlength]
    rw [hid]
    constructor
    · rintro ⟨⟨response, srv', hok⟩, _⟩
      cases hok
    · exact fun hsafe => absurd hsafe.1 hlength

/-- A report leaves the agent with a remote config. -/
theorem configured_updateStatus {agent agent' : Agent} (h : agent.Configured) {x509 : X509}
    {msg : AgentToServer} {response response' : ServerToAgent} {watchers : List ChanId}
    (hupdate : agent.updateStatus x509 msg response = .ok (agent', response', watchers)) :
    agent'.Configured := by
  obtain ⟨⟨startedAt, effectiveConfig, rfl⟩, _⟩ := Agent.updateStatus_ok hupdate
  exact fun _ => Agent.isSome_reportedRemoteConfig h msg

/-- Every handler keeps the registered agents configured. -/
theorem configured_step {srv srv' : Server} {e : Event} (h : Configured srv.agents)
    (hstep : step srv e = some srv') : Configured srv'.agents := by
  intro id agent hfind
  cases e with
  | message env conn msg =>
    simp only [step] at hstep
    split at hstep
    · rename_i response srv'' hmessage
      cases hstep
      obtain ⟨instanceId, agent', response₀, watchers, _, hupdate, _, rfl⟩ :=
        onMessage_ok hmessage
      dsimp only at hfind
      rw [Agents.findAgent_update, Agents.findAgent_findOrCreateAgent] at hfind
      by_cases hid : id = instanceId
      · -- The agent of the message: `persistAgent` changes its group id at most.
        rw [if_pos hid, if_pos hid, Option.map_some, Option.some.injEq] at hfind
        obtain ⟨groupID, hpersist⟩ := persistAgent_fst_frame env srv.store agent' msg
        have hconfigured : agent'.Configured :=
          configured_updateStatus
            ((h.findOrCreateAgent instanceId conn).processAgentGrouping env srv.store msg) hupdate
        rw [← hfind, hpersist]
        exact hconfigured
      · rw [if_neg hid, if_neg hid] at hfind
        exact h id agent hfind
    · cases hstep
  | disconnect env conn =>
    cases hstep
    have hfind' : (srv.agents.removeConnection conn).findAgent id = some agent := hfind
    rw [Agents.findAgent_removeConnection] at hfind'
    split at hfind'
    · cases hfind'
    · exact h id agent hfind'

end Server

end OtelHive.Opamp
