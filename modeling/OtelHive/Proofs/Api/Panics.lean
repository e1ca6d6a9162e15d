import OtelHive.Api.GitSync
import OtelHive.Lib.Runs
import OtelHive.Proofs.Api.AgentPriority
import OtelHive.Proofs.Opamp.Panics

/-!
# `OtelHive.Proofs.Api.Panics`: the messages that crash the process

`Proofs.Opamp.Panics` describes one handler on a registry of agents that have a remote config
once they have reported. Every change of the process keeps the registry like that
(`State.configured_next`), so whatever the process did before, a message is answered exactly
if it is safe (`answers_iff_safeMessage`).
-/

set_option autoImplicit false

namespace OtelHive.Opamp

open OtelHive.Lib

/-- A push keeps the status and sets a remote config, or changes nothing. -/
theorem Agent.Configured.pushed {agent : Agent} (h : agent.Configured) (content : Bytes)
    (notify : ChanId) : (agent.pushed content notify).Configured := by
  unfold Agent.pushed
  split
  · obtain ⟨watchers, hset⟩ := Agent.setCustomConfig_fst agent content (some notify)
    rw [hset]
    exact fun _ => rfl
  · exact h

namespace Server

/-- A push keeps the registered agents configured. -/
theorem configured_sendConfigToAgent {cs : ConfigSender} (h : Configured cs.agents)
    (acked : ChanId → Bool) (agentId : UUID) (content : Bytes) :
    Configured (cs.sendConfigToAgent acked agentId content).1.agents := by
  intro id agent hfind
  rw [ConfigSender.findAgent_sendConfigToAgent] at hfind
  split at hfind
  · obtain ⟨agent₀, hfind₀, rfl⟩ := Option.map_eq_some_iff.mp hfind
    exact (h agentId agent₀ hfind₀).pushed content cs.nextChan
  · exact h id agent hfind

/-- A group push keeps the registered agents configured. -/
theorem configured_sendConfigToAgentsInGroup {cs : ConfigSender} (h : Configured cs.agents)
    (acked : ChanId → Bool) (order : IterOrder UUID) (groupId : String) (content : Bytes) :
    Configured (cs.sendConfigToAgentsInGroup acked order groupId content).1.agents := by
  unfold ConfigSender.sendConfigToAgentsInGroup
  generalize ConfigSender.agentsInGroup order groupId cs.agents = ids
  -- The induction is on the agents of the loop, for every state that it can be in.
  generalize hacc : (cs, ({} : ConfigSender.GroupResult)) = acc
  have hconfigured : Configured acc.1.agents := by
    rw [← hacc]
    exact h
  clear hacc
  induction ids generalizing acc with
  | nil => exact hconfigured
  | cons id ids ih =>
    exact ih _ (configured_sendConfigToAgent hconfigured acked id content)

end Server

end OtelHive.Opamp

namespace OtelHive.Api

open OtelHive.Lib
open OtelHive.Opamp
open OtelHive.Opamp.Server (Configured Answers)

/-- An API request keeps every property of the registry that the pushes keep. -/
theorem State.step_sender {P : ConfigSender → Prop}
    (hagent : ∀ cs acked agentId content, P cs → P (cs.sendConfigToAgent acked agentId content).1)
    (hgroup : ∀ cs acked order groupId content, P cs →
      P (cs.sendConfigToAgentsInGroup acked order groupId content).1)
    {s s' : State} {r : Request} (hs : P s.sender) (hopamp : ∀ e, r ≠ .opamp e)
    (h : s.step r = some s') : P s'.sender := by
  -- Each handler has one branch that pushes. The others return the registry they got.
  cases r with
  | opamp e => exact absurd rfl (hopamp e)
  | createConfig env delivery body =>
    cases h
    unfold handleCreateConfig
    split
    · exact hs
    · dsimp only
      split
      · exact hs
      · dsimp only
        split
        · exact hs
        · split
          · exact hs
          · exact hgroup _ _ _ _ _ hs
  | updateConfig env configID body =>
    cases h
    unfold handleUpdateConfig
    split
    · exact hs
    split
    · exact hs
    split
    · exact hs
    · exact hs
    split
    · exact hs
    · dsimp only
      split <;> exact hs
  | assignConfig env delivery groupID body =>
    cases h
    unfold handleAssignConfig
    split
    · exact hs
    split
    · exact hs
    split
    · split
      · dsimp only
        split
        · exact hs
        · exact hgroup _ _ _ _ _ hs
      · exact hs
    · exact hs
  | sendConfig env delivery agentID body =>
    cases h
    unfold handleSendConfigToAgent
    split
    · exact hs
    split
    · exact hs
    split
    · exact hs
    split
    · exact hs
    split
    · exact hs
    · split
      · rename_i sender err hsend
        have hpush := congrArg (fun r => P r.1) hsend
        exact hpush.mp (hagent _ _ _ _ hs)
      · rename_i sender hsend
        have hpush := congrArg (fun r => P r.1) hsend
        exact hpush.mp (hagent _ _ _ _ hs)

/-- Every change of the process keeps the registered agents configured. -/
theorem State.configured_next {s s' : State} {i : Input} (h : Configured s.sender.agents)
    (hnext : s.next i = some s') : Configured s'.sender.agents := by
  cases i with
  | request r =>
    by_cases hopamp : ∃ e, r = .opamp e
    · obtain ⟨e, rfl⟩ := hopamp
      obtain ⟨srv, hsrv, rfl⟩ := Option.map_eq_some_iff.mp hnext
      have hconf : Configured s.server.agents := h
      exact Server.configured_step hconf hsrv
    · refine State.step_sender (P := fun cs => Configured cs.agents) ?_ ?_ h ?_ hnext
      · intro cs acked agentId content hcs
        exact Server.configured_sendConfigToAgent hcs acked agentId content
      · intro cs acked order groupId content hcs
        exact Server.configured_sendConfigToAgentsInGroup hcs acked order groupId content
      · intro e he
        exact hopamp ⟨e, he⟩
  | push acked agentID content =>
    cases hnext
    exact Server.configured_sendConfigToAgent h acked agentID content
  | write store =>
    cases hnext
    exact h

/-- After any run of the process from a start on any database, the server answers a message
exactly if it is safe. -/
theorem answers_iff_safeMessage (store : Sqlite.Storage) (inputs : List Input) (s : State)
    (hrun : run State.next (State.start store) inputs = some s) (env : Env) (conn : Conn)
    (msg : AgentToServer) : Answers env conn msg s.server ↔ SafeMessage env.x509 msg := by
  have hconfigured : Configured s.sender.agents := by
    refine run_invariant (fun s => Configured s.sender.agents) ?_ ?_ hrun
    · intro s i s' h hnext
      exact State.configured_next h hnext
    · intro id agent hfind
      cases hfind
  exact Server.answers_iff_of_configured hconfigured env conn msg

/-! ### Messages that crash the server -/

/-- A world whose X.509 package parses the certificate request `[1]`, without a signature
check that succeeds. -/
def forgedCertificate : Env :=
  { Env.quiet 1 "" with
    x509 := {
      pemDecode := some
      parseCertificateRequest := fun _ => .ok { signatureValid := false, commonName := "agent" } } }

/-- A message with an instance uid of three bytes. -/
def shortUid : AgentToServer where
  instanceUid := [1, 2, 3]

/-- A message that sends an effective config without its map. -/
def missingConfigMap : AgentToServer where
  instanceUid := UUID.nil.bytes
  effectiveConfig := some ⟨none⟩

/-- A message that sends a certificate request. -/
def signedRequest : AgentToServer where
  instanceUid := UUID.nil.bytes
  connectionSettingsRequest := some ⟨some ⟨some ⟨[1]⟩⟩⟩

/-- The first report of the agent. -/
def firstReport : List Input :=
  [.request (.opamp (.message forgedCertificate 1 { instanceUid := UUID.nil.bytes }))]

/-- After a first report, the same agent sends a certificate request: it is answered if and
only if its signature is valid. -/
theorem answers_iff_safeMessage_signedRequest :
    ∃ s, run State.next (.start .empty) firstReport = some s ∧
      (Answers forgedCertificate 1 signedRequest s.server ↔
        SafeMessage forgedCertificate.x509 signedRequest) := by
  have hsome : (run State.next (.start .empty) firstReport).isSome := by decide +kernel
  obtain ⟨s, hrun⟩ := Option.isSome_iff_exists.mp hsome
  exact ⟨s, hrun, answers_iff_safeMessage .empty _ s hrun forgedCertificate 1 signedRequest⟩

/-- Each of the three messages crashes a server that has just started, and the last two leave
the mutex of the agent locked. -/
theorem crashing_messages :
    ¬ Answers forgedCertificate 1 shortUid (State.start .empty).server ∧
    ¬ Answers forgedCertificate 1 missingConfigMap (State.start .empty).server ∧
    ¬ Answers forgedCertificate 1 signedRequest (State.start .empty).server ∧
    Server.holdsMutex forgedCertificate 1 missingConfigMap (State.start .empty).server = true ∧
    Server.holdsMutex forgedCertificate 1 signedRequest (State.start .empty).server = true := by
  have hstart : Configured (State.start .empty).server.agents := by
    intro id agent hfind
    cases hfind
  refine ⟨?_, ?_, ?_, by decide +kernel, by decide +kernel⟩
  · intro h
    have hsafe := (Server.answers_iff_of_configured hstart _ _ _).mp h
    exact absurd hsafe.1 (by decide)
  · intro h
    have hsafe := (Server.answers_iff_of_configured hstart _ _ _).mp h
    exact hsafe.2.1 rfl
  · intro h
    have hsafe := (Server.answers_iff_of_configured hstart _ _ _).mp h
    have hvalid := hsafe.2.2 ⟨some ⟨some ⟨[1]⟩⟩⟩ rfl ⟨[1]⟩ [1] ⟨false, "agent"⟩ rfl rfl rfl
    cases hvalid

end OtelHive.Api
