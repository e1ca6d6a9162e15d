import OtelHive.Proofs.Opamp.StatusMerge

/-!
# `OtelHive.Proofs.Opamp.FullState`: when the server asks for the full state

`UpdateStatus` sets `ReportFullState` in its response when it may have missed a report and the
report leaves out a field that the agent promised (`updateStatus_flags`).

The check reads the capabilities of the merged status, which are those of the first report
(`capabilitiesInForce_of_run`), and it does not look at the description. So the response is exact
only under `ChecksAll` (`fullStateExact_iff`).
-/

set_option autoImplicit false

namespace OtelHive.Opamp

open OtelHive.Lib

/-- The response asks for the full state. -/
def ServerToAgent.AsksFullState (response : ServerToAgent) : Prop :=
  response.flags &&& reportFullState ≠ 0

/-- The report leaves out a field that the capabilities promise. -/
def AgentToServer.Omits (msg : AgentToServer) (promised : UInt64) : Prop :=
  msg.effectiveConfig = none ∧ promised &&& AgentCapabilities.reportsEffectiveConfig ≠ 0 ∨
    msg.packageStatuses = none ∧ promised &&& AgentCapabilities.reportsPackageStatuses ≠ 0 ∨
    msg.remoteConfigStatus = none ∧ promised &&& AgentCapabilities.reportsRemoteConfig ≠ 0 ∨
    msg.health = none ∧ promised &&& AgentCapabilities.reportsHealth ≠ 0

instance (msg : AgentToServer) (promised : UInt64) : Decidable (msg.Omits promised) := by
  unfold AgentToServer.Omits
  infer_instance

namespace Agent

/-- The server has no report of the agent, or this one does not follow the last one. -/
def MayBeStale (agent : Agent) (msg : AgentToServer) : Prop :=
  ∀ status, agent.status = some status → msg.sequenceNum ≠ status.sequenceNum + 1

/-- The response asks for the full state exactly if the server's view may be stale, and the report
leaves out its description or a field that its own capabilities promise. -/
def FullStateExact (agent : Agent) (msg : AgentToServer) (response : ServerToAgent) : Prop :=
  response.AsksFullState ↔
    agent.MayBeStale msg ∧ (msg.agentDescription = none ∨ msg.Omits msg.capabilities)

/-- The capabilities of the status after the report. -/
def capabilitiesInForce (agent : Agent) (msg : AgentToServer) : UInt64 :=
  (mergeStatus agent.status msg).capabilities

/-- If the view may be stale: a report without a description also leaves out a field that the
capabilities in force promise, and one with a description leaves out such a field exactly if it
leaves out one that its own capabilities promise. -/
def ChecksAll (agent : Agent) (msg : AgentToServer) : Prop :=
  agent.MayBeStale msg →
    if msg.agentDescription = none then msg.Omits (agent.capabilitiesInForce msg)
    else (msg.Omits (agent.capabilitiesInForce msg) ↔ msg.Omits msg.capabilities)

/-- The capabilities in force are those of the first report. -/
theorem capabilitiesInForce_of_run {id : UUID} {conn : Conn} {x509 : X509}
    {msgs : List AgentToServer} {agent : Agent}
    (hrun : run enter (newAgent id conn) (msgs.map (.updateStatus x509)) = some agent)
    (msg : AgentToServer) :
    agent.capabilitiesInForce msg = ((msgs.head?).getD msg).capabilities := by
  unfold capabilitiesInForce
  cases msgs with
  | nil =>
    cases hrun
    rfl
  | cons first msgs =>
    obtain ⟨status, hstatus, _, hcapabilities, _⟩ :=
      status_of_run (List.cons_ne_nil first msgs) hrun
    rw [hstatus]
    exact hcapabilities

/-! ### The flag -/

theorem lostPreviousUpdate_iff (agent : Agent) (msg : AgentToServer) :
    agent.lostPreviousUpdate msg = true ↔ agent.MayBeStale msg := by
  unfold lostPreviousUpdate MayBeStale
  cases agent.status with
  | none => simp
  | some status =>
    dsimp only
    rw [bne_iff_ne]
    constructor
    · rintro hne _ ⟨⟩
      exact hne.symm
    · intro h
      exact (h status rfl).symm

theorem statusIsCompressed_iff {agent : Agent} {status : AgentToServer}
    (h : agent.status = some status) (msg : AgentToServer) :
    agent.statusIsCompressed msg = true ↔ msg.Omits status.capabilities := by
  unfold statusIsCompressed hasCapability AgentToServer.Omits
  rw [h]
  simp [or_assoc]

/-- `processStatusUpdate` sets the flag when the status is compressed and a report may be
missing. -/
theorem processStatusUpdate_flags {agent agent' : Agent} {msg : AgentToServer}
    {response response' : ServerToAgent}
    (h : agent.processStatusUpdate msg response = .ok (agent', response')) :
    response'.flags =
      if (agent.updateStatusField msg).1.statusIsCompressed msg && agent.lostPreviousUpdate msg
      then response.flags ||| reportFullState else response.flags := by
  unfold processStatusUpdate at h
  dsimp only at h
  obtain ⟨sendConfig, _, h⟩ := bind_eq_ok h
  obtain ⟨agent₂, _, h⟩ := bind_eq_ok h
  cases h
  rw [apply_ite ServerToAgent.flags, ite_self]
  split <;> rfl

/-- The flag of the response. -/
theorem updateStatus_flags {agent agent' : Agent} {x509 : X509} {msg : AgentToServer}
    {response : ServerToAgent} {watchers : List ChanId}
    (h : agent.updateStatus x509 msg {} = .ok (agent', response, watchers)) :
    response.AsksFullState ↔
      agent.MayBeStale msg ∧ msg.Omits (agent.capabilitiesInForce msg) := by
  unfold updateStatus at h
  obtain ⟨⟨agent₁, response₁⟩, hprocess, h⟩ := bind_eq_ok h
  obtain ⟨response₂, hsettings, h⟩ := bind_eq_ok h
  cases h
  obtain ⟨startedAt, hfield⟩ := updateStatusField_eq agent msg
  unfold ServerToAgent.AsksFullState
  have hcompressed := @statusIsCompressed_iff (agent.updateStatusField msg).1 _
    (by rw [hfield]) msg
  rw [(answerConnectionSettings_frame hsettings).2, processStatusUpdate_flags hprocess,
    ← lostPreviousUpdate_iff, capabilitiesInForce, ← hcompressed, and_comm,
    ← Bool.and_eq_true_iff]
  split
  · rename_i hasks
    exact iff_of_true (by decide) hasks
  · rename_i hasks
    exact iff_of_false (fun h => h rfl) hasks

/-- The response to a report is exact if and only if the check of the omitted fields covers the
description and the report's own capabilities. -/
theorem fullStateExact_iff (agent agent' : Agent) (x509 : X509) (msg : AgentToServer)
    (response : ServerToAgent) (watchers : List ChanId)
    (h : agent.updateStatus x509 msg {} = .ok (agent', response, watchers)) :
    agent.FullStateExact msg response ↔ agent.ChecksAll msg := by
  unfold FullStateExact ChecksAll
  rw [updateStatus_flags h, and_congr_right_iff]
  refine imp_congr_right fun _ => ?_
  split
  · rename_i hnone
    simp [hnone]
  · rename_i hsome
    simp [hsome]

/-- A report with a description and without the health that it promises. -/
def withoutHealth : AgentToServer where
  instanceUid := UUID.nil.bytes
  agentDescription := some ⟨[], []⟩
  capabilities := AgentCapabilities.reportsHealth

theorem fullStateExact_withoutHealth :
    ∃ agent' response watchers,
      (newAgent .nil 1).updateStatus (Env.quiet 0 "").x509 withoutHealth {}
          = .ok (agent', response, watchers) ∧
        (newAgent .nil 1).FullStateExact withoutHealth response := by
  obtain ⟨⟨agent', response, watchers⟩, h⟩ : ∃ result,
      (newAgent .nil 1).updateStatus (Env.quiet 0 "").x509 withoutHealth {} = .ok result :=
    ⟨_, rfl⟩
  exact ⟨agent', response, watchers, h,
    (fullStateExact_iff _ agent' _ _ response watchers h).mpr fun _ => Iff.rfl⟩

/-- After a restart of the server, an agent sends a heartbeat without its description. The server
has never seen the description and does not ask for it. -/
theorem description_not_requested :
    ¬ ∀ (id : UUID) (conn : Conn) (x509 : X509) (msgs : List AgentToServer) (agent : Agent),
      run enter (newAgent id conn) (msgs.map (.updateStatus x509)) = some agent →
      ∀ (msg : AgentToServer) (agent' : Agent) (response : ServerToAgent)
        (watchers : List ChanId),
        agent.updateStatus x509 msg {} = .ok (agent', response, watchers) →
          agent.FullStateExact msg response := by
  intro hall
  let heartbeat : AgentToServer := {
    instanceUid := UUID.nil.bytes
    capabilities := AgentCapabilities.reportsStatus }
  obtain ⟨⟨agent', response, watchers⟩, h⟩ : ∃ result,
      (newAgent .nil 1).updateStatus (Env.quiet 0 "").x509 heartbeat {} = .ok result :=
    ⟨_, rfl⟩
  have hexact := hall .nil 1 _ [] _ rfl heartbeat agent' response watchers h
  have hstale : (newAgent .nil 1).MayBeStale heartbeat := by
    rintro _ ⟨⟩
  have hasks := hexact.mpr ⟨hstale, Or.inl rfl⟩
  have hkept : ¬ heartbeat.Omits (capabilitiesInForce (newAgent .nil 1) heartbeat) := by decide
  exact hkept ((updateStatus_flags h).mp hasks).2

end Agent

end OtelHive.Opamp
