import OtelHive.Proofs.Opamp.RemoteConfig

/-!
# `OtelHive.Proofs.Opamp.StatusMerge`: the status after a sequence of reports

`UpdateStatus` stores the first report of an agent as its status and merges the later ones into
it. `status_of_run` says what each field is after any reports: the sequence number of the last
one, the latest description, health and config status that were set, and the capabilities of
the first one. `updateAgentDescription` takes over the sequence number and never the
capabilities, so the status is the merge by last writer exactly if the last report has the
capabilities of the first (`lastWriter_iff`).
-/

set_option autoImplicit false

namespace OtelHive.Opamp.Agent

open OtelHive.Lib

/-- The value of an optional field in the latest report that sets it. -/
def latest {α : Type} (field : AgentToServer → Option α) (msgs : List AgentToServer) : Option α :=
  msgs.reverse.findSome? field

/-- The last report comes first. -/
theorem latest_concat {α : Type} (field : AgentToServer → Option α) (msgs : List AgentToServer)
    (msg : AgentToServer) : latest field (msgs ++ [msg]) = (field msg <|> latest field msgs) := by
  unfold latest
  rw [List.reverse_concat, List.findSome?_cons]
  cases field msg <;> rfl

/-- The status of the agent is the merge of the reports by last writer, where `last` is the last
one. The capability checks read it. -/
structure LastWriter (agent : Agent) (msgs : List AgentToServer) (last : AgentToServer) : Prop where
  sequenceNum : agent.status.map (·.sequenceNum) = some last.sequenceNum
  capabilities : agent.status.map (·.capabilities) = some last.capabilities
  agentDescription : agent.status.map (·.agentDescription) = some (latest (·.agentDescription) msgs)
  health : agent.status.map (·.health) = some (latest (·.health) msgs)
  remoteConfigStatus :
    agent.status.map (·.remoteConfigStatus) = some (latest (·.remoteConfigStatus) msgs)
  checks : ∀ capability, agent.hasCapability capability = (last.capabilities &&& capability != 0)

/-- A report merges into the status. -/
theorem status_enter {agent agent' : Agent} {x509 : X509} {msg : AgentToServer}
    (h : agent.enter (.updateStatus x509 msg) = some agent') :
    agent'.status = some (mergeStatus agent.status msg) := by
  obtain ⟨response, watchers, hupdate⟩ := enter_updateStatus.mp h
  obtain ⟨⟨startedAt, effectiveConfig, rfl⟩, _⟩ := updateStatus_ok hupdate
  rfl

/-- The status of a new agent after any reports. -/
theorem status_of_run {id : UUID} {conn : Conn} {x509 : X509} {msgs : List AgentToServer}
    {agent : Agent} (hne : msgs ≠ [])
    (hrun : run enter (newAgent id conn) (msgs.map (.updateStatus x509)) = some agent) :
    ∃ status, agent.status = some status ∧
      status.sequenceNum = (msgs.getLast hne).sequenceNum ∧
      status.capabilities = (msgs.head hne).capabilities ∧
      status.agentDescription = latest (·.agentDescription) msgs ∧
      status.health = latest (·.health) msgs ∧
      status.remoteConfigStatus = latest (·.remoteConfigStatus) msgs := by
  -- From the end: the last report is merged into the status that the others left.
  induction msgs using List.reverseRecOn generalizing agent with
  | nil => exact absurd rfl hne
  | append_singleton before msg ih =>
    rw [List.map_append, run_append] at hrun
    obtain ⟨agent₀, hbefore, hlast⟩ := hrun
    obtain ⟨agent₁, hstep, hnil⟩ := run_cons_eq_some.mp hlast
    cases hnil
    refine ⟨_, status_enter hstep, ?_⟩
    simp only [List.getLast_append_singleton, latest_concat]
    by_cases hempty : before = []
    · subst hempty
      cases hbefore
      simp [newAgent, mergeStatus, latest]
    · obtain ⟨status, hstatus, _, hcapabilities, hdescription, hhealth, hconfig⟩ :=
        ih hempty hbefore
      rw [hstatus, List.head_append_of_ne_nil hempty]
      refine ⟨rfl, hcapabilities, ?_, ?_, ?_⟩
      · rw [← hdescription]
        rfl
      · rw [← hhealth]
        rfl
      · rw [← hconfig]
        rfl

/-- After any reports of a new agent, its status is their merge by last writer exactly if the
last report has the capabilities of the first one. -/
theorem lastWriter_iff (id : UUID) (conn : Conn) (x509 : X509) (msgs : List AgentToServer)
    (hne : msgs ≠ []) (agent : Agent)
    (hrun : run enter (newAgent id conn) (msgs.map (.updateStatus x509)) = some agent) :
    agent.LastWriter msgs (msgs.getLast hne) ↔
      (msgs.getLast hne).capabilities = (msgs.head hne).capabilities := by
  obtain ⟨status, hstatus, hsequence, hcapabilities, hdescription, hhealth, hconfig⟩ :=
    status_of_run hne hrun
  constructor
  · intro h
    have heq := h.capabilities
    rw [hstatus, Option.map_some, Option.some.injEq, hcapabilities] at heq
    exact heq.symm
  · intro heq
    rw [← heq] at hcapabilities
    refine ⟨?_, ?_, ?_, ?_, ?_, ?_⟩
    · rw [hstatus, Option.map_some, hsequence]
    · rw [hstatus, Option.map_some, hcapabilities]
    · rw [hstatus, Option.map_some, hdescription]
    · rw [hstatus, Option.map_some, hhealth]
    · rw [hstatus, Option.map_some, hconfig]
    · intro capability
      unfold hasCapability
      rw [hstatus]
      dsimp only
      rw [hcapabilities]

/-- A report of the agent `UUID.nil` with the capabilities. -/
def capabilityReport (capabilities : UInt64) : AgentToServer where
  instanceUid := UUID.nil.bytes
  capabilities

/-- Two reports with the same capabilities. -/
theorem lastWriter_same_capabilities :
    ∃ agent, run enter (newAgent .nil 1)
        ([capabilityReport 1, capabilityReport 1].map (.updateStatus (Env.quiet 0 "").x509))
          = some agent ∧
      agent.LastWriter [capabilityReport 1, capabilityReport 1] (capabilityReport 1) := by
  have hsome : (run enter (newAgent .nil 1)
      ([capabilityReport 1, capabilityReport 1].map
        (.updateStatus (Env.quiet 0 "").x509))).isSome := by decide +kernel
  obtain ⟨agent, hrun⟩ := Option.isSome_iff_exists.mp hsome
  exact ⟨agent, hrun, (lastWriter_iff .nil 1 _ [capabilityReport 1, capabilityReport 1]
    (List.cons_ne_nil _ _) agent hrun).mpr rfl⟩

/-- The second report adds the capability to accept remote config, and the status keeps the
capabilities of the first one. -/
theorem capabilities_of_first_report :
    ¬ ∀ (id : UUID) (conn : Conn) (x509 : X509) (msgs : List AgentToServer) (hne : msgs ≠ [])
      (agent : Agent), run enter (newAgent id conn) (msgs.map (.updateStatus x509)) = some agent →
        agent.LastWriter msgs (msgs.getLast hne) := by
  intro hall
  have hend : (run enter (newAgent .nil 1)
      ([capabilityReport 1, capabilityReport 3].map
        (.updateStatus (Env.quiet 0 "").x509))).map (fun agent => agent.status.map (·.capabilities))
      = some (some 1) := by decide +kernel
  obtain ⟨agent, hrun, hcapabilities⟩ := Option.map_eq_some_iff.mp hend
  have h := (hall .nil 1 _ [capabilityReport 1, capabilityReport 3] (List.cons_ne_nil _ _)
    agent hrun).capabilities
  rw [hcapabilities] at h
  exact absurd h (by decide)

end OtelHive.Opamp.Agent
