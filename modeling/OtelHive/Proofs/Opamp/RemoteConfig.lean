import OtelHive.Lib.Lists
import OtelHive.Lib.Runs
import OtelHive.Opamp.Sections
import OtelHive.Proofs.Opamp.Concurrent
import OtelHive.Proofs.Opamp.Panics

/-!
# `OtelHive.Proofs.Opamp.RemoteConfig`: the remote config and when it is sent

`remoteConfig` and `customInstanceConfig` of an agent are written by three calls, and the
status by a fourth section. `Matches` ties them together in every state that any interleaving
of their sections reaches (`matches_of_run`): an agent that has reported has a remote config,
and the remote config is the single file of the custom config with its digest.

So a recalculation for a changed description finds no difference, and only the config status
decides about a response: `updateStatus_remoteConfig` gives the config that a report is
answered with. `Current` says that the config status in force names the current digest. It
stays while the custom config stays and no report names another digest
(`resend_rule`).

`reachable_heap` connects the sections to the goroutines of `Opamp.Concurrent`: every agent
there is reached by sections, whatever the schedule.
-/

set_option autoImplicit false

namespace OtelHive.Opamp

open OtelHive.Lib

namespace Agent

/-! ### The comparison of the hashes -/

/-- The config status in force after a report. -/
def statusInForce (agent : Agent) (msg : AgentToServer) : Option RemoteConfigStatus :=
  msg.remoteConfigStatus <|> agent.status.bind (·.remoteConfigStatus)

/-- The merged status holds the config status in force. -/
theorem mergeStatus_remoteConfigStatus (agent : Agent) (msg : AgentToServer) :
    (mergeStatus agent.status msg).remoteConfigStatus = agent.statusInForce msg := by
  unfold statusInForce
  cases agent.status with
  | none => cases hmsg : msg.remoteConfigStatus <;> simp [mergeStatus, hmsg]
  | some prev => rfl

/-- The agent at the comparison of the hashes in `processStatusUpdate`: the report is merged,
and the config is recalculated if the description changed. -/
def atComparison (agent : Agent) (msg : AgentToServer) : Agent :=
  let (agent, agentDescrChanged) := agent.updateStatusField msg
  if agentDescrChanged then agent.calcRemoteConfig.1 else agent

/-- The agent at the comparison, from what `updateStatusField` does. -/
theorem atComparison_eq {agent : Agent} {msg : AgentToServer} {startedAt : Option Int}
    (hfield : agent.updateStatusField msg
      = ({ agent with status := some (mergeStatus agent.status msg), startedAt },
          descrChanged agent.status msg)) :
    agent.atComparison msg = { agent with
      status := some (mergeStatus agent.status msg)
      startedAt
      remoteConfig := agent.reportedRemoteConfig msg } := by
  unfold atComparison reportedRemoteConfig
  rw [hfield]
  cases descrChanged agent.status msg <;> rfl

/-- The comparison of an agent with a remote config. -/
theorem shouldSendConfig_eq {agent : Agent} {cfg : AgentRemoteConfig}
    (hcfg : agent.remoteConfig = some cfg) (configChanged : Bool) :
    agent.shouldSendConfig configChanged
      = .ok (configChanged || (agent.status.bind (·.remoteConfigStatus)).any
          (·.lastRemoteConfigHash != cfg.configHash)) := by
  unfold shouldSendConfig remoteConfigDiffers
  rw [hcfg]
  cases configChanged with
  | true => rfl
  | false => cases agent.status.bind (·.remoteConfigStatus) <;> rfl

/-- `processStatusUpdate` compares the hashes on `atComparison`. The response carries the
remote config when the report changed it or the comparison says so. -/
theorem processStatusUpdate_remoteConfig {agent agent' : Agent} {msg : AgentToServer}
    {response response' : ServerToAgent}
    (h : agent.processStatusUpdate msg response = .ok (agent', response')) :
    ∃ send, (agent.atComparison msg).shouldSendConfig (agent.reportChangesConfig msg) = .ok send ∧
      response'.remoteConfig
        = if send then agent.reportedRemoteConfig msg else response.remoteConfig := by
  obtain ⟨startedAt, hfield⟩ := updateStatusField_eq agent msg
  unfold processStatusUpdate at h
  rw [hfield] at h
  dsimp only at h
  rw [calc_after_report] at h
  dsimp only at h
  obtain ⟨send, hsend, h⟩ := bind_eq_ok h
  obtain ⟨agent₂, heffective, h⟩ := bind_eq_ok h
  cases h
  refine ⟨send, ?_, ?_⟩
  · rw [atComparison_eq hfield]
    exact hsend
  · -- The flags of the response change before, and they are another field.
    cases send
    · show (if _ then _ else response).remoteConfig = response.remoteConfig
      split <;> rfl
    · obtain ⟨effectiveConfig, rfl⟩ := updateEffectiveConfig_ok heffective
      rfl

/-! ### The invariant -/

/-- The remote config of the agent matches its custom config:

- `configured`: an agent that has reported has a remote config;
- `file`: its only file has the empty name and the custom config as its body;
- `hash`: its hash is the SHA-256 of that body;
- `comparison`: whatever report comes next, the comparison of the hashes returns, and it
  compares with that SHA-256. -/
structure Matches (agent : Agent) : Prop where
  configured : agent.status ≠ none → agent.remoteConfig ≠ none
  file : ∀ cfg, agent.remoteConfig = some cfg → ∃ config, cfg.config = some config ∧
    config.configMap.toList = [("", { body := agent.customInstanceConfig })]
  hash : ∀ cfg, agent.remoteConfig = some cfg → cfg.configHash = sha256 agent.customInstanceConfig
  comparison : ∀ msg, (agent.atComparison msg).remoteConfigDiffers
    = .ok ((agent.statusInForce msg).any
        (·.lastRemoteConfigHash != sha256 agent.customInstanceConfig))

/-- The remote config after a report of an agent that satisfies the invariant. -/
theorem Synced.reportedRemoteConfig {agent : Agent} (hsynced : agent.Synced)
    (hconfigured : agent.Configured) (msg : AgentToServer) :
    agent.reportedRemoteConfig msg = some (remoteConfigOf agent.customInstanceConfig) := by
  obtain ⟨cfg, hcfg⟩ := Option.isSome_iff_exists.mp (isSome_reportedRemoteConfig hconfigured msg)
  rw [hcfg]
  unfold Agent.reportedRemoteConfig at hcfg
  split at hcfg
  · exact hcfg.symm
  · rw [hsynced cfg hcfg]

/-- A synced agent that has a remote config once it has reported satisfies the invariant. -/
theorem Synced.matches {agent : Agent} (hsynced : agent.Synced)
    (hconfigured : agent.Configured) : agent.Matches where
  configured := by
    intro hstatus
    rw [← Option.isSome_iff_ne_none]
    exact hconfigured (Option.isSome_iff_ne_none.mpr hstatus)
  file := by
    intro cfg hcfg
    rw [hsynced cfg hcfg]
    exact ⟨_, rfl, toList_singleFile agent.customInstanceConfig⟩
  hash := by
    intro cfg hcfg
    rw [hsynced cfg hcfg]
    exact configHash_remoteConfigOf agent.customInstanceConfig
  comparison := by
    intro msg
    obtain ⟨startedAt, hfield⟩ := updateStatusField_eq agent msg
    rw [atComparison_eq hfield, hsynced.reportedRemoteConfig hconfigured msg]
    have heq := @shouldSendConfig_eq { agent with
      status := some (mergeStatus agent.status msg)
      startedAt
      remoteConfig := some (remoteConfigOf agent.customInstanceConfig) } _ rfl false
    rw [configHash_remoteConfigOf, Option.bind_some, mergeStatus_remoteConfigStatus] at heq
    exact heq

/-- A status report is a step when it does not panic. -/
theorem enter_updateStatus {agent agent' : Agent} {x509 : X509} {msg : AgentToServer} :
    agent.enter (.updateStatus x509 msg) = some agent' ↔
      ∃ response watchers, agent.updateStatus x509 msg {} = .ok (agent', response, watchers) := by
  simp only [enter]
  cases hupdate : agent.updateStatus x509 msg {} with
  | error err => simp
  | ok result =>
    obtain ⟨agent₁, response, watchers⟩ := result
    simp

/-- Every section keeps the remote config in step with the custom config. -/
theorem Synced.enter {agent agent' : Agent} (hsynced : agent.Synced) {sec : Section}
    (h : agent.enter sec = some agent') : agent'.Synced := by
  cases sec with
  | setGroup desc =>
    cases h
    exact hsynced
  | setInitialConfig config =>
    cases h
    rw [setInitialConfig_eq]
    cases config with
    | none => exact hsynced
    | some body =>
      rintro _ ⟨⟩
      rfl
  | updateStatus x509 msg =>
    obtain ⟨response, watchers, hupdate⟩ := enter_updateStatus.mp h
    exact hsynced.updateStatus hupdate
  | setCustomConfig config notify =>
    cases h
    obtain ⟨watchers, hset⟩ := setCustomConfig_file agent config notify
    rw [hset]
    rintro _ ⟨⟩
    rfl
  | setGroupID groupID =>
    cases h
    exact hsynced

/-- Every section keeps an agent that has reported configured. The first report calculates the
remote config, as it counts as a change of the description. -/
theorem Configured.enter {agent agent' : Agent} (hconfigured : agent.Configured) {sec : Section}
    (h : agent.enter sec = some agent') : agent'.Configured := by
  cases sec with
  | setGroup desc =>
    cases h
    exact hconfigured
  | setInitialConfig config =>
    cases h
    rw [setInitialConfig_eq]
    cases config with
    | none => exact hconfigured
    | some body => exact fun _ => rfl
  | updateStatus x509 msg =>
    obtain ⟨response, watchers, hupdate⟩ := enter_updateStatus.mp h
    obtain ⟨⟨startedAt, effectiveConfig, rfl⟩, _⟩ := updateStatus_ok hupdate
    exact fun _ => isSome_reportedRemoteConfig hconfigured msg
  | setCustomConfig config notify =>
    cases h
    obtain ⟨watchers, hset⟩ := setCustomConfig_file agent config notify
    rw [hset]
    exact fun _ => rfl
  | setGroupID groupID =>
    cases h
    exact hconfigured

/-- The agent is reached from a new one by sections. -/
def Reachable (agent : Agent) : Prop :=
  ∃ id conn sections, run enter (newAgent id conn) sections = some agent

/-- A reachable agent stays reachable. -/
theorem Reachable.run {agent agent' : Agent} (h : agent.Reachable) {sections : List Section}
    (hrun : Lib.run Agent.enter agent sections = some agent') : agent'.Reachable := by
  obtain ⟨id, conn, before, hbefore⟩ := h
  exact ⟨id, conn, before ++ sections, run_append.mpr ⟨agent, hbefore, hrun⟩⟩

/-- Any sections, in any order, keep both invariants. -/
theorem Reachable.invariant {agent : Agent} (h : agent.Reachable) :
    agent.Synced ∧ agent.Configured := by
  obtain ⟨id, conn, sections, hrun⟩ := h
  refine run_invariant (fun agent => agent.Synced ∧ agent.Configured) ?_
    ⟨synced_newAgent id conn, configured_newAgent id conn⟩ hrun
  intro agent sec agent' hinv hstep
  exact ⟨hinv.1.enter hstep, hinv.2.enter hstep⟩

/-- In every state that sections reach from a new agent, the remote config matches the custom
config. -/
theorem matches_of_run (id : UUID) (conn : Conn) (sections : List Section) (agent : Agent)
    (hrun : run enter (newAgent id conn) sections = some agent) : agent.Matches := by
  obtain ⟨hsynced, hconfigured⟩ := Reachable.invariant ⟨id, conn, sections, hrun⟩
  exact hsynced.matches hconfigured

/-- A push on a new agent, and then its first report. -/
theorem matches_of_run_push_report :
    ∃ agent, run enter (newAgent .nil 1) [.setCustomConfig (.single [1]) none,
        .updateStatus (Env.quiet 0 "").x509 { instanceUid := UUID.nil.bytes }] = some agent ∧
      agent.Matches := by
  obtain ⟨agent, hrun⟩ := Option.isSome_iff_exists.mp (show (run enter (newAgent .nil 1)
    [.setCustomConfig (.single [1]) none,
      .updateStatus (Env.quiet 0 "").x509 { instanceUid := UUID.nil.bytes }]).isSome from by
        decide +kernel)
  exact ⟨agent, hrun, matches_of_run _ _ _ agent hrun⟩

/-! ### When a config is sent -/

/-- The config status in force after the report names another hash than that of the custom
config. -/
def StatusDiffers (agent : Agent) (msg : AgentToServer) : Prop :=
  ∃ rcs, agent.statusInForce msg = some rcs ∧
    rcs.lastRemoteConfigHash ≠ sha256 agent.customInstanceConfig

theorem statusDiffers_iff (agent : Agent) (msg : AgentToServer) :
    (agent.statusInForce msg).any (·.lastRemoteConfigHash != sha256 agent.customInstanceConfig)
      = true ↔ agent.StatusDiffers msg := by
  simp [StatusDiffers, Option.any_eq_true]

instance (agent : Agent) (msg : AgentToServer) : Decidable (agent.StatusDiffers msg) :=
  decidable_of_iff _ (agent.statusDiffers_iff msg)

/-- The remote config in the response of `UpdateStatus`. -/
theorem updateStatus_remoteConfig {agent agent' : Agent} (hsynced : agent.Synced)
    (hconfigured : agent.Configured) {x509 : X509} {msg : AgentToServer}
    {response : ServerToAgent} {watchers : List ChanId}
    (h : agent.updateStatus x509 msg {} = .ok (agent', response, watchers)) :
    response.remoteConfig
      = if agent.reportChangesConfig msg || (agent.statusInForce msg).any
          (·.lastRemoteConfigHash != sha256 agent.customInstanceConfig)
        then some (remoteConfigOf agent.customInstanceConfig) else none := by
  unfold updateStatus at h
  obtain ⟨⟨agent₁, response₁⟩, hprocess, h⟩ := bind_eq_ok h
  obtain ⟨response₂, hsettings, h⟩ := bind_eq_ok h
  cases h
  rw [(answerConnectionSettings_frame hsettings).1]
  obtain ⟨send, hsend, hresponse⟩ := processStatusUpdate_remoteConfig hprocess
  obtain ⟨startedAt, hfield⟩ := updateStatusField_eq agent msg
  have hremote := hsynced.reportedRemoteConfig hconfigured msg
  have heq := @shouldSendConfig_eq (agent.atComparison msg)
    (remoteConfigOf agent.customInstanceConfig) (by rw [atComparison_eq hfield]; exact hremote)
    (agent.reportChangesConfig msg)
  have hstatus : (agent.atComparison msg).status.bind (·.remoteConfigStatus)
      = agent.statusInForce msg := by
    rw [atComparison_eq hfield, Option.bind_some, mergeStatus_remoteConfigStatus]
  rw [hstatus, configHash_remoteConfigOf, hsend] at heq
  cases heq
  rw [hresponse, hremote]

/-- A report changes the remote config exactly when the agent has none yet. -/
theorem reportChangesConfig_iff {agent : Agent} (hsynced : agent.Synced)
    (hconfigured : agent.Configured) (msg : AgentToServer) :
    agent.reportChangesConfig msg = true ↔ agent.remoteConfig = none := by
  unfold reportChangesConfig
  cases hremote : agent.remoteConfig with
  | none =>
    -- Without a remote config there is no status, so this is the first report.
    have hstatus : agent.status = none := by
      rw [← Option.not_isSome_iff_eq_none]
      intro hsome
      have hconfig := hconfigured hsome
      rw [hremote] at hconfig
      cases hconfig
    simp [hstatus, descrChanged, isEqualRemoteConfig]
  | some cfg =>
    rw [hsynced cfg hremote, isEqualRemoteConfig_remoteConfigOf, beq_self_eq_true]
    simp

/-- A recalculation finds no difference once the agent has reported. -/
theorem reportChangesConfig_of_status {agent : Agent} (hsynced : agent.Synced)
    (hconfigured : agent.Configured) (hstatus : agent.status ≠ none) (msg : AgentToServer) :
    agent.reportChangesConfig msg = false := by
  have hremote := hconfigured (Option.isSome_iff_ne_none.mpr hstatus)
  rw [Bool.eq_false_iff]
  intro hchanges
  rw [(reportChangesConfig_iff hsynced hconfigured msg).mp hchanges] at hremote
  cases hremote

/-- Once the agent has reported, the config status in force alone decides about the response. -/
theorem updateStatus_remoteConfig_iff {agent agent' : Agent} (hsynced : agent.Synced)
    (hconfigured : agent.Configured) (hstatus : agent.status ≠ none) {x509 : X509}
    {msg : AgentToServer} {response : ServerToAgent} {watchers : List ChanId}
    (h : agent.updateStatus x509 msg {} = .ok (agent', response, watchers)) :
    (response.remoteConfig.isSome ↔ agent.StatusDiffers msg) ∧
      ∀ cfg, response.remoteConfig = some cfg →
        cfg = remoteConfigOf agent.customInstanceConfig := by
  have hresponse := updateStatus_remoteConfig hsynced hconfigured h
  rw [reportChangesConfig_of_status hsynced hconfigured hstatus, Bool.false_or] at hresponse
  have hdiffers := agent.statusDiffers_iff msg
  by_cases hdiff : agent.StatusDiffers msg
  · rw [if_pos (hdiffers.mpr hdiff)] at hresponse
    rw [hresponse]
    refine ⟨⟨fun _ => hdiff, fun _ => rfl⟩, ?_⟩
    rintro _ ⟨⟩
    rfl
  · rw [if_neg (fun h => hdiff (hdiffers.mp h))] at hresponse
    rw [hresponse]
    refine ⟨⟨?_, fun h => absurd h hdiff⟩, ?_⟩
    · intro h
      cases h
    · intro cfg h
      cases h

/-! ### Quiescence -/

/-- A report that names a hash names this one. The other sections report nothing. -/
def Section.Confirms (hash : Bytes) : Section → Prop
  | .updateStatus _ msg =>
    ∀ rcs, msg.remoteConfigStatus = some rcs → rcs.lastRemoteConfigHash = hash
  | _ => True

/-- `UpdateStatus` does not answer the report with a remote config. -/
def AnswersNothing (agent : Agent) (x509 : X509) (msg : AgentToServer) : Prop :=
  ∀ agent' response watchers, agent.updateStatus x509 msg {} = .ok (agent', response, watchers) →
    response.remoteConfig = none

/-- The agent has last reported the hash `hash`. -/
def Reported (hash : Bytes) (agent : Agent) : Prop :=
  ∃ rcs, agent.status.bind (·.remoteConfigStatus) = some rcs ∧ rcs.lastRemoteConfigHash = hash

/-- A report that names this hash or none leaves the hash in force. -/
theorem Reported.statusInForce {hash : Bytes} {agent : Agent} (h : agent.Reported hash)
    {msg : AgentToServer}
    (hconfirms : ∀ rcs, msg.remoteConfigStatus = some rcs → rcs.lastRemoteConfigHash = hash) :
    ∃ rcs, agent.statusInForce msg = some rcs ∧ rcs.lastRemoteConfigHash = hash := by
  unfold Agent.statusInForce
  cases hmsg : msg.remoteConfigStatus with
  | some rcs => exact ⟨rcs, rfl, hconfirms rcs hmsg⟩
  | none => exact h

/-- The hash that the agent has last reported stays while no report names another one. -/
theorem Reported.enter {hash : Bytes} {agent agent' : Agent} (h : agent.Reported hash)
    {sec : Section} (hconfirms : sec.Confirms hash) (hstep : agent.enter sec = some agent') :
    agent'.Reported hash := by
  cases sec with
  | setGroup desc =>
    cases hstep
    exact h
  | setInitialConfig config =>
    cases hstep
    rw [setInitialConfig_eq]
    cases config <;> exact h
  | updateStatus x509 msg =>
    obtain ⟨response, watchers, hupdate⟩ := enter_updateStatus.mp hstep
    obtain ⟨⟨startedAt, effectiveConfig, rfl⟩, _⟩ := updateStatus_ok hupdate
    obtain ⟨rcs, hrcs, hhash⟩ := h.statusInForce hconfirms
    refine ⟨rcs, ?_, hhash⟩
    rw [Option.bind_some, mergeStatus_remoteConfigStatus, hrcs]
  | setCustomConfig config notify =>
    cases hstep
    obtain ⟨watchers, hset⟩ := setCustomConfig_file agent config notify
    rw [hset]
    exact h
  | setGroupID groupID =>
    cases hstep
    exact h

/-- A run whose reports name this hash or none keeps it. -/
theorem Reported.run {hash : Bytes} {agent agent' : Agent} (h : agent.Reported hash)
    {sections : List Section} (hconfirms : ∀ sec ∈ sections, sec.Confirms hash)
    (hrun : Lib.run Agent.enter agent sections = some agent') : agent'.Reported hash := by
  refine run_invariant_of_stepsMeet (Reported hash) (C := fun _ sec => sec.Confirms hash) ?_ h
    (stepsMeet_of_forall hconfirms agent) hrun
  intro agent sec agent' h hconfirms hstep
  exact h.enter hconfirms hstep

/-- An agent that has reported the hash of its custom config gets no config for a report that
names this hash or none. -/
theorem Reported.answersNothing {agent : Agent} (hinv : agent.Synced ∧ agent.Configured)
    (h : agent.Reported (sha256 agent.customInstanceConfig)) {x509 : X509} {msg : AgentToServer}
    (hconfirms : ∀ rcs, msg.remoteConfigStatus = some rcs →
      rcs.lastRemoteConfigHash = sha256 agent.customInstanceConfig) :
    agent.AnswersNothing x509 msg := by
  intro agent' response watchers hupdate
  have hstatus : agent.status ≠ none := by
    obtain ⟨rcs, hrcs, _⟩ := h
    intro hnone
    rw [hnone] at hrcs
    cases hrcs
  have hiff := (updateStatus_remoteConfig_iff hinv.1 hinv.2 hstatus hupdate).1
  obtain ⟨rcs, hrcs, hhash⟩ := h.statusInForce hconfirms
  have hsame : ¬ agent.StatusDiffers msg := by
    rintro ⟨rcs', hrcs', hne⟩
    rw [hrcs] at hrcs'
    cases hrcs'
    exact hne hhash
  rw [← Option.not_isSome_iff_eq_none]
  exact fun hsome => hsame (hiff.mp hsome)

/-- The resend rule, for an agent that sections reach and that has reported. A report that does
not panic is answered with a remote config exactly when the config status in force names another
hash than that of the custom config, and its body is the custom config. Once the agent has
reported the hash of the custom config, no report is answered with a config, until the custom
config changes or a report names another hash. -/
theorem resend_rule (id : UUID) (conn : Conn) (sections : List Section) (agent : Agent)
    (hrun : run enter (newAgent id conn) sections = some agent) (hstatus : agent.status ≠ none) :
    (∀ x509 msg agent' response watchers,
      agent.updateStatus x509 msg {} = .ok (agent', response, watchers) →
        (response.remoteConfig.isSome ↔ agent.StatusDiffers msg) ∧
          ∀ cfg, response.remoteConfig = some cfg →
            cfg.onlyBody = some agent.customInstanceConfig) ∧
    (agent.Reported (sha256 agent.customInstanceConfig) → ∀ more x509 msg agent',
      (∀ sec ∈ more ++ [.updateStatus x509 msg],
        sec.Confirms (sha256 agent.customInstanceConfig)) →
      run enter agent more = some agent' →
      agent'.customInstanceConfig = agent.customInstanceConfig →
        agent'.AnswersNothing x509 msg) := by
  have hreachable : agent.Reachable := ⟨id, conn, sections, hrun⟩
  have hinv := hreachable.invariant
  refine ⟨?_, ?_⟩
  · intro x509 msg agent' response watchers hupdate
    obtain ⟨hiff, hcfg⟩ := updateStatus_remoteConfig_iff hinv.1 hinv.2 hstatus hupdate
    refine ⟨hiff, ?_⟩
    intro cfg hsome
    rw [hcfg cfg hsome, onlyBody_remoteConfigOf]
  · intro hreported more x509 msg agent' hconfirms hmore hcustom
    have hreported' : agent'.Reported (sha256 agent'.customInstanceConfig) := by
      rw [hcustom]
      exact hreported.run (fun sec hsec => hconfirms sec (List.mem_append_left _ hsec)) hmore
    refine hreported'.answersNothing (hreachable.run hmore).invariant ?_
    rw [hcustom]
    exact hconfirms _ (List.mem_append_right _ List.mem_cons_self)

/-- A first report that names the hash `hash`. -/
def hashReport (hash : Bytes) : AgentToServer where
  instanceUid := UUID.nil.bytes
  remoteConfigStatus := some { lastRemoteConfigHash := hash }

/-- The agent after a first report that names the hash of the empty config. -/
theorem run_hashReport :
    ∃ agent, run enter (newAgent .nil 1)
        [.updateStatus (Env.quiet 0 "").x509 (hashReport (sha256 []))] = some agent ∧
      agent.status ≠ none ∧ agent.customInstanceConfig = [] ∧ agent.Reported (sha256 []) := by
  have hend : (run enter (newAgent .nil 1)
      [.updateStatus (Env.quiet 0 "").x509 (hashReport (sha256 []))]).map (fun agent =>
        (agent.customInstanceConfig, agent.status.bind (·.remoteConfigStatus)))
      = some ([], some { lastRemoteConfigHash := sha256 [] }) := by decide +kernel
  obtain ⟨agent, hrun, hfields⟩ := Option.map_eq_some_iff.mp hend
  simp only [Prod.mk.injEq] at hfields
  refine ⟨agent, hrun, ?_, hfields.1, _, hfields.2, rfl⟩
  intro hnone
  rw [hnone] at hfields
  cases hfields.2

/-- After that report, a report of the same hash is answered without a config. -/
theorem resend_rule_hashReport :
    ∃ agent, run enter (newAgent .nil 1)
        [.updateStatus (Env.quiet 0 "").x509 (hashReport (sha256 []))] = some agent ∧
      agent.AnswersNothing (Env.quiet 0 "").x509 (hashReport (sha256 [])) := by
  obtain ⟨agent, hrun, hstatus, hcustom, hreported⟩ := run_hashReport
  have hrule := (resend_rule .nil 1 _ agent hrun hstatus).2
  rw [hcustom] at hrule
  refine ⟨agent, hrun, hrule hreported [] _ _ agent ?_ rfl hcustom⟩
  intro sec hsec
  rw [List.mem_singleton.mp hsec]
  rintro rcs ⟨⟩
  rfl

/-- The custom config stays the same, and still a config is sent: the agent reports the current
hash and then another one. -/
theorem resent_for_other_hash :
    ¬ ∀ (id : UUID) (conn : Conn) (sections more : List Section) (agent agent' : Agent)
      (x509 : X509) (msg : AgentToServer), run enter (newAgent id conn) sections = some agent →
      agent.Reported (sha256 agent.customInstanceConfig) → run enter agent more = some agent' →
      Along enter (fun a => a.customInstanceConfig = agent.customInstanceConfig) agent more →
        agent'.AnswersNothing x509 msg := by
  intro hall
  obtain ⟨agent, hrun, hstatus, hcustom, hreported⟩ := run_hashReport
  have hquiet := hall .nil 1 _ [] agent agent (Env.quiet 0 "").x509 (hashReport []) hrun
    (by rw [hcustom]; exact hreported) rfl rfl
  have hinv := Reachable.invariant ⟨_, _, _, hrun⟩
  -- The report is safe, so there is a response.
  obtain ⟨⟨agent', response, watchers⟩, hupdate⟩ := (updateStatus_ok_iff hinv.2
    (Env.quiet 0 "").x509 (hashReport []) {}).mpr ⟨by decide, fun _ h => by cases h⟩
  have hsome := (updateStatus_remoteConfig_iff hinv.1 hinv.2 hstatus hupdate).1.mpr
    ⟨_, rfl, by rw [hcustom]; decide +kernel⟩
  rw [hquiet _ _ _ hupdate] at hsome
  cases hsome

end Agent

/-! ### The goroutines -/

/-- What a report does to the agent does not depend on the response it fills. -/
theorem Agent.enter_of_updateStatus {agent agent' : Agent} {x509 : X509} {msg : AgentToServer}
    {response response' : ServerToAgent} {watchers : List ChanId}
    (h : agent.updateStatus x509 msg response = .ok (agent', response', watchers)) :
    agent.enter (.updateStatus x509 msg) = some agent' := by
  unfold Agent.updateStatus at h
  obtain ⟨⟨agent₁, response₁⟩, hprocess, h⟩ := bind_eq_ok h
  obtain ⟨response₂, hsettings, h⟩ := bind_eq_ok h
  cases h
  -- The same steps fill the empty response.
  obtain ⟨empty₁, hprocess'⟩ :
      ∃ empty₁, agent.processStatusUpdate msg {} = .ok (agent₁, empty₁) := by
    unfold Agent.processStatusUpdate at hprocess ⊢
    obtain ⟨send, hsend, hprocess⟩ := bind_eq_ok hprocess
    obtain ⟨agent₂, heffective, hprocess⟩ := bind_eq_ok hprocess
    cases hprocess
    exact ⟨_, bind_ok hsend (bind_ok heffective rfl)⟩
  obtain ⟨empty₂, hsettings'⟩ := (Agent.answerConnectionSettings_ok_iff x509 msg empty₁).mpr
    ((Agent.answerConnectionSettings_ok_iff x509 msg response₁).mp ⟨_, hsettings⟩)
  exact Agent.enter_updateStatus.mpr ⟨_, _, bind_ok hprocess' (bind_ok hsettings' rfl)⟩

namespace Concurrent

/-- What a step of the goroutines does to the heap: its section changes one agent, or it has none
and adds a new agent at most. -/
theorem System.heap_sectionOf {sys sys' : System} {e : Event} (h : sys.step e = some sys') :
    (sys.sectionOf e = none ∧
      (sys'.heap = sys.heap ∨ ∃ id conn, sys'.heap = sys.heap ++ [newAgent id conn])) ∨
    ∃ (ref : Ref) (sec : Agent.Section) (agent agent' : Agent),
      sys.sectionOf e = some (ref, sec) ∧ sys.heap[ref]? = some agent ∧
        agent.enter sec = some agent' ∧ sys'.heap = sys.heap.set ref agent' := by
  cases e with
  | message env conn msg =>
    obtain ⟨instanceId, -, ⟨ref, -, rfl⟩ | ⟨-, connections, rfl⟩⟩ := System.onMessage_inv h
    · exact .inl ⟨rfl, .inl rfl⟩
    · exact .inl ⟨rfl, .inr ⟨_, _, rfl⟩⟩
  | handle i =>
    obtain ⟨handler, agent, hhandler, hagent, hhandled⟩ := System.handle_inv h
    cases hhandled with
    | noDescription hstage hdesc =>
      exact .inl ⟨by simp [sectionOf, hhandler, hagent, hstage, hdesc], .inl rfl⟩
    | setGroup desc hstage hdesc =>
      refine .inr ⟨handler.agent, .setGroup desc, _, _, ?_, hagent, rfl, rfl⟩
      simp [sectionOf, hhandler, hagent, hstage, hdesc]
    | findInitialConfig groupChanged hstage =>
      exact .inl ⟨by simp [sectionOf, hhandler, hagent, hstage], .inl rfl⟩
    | setInitialConfig config hstage =>
      refine .inr ⟨handler.agent, .setInitialConfig config, _, _, ?_, hagent, rfl, rfl⟩
      simp [sectionOf, hhandler, hagent, hstage]
    | updateStatus agent' response watchers hstage hupdate =>
      refine .inr ⟨handler.agent, .updateStatus handler.env.x509 handler.msg, _, _, ?_, hagent,
        Agent.enter_of_updateStatus hupdate, rfl⟩
      simp [sectionOf, hhandler, hagent, hstage]
    | notify ch watchers hstage =>
      obtain ⟨tokens, heq, _⟩ := sys.notify_frame ch
      rw [heq]
      exact .inl ⟨by simp [sectionOf, hhandler, hagent, hstage], .inl rfl⟩
    | notified hstage =>
      exact .inl ⟨by simp [sectionOf, hhandler, hagent, hstage], .inl rfl⟩
    | persistAgent hstage =>
      obtain ⟨groupID, hpersist⟩ := persistAgent_fst_frame handler.env sys.store agent handler.msg
      refine .inr ⟨handler.agent,
        .setGroupID (persistAgent handler.env sys.store agent handler.msg).1.groupID, _,
        (persistAgent handler.env sys.store agent handler.msg).1, ?_, hagent, ?_, rfl⟩
      · simp [sectionOf, hhandler, hagent, hstage]
      · rw [hpersist]
        rfl
  | disconnect env conn =>
    cases h
    exact .inl ⟨rfl, .inl rfl⟩
  | sendConfigToAgent agentId configContent =>
    cases h
    exact .inl ⟨rfl, .inl rfl⟩
  | advance ch =>
    obtain ⟨call, hcall, hadvanced⟩ := System.advance_inv h
    cases hadvanced with
    | setCustomConfig ref agent stage hstage hagent =>
      refine .inr ⟨ref, .setCustomConfig (.single call.configContent) (some ch), _, _, ?_, hagent,
        rfl, rfl⟩
      simp [sectionOf, hcall, hstage]
    | notifyNow hstage =>
      obtain ⟨tokens, heq, _⟩ := sys.notify_frame ch
      rw [heq]
      exact .inl ⟨by simp [sectionOf, hcall, hstage], .inl rfl⟩
    | notFound hstage | refused _ _ hstage | found _ hstage | accepted _ _ hstage
    | select hstage => exact .inl ⟨by simp [sectionOf, hcall, hstage], .inl rfl⟩
  | sent ch err =>
    have hsent : sys.sent ch err = some sys' := h
    obtain ⟨_, _, _, _, _, rfl⟩ := System.sent_inv hsent
    exact .inl ⟨rfl, .inl rfl⟩
  | timeout ch =>
    obtain ⟨_, _, _, rfl⟩ := System.timeout_inv h
    exact .inl ⟨rfl, .inl rfl⟩
  | write store =>
    cases h
    exact .inl ⟨rfl, .inl rfl⟩

/-- What a step of the goroutines does to the heap: nothing, a new agent, or one section of one
agent. -/
theorem System.heap_step {sys sys' : System} {e : Event} (h : sys.step e = some sys') :
    sys'.heap = sys.heap ∨ (∃ id conn, sys'.heap = sys.heap ++ [newAgent id conn]) ∨
      ∃ (ref : Ref) (agent : Agent) (sec : Agent.Section) (agent' : Agent),
        sys.heap[ref]? = some agent ∧ agent.enter sec = some agent' ∧
          sys'.heap = sys.heap.set ref agent' := by
  rcases System.heap_sectionOf h with ⟨-, heap | heap⟩ | ⟨ref, sec, agent, agent', -, hstep⟩
  · exact .inl heap
  · exact .inr (.inl heap)
  · exact .inr (.inr ⟨ref, agent, sec, agent', hstep⟩)

/-- Every agent in the heap is reached by sections. -/
theorem System.reachable_step {sys sys' : System} {e : Event}
    (hreachable : ∀ agent ∈ sys.heap, agent.Reachable) (h : sys.step e = some sys') :
    ∀ agent ∈ sys'.heap, agent.Reachable := by
  intro agent hmem
  rcases System.heap_step h with
    heap | ⟨id, conn, heap⟩ | ⟨ref, agent₀, sec, agent', hget, hsec, heap⟩
  · rw [heap] at hmem
    exact hreachable agent hmem
  · rw [heap, List.mem_append, List.mem_singleton] at hmem
    rcases hmem with hmem | rfl
    · exact hreachable agent hmem
    · exact ⟨id, conn, [], rfl⟩
  · rw [heap] at hmem
    rcases List.mem_or_eq_of_mem_set hmem with hmem | rfl
    · exact hreachable agent hmem
    · have hrun : run Agent.enter agent₀ [sec] = some agent :=
        run_cons_eq_some.mpr ⟨agent, hsec, rfl⟩
      exact (hreachable agent₀ (List.mem_of_getElem? hget)).run hrun

/-- Whatever the schedule of the goroutines is, the remote config of every agent matches its
custom config. -/
theorem matches_of_schedule {store : Sqlite.Storage} {grpc http : String} {events : List Event}
    {sys : System} (hrun : run System.step (System.newSystem store grpc http) events = some sys) :
    ∀ agent ∈ sys.heap, agent.Matches := by
  have hreachable : ∀ agent ∈ sys.heap, agent.Reachable := by
    refine run_invariant (fun sys : System => ∀ agent ∈ sys.heap, agent.Reachable) ?_ ?_ hrun
    · intro sys e sys' h hstep
      exact System.reachable_step h hstep
    · intro agent hmem
      cases hmem
  intro agent hmem
  obtain ⟨hsynced, hconfigured⟩ := (hreachable agent hmem).invariant
  exact hsynced.matches hconfigured

end Concurrent

end OtelHive.Opamp
