import OtelHive.Api.Polling
import OtelHive.Proofs.Api.Fallback
import OtelHive.Proofs.Opamp.Server

/-!
# `OtelHive.Proofs.Api.Coverage`: which agents the poller covers

The poller looks for changed files, not for agents. When the commit is the one of the last
sync it stops, and a file whose SHA is cached is skipped for all agents. So an agent that
connects after the files were synced keeps the config that the OpAMP server resolved for it.

`Live.Covered` is the invariant that does hold: each agent whose config a push of the sync set
last has the content of a file that matches it. It holds in every state of every run
(`covered_run`), with the handlers of other agents and of the agent itself in any order.
`pushed_of_poll` says when a poll pushes to an agent.
-/

set_option autoImplicit false

namespace OtelHive.Opamp

open OtelHive.Sqlite (Storage)

/-! ### The rows keep their labels -/

/-- Each agent row is still there, with the labels it had. -/
def LabelsKept (s s' : Storage) : Prop :=
  ∀ row ∈ s.agents, ∃ row' ∈ s'.agents, row'.id = row.id ∧ row'.labels = row.labels

theorem LabelsKept.refl (s : Storage) : LabelsKept s s := fun row hrow => ⟨row, hrow, rfl, rfl⟩

theorem LabelsKept.trans {s₁ s₂ s₃ : Storage} (h₁ : LabelsKept s₁ s₂) (h₂ : LabelsKept s₂ s₃) :
    LabelsKept s₁ s₃ := by
  intro row hrow
  obtain ⟨row₂, hrow₂, hid₂, hlabels₂⟩ := h₁ row hrow
  obtain ⟨row₃, hrow₃, hid₃, hlabels₃⟩ := h₂ row₂ hrow₂
  exact ⟨row₃, hrow₃, hid₃.trans hid₂, hlabels₃.trans hlabels₂⟩

/-- A logged update of one row that keeps the labels, whether or not it succeeds. -/
theorem labelsKept_logged_updateAgent {env : Env} {op : StoreOp} {id : UUID}
    {f : Types.Agent → Types.Agent} (hf : KeepsOwner f) (s : Storage) :
    LabelsKept s (logged s (env.call op (s.updateAgent id f))) := by
  rcases logged_updateAgent_cases env op s id f with hlogged | hlogged
  · rw [hlogged]
    exact LabelsKept.refl s
  · rw [hlogged]
    intro row hrow
    refine ⟨_, List.mem_map_of_mem hrow, ?_⟩
    split
    · exact ⟨hf.id row, hf.labels row⟩
    · exact ⟨rfl, rfl⟩

/-- A logged insert keeps the rows that are there. -/
theorem labelsKept_logged_createAgent (env : Env) (s : Storage) (row : Types.Agent) :
    LabelsKept s (logged s (Services.createAgent env s row)) := by
  unfold logged Services.createAgent Env.call Storage.createAgent
  intro row₀ hrow₀
  split
  · rename_i s' h
    split at h
    · cases h
    · split at h
      · cases h
      · cases h
        exact ⟨row₀, List.mem_append_left _ hrow₀, rfl, rfl⟩
  · exact ⟨row₀, hrow₀, rfl, rfl⟩

/-- `persistAgent` keeps the labels of every row. -/
theorem labelsKept_persistAgent (env : Env) (s : Storage) (agent : Agent) (msg : AgentToServer) :
    LabelsKept s (persistAgent env s agent msg).2 := by
  unfold persistAgent
  split
  · refine @updateServiceAgent_keeps (LabelsKept s) env agent ?_ s (LabelsKept.refl s) msg
    intro op store f hf h
    exact h.trans (labelsKept_logged_updateAgent hf store)
  · obtain ⟨⟨groupID, hagent⟩, ⟨groups, hstore⟩⟩ := autoCreateGroup_frame env s agent
    dsimp only
    rw [hagent, hstore]
    have hgroups : LabelsKept s { s with groups } := LabelsKept.refl s
    exact hgroups.trans (labelsKept_logged_createAgent env _ _)

/-- A handler keeps the labels of every row. -/
theorem Server.labelsKept_step {srv srv' : Server} {e : Event} (h : step srv e = some srv') :
    LabelsKept srv.store srv'.store := by
  cases e with
  | message env conn msg =>
    simp only [step] at h
    split at h
    · rename_i response srv₁ hok
      cases h
      obtain ⟨_, agent, _, _, _, _, _, rfl⟩ := onMessage_ok hok
      exact labelsKept_persistAgent env srv.store agent msg
    · cases h
  | disconnect env conn =>
    cases h
    refine @onDisconnect_keeps (LabelsKept srv.store) env conn srv ?_ (LabelsKept.refl _)
    intro op store id f _ hf hstore
    exact hstore.trans (labelsKept_logged_updateAgent hf store)

/-! ### A message that resolves no config -/

namespace Agent

/-- Grouping without a config to set changes the group only. -/
theorem processAgentGrouping_of_unresolved {env : Env} {store : Storage} {agent : Agent}
    {msg : AgentToServer} (h : (agent.resolveGrouping env store msg).2 = none) :
    ∃ groupID groupName,
      agent.processAgentGrouping env store msg = { agent with groupID, groupName } := by
  cases hdesc : msg.agentDescription with
  | none => exact ⟨_, _, processAgentGrouping_of_none env store agent hdesc⟩
  | some desc =>
    refine ⟨some (extractGroupInfo desc).1, some (extractGroupInfo desc).2, ?_⟩
    unfold processAgentGrouping
    dsimp only
    rw [h, (resolveGrouping_some hdesc).1]
    rfl

/-- An agent that accepts remote config still does after a report. -/
theorem accepts_mergeStatus {agent agent' : Agent} {msg : AgentToServer}
    (hstatus : agent'.status = some (mergeStatus agent.status msg))
    (haccepts : agent.accepts = true) : agent'.accepts = true := by
  unfold accepts hasCapability at haccepts ⊢
  rw [hstatus]
  cases hprev : agent.status with
  | none =>
    rw [hprev] at haccepts
    cases haccepts
  | some prev =>
    rw [hprev] at haccepts
    exact haccepts

/-- A message that resolves no config keeps a config that was pushed. -/
theorem serverConfig_of_message {env : Env} {store : Storage} {agent agent' : Agent}
    {msg : AgentToServer} {x509 : X509} {response response' : ServerToAgent}
    {watchers : List ChanId} {content : Bytes}
    (hunresolved : (agent.resolveGrouping env store msg).2 = none)
    (hupdate : (agent.processAgentGrouping env store msg).updateStatus x509 msg response
      = .ok (agent', response', watchers))
    (haccepts : agent.accepts = true) (hconfig : agent.serverConfig = serverConfigOf content) :
    agent'.accepts = true ∧ agent'.serverConfig = serverConfigOf content := by
  obtain ⟨groupID, groupName, hgroup⟩ := processAgentGrouping_of_unresolved hunresolved
  obtain ⟨⟨startedAt, effectiveConfig, rfl⟩, _, _⟩ := updateStatus_ok hupdate
  rw [hgroup]
  refine ⟨accepts_mergeStatus rfl haccepts, ?_⟩
  obtain ⟨hcustom, hremote⟩ := Prod.mk.inj hconfig
  show (agent.customInstanceConfig, _) = _
  unfold reportedRemoteConfig
  dsimp only
  rw [hcustom, hremote]
  split <;> rfl

end Agent

end OtelHive.Opamp

namespace OtelHive.Api

open OtelHive.Lib
open OtelHive.Opamp
open OtelHive.Gitsync
open OtelHive.Sqlite (Storage)

/-! ### Matching rows -/

theorem reaches_iff {agents : List Types.Agent} {id : UUID} {rule : LabelRule} :
    reaches agents id rule = true ↔ ∃ row ∈ agents, rule.selects row = true ∧ row.id = id := by
  unfold reaches matchAgents
  rw [List.any_eq_true]
  constructor
  · rintro ⟨row, hrow, hid⟩
    obtain ⟨hmem, hselects⟩ := List.mem_filter.mp hrow
    exact ⟨row, hmem, hselects, by simpa using hid⟩
  · rintro ⟨row, hmem, hselects, hid⟩
    exact ⟨row, List.mem_filter.mpr ⟨hmem, hselects⟩, by simpa using hid⟩

/-- A rule matches an agent as long as the rows keep their labels. -/
theorem reaches_of_labelsKept {s s' : Storage} (h : LabelsKept s s') {id : UUID}
    {rule : LabelRule} (hreaches : reaches s.listAgents id rule = true) :
    reaches s'.listAgents id rule = true := by
  rw [reaches_iff] at hreaches ⊢
  obtain ⟨row, hrow, hselects, hid⟩ := hreaches
  obtain ⟨row', hrow', hid', hlabels⟩ := h row ((List.mem_insertionSort _).mp hrow)
  refine ⟨row', (List.mem_insertionSort _).mpr hrow', ?_, hid'.trans hid⟩
  unfold LabelRule.selects at hselects ⊢
  rw [hlabels]
  exact hselects

/-! ### The agents the git sync configured -/

/-- The agent is connected, accepts remote config, and has the content of a rule that matches
it. -/
def HoldsMatching (snap : Snapshot) (rules : List LabelRule) (s : State) (id : UUID) : Prop :=
  ∃ agent rule, s.sender.agents.findAgent id = some agent ∧ agent.accepts = true ∧
    rule ∈ rules ∧ reaches s.store.listAgents id rule = true ∧
    agent.serverConfig = serverConfigOf (snap.blob rule.filePath)

namespace Live

/-- Each agent whose config a push of the sync set last has the content of a rule that matches
it. -/
def Covered (snap : Snapshot) (rules : List LabelRule) (w : Live) : Prop :=
  ∀ id, w.pushed id = true → HoldsMatching snap rules w.process id

variable {snap : Snapshot} {rules : List LabelRule}

/-- A handler that does not replace the config of an agent keeps a config that was pushed. -/
theorem serverConfig_step {srv srv' : Server} {e : Server.Event} {id : UUID} {agent : Agent}
    {content : Bytes} (hfind : srv.agents.findAgent id = some agent)
    (haccepts : agent.accepts = true) (hconfig : agent.serverConfig = serverConfigOf content)
    (hkeeps : replacesConfig srv e id = false) (hstep : Server.step srv e = some srv') :
    ∃ agent', srv'.agents.findAgent id = some agent' ∧ agent'.accepts = true ∧
      agent'.serverConfig = serverConfigOf content := by
  cases e with
  | disconnect env conn =>
    cases hstep
    refine ⟨agent, ?_, haccepts, hconfig⟩
    -- The connection is that of other agents.
    have hnotMem : id ∉ srv.agents.agentsOf conn := by simpa [replacesConfig] using hkeeps
    show (srv.agents.removeConnection conn).findAgent id = some agent
    rw [Agents.findAgent_removeConnection, if_neg hnotMem, hfind]
  | message env conn msg =>
    simp only [Server.step] at hstep
    split at hstep
    · rename_i response srv₁ hok
      cases hstep
      obtain ⟨instanceId, agent₁, _, _, huid, hupdate, _, rfl⟩ := Server.onMessage_ok hok
      show ∃ agent', ((srv.agents.findOrCreateAgent instanceId conn).1.update instanceId
        _).findAgent id = some agent' ∧ _
      rw [Agents.findAgent_update, Agents.findAgent_findOrCreateAgent]
      by_cases hid : id = instanceId
      · -- The message is from the agent, and resolves no config.
        rw [if_pos hid, if_pos hid, Option.map_some]
        rw [hid] at hfind
        rw [Agents.findOrCreateAgent_of_some hfind] at hupdate
        have hunresolved : (agent.resolveGrouping env srv.store msg).2 = none := by
          unfold replacesConfig at hkeeps
          dsimp only at hkeeps
          rw [huid] at hkeeps
          dsimp only at hkeeps
          rw [hid, beq_self_eq_true, Bool.true_and, Agents.findOrCreateAgent_of_some hfind]
            at hkeeps
          simpa using hkeeps
        obtain ⟨haccepts₁, hconfig₁⟩ :=
          Agent.serverConfig_of_message hunresolved hupdate haccepts hconfig
        obtain ⟨groupID, hpersist⟩ := persistAgent_fst_frame env srv.store agent₁ msg
        refine ⟨_, rfl, ?_⟩
        rw [hpersist]
        exact ⟨haccepts₁, hconfig₁⟩
      · rw [if_neg hid, if_neg hid]
        exact ⟨agent, hfind, haccepts, hconfig⟩
    · cases hstep

/-- Such a handler also keeps the rule that matches the agent. -/
theorem holdsMatching_step {s : State} {srv : Server} {e : Server.Event} {id : UUID}
    (hholds : HoldsMatching snap rules s id) (hkeeps : replacesConfig s.server e id = false)
    (hstep : Server.step s.server e = some srv) :
    HoldsMatching snap rules (s.withServer srv) id := by
  obtain ⟨agent, rule, hfind, haccepts, hrule, hreaches, hconfig⟩ := hholds
  obtain ⟨agent', hfind', haccepts', hconfig'⟩ :=
    serverConfig_step hfind haccepts hconfig hkeeps hstep
  exact ⟨agent', rule, hfind', haccepts', hrule,
    reaches_of_labelsKept (Server.labelsKept_step hstep) hreaches, hconfig'⟩

/-- What a handler keeps: the labels of the rows, and the covered agents. -/
theorem covered_handle {w : Live} (hcovered : w.Covered snap rules) (e : Server.Event) :
    (w.handle e).Covered snap rules ∧ LabelsKept w.process.store (w.handle e).process.store := by
  unfold handle
  cases hstep : Server.step w.process.server e with
  | none => exact ⟨hcovered, LabelsKept.refl _⟩
  | some srv =>
    refine ⟨?_, Server.labelsKept_step hstep⟩
    intro id hpushed
    dsimp only at hpushed ⊢
    rw [Bool.and_eq_true, Bool.not_eq_true'] at hpushed
    exact holdsMatching_step (hcovered id hpushed.1) hpushed.2 hstep

/-- What the handlers of a wait keep. -/
theorem covered_wait {w : Live} (hcovered : w.Covered snap rules) :
    w.wait.Covered snap rules ∧ LabelsKept w.process.store w.wait.process.store := by
  unfold wait
  split
  · exact ⟨hcovered, LabelsKept.refl _⟩
  · rename_i events pending _
    refine List.foldlRecOn (motive := fun w' : Live => w'.Covered snap rules ∧
      LabelsKept w.process.store w'.process.store) _ _ ⟨hcovered, LabelsKept.refl _⟩ ?_
    intro w' hw' e _
    obtain ⟨hcovered', hlabels⟩ := covered_handle hw'.1 e
    exact ⟨hcovered', hw'.2.trans hlabels⟩

/-- A push of the content of a rule to an agent that the rule matches keeps the agents
covered, and covers the agent. -/
theorem covered_send {w : Live} (hcovered : w.Covered snap rules) (acked : ChanId → Bool)
    {agentID : UUID} {rule : LabelRule} (hrule : rule ∈ rules)
    (hreaches : reaches w.process.store.listAgents agentID rule = true) :
    (w.send acked agentID (snap.blob rule.filePath)).1.Covered snap rules := by
  intro id hpushed
  have hview := view_sendConfigToAgent acked agentID (snap.blob rule.filePath) w.process id
  show HoldsMatching snap rules
    (w.process.sendConfigToAgent acked agentID (snap.blob rule.filePath)).1 id
  replace hpushed : (w.pushed id || (id == agentID &&
      (w.process.sender.agents.findAgent agentID).any (·.accepts))) = true := hpushed
  by_cases hid : agentID = id
  · subst hid
    rw [if_pos (beq_self_eq_true agentID)] at hview
    -- The agent is registered and accepts remote config, as it was pushed to.
    obtain ⟨agent, hfind, haccepts⟩ : ∃ agent,
        w.process.sender.agents.findAgent agentID = some agent ∧ agent.accepts = true := by
      rcases Bool.or_eq_true_iff.mp hpushed with hbefore | hnow
      · obtain ⟨agent, _, hfind, haccepts, _⟩ := hcovered agentID hbefore
        exact ⟨agent, hfind, haccepts⟩
      · rw [beq_self_eq_true, Bool.true_and, Option.any_eq_true] at hnow
        exact hnow
    rw [State.view_of_findAgent hfind, haccepts] at hview
    obtain ⟨agent', hfind', haccepts', hconfig⟩ := State.findAgent_of_view hview
    exact ⟨agent', rule, hfind', haccepts', hrule, hreaches, hconfig⟩
  · have hne : (id == agentID) = false := by simpa using fun h => hid h.symm
    rw [hne, Bool.false_and, Bool.or_false] at hpushed
    rw [if_neg (by simpa using hid)] at hview
    obtain ⟨agent, rule', hfind, haccepts, hrule', hreaches', hconfig⟩ := hcovered id hpushed
    rw [State.view_of_findAgent hfind] at hview
    obtain ⟨agent', hfind', haccepts', hconfig'⟩ := State.findAgent_of_view hview
    exact ⟨agent', rule', hfind', haccepts'.trans haccepts, hrule', hreaches',
      hconfig'.trans hconfig⟩

end Live

/-! ### Runs -/

/-- The answers of the provider that are not errors are those of the snapshot. -/
structure Remote.Reads (remote : Remote) (snap : Snapshot) : Prop where
  files : ∀ entries, remote.files = .ok entries → entries = snap.entries
  fetch : ∀ path content, remote.fetch path = .ok content → content = snap.blob path

/-- The polls of the run read the snapshot. -/
def Polling.Event.Reads (snap : Snapshot) : Polling.Event → Prop
  | .opamp _ => True
  | .poll p => p.remote.Reads snap

/-- A listing that succeeds is the list of rows. -/
theorem listAgents_ok {env : Env} {s : Storage} {agents : List Types.Agent}
    (h : Services.listAgents env s = .ok agents) : agents = s.listAgents := by
  obtain ⟨-, hlist⟩ := Env.call_eq_ok h
  exact (Except.ok.inj hlist).symm

/-- A sync keeps the agents covered, with handlers that run while it fetches and pushes. -/
theorem Live.covered_runSync {snap : Snapshot} {gs : GitSource} {p : LivePoll}
    (hreads : p.remote.Reads snap) {w : Live} (hcovered : w.Covered snap (snap.rules gs))
    (store : Gitsync.Store) :
    (runSync (liveService p) gs false w store).world.Covered snap (snap.rules gs) := by
  -- The rules are matched against the rows of the start, so the labels must be kept too.
  suffices hboth : LabelsKept w.process.store
        (runSync (liveService p) gs false w store).world.process.store ∧
      (runSync (liveService p) gs false w store).world.Covered snap (snap.rules gs) from hboth.2
  refine world_runSync (J := fun w' : Live => LabelsKept w.process.store w'.process.store ∧
    w'.Covered snap (snap.rules gs)) ?_ ?_ false store ⟨LabelsKept.refl _, hcovered⟩
  · intro path fileSHA w' hw'
    obtain ⟨hwait, hlabels⟩ := covered_wait hw'.2
    exact ⟨hw'.1.trans hlabels, hwait⟩
  · intro entries agents rule a fileSHA content w₀ w' hfiles hagents hrule ha hfetched hw'
    have hcontent : content = snap.blob rule.filePath := hreads.fetch _ _ hfetched
    have hlisted : rule ∈ snap.rules gs := by
      rw [hreads.files entries hfiles] at hrule
      exact hrule
    have hreaches : reaches w.process.store.listAgents a.id rule = true := by
      rw [← listAgents_ok hagents]
      exact List.any_eq_true.mpr ⟨a, ha, beq_self_eq_true _⟩
    have hsent := covered_send hw'.2 p.acked hlisted (reaches_of_labelsKept hw'.1 hreaches)
    obtain ⟨hwait, hlabels⟩ := covered_wait hsent
    rw [hcontent]
    exact ⟨hw'.1.trans hlabels, hwait⟩

/-- The rules do not depend on the sync state. -/
theorem Snapshot.rules_of_sameSource {gs gs' : GitSource} (h : gs.SameSource gs')
    (snap : Snapshot) : snap.rules gs' = snap.rules gs := by
  obtain ⟨_, _, _, rfl⟩ := h
  rfl

/-- A step keeps the agents covered, and the source up to its sync state. -/
theorem Polling.covered_step {sourceID : String} {snap : Snapshot} {gs : GitSource}
    {s s' : Polling} {e : Polling.Event} (hreads : e.Reads snap)
    (hsource : ∃ gs', s.store.get sourceID = .ok gs' ∧ gs.SameSource gs')
    (hcovered : s.live.Covered snap (snap.rules gs)) (hstep : s.step sourceID e = some s') :
    (∃ gs', s'.store.get sourceID = .ok gs' ∧ gs.SameSource gs') ∧
      s'.live.Covered snap (snap.rules gs) := by
  unfold step at hstep
  dsimp only at hstep
  split at hstep
  · cases hstep
  · cases hstep
    cases e with
    | opamp e => exact ⟨hsource, (Live.covered_handle hcovered e).1⟩
    | poll p =>
      -- The poll reads the source again, which an earlier sync may have written.
      obtain ⟨gs', hget, hsame⟩ := hsource
      obtain ⟨gs'', hget'', hsame'⟩ := get_runSync hget (liveService p) false
        { s.live with pending := p.during }
      rw [← snap.rules_of_sameSource hsame] at hcovered ⊢
      have hcovered' : Live.Covered snap (snap.rules gs') { s.live with pending := p.during } :=
        hcovered
      unfold next doSync
      dsimp only
      rw [hget]
      exact ⟨⟨gs'', hget'', hsame.trans hsame'⟩, Live.covered_runSync hreads hcovered' s.store⟩

/-- In every state of a run over an unchanged repository, each agent whose config the git sync
set last has the content of a rule that matches it. -/
theorem Polling.covered_run {sourceID : String} {snap : Snapshot} {gs : GitSource}
    {database : Storage} {store : Gitsync.Store} {es : List Polling.Event} {s : Polling}
    (hget : store.get sourceID = .ok gs) (hreads : ∀ e ∈ es, e.Reads snap)
    (hrun : run (step sourceID) (.start database store) es = some s) :
    (∃ gs', s.store.get sourceID = .ok gs' ∧ gs.SameSource gs') ∧
      s.live.Covered snap (snap.rules gs) := by
  refine run_invariant_of_stepsMeet (C := fun _ e => e.Reads snap)
    (fun s : Polling => (∃ gs', s.store.get sourceID = .ok gs' ∧ gs.SameSource gs') ∧
      s.live.Covered snap (snap.rules gs)) ?_ ?_ (stepsMeet_of_forall hreads _) hrun
  · intro s e s' hs he hstep
    exact covered_step he hs.1 hs.2 hstep
  · refine ⟨⟨gs, hget, _, _, _, rfl⟩, ?_⟩
    intro id hpushed
    cases hpushed

/-! ### When a poll pushes to an agent -/

/-- The agent is registered and accepts remote config, and no handler runs during a wait. -/
def Live.Ready (id : UUID) (w : Live) : Prop :=
  w.pending = [] ∧ (w.process.sender.agents.findAgent id).any (·.accepts) = true

theorem Live.wait_of_pending_nil {w : Live} (h : w.pending = []) : w.wait = w := by
  unfold wait
  rw [h]

/-- A push to any agent, for an agent that is ready: it stays ready, and it stays pushed to or is
pushed to now. -/
theorem Live.sendConfigToAgent_of_ready {id : UUID} {w : Live} (h : w.Ready id)
    (acked : ChanId → Bool) (agentID : UUID) (content : Bytes) :
    (w.sendConfigToAgent acked agentID content).1.Ready id ∧
      ((w.sendConfigToAgent acked agentID content).1.pushed id
        = (w.pushed id || id == agentID)) := by
  obtain ⟨hpending, haccepts⟩ := h
  have hwait : (w.sendConfigToAgent acked agentID content).1 = (w.send acked agentID content).1 :=
    wait_of_pending_nil hpending
  rw [hwait]
  obtain ⟨agent, hfind, hagent⟩ := (Option.any_eq_true _ _).mp haccepts
  refine ⟨⟨hpending, ?_⟩, ?_⟩
  · -- Whether the push is to this agent or to another one, it stays registered.
    obtain ⟨agent', hfind', haccepts'⟩ : ∃ agent',
        (w.process.sendConfigToAgent acked agentID content).1.sender.agents.findAgent id
          = some agent' ∧ agent'.accepts = true := by
      have hview := view_sendConfigToAgent acked agentID content w.process id
      rw [State.view_of_findAgent hfind, hagent] at hview
      split at hview
      all_goals
        obtain ⟨agent', hfind', haccepts', _⟩ := State.findAgent_of_view hview
        exact ⟨agent', hfind', haccepts'⟩
    exact (Option.any_eq_true _ _).mpr ⟨agent', hfind', haccepts'⟩
  · show (w.pushed id || (id == agentID &&
      (w.process.sender.agents.findAgent agentID).any (·.accepts))) = _
    by_cases hid : id = agentID
    · subst hid
      rw [haccepts, Bool.and_true]
    · have hne : (id == agentID) = false := by simpa using hid
      rw [hne, Bool.false_and]

/-- A loop over rules pushes to a ready agent when one of the rules matches it and the fetch of
its file succeeds. -/
theorem Live.pushed_foldl_syncRule {p : LivePoll} {gs : GitSource} {shas : GoMap String String}
    {agents : List Types.Agent} {rules : List LabelRule} {rule : LabelRule} {id : UUID}
    {content : Bytes} (hrule : rule ∈ rules) (hfetch : p.remote.fetch rule.filePath = .ok content)
    (hreaches : reaches agents id rule = true) {acc : Loop Live} (h : acc.world.Ready id) :
    (rules.foldl (syncRule (liveService p) ((liveService p).provider gs) gs true shas agents)
      acc).world.pushed id = true := by
  have hfetchReady : ∀ path fileSHA (w : Live), w.Ready id →
      ((((liveService p).provider gs).fetchFile path fileSHA w).1).Ready id := by
    intro path fileSHA w hw
    show w.wait.Ready id
    rw [wait_of_pending_nil hw.1]
    exact hw
  refine foldl_of_mem (P := fun acc : Loop Live => acc.world.Ready id)
    (Q := fun acc : Loop Live => acc.world.pushed id = true) hrule ?_ ?_ ?_ h
  · intro acc rule' hready
    refine world_syncRule (J := Ready id) hfetchReady ?_ true hready
    intro a _ _ content' _ w _ hw
    exact (sendConfigToAgent_of_ready hw p.acked a.id content').1
  · intro acc rule' hready hpushed
    refine (world_syncRule (J := fun w : Live => w.Ready id ∧ w.pushed id = true) ?_ ?_ true
      ⟨hready, hpushed⟩).2
    · intro path fileSHA w hw
      refine ⟨hfetchReady path fileSHA w hw.1, ?_⟩
      show w.wait.pushed id = true
      rw [wait_of_pending_nil hw.1.1]
      exact hw.2
    · intro a _ _ content' _ w _ hw
      obtain ⟨hready', hpushed'⟩ := sendConfigToAgent_of_ready hw.1 p.acked a.id content'
      refine ⟨hready', hpushed'.trans ?_⟩
      rw [hw.2, Bool.true_or]
  · intro acc hready
    have hfetched : ((liveService p).provider gs).fetchFile rule.filePath
        ((shas.lookup rule.filePath).getD "") acc.world = (acc.world, .ok content) := by
      show (acc.world.wait, p.remote.fetch rule.filePath) = _
      rw [hfetch, wait_of_pending_nil hready.1]
    rw [world_syncRule_forced, hfetched]
    -- The pushes of the file reach the agent.
    obtain ⟨a, ha, hid⟩ := List.any_eq_true.mp hreaches
    refine foldl_of_mem (P := Ready id) (Q := fun w : Live => w.pushed id = true) ha ?_ ?_ ?_ hready
    · intro w a' hw
      exact (sendConfigToAgent_of_ready hw p.acked a'.id content).1
    · intro w a' hw hpushed
      refine (sendConfigToAgent_of_ready hw p.acked a'.id content).2.trans ?_
      rw [hpushed, Bool.true_or]
    · intro w hw
      refine (sendConfigToAgent_of_ready hw p.acked a.id content).2.trans ?_
      rw [beq_iff_eq.mp hid, beq_self_eq_true, Bool.or_true]

/-- The poll finds the agent: the commit is not the one of the last sync, and a rule that
matches the agent has a file that is due and is fetched. No handler runs during the poll. -/
structure Finds (gs : GitSource) (s : Polling) (p : LivePoll) (id : UUID) : Prop where
  quiet : p.during = []
  listed : p.env.faults .listAgents = none
  connected : (s.live.process.sender.agents.findAgent id).any (·.accepts) = true
  due : ∃ commitSHA entries rule content,
    p.remote.commitSHA = .ok commitSHA ∧ commitUnchanged gs commitSHA = false ∧
    p.remote.files = .ok entries ∧ (entries.map (·.path)).Nodup ∧
    rule ∈ parseRules entries gs.configRoot ∧ due gs s.store (shaByPath entries) rule = true ∧
    p.remote.fetch rule.filePath = .ok content ∧
    reaches s.live.process.store.listAgents id rule = true

/-- A poll pushes to the agents it finds. -/
theorem Polling.pushed_of_poll {sourceID : String} {gs : GitSource} {s s' : Polling}
    {p : LivePoll} {id : UUID} (hvalid : gs.Valid) (hget : s.store.get sourceID = .ok gs)
    (hfinds : Finds gs s p id) (hstep : s.step sourceID (.poll p) = some s') :
    s'.live.pushed id = true := by
  obtain ⟨commitSHA, entries, rule, content, hcommit, hchanged, hfiles, hnodup, hrule, hdue,
    hfetch, hreaches⟩ := hfinds.due
  unfold step at hstep
  dsimp only at hstep
  split at hstep
  · cases hstep
  · cases hstep
    unfold next doSync
    dsimp only
    rw [hget]
    dsimp only
    have hagents : (liveService p).listAgents { s.live with pending := p.during }
        = .ok s.live.process.store.listAgents := Env.call_of_faults_eq_none hfinds.listed _
    rw [runSync_of_ok hvalid hcommit hfiles hagents, hchanged, Bool.and_false,
      if_neg Bool.false_ne_true, world_persistOutcome, syncLoop,
      foldl_syncRule_unforced (nodup_filePath_parseRules hnodup gs.configRoot)]
    exact Live.pushed_foldl_syncRule (List.mem_filter.mpr ⟨hrule, hdue⟩) hfetch hreaches
      ⟨hfinds.quiet, hfinds.connected⟩

/-- Take a run of OpAMP events and polls over an unchanged repository, in any order. In the
state it reaches, each agent to which the git sync has pushed, since the agent registered and
since the server last resolved a config for it, is connected, accepts remote config and has the
content of a rule that matches it. A further poll pushes to every agent it finds. -/
theorem Polling.coverage (sourceID : String) (snap : Snapshot) (gs : GitSource)
    (database : Storage) (store : Gitsync.Store) (es : List Polling.Event) (s : Polling)
    (hget : store.get sourceID = .ok gs) (hvalid : gs.Valid) (hreads : ∀ e ∈ es, e.Reads snap)
    (hrun : run (step sourceID) (.start database store) es = some s) :
    (∀ id, s.live.pushed id = true → HoldsMatching snap (snap.rules gs) s.live.process id) ∧
    (∀ gs' p s' id, s.store.get sourceID = .ok gs' → Finds gs' s p id →
      s.step sourceID (.poll p) = some s' → s'.live.pushed id = true) := by
  obtain ⟨⟨gs', hget', hsame⟩, hcovered⟩ := covered_run hget hreads hrun
  refine ⟨hcovered, ?_⟩
  intro gs'' p s' id hget'' hfinds hstep
  rw [hget'] at hget''
  cases hget''
  exact pushed_of_poll (hsame.valid hvalid) hget' hfinds hstep

/-! ### An agent that connects after the first sync -/

/-- A poll that reads the two files, while no handler runs. -/
def quietPoll (now : Time) : LivePoll where
  env := .quiet now ""
  acked _ := true
  remote := (twoFiles 1).remote

theorem reads_quietPoll (now : Time) : (quietPoll now).remote.Reads (twoFiles 1) where
  files := by
    intro entries h
    exact (Except.ok.inj h).symm
  fetch := by
    intro path content h
    exact (Except.ok.inj h).symm

/-- The message with which an agent of the environment `canary` connects. -/
def canaryMessage : Polling.Event :=
  .opamp (.message (.quiet 1 "") 1 (environmentReport .nil "canary"))

/-- The agent connects before the first sync, which then pushes to it. -/
theorem Polling.coverage_connected_before :
    ∃ s, run (step "src-1") (.start .empty newSource) [canaryMessage, .poll (quietPoll 2)]
        = some s ∧
      HoldsMatching (twoFiles 1) ((twoFiles 1).rules githubSource) s.live.process .nil := by
  have hrun : (run (step "src-1") (.start .empty newSource)
      [canaryMessage, .poll (quietPoll 2)]).map (·.live.pushed .nil) = some true := by
    decide +kernel
  obtain ⟨s, hs, hpushed⟩ := Option.map_eq_some_iff.mp hrun
  refine ⟨s, hs, ?_⟩
  refine (Polling.coverage "src-1" (twoFiles 1) githubSource .empty newSource _ s rfl
    githubSource_valid ?_ hs).1 .nil hpushed
  intro e he
  simp only [List.mem_cons, List.not_mem_nil, or_false] at he
  rcases he with rfl | rfl
  · trivial
  · exact reads_quietPoll 2

/-- The agent connects after the first sync. The next poll stops at the commit, and the server
has no config for the agent. -/
theorem late_agent_not_covered :
    ¬ ∀ (sourceID : String) (snap : Snapshot) (gs : GitSource) (database : Storage)
      (store : Gitsync.Store) (es : List Polling.Event) (p : LivePoll) (s : Polling),
      store.get sourceID = .ok gs → gs.Valid →
      (∀ q, Polling.Event.poll q ∈ es ++ [.poll p] → q.remote = snap.remote ∧ q.env.FaultFree) →
      run (Polling.step sourceID) (.start database store) (es ++ [.poll p]) = some s →
      ∀ id agent, s.live.process.sender.agents.findAgent id = some agent → agent.accepts = true →
        (∃ rule ∈ snap.rules gs, reaches s.live.process.store.listAgents id rule = true) →
        ∃ rule ∈ snap.rules gs, reaches s.live.process.store.listAgents id rule = true ∧
          agent.Holds (snap.blob rule.filePath) := by
  intro hall
  let es : List Polling.Event := [.poll (quietPoll 0), canaryMessage]
  -- The agent at the end: what it accepts and holds, and that the fallback matches it.
  have hend : (run (Polling.step "src-1") (.start .empty newSource)
      (es ++ [.poll (quietPoll 2)])).map (fun s =>
        ((s.live.process.sender.agents.findAgent .nil).map fun agent =>
          (agent.accepts, agent.customInstanceConfig.length),
          reaches s.live.process.store.listAgents .nil fallbackRule))
      = some (some (true, 0), true) := by decide +kernel
  obtain ⟨s, hs, hfacts⟩ := Option.map_eq_some_iff.mp hend
  obtain ⟨hagent, hfallback⟩ := Prod.mk.inj hfacts
  obtain ⟨agent, hfind, hagent⟩ := Option.map_eq_some_iff.mp hagent
  obtain ⟨haccepts, hlength⟩ := Prod.mk.inj hagent
  have hrules : (twoFiles 1).rules githubSource = [canaryRule, fallbackRule] := rfl
  obtain ⟨rule, _, _, hholds⟩ := hall "src-1" (twoFiles 1) githubSource .empty newSource es
    (quietPoll 2) s rfl githubSource_valid
    (by
      intro q hq
      simp only [es, canaryMessage, List.cons_append, List.nil_append, List.mem_cons,
        List.not_mem_nil, or_false, reduceCtorEq, false_or, Polling.Event.poll.injEq] at hq
      rcases hq with rfl | rfl <;> exact ⟨rfl, Env.quiet_faultFree _ _⟩)
    hs .nil agent hfind haccepts
    ⟨fallbackRule, by rw [hrules]; exact List.mem_cons_of_mem _ List.mem_cons_self, hfallback⟩
  -- Every file of the repository has one byte.
  have hone : ∀ path, ((twoFiles 1).blob path).length = 1 := by
    intro path
    show (if path = "configs/environments/canary/base.yaml" then [1] else [2] : Bytes).length = 1
    split <;> rfl
  rw [hholds.1, hone] at hlength
  exact absurd hlength (by decide)

end OtelHive.Api
