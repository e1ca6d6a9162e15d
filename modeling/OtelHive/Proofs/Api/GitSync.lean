import OtelHive.Api.GitSync
import OtelHive.Lib.Overwrite
import OtelHive.Proofs.Gitsync.Service
import OtelHive.Proofs.Opamp.ConfigSender

/-!
# `OtelHive.Proofs.Api.GitSync`: what a sync writes into the registry

A push that reaches an agent overwrites the config of the push before it. So a sync leaves
each agent with the content of the last rule that it pushes to the agent.

`State.view` is what the pushes to one agent read and write: whether the agent accepts remote
config, and its server-side config. One push is one write to the view of its agent
(`view_sendConfigToAgent`), and the rule `foldl_overwrites_filter` gives the view after a
whole sync (`view_forcedSync`, `view_unforcedSync`).
-/

set_option autoImplicit false

namespace OtelHive.Opamp

/-- The config that the server keeps for an agent: the custom config, and the remote config
made from it. -/
abbrev ServerConfig : Type := Bytes × Option AgentRemoteConfig

/-- The server-side config of an agent. -/
def Agent.serverConfig (agent : Agent) : ServerConfig :=
  (agent.customInstanceConfig, agent.remoteConfig)

/-- The server-side config after a push. -/
def serverConfigOf (content : Bytes) : ServerConfig := (content, some (remoteConfigOf content))

/-- Pushes of different contents leave different configs. -/
theorem serverConfigOf_inj {a b : Bytes} : serverConfigOf a = serverConfigOf b ↔ a = b := by
  constructor
  · intro h
    exact (Prod.mk.inj h).1
  · intro h
    rw [h]

/-- An agent with the config of a push holds its content, and no other content. -/
theorem Agent.holds_of_serverConfig {agent : Agent} {content : Bytes}
    (h : agent.serverConfig = serverConfigOf content) (body : Bytes) :
    agent.Holds body ↔ body = content := by
  obtain ⟨hcustom, hremote⟩ := Prod.mk.inj h
  have hholds : agent.Holds content := ⟨hcustom, by rw [hremote]; rfl⟩
  constructor
  · intro hbody
    exact hbody.unique hholds
  · intro heq
    rw [heq]
    exact hholds

/-- The server-side config after a push. -/
theorem Agent.serverConfig_pushed (agent : Agent) (content : Bytes) (notify : ChanId) :
    (agent.pushed content notify).serverConfig
      = if agent.accepts then serverConfigOf content else agent.serverConfig := by
  cases haccepts : agent.accepts with
  | false =>
    rw [Agent.pushed_of_not_accepts haccepts]
    rfl
  | true =>
    obtain ⟨watchers, hset⟩ := Agent.setCustomConfig_fst agent content (some notify)
    unfold Agent.pushed
    rw [if_pos haccepts, hset]
    rfl

end OtelHive.Opamp

namespace OtelHive.Api

open OtelHive.Lib
open OtelHive.Opamp
open OtelHive.Gitsync

/-! ### One push -/

namespace State

/-- What a push to the agent reads and writes. -/
def view (s : State) (id : UUID) : Option (Bool × ServerConfig) :=
  (s.sender.agents.findAgent id).map fun agent => (agent.accepts, agent.serverConfig)

/-- The view of a registered agent. -/
theorem view_of_findAgent {s : State} {id : UUID} {agent : Agent}
    (h : s.sender.agents.findAgent id = some agent) :
    s.view id = some (agent.accepts, agent.serverConfig) := by
  rw [view, h]
  rfl

/-- A view is the view of a registered agent. -/
theorem findAgent_of_view {s : State} {id : UUID} {accepts : Bool} {config : ServerConfig}
    (h : s.view id = some (accepts, config)) :
    ∃ agent, s.sender.agents.findAgent id = some agent ∧ agent.accepts = accepts ∧
      agent.serverConfig = config := by
  rw [view, Option.map_eq_some_iff] at h
  obtain ⟨agent, hfind, hagent⟩ := h
  obtain ⟨haccepts, hconfig⟩ := Prod.mk.inj hagent
  exact ⟨agent, hfind, haccepts, hconfig⟩

end State

/-- The view of an agent after a push to it. -/
def writeConfig (content : Bytes) (v : Option (Bool × ServerConfig)) :
    Option (Bool × ServerConfig) :=
  v.map fun (accepts, config) => (accepts, if accepts then serverConfigOf content else config)

theorem overwrites_writeConfig : Overwrites writeConfig := by
  intro content content' v
  cases v with
  | none => rfl
  | some p =>
    obtain ⟨accepts, config⟩ := p
    cases accepts <;> rfl

/-- A push writes the view of its agent. -/
theorem view_sendConfigToAgent (acked : ChanId → Bool) (agentID : UUID) (content : Bytes)
    (s : State) (id : UUID) :
    (s.sendConfigToAgent acked agentID content).1.view id
      = if agentID == id then writeConfig content (s.view id) else s.view id := by
  show ((s.sender.sendConfigToAgent acked agentID content).1.agents.findAgent id).map _ = _
  rw [ConfigSender.findAgent_sendConfigToAgent]
  by_cases hid : id = agentID
  · rw [if_pos hid, ← hid, if_pos (beq_self_eq_true id), State.view]
    cases hfind : s.sender.agents.findAgent id with
    | none => rfl
    | some agent =>
      simp only [Option.map_some, writeConfig, Agent.accepts_pushed, Agent.serverConfig_pushed]
  · rw [if_neg hid, if_neg (by simpa using fun h => hid h.symm)]
    rfl

/-! ### One file -/

/-- The pushes of one content. -/
theorem view_foldl_sendConfigToAgent (acked : ChanId → Bool) (content : Bytes)
    (matched : List Types.Agent) (s : State) (id : UUID) :
    (matched.foldl (fun s a => (s.sendConfigToAgent acked a.id content).1) s).view id
      = if matched.any (·.id == id) then writeConfig content (s.view id) else s.view id := by
  rw [← foldl_overwrites_same overwrites_writeConfig content (fun a : Types.Agent => a.id == id)]
  refine (List.foldl_hom (State.view · id) ?_).symm
  intro s a
  exact (view_sendConfigToAgent acked a.id content s id).symm

/-- The rule pushes to the agent: it selects one of the agent's rows. -/
def reaches (agents : List Types.Agent) (id : UUID) (rule : LabelRule) : Bool :=
  (matchAgents rule agents).any (·.id == id)

variable {env : Env} {acked : ChanId → Bool} {gs : GitSource} {store : Gitsync.Store}
  {agents : List Types.Agent}

/-- One forced round whose fetch succeeds. -/
theorem view_syncRule_forced (snap : Snapshot) (shas : GoMap String String) (acc : Loop State)
    (rule : LabelRule) (id : UUID) :
    (syncRule (gitService env acked snap.remote) snap.remote.provider gs true shas agents acc
        rule).world.view id
      = if reaches agents id rule then writeConfig (snap.blob rule.filePath) (acc.world.view id)
        else acc.world.view id := by
  rw [world_syncRule_forced]
  exact view_foldl_sendConfigToAgent acked _ _ _ id

/-! ### One sync -/

/-- The last of the rules that push to the agent. -/
def lastMatch (rules : List LabelRule) (agents : List Types.Agent) (id : UUID) :
    Option LabelRule :=
  (rules.filter (reaches agents id)).getLast?

/-- The rules of the snapshot for a source. -/
def Snapshot.rules (snap : Snapshot) (gs : GitSource) : List LabelRule :=
  parseRules snap.entries gs.configRoot

/-- The rules of the snapshot whose file an unforced sync does not skip. -/
def Snapshot.dueRules (snap : Snapshot) (gs : GitSource) (store : Gitsync.Store) :
    List LabelRule :=
  (snap.rules gs).filter (due gs store (shaByPath snap.entries))

/-- The content of the last of the rules that push to the agent. -/
def Snapshot.finalContent (snap : Snapshot) (rules : List LabelRule) (agents : List Types.Agent)
    (id : UUID) : Option Bytes :=
  (lastMatch rules agents id).map fun rule => snap.blob rule.filePath

/-- A forced loop over some rules: the last one that pushes to the agent decides. -/
theorem view_foldl_forced (snap : Snapshot) (shas : GoMap String String) (rules : List LabelRule)
    (acc : Loop State) (id : UUID) :
    (rules.foldl (syncRule (gitService env acked snap.remote) snap.remote.provider gs true shas
        agents) acc).world.view id
      = writeOption writeConfig (snap.finalContent rules agents id) (acc.world.view id) := by
  have hwrite : Overwrites fun rule : LabelRule => writeConfig (snap.blob rule.filePath) := by
    intro rule rule' v
    exact overwrites_writeConfig _ _ v
  have hlast := foldl_overwrites_filter hwrite (reaches agents id) rules (acc.world.view id)
  unfold Snapshot.finalContent lastMatch
  refine Eq.trans ?_ (hlast.trans ?_)
  · refine (List.foldl_hom (fun acc : Loop State => acc.world.view id) ?_).symm
    intro acc rule
    exact (view_syncRule_forced snap shas acc rule id).symm
  · cases (rules.filter (reaches agents id)).getLast? <;> rfl

variable (acked store) in
/-- A forced sync of a snapshot: each agent gets the content of the last rule that matches
it. -/
theorem view_forcedSync (hvalid : gs.Valid) (hfree : env.FaultFree) (snap : Snapshot) (s : State)
    (id : UUID) :
    (runSync (gitService env acked snap.remote) gs true s store).world.view id
      = writeOption writeConfig (snap.finalContent (snap.rules gs) s.store.listAgents id)
          (s.view id) := by
  have hagents : (gitService env acked snap.remote).listAgents s = .ok s.store.listAgents :=
    Env.call_of_faults_eq_none (hfree .listAgents) _
  rw [runSync_of_ok hvalid rfl rfl hagents, Bool.not_true, Bool.false_and,
    if_neg Bool.false_ne_true, world_persistOutcome]
  exact view_foldl_forced snap _ _ _ id

/-- The content of the last rule that matches the agent and is due. No rule is due when the
commit is the one of the last sync. -/
def Snapshot.dueContent (snap : Snapshot) (gs : GitSource) (store : Gitsync.Store)
    (agents : List Types.Agent) (id : UUID) : Option Bytes :=
  if commitUnchanged gs snap.commitSHA then none
  else snap.finalContent (snap.dueRules gs store) agents id

/-- An unforced sync of a snapshot that has each path once. -/
theorem view_unforcedSync (hvalid : gs.Valid) (hfree : env.FaultFree) {snap : Snapshot}
    (hnodup : (snap.entries.map (·.path)).Nodup) (s : State) (id : UUID) :
    (runSync (gitService env acked snap.remote) gs false s store).world.view id
      = writeOption writeConfig (snap.dueContent gs store s.store.listAgents id)
          (s.view id) := by
  have hagents : (gitService env acked snap.remote).listAgents s = .ok s.store.listAgents :=
    Env.call_of_faults_eq_none (hfree .listAgents) _
  rw [runSync_of_ok hvalid rfl rfl hagents, Bool.not_false, Bool.true_and, Snapshot.dueContent]
  split
  · rfl
  · rw [world_persistOutcome, syncLoop,
      foldl_syncRule_unforced (nodup_filePath_parseRules hnodup gs.configRoot)]
    exact view_foldl_forced snap _ _ _ id

/-- A sync does not touch the database of the process. -/
theorem store_runSync (remote : Remote) (forceAll : Bool) (s : State) :
    (runSync (gitService env acked remote) gs forceAll s store).world.store = s.store := by
  refine world_runSync (J := fun s' : State => s'.store = s.store) ?_ ?_ forceAll store rfl
  · exact fun _ _ _ h => h
  · intro _ _ _ _ _ _ _ _ _ _ _ _ _ h
    exact h

/-- The server-side config after an optional push. -/
def configAfter (agent : Agent) (w : Option Bytes) : ServerConfig :=
  match w with
  | some content => if agent.accepts then serverConfigOf content else agent.serverConfig
  | none => agent.serverConfig

/-- A push to an agent that accepts remote config. -/
theorem configAfter_some {agent : Agent} (h : agent.accepts = true) (content : Bytes) :
    configAfter agent (some content) = serverConfigOf content := by
  rw [configAfter, if_pos h]

/-- A registered agent after an optional push. -/
theorem State.findAgent_of_view_eq {s s' : State} {id : UUID} {w : Option Bytes}
    (hview : s'.view id = writeOption writeConfig w (s.view id)) {agent : Agent}
    (hfind : s.sender.agents.findAgent id = some agent) :
    ∃ agent', s'.sender.agents.findAgent id = some agent' ∧ agent'.accepts = agent.accepts ∧
      agent'.serverConfig = configAfter agent w := by
  rw [State.view_of_findAgent hfind] at hview
  cases w with
  | none => exact State.findAgent_of_view hview
  | some content => exact State.findAgent_of_view hview

/-- An optional push registers no agent. -/
theorem State.findAgent_isSome_of_view_eq {s s' : State} {id : UUID} {w : Option Bytes}
    (hview : s'.view id = writeOption writeConfig w (s.view id)) :
    (s'.sender.agents.findAgent id).isSome = (s.sender.agents.findAgent id).isSome := by
  have hsome := congrArg Option.isSome hview
  unfold State.view at hsome
  rw [Option.isSome_map] at hsome
  rw [hsome]
  cases w <;> simp [writeConfig]

end OtelHive.Api
