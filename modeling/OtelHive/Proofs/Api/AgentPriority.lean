import OtelHive.Api.System
import OtelHive.Lib.Runs
import OtelHive.Proofs.Api.LatestConfig
import OtelHive.Proofs.Opamp.ConfigSender

/-!
# `OtelHive.Proofs.Api.AgentPriority`: a group push over an agent config

`getConfigForAgent` puts the agent config before the group config, but only the OpAMP
handler calls it. A group push of `HandleCreateConfig` or `HandleAssignConfig` goes to every
agent of the group that accepts remote config, whatever configs the agent has.

`holds_after_groupWrite` says what the server holds for an agent of the group after the
push. `held_is_latest_iff` compares it with the latest agent config.
-/

set_option autoImplicit false

namespace OtelHive.Api

open OtelHive.Lib
open OtelHive.Opamp
open OtelHive.Types (Config)

/-- A request that stores a config of the group `groupID` with `content` and pushes it: a
create that names the group, or an assignment to the group. -/
inductive GroupWrite (env : Env) (delivery : Delivery) (s : State) (groupID : String)
    (content : Bytes) (s' : State) : Prop where
  | create (body : Except String CreateConfigRequest) (reply : Reply) (config : Config)
      (handled : handleCreateConfig env delivery body s = (s', reply))
      (written : reply.written = some config) (group : config.groupID = some groupID)
      (named : groupID ≠ "") (stored : config.content = content)
  | assign (body : Except String AssignConfigRequest) (reply : Reply) (config : Config)
      (handled : handleAssignConfig env delivery groupID body s = (s', reply))
      (written : reply.written = some config) (stored : config.content = content)

/-- A create is a group write when the config of its reply names a group. -/
theorem groupWrite_of_create {env : Env} {delivery : Delivery}
    {body : Except String CreateConfigRequest} {s : State} {groupID : String} {content : Bytes}
    (h : (handleCreateConfig env delivery body s).2.written.map
      (fun config => (config.groupID, config.content)) = some (some groupID, content))
    (hnamed : groupID ≠ "") :
    GroupWrite env delivery s groupID content (handleCreateConfig env delivery body s).1 := by
  obtain ⟨config, hwritten, hconfig⟩ := Option.map_eq_some_iff.mp h
  simp only [Prod.mk.injEq] at hconfig
  exact .create body _ config rfl hwritten hconfig.1 hnamed hconfig.2

/-- A group write pushes its content to the group. -/
theorem GroupWrite.sender_eq {env : Env} {delivery : Delivery} {s s' : State} {groupID : String}
    {content : Bytes} (h : GroupWrite env delivery s groupID content s') :
    s'.sender = (s.sender.sendConfigToAgentsInGroup delivery.acked delivery.order groupID
      content).1 := by
  -- A reply with a written config comes from the last branch of its handler alone.
  cases h with
  | create body reply config handled written group named stored =>
    unfold handleCreateConfig at handled
    split at handled
    · cases handled
      cases written
    · dsimp only at handled
      split at handled
      · cases handled
        cases written
      · cases handled
        cases written
        dsimp only at group stored ⊢
        rw [group]
        dsimp only
        rw [if_neg named, ← stored]
  | assign body reply config handled written stored =>
    unfold handleAssignConfig at handled
    split at handled
    · cases handled
      cases written
    · split at handled
      · cases handled
        cases written
      · split at handled
        · split at handled
          · dsimp only at handled
            split at handled
            · cases handled
              cases written
            · cases handled
              cases written
              rw [← stored]
          · cases handled
            cases written
        · cases handled
          cases written

/-- What the server holds for an agent of the group after the push: the pushed content, or
what it held before when the agent does not accept remote config. -/
theorem holds_after_groupWrite {env : Env} {delivery : Delivery} {s s' : State} {groupID : String}
    {content : Bytes} (h : GroupWrite env delivery s groupID content s') {a : UUID}
    {agent : Agent} (hfind : s.sender.agents.findAgent a = some agent)
    (hgroup : agent.groupID = some groupID) :
    ∃ agent', s'.sender.agents.findAgent a = some agent' ∧
      (agent.accepts = true → agent'.Holds content) ∧
      (agent.accepts = false → agent' = agent) := by
  rw [h.sender_eq]
  unfold ConfigSender.sendConfigToAgentsInGroup
  obtain ⟨agent', hfind', hholds, hsame⟩ :=
    ConfigSender.findAgent_foldl_pushStep delivery.acked content
      (ConfigSender.agentsInGroup delivery.order groupID s.sender.agents) (s.sender, {}) hfind
  have hmem : a ∈ ConfigSender.agentsInGroup delivery.order groupID s.sender.agents :=
    (ConfigSender.mem_agentsInGroup _ _ _ _).mpr ⟨agent, hfind, hgroup⟩
  refine ⟨agent', hfind', ?_, ?_⟩
  · intro haccepts
    exact hholds ⟨hmem, haccepts⟩
  · intro hrejects
    refine hsame ?_
    intro hboth
    rw [hrejects] at hboth
    cases hboth.2

/-- Take an agent of the group that has an agent config after the write. Then the server
holds the latest agent config for it after the push if and only if the agent accepts remote
config and the pushed content is that config, or the agent does not accept remote config and
the server held that config before. -/
theorem held_is_latest_iff (env : Env) (delivery : Delivery) (s s' : State) (groupID : String)
    (content : Bytes) (a : UUID) (agent : Agent) (latest : Config)
    (h : GroupWrite env delivery s groupID content s')
    (hfind : s.sender.agents.findAgent a = some agent) (hgroup : agent.groupID = some groupID)
    (_ : s'.store.getLatestConfigForAgent a = some latest) :
    (∃ agent', s'.sender.agents.findAgent a = some agent' ∧ agent'.Holds latest.content) ↔
      (agent.accepts = true ∧ content = latest.content) ∨
      (agent.accepts = false ∧ agent.Holds latest.content) := by
  obtain ⟨agent', hfind', hpushed, hsame⟩ := holds_after_groupWrite h hfind hgroup
  constructor
  · intro hheld
    obtain ⟨agent'', hfind'', hholds⟩ := hheld
    rw [hfind'] at hfind''
    cases hfind''
    cases haccepts : agent.accepts with
    | true => exact Or.inl ⟨rfl, (hpushed haccepts).unique hholds⟩
    | false =>
      rw [hsame haccepts] at hholds
      exact Or.inr ⟨rfl, hholds⟩
  · intro hcond
    refine ⟨agent', hfind', ?_⟩
    rcases hcond with ⟨haccepts, hcontent⟩ | ⟨hrejects, hholds⟩
    · rw [← hcontent]
      exact hpushed haccepts
    · rw [hsame hrejects]
      exact hholds

/-! ### An agent with a config of its own -/

/-- A report of an agent of the group `"g"` that accepts remote config. -/
def groupMemberReport (uid : UUID) : AgentToServer where
  instanceUid := uid.bytes
  agentDescription := some ⟨[⟨"group.id", some (.stringValue "g")⟩], []⟩
  capabilities := AgentCapabilities.acceptsRemoteConfig

/-- The agent connects, and then it gets the config `[1]` of its own. -/
def memberWithConfig : List Request :=
  [.opamp (.message (.quiet 1 "") 1 (groupMemberReport .nil)),
    .sendConfig { Env.quiet 2 "c-1" with uuidParse := fun _ => some .nil } silentDelivery "agent"
      (.ok ⟨[1]⟩)]

/-- The state in which the group config is created. -/
def beforeGroupWrite : State :=
  (run State.step (.start oneGroup.store) memberWithConfig).getD oneGroup

/-- The state after a config of the group is created. -/
def afterGroupWrite (content : Bytes) : State :=
  (handleCreateConfig (.quiet 3 "c-2") silentDelivery
    (.ok (groupConfigRequest content (.wrap 1))) beforeGroupWrite).1

/-- The agent is a member of the group and accepts remote config. -/
theorem member_beforeGroupWrite :
    ∃ agent, beforeGroupWrite.sender.agents.findAgent .nil = some agent ∧
      agent.groupID = some "g" ∧ agent.accepts = true := by
  have h : (beforeGroupWrite.sender.agents.findAgent .nil).map
      (fun agent => (agent.groupID, agent.accepts)) = some (some "g", true) := by decide +kernel
  obtain ⟨agent, hfind, hagent⟩ := Option.map_eq_some_iff.mp h
  simp only [Prod.mk.injEq] at hagent
  exact ⟨agent, hfind, hagent⟩

/-- A config with the content of the agent's own config is created for the group. -/
theorem held_is_latest_iff_same_content :
    ∃ agent' latest, (afterGroupWrite [1]).store.getLatestConfigForAgent .nil = some latest ∧
      (afterGroupWrite [1]).sender.agents.findAgent .nil = some agent' ∧
      agent'.Holds latest.content := by
  obtain ⟨agent, hfind, hgroup, haccepts⟩ := member_beforeGroupWrite
  have hwrite : GroupWrite (.quiet 3 "c-2") silentDelivery beforeGroupWrite "g" [1]
      (afterGroupWrite [1]) := groupWrite_of_create (by decide +kernel) (by decide)
  have hlatest : ((afterGroupWrite [1]).store.getLatestConfigForAgent .nil).map (·.content)
      = some [1] := by decide +kernel
  obtain ⟨latest, hlatest, hcontent⟩ := Option.map_eq_some_iff.mp hlatest
  obtain ⟨agent', hfind', hholds⟩ := (held_is_latest_iff (.quiet 3 "c-2") silentDelivery
    beforeGroupWrite (afterGroupWrite [1]) "g" [1] .nil agent latest hwrite hfind hgroup
    hlatest).mpr (Or.inl ⟨haccepts, hcontent.symm⟩)
  exact ⟨agent', latest, hlatest, hfind', hholds⟩

/-- Another config is created for the group, and replaces the agent's own one. -/
theorem group_config_replaces_agent_config :
    ¬ ∀ (store : Sqlite.Storage) (es : List Request) (s s' : State) (env : Env)
      (delivery : Delivery) (groupID : String) (content : Bytes) (a : UUID)
      (agent : Agent) (latest : Config),
      run State.step (.start store) es = some s →
      GroupWrite env delivery s groupID content s' →
      s.sender.agents.findAgent a = some agent → agent.groupID = some groupID →
      s'.store.getLatestConfigForAgent a = some latest →
      ∃ agent', s'.sender.agents.findAgent a = some agent' ∧ agent'.Holds latest.content := by
  intro hall
  have hrun : run State.step (.start oneGroup.store) memberWithConfig
      = some beforeGroupWrite := by
    have hsome : (run State.step (.start oneGroup.store) memberWithConfig).isSome := by
      decide +kernel
    obtain ⟨s, hs⟩ := Option.isSome_iff_exists.mp hsome
    rw [beforeGroupWrite, hs]
    rfl
  obtain ⟨agent, hfind, hgroup, haccepts⟩ := member_beforeGroupWrite
  have hwrite : GroupWrite (.quiet 3 "c-2") silentDelivery beforeGroupWrite "g" [2]
      (afterGroupWrite [2]) := groupWrite_of_create (by decide +kernel) (by decide)
  have hlatest : ((afterGroupWrite [2]).store.getLatestConfigForAgent .nil).map (·.content)
      = some [1] := by decide +kernel
  obtain ⟨latest, hlatest, hcontent⟩ := Option.map_eq_some_iff.mp hlatest
  obtain ⟨agent', hfind', hholds⟩ := hall oneGroup.store memberWithConfig beforeGroupWrite
    (afterGroupWrite [2]) _ _ "g" [2] .nil agent latest hrun hwrite hfind hgroup hlatest
  -- The push left the content of the group with the agent.
  obtain ⟨agent'', hfind'', hpushed, _⟩ := holds_after_groupWrite hwrite hfind hgroup
  rw [hfind'] at hfind''
  cases hfind''
  have hclash : latest.content = [2] := hholds.unique (hpushed haccepts)
  rw [hcontent] at hclash
  exact absurd hclash (by decide)

end OtelHive.Api
