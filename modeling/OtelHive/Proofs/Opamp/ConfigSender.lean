import OtelHive.Opamp.ConfigSender
import OtelHive.Proofs.Opamp.Agent
import OtelHive.Proofs.Opamp.Agents

/-!
# `OtelHive.Proofs.Opamp.ConfigSender`: what a push leaves in the registry

A push changes one agent, and only if the agent accepts remote config: then the server holds
the pushed content for it, whether or not the agent confirms in time.

`findAgent_sendConfigToAgent` states this for one push, and `findAgent_foldl_pushStep` for the
whole loop of a group push.
-/

set_option autoImplicit false

namespace OtelHive.Opamp

open OtelHive.Lib

namespace Agent

/-- The agent accepts remote config. -/
def accepts (agent : Agent) : Bool := agent.hasCapability AgentCapabilities.acceptsRemoteConfig

/-- The agent after a push with the notify channel `notify`. -/
def pushed (agent : Agent) (content : Bytes) (notify : ChanId) : Agent :=
  if agent.accepts then (agent.setCustomConfig (.single content) (some notify)).1 else agent

/-- A push changes the two configs and the watchers only. -/
theorem pushed_frame (agent : Agent) (content : Bytes) (notify : ChanId) :
    ∃ customInstanceConfig remoteConfig statusUpdateWatchers,
      agent.pushed content notify
        = { agent with customInstanceConfig, remoteConfig, statusUpdateWatchers } := by
  unfold pushed
  split
  · obtain ⟨watchers, h⟩ := setCustomConfig_fst agent content (some notify)
    rw [h]
    exact ⟨_, _, _, rfl⟩
  · exact ⟨_, _, _, rfl⟩

/-- A push does not change what the agent accepts. -/
theorem accepts_pushed (agent : Agent) (content : Bytes) (notify : ChanId) :
    (agent.pushed content notify).accepts = agent.accepts := by
  obtain ⟨_, _, _, h⟩ := pushed_frame agent content notify
  rw [h]
  rfl

/-- After a push to an agent that accepts remote config, the server holds the content. -/
theorem holds_pushed {agent : Agent} (h : agent.accepts = true) (content : Bytes)
    (notify : ChanId) : (agent.pushed content notify).Holds content := by
  unfold pushed
  rw [if_pos h]
  exact holds_setCustomConfig agent content (some notify)

/-- A push to an agent that does not accept remote config changes nothing. -/
theorem pushed_of_not_accepts {agent : Agent} (h : agent.accepts = false) (content : Bytes)
    (notify : ChanId) : agent.pushed content notify = agent := by
  unfold pushed
  rw [h]
  rfl

end Agent

namespace ConfigSender

/-- The registry after a push: the agent of the push is `pushed`, the others stay. -/
theorem findAgent_sendConfigToAgent (acked : ChanId → Bool) (agentId : UUID) (content : Bytes)
    (cs : ConfigSender) (id : UUID) :
    (cs.sendConfigToAgent acked agentId content).1.agents.findAgent id
      = if id = agentId then
          (cs.agents.findAgent agentId).map fun agent => agent.pushed content cs.nextChan
        else cs.agents.findAgent id := by
  unfold sendConfigToAgent
  cases hfind : cs.agents.findAgent agentId with
  | none =>
    dsimp only
    split
    · rename_i hid
      rw [hid, hfind, Option.map_none]
    · rfl
  | some agent =>
    have hpushed : agent.pushed content cs.nextChan
        = if agent.accepts then (agent.setCustomConfig (.single content) (some cs.nextChan)).1
          else agent := rfl
    -- The push stops at the capability check, or it sets the config.
    cases haccepts : agent.accepts with
    | false =>
      have hcap : agent.hasCapability AgentCapabilities.acceptsRemoteConfig = false := haccepts
      dsimp only
      rw [hcap]
      simp only [Bool.not_false, if_true]
      split
      · rename_i hid
        rw [hid, hfind, Option.map_some, hpushed, haccepts]
        rfl
      · rfl
    | true =>
      have hcap : agent.hasCapability AgentCapabilities.acceptsRemoteConfig = true := haccepts
      rw [haccepts, if_pos rfl] at hpushed
      dsimp only
      rw [hcap, Option.map_some, hpushed]
      simp only [Bool.not_true, Bool.false_eq_true, if_false]
      rw [Agents.findAgent_update]
      split
      · rename_i hid
        rw [hid, hfind, Option.map_some]
      · rfl

/-- A registered agent after the loop of a group push. An agent of the loop that accepts
remote config has the content, and every other agent is as it was. -/
theorem findAgent_foldl_pushStep (acked : ChanId → Bool) (content : Bytes) (ids : List UUID)
    (acc : ConfigSender × GroupResult) {id : UUID} {agent : Agent}
    (hfind : acc.1.agents.findAgent id = some agent) :
    ∃ agent', (ids.foldl (pushStep acked content) acc).1.agents.findAgent id = some agent' ∧
      (id ∈ ids ∧ agent.accepts = true → agent'.Holds content) ∧
      (¬(id ∈ ids ∧ agent.accepts = true) → agent' = agent) := by
  -- The ids may repeat. A second push sets the same content again.
  induction ids generalizing acc agent with
  | nil =>
    refine ⟨agent, hfind, ?_, fun _ => rfl⟩
    intro h
    cases h.1
  | cons id₀ ids ih =>
    have hstep : (pushStep acked content acc id₀).1.agents.findAgent id
        = if id = id₀ then some (agent.pushed content acc.1.nextChan) else some agent := by
      show (acc.1.sendConfigToAgent acked id₀ content).1.agents.findAgent id = _
      rw [findAgent_sendConfigToAgent]
      split
      · rename_i hid
        rw [← hid, hfind, Option.map_some]
      · exact hfind
    rw [List.foldl_cons]
    by_cases hid : id = id₀
    · rw [if_pos hid] at hstep
      obtain ⟨agent', hfind', hholds, hsame⟩ := ih (pushStep acked content acc id₀) hstep
      rw [Agent.accepts_pushed] at hholds hsame
      refine ⟨agent', hfind', ?_, ?_⟩
      · intro h
        by_cases hmem : id ∈ ids
        · exact hholds ⟨hmem, h.2⟩
        · rw [hsame fun hboth => hmem hboth.1]
          exact Agent.holds_pushed h.2 content _
      · intro h
        have hrejects : agent.accepts = false := by
          rw [← Bool.not_eq_true]
          intro haccepts
          exact h ⟨hid ▸ List.mem_cons_self, haccepts⟩
        rw [hsame fun hboth => absurd hboth.2 (by rw [hrejects]; decide)]
        exact Agent.pushed_of_not_accepts hrejects content _
    · rw [if_neg hid] at hstep
      obtain ⟨agent', hfind', hholds, hsame⟩ := ih (pushStep acked content acc id₀) hstep
      have hmem : id ∈ id₀ :: ids ↔ id ∈ ids := by simp [hid]
      rw [hmem]
      exact ⟨agent', hfind', hholds, hsame⟩

/-- The agents that a group operation visits. -/
theorem mem_agentsInGroup (order : IterOrder UUID) (groupId : String) (agents : Agents)
    (id : UUID) :
    id ∈ agentsInGroup order groupId agents ↔
      ∃ agent, agents.findAgent id = some agent ∧ agent.groupID = some groupId := by
  unfold agentsInGroup
  rw [List.mem_filter, (order.perm _).mem_iff, GoMap.mem_keys_iff]
  constructor
  · intro h
    obtain ⟨⟨agent, hfind⟩, hgroup⟩ := h
    have hfind' : agents.findAgent id = some agent := hfind
    rw [hfind'] at hgroup
    exact ⟨agent, hfind', by simpa using hgroup⟩
  · intro h
    obtain ⟨agent, hfind, hgroup⟩ := h
    refine ⟨⟨agent, hfind⟩, ?_⟩
    rw [hfind]
    simpa using hgroup

end ConfigSender

end OtelHive.Opamp
