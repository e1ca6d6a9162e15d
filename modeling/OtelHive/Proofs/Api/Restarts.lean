import OtelHive.Proofs.Api.Fleet

/-!
# `OtelHive.Proofs.Api.Restarts`: restarts of a group

A restart goes to an agent that is registered and accepts the command. `restartGroup_exact` says
what `HandleRestartGroup` reports: each registered member of the group is counted once, as
restarted exactly if a restart of it alone succeeds, whatever the order of the loop over the
registry. No member fails because it is not found, and the message of a restart names the agent it
was meant for.
-/

set_option autoImplicit false

namespace OtelHive.Api.Fleet

open OtelHive.Lib
open OtelHive.Opamp
open OtelHive.Sqlite (Storage)
open OtelHive.Types (Group)

/-- The agent accepts restarts. -/
def Willing (agents : Agents) (id : UUID) : Bool :=
  (agents.findAgent id).any (·.hasCapability AgentCapabilities.acceptsRestartCommand)

/-- The error of a restart. -/
def restartError (cs : ConfigSender) (id : UUID) : Option String :=
  match cs.restartAgent id with
  | .ok _ => none
  | .error err => some err

/-- A restart of a registered agent. -/
theorem restartAgent_of_find {cs : ConfigSender} {id : UUID} {agent : Agent}
    (h : cs.agents.findAgent id = some agent) :
    cs.restartAgent id
      = if Willing cs.agents id then .ok agent.restartCommand
        else .error "agent does not support restart command" := by
  unfold ConfigSender.restartAgent Willing
  rw [h, Option.any_some]
  dsimp only
  cases agent.hasCapability AgentCapabilities.acceptsRestartCommand with
  | true => rfl
  | false => rfl

/-- A registered agent has no error exactly if it accepts restarts. -/
theorem restartError_isNone {cs : ConfigSender} {id : UUID} {agent : Agent}
    (h : cs.agents.findAgent id = some agent) :
    (restartError cs id).isNone = Willing cs.agents id := by
  unfold restartError
  rw [restartAgent_of_find h]
  cases Willing cs.agents id with
  | true => rfl
  | false => rfl

/-- The loop of a group operation counts each agent once. -/
theorem foldl_add (err : UUID → Option String) (ids : List UUID)
    (acc : ConfigSender.GroupResult) :
    (ids.foldl (fun result id => result.add id (err id)) acc).updatedAgents
        = acc.updatedAgents ++ ids.filter (fun id => (err id).isNone) ∧
      (ids.foldl (fun result id => result.add id (err id)) acc).errors.length
        = acc.errors.length + ids.countP fun id => !(err id).isNone := by
  induction ids generalizing acc with
  | nil => simp
  | cons id ids ih =>
    rw [List.foldl_cons, (ih _).1, (ih _).2, List.filter_cons, List.countP_cons]
    unfold ConfigSender.GroupResult.add
    cases err id with
    | none => simp
    | some text => simp; omega

/-- The registered members of a group, in the order of the registry. -/
def members (groupID : String) (agents : Agents) : List UUID :=
  ConfigSender.agentsInGroup .asIs groupID agents

theorem agentsInGroup_perm (order : IterOrder UUID) (groupID : String) (agents : Agents) :
    (ConfigSender.agentsInGroup order groupID agents).Perm (members groupID agents) := by
  unfold members ConfigSender.agentsInGroup
  exact (order.perm _).filter _

theorem nodup_members (groupID : String) (agents : Agents) : (members groupID agents).Nodup :=
  (agents.agentsById.keys_nodup).sublist List.filter_sublist

/-- The two counts of a group restart. -/
theorem restartAgentsInGroup_counts (order : IterOrder UUID) (groupID : String)
    (cs : ConfigSender) :
    (cs.restartAgentsInGroup order groupID).updatedAgents.length
        = ((members groupID cs.agents).filter (Willing cs.agents)).length ∧
      (cs.restartAgentsInGroup order groupID).errors.length
        = ((members groupID cs.agents).filter (!Willing cs.agents ·)).length := by
  have hperm := agentsInGroup_perm order groupID cs.agents
  have hnone : ∀ id ∈ ConfigSender.agentsInGroup order groupID cs.agents,
      (restartError cs id).isNone = Willing cs.agents id := by
    intro id hmem
    obtain ⟨agent, hfind, _⟩ := (ConfigSender.mem_agentsInGroup order groupID cs.agents id).mp hmem
    exact restartError_isNone hfind
  have hloop : cs.restartAgentsInGroup order groupID
      = (ConfigSender.agentsInGroup order groupID cs.agents).foldl
          (fun result id => result.add id (restartError cs id)) {} := rfl
  obtain ⟨hupdated, herrors⟩ := foldl_add (restartError cs)
    (ConfigSender.agentsInGroup order groupID cs.agents) {}
  rw [hloop, hupdated, herrors]
  refine ⟨?_, ?_⟩
  · rw [List.nil_append, List.filter_congr hnone]
    exact (hperm.filter _).length_eq
  · have hcongr : (ConfigSender.agentsInGroup order groupID cs.agents).countP
          (fun id => !(restartError cs id).isNone)
        = (ConfigSender.agentsInGroup order groupID cs.agents).countP
          (!Willing cs.agents ·) := by
      refine List.countP_congr ?_
      intro id hmem
      rw [hnone id hmem]
    rw [hcongr, hperm.countP_eq, List.countP_eq_length_filter]
    show 0 + _ = _
    rw [Nat.zero_add]

/-- What the response for two counts says. -/
theorem restartGroupReply_eq (restarted failed : Nat) :
    ∃ status success message,
      restartGroupReply restarted failed = .restartGroup status success message restarted failed ∧
        (success = true ↔ 0 < restarted) ∧
        status = if restarted = 0 ∧ 0 < failed then 400 else 200 := by
  unfold restartGroupReply
  dsimp only
  by_cases hfailed : failed = 0
  · by_cases hrestarted : restarted = 0
    · rw [if_pos hfailed, if_pos hrestarted]
      exact ⟨_, _, _, rfl, by simp [hrestarted], by simp [hfailed]⟩
    · rw [if_pos hfailed, if_neg hrestarted]
      exact ⟨_, _, _, rfl, by simpa using Nat.pos_of_ne_zero hrestarted, by simp [hfailed]⟩
  · by_cases hrestarted : restarted > 0
    · rw [if_neg hfailed, if_pos hrestarted]
      exact ⟨_, _, _, rfl, by simpa using hrestarted, by simp [Nat.ne_of_gt hrestarted]⟩
    · rw [if_neg hfailed, if_neg hrestarted]
      have hzero : restarted = 0 := by omega
      exact ⟨_, _, _, rfl, by simp [hzero], by simp⟩

/-- In every reachable state, the registered members of a group are of two kinds. A restart of a
willing one sends the command to it, and a restart of the other ones is refused as not supported.
A restart of the group counts the first kind as restarted and the second as failed, in any order of
the loop. It succeeds if there is a willing one, and its status is 400 if there are members but no
willing one. -/
theorem restartGroup_exact {t : State} {es : List Event} (hrun : run step start es = some t)
    (groupID : String) :
    ∃ willing unwilling : List UUID, (willing ++ unwilling).Nodup ∧
      (∀ id, id ∈ willing ++ unwilling ↔
        ∃ agent, t.sender.agents.findAgent id = some agent ∧ agent.groupID = some groupID) ∧
      (∀ env agentID id, id ∈ willing → agentID ≠ "" → env.uuidParse agentID = some id →
        ∃ command, handleRestartAgent env agentID t.sender
            = (.restart 200 true "Restart command sent to agent successfully", some command) ∧
          command.instanceUid = id.bytes ∧ command.command = some .restart) ∧
      (∀ env agentID id, id ∈ unwilling → agentID ≠ "" → env.uuidParse agentID = some id →
        handleRestartAgent env agentID t.sender
          = (.restart 400 false "agent does not support restart command", none)) ∧
      ∀ env order group, groupID ≠ "" →
        Services.getGroup env t.store groupID = .ok (some group) →
        ∃ status success message,
          handleRestartGroup env t.store order groupID t.sender
            = .restartGroup status success message willing.length unwilling.length ∧
          (success = true ↔ willing ≠ []) ∧
          status = if willing = [] ∧ unwilling ≠ [] then 400 else 200 := by
  have hwf : t.sender.agents.WellFormed := wellFormed_run Agents.wellFormed_newAgents hrun
  have hmember : ∀ id, id ∈ members groupID t.sender.agents ↔
      ∃ agent, t.sender.agents.findAgent id = some agent ∧ agent.groupID = some groupID :=
    ConfigSender.mem_agentsInGroup .asIs groupID t.sender.agents
  have hperm : ((members groupID t.sender.agents).filter (Willing t.sender.agents)
      ++ (members groupID t.sender.agents).filter (!Willing t.sender.agents ·)).Perm
      (members groupID t.sender.agents) := List.filter_append_perm _ _
  refine ⟨(members groupID t.sender.agents).filter (Willing t.sender.agents),
    (members groupID t.sender.agents).filter (!Willing t.sender.agents ·), ?_, ?_, ?_, ?_, ?_⟩
  · exact hperm.nodup_iff.mpr (nodup_members groupID t.sender.agents)
  · intro id
    rw [hperm.mem_iff, hmember]
  · intro env agentID id hid hne hparse
    obtain ⟨hmem, hwilling⟩ := List.mem_filter.mp hid
    obtain ⟨agent, hfind, _⟩ := (hmember id).mp hmem
    refine ⟨agent.restartCommand, ?_, ?_, rfl⟩
    · unfold handleRestartAgent
      rw [if_neg hne, hparse]
      dsimp only
      rw [restartAgent_of_find hfind, if_pos hwilling]
    · show agent.instanceId.bytes = id.bytes
      rw [(hwf.bound id agent hfind).1]
  · intro env agentID id hid hne hparse
    obtain ⟨hmem, hunwilling⟩ := List.mem_filter.mp hid
    obtain ⟨agent, hfind, _⟩ := (hmember id).mp hmem
    unfold handleRestartAgent
    rw [if_neg hne, hparse]
    dsimp only
    rw [restartAgent_of_find hfind, if_neg (by simpa using hunwilling)]
    rfl
  · intro env order group hne hgroup
    obtain ⟨hrestarted, hfailed⟩ := restartAgentsInGroup_counts order groupID t.sender
    obtain ⟨status, success, message, hreply, hsuccess, hstatus⟩ := restartGroupReply_eq
      ((members groupID t.sender.agents).filter (Willing t.sender.agents)).length
      ((members groupID t.sender.agents).filter (!Willing t.sender.agents ·)).length
    refine ⟨status, success, message, ?_, ?_, ?_⟩
    · unfold handleRestartGroup
      rw [if_neg hne, hgroup]
      dsimp only
      rw [hrestarted, hfailed, hreply]
    · rw [hsuccess, List.length_pos_iff]
    · rw [hstatus]
      exact if_congr (and_congr List.length_eq_zero_iff List.length_pos_iff) rfl rfl

/-- An agent that accepts restarts, and one that does not, in one group. -/
def mixedGroup : List Event := [
  .createGroup (.quiet 0 "g-1") (.ok { name := "prod" }),
  .request (.opamp (.message (.quiet 1 "") 1 {
    instanceUid := List.replicate 16 1
    capabilities := AgentCapabilities.acceptsRestartCommand
    agentDescription := some ⟨[⟨"group.id", some (.stringValue "g-1")⟩], []⟩ })),
  .request (.opamp (.message (.quiet 2 "") 2 {
    instanceUid := List.replicate 16 2
    agentDescription := some ⟨[⟨"group.id", some (.stringValue "g-1")⟩], []⟩ }))]

theorem restartGroup_exact_mixedGroup :
    ∃ t, run step start mixedGroup = some t ∧
      ∃ willing unwilling : List UUID, (willing ++ unwilling).Nodup ∧
        (∀ id, id ∈ willing ++ unwilling ↔
          ∃ agent, t.sender.agents.findAgent id = some agent ∧ agent.groupID = some "g-1") ∧
        (∀ env agentID id, id ∈ willing → agentID ≠ "" → env.uuidParse agentID = some id →
          ∃ command, handleRestartAgent env agentID t.sender
              = (.restart 200 true "Restart command sent to agent successfully", some command) ∧
            command.instanceUid = id.bytes ∧ command.command = some .restart) ∧
        (∀ env agentID id, id ∈ unwilling → agentID ≠ "" → env.uuidParse agentID = some id →
          handleRestartAgent env agentID t.sender
            = (.restart 400 false "agent does not support restart command", none)) ∧
        ∀ env order group, "g-1" ≠ "" →
          Services.getGroup env t.store "g-1" = .ok (some group) →
          ∃ status success message,
            handleRestartGroup env t.store order "g-1" t.sender
              = .restartGroup status success message willing.length unwilling.length ∧
            (success = true ↔ willing ≠ []) ∧
            status = if willing = [] ∧ unwilling ≠ [] then 400 else 200 := by
  have hrun : run step start mixedGroup
      = some ((run step start mixedGroup).get (by decide +kernel)) := (Option.some_get _).symm
  exact ⟨_, hrun, restartGroup_exact hrun "g-1"⟩

end OtelHive.Api.Fleet
