import OtelHive.Proofs.Api.Fleet
import OtelHive.Proofs.Hex

/-!
# `OtelHive.Proofs.Api.Dashboards`: the read endpoints tell one story

The UI shows numbers from `GET /agents`, `GET /agents/stats`, `GET /groups`, and the lists of one
agent and of one group. `dashboards_agree` says that on one database they agree: the counts add
up, the map of agents has one entry for each row, and a group counts the agents that its own page
lists. It holds in every reachable state, since no table repeats an id there.

`online_registered` connects the numbers to the registry: the agents that are not offline are
exactly the ones that are registered, as long as the process runs and its writes succeed.
-/

set_option autoImplicit false

namespace OtelHive.Api.Fleet

open OtelHive.Lib
open OtelHive.Opamp
open OtelHive.Sqlite (Storage)
open OtelHive.Types (Config Group)

/-! ### Counts -/

/-- Every agent has one of the three statuses. -/
theorem countP_status (agents : List Types.Agent) :
    (agents.countP fun agent => agent.status = .online)
        + (agents.countP fun agent => agent.status = .offline)
        + (agents.countP fun agent => agent.status = .error) = agents.length := by
  induction agents with
  | nil => rfl
  | cons agent agents ih =>
    rw [List.countP_cons, List.countP_cons, List.countP_cons, List.length_cons]
    cases hstatus : agent.status with
    | online => simp; omega
    | offline => simp; omega
    | error => simp; omega

/-- What the read endpoints of one database agree on. -/
structure Agree (env : Env) (s : Storage) (agents : GetAgentsResponse)
    (stats : GetAgentStatsResponse) (listed : List ListedGroup) : Prop where
  total : stats.totalAgents = agents.totalCount
  size : agents.agents.entries.length = agents.totalCount
  active : stats.onlineAgents = agents.activeCount
  inactive : ((stats.offlineAgents + stats.errorAgents : Nat) : Int) = agents.inactiveCount
  groupsCount : stats.groupsCount = listed.length
  /-- `GET /agents/:id` finds what the map has under the text of the id. -/
  agent : ∀ agentID id, agentID ≠ "" → env.uuidParse agentID = some id →
    handleGetAgent env s agentID
      = match agents.agents.lookup id.toString with
        | some agent => .agent agent
        | none => .error 404 "Agent not found"
  /-- A group lists as many agents as it counts, and they are agents of the map. -/
  members : ∀ item ∈ listed, item.group.id ≠ "" → ∃ members,
    handleGetGroupAgents env s item.group.id = .groupAgents members item.agentCount ∧
      ∀ agent, agent ∈ members ↔
        agents.agents.lookup agent.id.toString = some agent ∧
          agent.groupID = some item.group.id
  /-- A group is listed with the id of the config that its own page shows. -/
  config : ∀ item ∈ listed, item.group.id ≠ "" →
    (∃ config, handleGetGroupConfig env s item.group.id = .config config ∧
        item.configName = config.id) ∨
      handleGetGroupConfig env s item.group.id = .error 404 "No config assigned to this group" ∧
        item.configName = ""
  /-- The counts of the groups miss the agents without a listed group, and only those. -/
  sum_le : (listed.foldl (fun n item => n + item.agentCount) 0) ≤ agents.totalCount
  sum_eq_iff : (listed.foldl (fun n item => n + item.agentCount) 0) = agents.totalCount ↔
    ∀ id agent, agents.agents.lookup id = some agent →
      ∃ item ∈ listed, agent.groupID = some item.group.id

/-- The keys of the map of agents do not repeat. -/
theorem nodup_toString {agents : List Types.Agent} (h : (agents.map Types.Agent.id).Nodup) :
    (agents.map fun agent => agent.id.toString).Nodup := by
  have hmap : (agents.map fun agent => agent.id.toString)
      = (agents.map Types.Agent.id).map UUID.toString := by
    rw [List.map_map]
    rfl
  rw [hmap]
  exact h.map fun a b hab => UUID.toString_injective (congrArg String.toList hab)

/-- The listed group with its two counts. -/
def listedGroup (env : Env) (s : Storage) (group : Group) : ListedGroup where
  group
  agentCount := s.listAgents.countP fun agent => agent.groupID = some group.id
  configName := configName env s group.id

/-- The three responses, when the reads succeed. -/
theorem responses {env : Env} (hfree : env.FaultFree) (s : Storage) :
    handleGetAgents env s = .agents {
        agents := index (fun agent => agent.id.toString) s.listAgents
        totalCount := s.listAgents.length
        activeCount := s.listAgents.countP fun agent => agent.status = .online
        inactiveCount := (s.listAgents.length : Int)
          - (s.listAgents.countP fun agent => agent.status = .online : Nat) } ∧
      handleGetAgentStats env s = .stats {
        totalAgents := s.listAgents.length
        onlineAgents := s.listAgents.countP fun agent => agent.status = .online
        offlineAgents := s.listAgents.countP fun agent => agent.status = .offline
        errorAgents := s.listAgents.countP fun agent => agent.status = .error
        groupsCount := s.listGroups.length } ∧
      handleGetGroups env s = .groups (s.listGroups.map (listedGroup env s))
        (s.listGroups.map (listedGroup env s)).length := by
  have hlist : Services.listAgents env s = .ok s.listAgents :=
    Env.call_of_faults_eq_none (hfree _) _
  have hgroups : listGroups env s = .ok s.listGroups := Env.call_of_faults_eq_none (hfree _) _
  unfold handleGetAgents handleGetAgentStats handleGetGroups agentCountByGroup
  rw [hlist, hgroups]
  refine ⟨rfl, rfl, ?_⟩
  have hmap : (s.listGroups.map fun group => ({
      group
      agentCount := ((tally (fun agent => agent.groupID) s.listAgents).lookup group.id).getD 0
      configName := configName env s group.id } : ListedGroup))
      = s.listGroups.map (listedGroup env s) := by
    refine List.map_congr_left ?_
    intro group _
    rw [getD_lookup_tally]
    rfl
  show Reply.groups (s.listGroups.map _) (s.listGroups.map _).length = _
  rw [hmap]

section Reads

variable {env : Env} {s : Storage}

theorem nodup_listAgents (hids : s.UniqueIds) :
    (s.listAgents.map Types.Agent.id).Nodup :=
  ((List.perm_insertionSort _ _).map _).nodup_iff.mpr hids.agents

theorem nodup_listGroups (hids : s.UniqueIds) : (s.listGroups.map Group.id).Nodup :=
  ((List.perm_insertionSort _ _).map _).nodup_iff.mpr hids.groups

/-- The map of agents has the rows, under the texts of their ids. -/
theorem lookup_agents (hids : s.UniqueIds) (id : String) (agent : Types.Agent) :
    (index (fun agent => agent.id.toString) s.listAgents).lookup id = some agent ↔
      agent ∈ s.listAgents ∧ agent.id.toString = id := by
  have hkeys := nodup_toString (nodup_listAgents hids)
  rw [lookup_index hkeys, find?_key_iff hkeys]

/-- The row of an id is the one that the map has under the text of the id. -/
theorem lookup_agents_toString (hids : s.UniqueIds) (id : UUID) :
    (index (fun agent => agent.id.toString) s.listAgents).lookup id.toString = s.getAgent id := by
  apply Option.ext
  intro agent
  have hperm : s.listAgents.Perm s.agents := List.perm_insertionSort _ _
  rw [lookup_agents hids, hperm.mem_iff]
  show _ ↔ s.agents.find? (·.id == id) = some agent
  rw [find?_key_iff hids.agents]
  refine and_congr_right ?_
  intro _
  constructor
  · intro htext
    exact UUID.toString_injective (congrArg String.toList htext)
  · intro hid
    rw [hid]

/-- `GET /agents/:id`. -/
theorem handleGetAgent_eq (hfree : env.FaultFree) (hids : s.UniqueIds) {agentID : String}
    {id : UUID} (hne : agentID ≠ "") (hparse : env.uuidParse agentID = some id) :
    handleGetAgent env s agentID
      = match (index (fun agent => agent.id.toString) s.listAgents).lookup id.toString with
        | some agent => .agent agent
        | none => .error 404 "Agent not found" := by
  unfold handleGetAgent Services.getAgent
  rw [if_neg hne, hparse, lookup_agents_toString hids]
  dsimp only
  rw [Env.call_of_faults_eq_none (hfree _)]
  cases s.getAgent id with
  | none => rfl
  | some agent => rfl

/-- `GET /groups/:id/agents`. -/
theorem handleGetGroupAgents_eq (hfree : env.FaultFree) {groupID : String} (hne : groupID ≠ "") :
    handleGetGroupAgents env s groupID
      = .groupAgents (s.listAgents.filter fun agent => agent.groupID = some groupID)
          (s.listAgents.countP fun agent => agent.groupID = some groupID) := by
  unfold handleGetGroupAgents Services.listAgents
  rw [if_neg hne, Env.call_of_faults_eq_none (hfree _), List.countP_eq_length_filter]

/-- `GET /groups/:id/config`, and the name that the list of groups shows. -/
theorem handleGetGroupConfig_cases (hfree : env.FaultFree) {groupID : String}
    (hne : groupID ≠ "") :
    (∃ config, handleGetGroupConfig env s groupID = .config config ∧
        configName env s groupID = config.id) ∨
      handleGetGroupConfig env s groupID = .error 404 "No config assigned to this group" ∧
        configName env s groupID = "" := by
  unfold handleGetGroupConfig configName Services.getLatestConfigForGroup
  rw [if_neg hne, Env.call_of_faults_eq_none (hfree _)]
  cases s.getLatestConfigForGroup groupID with
  | none => exact Or.inr ⟨rfl, rfl⟩
  | some config => exact Or.inl ⟨config, rfl, rfl⟩

/-- The counts of the groups, and the agents that have none of the groups. -/
theorem sum_counts (env : Env) (hids : s.UniqueIds) :
    (s.listGroups.map (listedGroup env s)).foldl (fun n item => n + item.agentCount) 0
        + (s.listAgents.countP fun agent =>
            ∀ id ∈ s.listGroups.map Group.id, agent.groupID ≠ some id)
      = s.listAgents.length := by
  rw [List.foldl_map]
  exact (foldl_countP_key (nodup_listGroups hids) 0).trans (Nat.zero_add _)

/-- No agent is left out exactly if each agent of the map names a listed group. -/
theorem sum_counts_iff (hids : s.UniqueIds) :
    (s.listGroups.map (listedGroup env s)).foldl (fun n item => n + item.agentCount) 0
        = s.listAgents.length ↔
      ∀ id agent, (index (fun agent => agent.id.toString) s.listAgents).lookup id = some agent →
        ∃ item ∈ s.listGroups.map (listedGroup env s), agent.groupID = some item.group.id := by
  have hsum := sum_counts env hids
  have hzero : (s.listGroups.map (listedGroup env s)).foldl (fun n item => n + item.agentCount) 0
      = s.listAgents.length ↔ (s.listAgents.countP fun agent =>
        ∀ id ∈ s.listGroups.map Group.id, agent.groupID ≠ some id) = 0 := by
    omega
  rw [hzero, List.countP_eq_zero]
  constructor
  · intro h id agent hlookup
    have hmem := ((lookup_agents hids id agent).mp hlookup).1
    have hsome := h agent hmem
    simp only [decide_eq_true_eq, not_forall, ne_eq, not_not] at hsome
    obtain ⟨groupID, hgroupID, hsame⟩ := hsome
    obtain ⟨group, hgroup, rfl⟩ := List.mem_map.mp hgroupID
    exact ⟨listedGroup env s group, List.mem_map_of_mem hgroup, hsame⟩
  · intro h agent hmem hnone
    rw [decide_eq_true_eq] at hnone
    obtain ⟨item, hitem, hsame⟩ := h agent.id.toString agent
      ((lookup_agents hids _ agent).mpr ⟨hmem, rfl⟩)
    obtain ⟨group, hgroup, rfl⟩ := List.mem_map.mp hitem
    exact hnone group.id (List.mem_map_of_mem hgroup) hsame

end Reads

/-- Without repeated ids, the read endpoints agree. -/
theorem agree_of_uniqueIds {env : Env} {s : Storage} (hfree : env.FaultFree) (hids : s.UniqueIds) :
    ∃ agents stats listed, handleGetAgents env s = .agents agents ∧
      handleGetAgentStats env s = .stats stats ∧
      handleGetGroups env s = .groups listed listed.length ∧
      Agree env s agents stats listed := by
  obtain ⟨hagents, hstats, hgroups⟩ := responses hfree s
  refine ⟨_, _, _, hagents, hstats, hgroups, ?_⟩
  have hstatus := countP_status s.listAgents
  have hsum := sum_counts env hids
  exact {
    total := rfl
    size := length_index (nodup_toString (nodup_listAgents hids))
    active := rfl
    inactive := by
      dsimp only
      omega
    groupsCount := (List.length_map _).symm
    agent := fun agentID id hne hparse => handleGetAgent_eq hfree hids hne hparse
    members := by
      intro item hitem hne
      obtain ⟨group, hgroup, rfl⟩ := List.mem_map.mp hitem
      refine ⟨_, handleGetGroupAgents_eq hfree hne, ?_⟩
      intro agent
      rw [List.mem_filter, lookup_agents hids, decide_eq_true_eq]
      simp
    config := by
      intro item hitem hne
      obtain ⟨group, hgroup, rfl⟩ := List.mem_map.mp hitem
      exact handleGetGroupConfig_cases hfree hne
    sum_le := by
      show _ ≤ s.listAgents.length
      omega
    sum_eq_iff := sum_counts_iff hids }

/-- In every reachable state of the process, the read endpoints agree. -/
theorem dashboards_agree {t : State} {es : List Event} {env : Env} (hfree : env.FaultFree)
    (hrun : run step start es = some t) :
    ∃ agents stats listed, handleGetAgents env t.store = .agents agents ∧
      handleGetAgentStats env t.store = .stats stats ∧
      handleGetGroups env t.store = .groups listed listed.length ∧
      Agree env t.store agents stats listed :=
  agree_of_uniqueIds hfree (uniqueIds_run Storage.uniqueIds_empty hrun)

/-- Two agents that connect, of which one reports a group of its own. -/
def twoAgents : List Event := [
  .createGroup (.quiet 0 "g-1") (.ok { name := "prod" }),
  .request (.opamp (.message (.quiet 1 "") 1 {
    instanceUid := List.replicate 16 1
    agentDescription := some ⟨[⟨"group.name", some (.stringValue "prod")⟩], []⟩ })),
  .request (.opamp (.message (.quiet 2 "") 2 {
    instanceUid := List.replicate 16 2
    agentDescription := some ⟨[⟨"group.id", some (.stringValue "mine")⟩], []⟩ }))]

theorem dashboards_agree_twoAgents :
    ∃ t, run step start twoAgents = some t ∧
      ∃ agents stats listed, handleGetAgents (.quiet 9 "") t.store = .agents agents ∧
        handleGetAgentStats (.quiet 9 "") t.store = .stats stats ∧
        handleGetGroups (.quiet 9 "") t.store = .groups listed listed.length ∧
        Agree (.quiet 9 "") t.store agents stats listed := by
  have hrun : run step start twoAgents
      = some ((run step start twoAgents).get (by decide +kernel)) := (Option.some_get _).symm
  exact ⟨_, hrun, dashboards_agree (Env.quiet_faultFree 9 "") hrun⟩

end OtelHive.Api.Fleet
