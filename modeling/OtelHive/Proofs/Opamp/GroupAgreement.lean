import OtelHive.Lib.Runs
import OtelHive.Proofs.Opamp.ConfigSender
import OtelHive.Proofs.Opamp.Server

/-!
# `OtelHive.Proofs.Opamp.GroupAgreement`: the two group ids of an agent

The server holds the group of an agent twice: in memory, where a group push reads it, and in
the row of the agent. `processAgentGrouping` overwrites the first at every description with
the group id attribute, and an empty one counts. `persistAgent` writes the second once, when
it creates the row, and there it may replace the id by that of the group with the agent's
group name.

`GroupsAgree` says that the two are equal for every registered agent. Then a group push
visits exactly the registered agents with that stored group (`targetsAgree_of_groupsAgree`).

A message keeps the agreement exactly when the group it leaves in memory is the stored one
(`KeepsStoredGroup`); a message that creates the row always does.
`groupsAgree_along_iff` carries this from one step to a run.
-/

set_option autoImplicit false

namespace OtelHive.Opamp.Server

open OtelHive.Lib

/-- The group in memory of each registered agent is the stored group. -/
def GroupsAgree (srv : Server) : Prop :=
  ∀ id agent, srv.agents.findAgent id = some agent →
    ∃ row, srv.store.getAgent id = some row ∧ agent.groupID = row.groupID

/-- `SendConfigToAgentsInGroup` and `RestartAgentsInGroup` visit the registered agents whose
stored group is the given one, and no others, in whatever order the loop runs. -/
def TargetsAgree (srv : Server) : Prop :=
  ∀ (order : IterOrder UUID) (groupId : String) (id : UUID),
    id ∈ ConfigSender.agentsInGroup order groupId srv.agents ↔
      ∃ agent row, srv.agents.findAgent id = some agent ∧ srv.store.getAgent id = some row ∧
        row.groupID = some groupId

/-- The event leaves the group of its agent in memory equal to the stored group, if the
agent has a row. -/
def KeepsStoredGroup (srv : Server) : Event → Prop
  | .message _ _ msg => ∀ id row, UUID.ofSlice msg.instanceUid = .ok id →
      srv.store.getAgent id = some row → srv.groupAfter id msg = row.groupID
  | .disconnect _ _ => True

/-- With the groups in agreement, the visited agents are those with the stored group. -/
theorem targetsAgree_of_groupsAgree {srv : Server} (h : srv.GroupsAgree) :
    srv.TargetsAgree := by
  intro order groupId id
  rw [ConfigSender.mem_agentsInGroup]
  constructor
  · intro hmem
    obtain ⟨agent, hfind, hgroup⟩ := hmem
    obtain ⟨row, hrow, hagree⟩ := h id agent hfind
    exact ⟨agent, row, hfind, hrow, hagree.symm.trans hgroup⟩
  · intro hmem
    obtain ⟨agent, row, hfind, hrow, hgroup⟩ := hmem
    obtain ⟨row', hrow', hagree⟩ := h id agent hfind
    rw [hrow] at hrow'
    cases hrow'
    exact ⟨agent, hfind, hagree.trans hgroup⟩

/-- A message keeps the agreement exactly when it keeps the stored group. -/
theorem groupsAgree_message_iff {env : Env} {conn : Conn} {msg : AgentToServer}
    {srv srv' : Server} (hfree : env.FaultFree) (hwf : srv.agents.WellFormed)
    (hagree : srv.GroupsAgree) (h : step srv (.message env conn msg) = some srv') :
    srv'.GroupsAgree ↔ srv.KeepsStoredGroup (.message env conn msg) := by
  obtain ⟨id, agent, hid, hinstance, _, hgroup, hfind, hstore, _⟩ := step_message hwf h
  obtain ⟨row', hrow', _, hrowGroup, hsame⟩ := getAgent_persistAgent hfree srv.store agent msg
  rw [hinstance, ← hstore] at hrow'
  rw [hinstance] at hrowGroup hsame
  have hself := hfind id
  rw [if_pos rfl] at hself
  constructor
  · intro hagree' id' row hid' hrow
    rw [hid] at hid'
    cases hid'
    obtain ⟨row₁, hrow₁, hgroup₁⟩ := hagree' id _ hself
    rw [hrow'] at hrow₁
    cases hrow₁
    rw [hrow] at hrowGroup hsame
    rw [← hgroup, ← hsame rfl, hgroup₁, hrowGroup]
  · intro hkeeps id' agent' hfind'
    rw [hfind id'] at hfind'
    by_cases heq : id' = id
    · subst heq
      rw [if_pos rfl] at hfind'
      cases hfind'
      refine ⟨row', hrow', ?_⟩
      cases hrow : srv.store.getAgent id' with
      | none =>
        -- The message creates the row, with the group of the agent.
        rw [hrow] at hrowGroup
        exact hrowGroup.symm
      | some row =>
        rw [hrow] at hrowGroup hsame
        rw [hsame rfl, hgroup, hkeeps id' row hid hrow, hrowGroup]
    · rw [if_neg heq] at hfind'
      obtain ⟨row, hrow, hrowAgree⟩ := hagree id' agent' hfind'
      refine ⟨row, ?_, hrowAgree⟩
      rw [hstore, getAgent_persistAgent_of_ne env srv.store agent msg, hrow]
      rw [hinstance]
      exact heq

/-- A closed connection keeps the agreement. -/
theorem groupsAgree_onDisconnect {srv : Server} (hagree : srv.GroupsAgree) (env : Env)
    (conn : Conn) : (onDisconnect env conn srv).GroupsAgree := by
  intro id agent hfind
  have hfind' : srv.agents.findAgent id = some agent := by
    have hremoved : (srv.agents.removeConnection conn).findAgent id = some agent := hfind
    rw [Agents.findAgent_removeConnection] at hremoved
    split at hremoved
    · cases hremoved
    · exact hremoved
  obtain ⟨row, hrow, hgroup⟩ := hagree id agent hfind'
  obtain ⟨row', hrow', hgroup'⟩ := groupID_onDisconnect env conn hrow
  exact ⟨row', hrow', hgroup.trans hgroup'.symm⟩

/-- Take a run from a fresh registry in which the storage calls of the messages succeed. The
groups agree in every state of the run, and group operations visit exactly the agents with
the stored group, if and only if every message keeps the stored group. -/
theorem groupsAgree_along_iff (store : Sqlite.Storage) (grpc http : String) (es : List Event)
    (hstorage : ∀ e ∈ es, e.StorageWorks)
    (hrun : (run step (newServer store grpc http) es).isSome) :
    Along step (fun srv => srv.GroupsAgree ∧ srv.TargetsAgree) (newServer store grpc http) es ↔
      StepsMeet step KeepsStoredGroup (newServer store grpc http) es := by
  have hinit : (newServer store grpc http).GroupsAgree := by
    intro id agent hfind
    have hnone : newAgents.findAgent id = none := GoMap.lookup_empty id
    rw [show (newServer store grpc http).agents = newAgents from rfl, hnone] at hfind
    cases hfind
  refine along_iff_stepsMeet (I := fun srv => srv.agents.WellFormed)
    (D := Event.StorageWorks) ?_ ?_ hstorage Agents.wellFormed_newAgents
    ⟨hinit, targetsAgree_of_groupsAgree hinit⟩ hrun
  · intro srv e srv' hwf hstep
    exact wellFormed_step hwf hstep
  · intro srv e srv' hworks hwf hP hstep
    have hboth : srv'.GroupsAgree ∧ srv'.TargetsAgree ↔ srv'.GroupsAgree :=
      ⟨fun h => h.1, fun h => ⟨h, targetsAgree_of_groupsAgree h⟩⟩
    rw [hboth]
    cases e with
    | message env conn msg => exact groupsAgree_message_iff hworks hwf hP.1 hstep
    | disconnect env conn =>
      cases hstep
      exact ⟨fun _ => trivial, fun _ => groupsAgree_onDisconnect hP.1 env conn⟩

/-! ### A group that is known by its name -/

/-- A report of the agent `uid` with a group name and without a group id. -/
def namedGroupReport (uid : UUID) (groupName : String) : AgentToServer where
  instanceUid := uid.bytes
  agentDescription := some ⟨[⟨"group.name", some (.stringValue groupName)⟩], []⟩

/-- One report of the group name creates the group, and both ids are that of the group. -/
theorem groupsAgree_along_iff_first_report :
    Along step (fun srv => srv.GroupsAgree ∧ srv.TargetsAgree) (newServer .empty "" "")
        [.message (.quiet 0 "g-1") 1 (namedGroupReport .nil "prod")] ↔
      StepsMeet step KeepsStoredGroup (newServer .empty "" "")
        [.message (.quiet 0 "g-1") 1 (namedGroupReport .nil "prod")] :=
  groupsAgree_along_iff .empty "" ""
    [.message (.quiet 0 "g-1") 1 (namedGroupReport .nil "prod")]
    (by
      intro e he
      rw [List.mem_singleton.mp he]
      exact Env.quiet_faultFree 0 "g-1")
    (by decide +kernel)

/-- The description sent again empties the group id in memory, and the stored one stays. -/
theorem resent_description_breaks_agreement :
    ¬ ∀ (store : Sqlite.Storage) (es : List Event) (srv : Server),
      (∀ e ∈ es, e.StorageWorks) → run step (newServer store "" "") es = some srv →
      srv.GroupsAgree ∧ srv.TargetsAgree := by
  intro hall
  let es : List Event := [.message (.quiet 0 "g-1") 1 (namedGroupReport .nil "prod"),
    .message (.quiet 1 "g-2") 1 (namedGroupReport .nil "prod")]
  have hworks : ∀ e ∈ es, e.StorageWorks := by
    intro e he
    rcases List.mem_pair.mp he with rfl | rfl
    · exact Env.quiet_faultFree 0 "g-1"
    · exact Env.quiet_faultFree 1 "g-2"
  have hend : ((run step (newServer .empty "" "") es).bind fun srv =>
      (srv.agents.findAgent .nil).map fun agent =>
        (agent.groupID, (srv.store.getAgent .nil).map (·.groupID)))
      = some (some "", some (some "g-1")) := by decide +kernel
  obtain ⟨srv, hrun, hend⟩ := Option.bind_eq_some_iff.mp hend
  obtain ⟨agent, hfind, hgroups⟩ := Option.map_eq_some_iff.mp hend
  obtain ⟨row, hrow, hagree⟩ := (hall .empty es srv hworks hrun).1 .nil agent hfind
  rw [hrow, hagree] at hgroups
  simp only [Option.map_some, Option.some.injEq, Prod.mk.injEq] at hgroups
  have hclash : some "" = some "g-1" := hgroups.1.symm.trans hgroups.2
  exact absurd hclash (by decide)

end OtelHive.Opamp.Server
