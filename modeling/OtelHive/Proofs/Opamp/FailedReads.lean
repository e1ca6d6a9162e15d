import OtelHive.Proofs.Opamp.Groups

/-!
# `OtelHive.Proofs.Opamp.FailedReads`: what `persistAgent` creates after a failed read

`persistAgent` logs an error of `GetAgent` and of `GetGroupByName` and goes on as if nothing had
been found. So it tries to insert a group and an agent, and a failed read creates nothing exactly if
both inserts fail or are not tried (`createsNothing_iff`).
-/

set_option autoImplicit false

namespace OtelHive.Opamp

open OtelHive.Lib
open OtelHive.Sqlite (Storage)
open OtelHive.Types (Group)

section Persist

variable (env : Env) (s : Storage) (agent : Agent)

/-- `GetAgent` returns an error, or it finds no row and the lookup of the group returns one. -/
def ReadFails : Prop :=
  env.faults .getAgent ≠ none ∨
    (∀ row ∈ s.agents, row.id ≠ agent.instanceId) ∧ (∃ name ∈ agent.groupName, name ≠ "") ∧
      env.faults .listGroups ≠ none

/-- The group step inserts a group: the agent names one, no group with the name is found, and the
insert succeeds. -/
def InsertsGroup : Prop :=
  (∃ name ∈ agent.groupName, name ≠ "" ∧
      (env.faults .listGroups = none → ∀ group ∈ s.groups, group.name ≠ name)) ∧
    env.faults .createGroup = none ∧ ∀ group ∈ s.groups, group.id ≠ env.newUUID

/-- The insert of the agent succeeds. -/
def InsertsAgent : Prop :=
  env.faults .createAgent = none ∧ ∀ row ∈ s.agents, row.id ≠ agent.instanceId

/-- If a read fails, the tables of the groups and the agents stay as they are, and the agent in
memory does not get the id of a new group. -/
def CreatesNothing (msg : AgentToServer) : Prop :=
  ReadFails env s agent →
    (persistAgent env s agent msg).2.groups = s.groups ∧
      (persistAgent env s agent msg).2.agents = s.agents ∧
      ¬ ∃ group ∈ (persistAgent env s agent msg).2.groups, group ∉ s.groups ∧
        (persistAgent env s agent msg).1.groupID = some group.id

end Persist

variable {env : Env} {s : Storage} {agent : Agent} {msg : AgentToServer}

/-- The group that is inserted. -/
theorem autoCreateGroup_of_inserts (h : InsertsGroup env s agent) :
    ∃ name, (autoCreateGroup env s agent).2.groups
      = s.groups ++ [⟨env.newUUID, name, ∅, env.now, env.now⟩] := by
  obtain ⟨⟨name, hname, hne, hnone⟩, hnew⟩ := h
  refine ⟨name, ?_⟩
  rw [autoCreateGroup, hname]
  dsimp only
  rw [if_neg hne]
  rcases getGroupByName_cases env s name with ⟨hread, group, hgroup, hsame, -⟩ | ⟨-, hget⟩
  · exact absurd hsame (hnone hread group hgroup)
  · rcases createGroup_cases env s ⟨env.newUUID, name, ∅, env.now, env.now⟩ with
      ⟨-, hcreate⟩ | ⟨hnot, -⟩
    · rcases hget with hget | ⟨err, hget⟩
      · rw [hget, hcreate]
      · rw [hget, hcreate]
    · exact absurd hnew hnot

/-- Without an insert the tables are as before. -/
theorem autoCreateGroup_of_not_inserts (h : ¬ InsertsGroup env s agent) :
    (autoCreateGroup env s agent).2 = s := by
  rw [autoCreateGroup]
  cases hname : agent.groupName with
  | none => rfl
  | some name =>
    dsimp only
    by_cases hempty : name = ""
    · rw [if_pos hempty]
    · rw [if_neg hempty]
      rcases getGroupByName_cases env s name with ⟨-, group, -, -, hget⟩ | ⟨hnone, hget⟩
      · rw [hget]
      · rcases createGroup_cases env s ⟨env.newUUID, name, ∅, env.now, env.now⟩ with
          ⟨hnew, -⟩ | ⟨-, err, hcreate⟩
        · exact absurd ⟨⟨name, hname, hempty, hnone⟩, hnew⟩ h
        · rcases hget with hget | ⟨err', hget⟩
          · rw [hget, hcreate]
          · rw [hget, hcreate]

/-- A failed read has the same effect as a missing row. -/
theorem getAgent_of_readFails (h : ReadFails env s agent) :
    Services.getAgent env s agent.instanceId = .ok none ∨
      ∃ err, Services.getAgent env s agent.instanceId = .error err := by
  rcases getAgent_cases env s agent.instanceId with ⟨row, hrow, hid, hget⟩ | hget
  · rcases h with hfault | ⟨hnone, -⟩
    · obtain ⟨err, herr⟩ := Option.ne_none_iff_exists'.mp hfault
      rw [Services.getAgent, Env.call, herr] at hget
      cases hget
    · exact absurd hid (hnone row hrow)
  · exact hget

/-- The insert of the agent leaves the groups alone, and the agents if it fails. -/
theorem logged_createAgent_iff (env : Env) (s : Storage) (agent : Agent) (msg : AgentToServer) :
    (logged (autoCreateGroup env s agent).2 (Services.createAgent env
      (autoCreateGroup env s agent).2
      (newServiceAgent env (autoCreateGroup env s agent).1 msg))).groups
        = (autoCreateGroup env s agent).2.groups ∧
      ((logged (autoCreateGroup env s agent).2 (Services.createAgent env
        (autoCreateGroup env s agent).2
        (newServiceAgent env (autoCreateGroup env s agent).1 msg))).agents = s.agents ↔
          ¬ InsertsAgent env s agent) := by
  obtain ⟨⟨groupID, hagent⟩, ⟨groups, hstore⟩⟩ := autoCreateGroup_frame env s agent
  have hagents : (autoCreateGroup env s agent).2.agents = s.agents := by rw [hstore]
  have hid : (newServiceAgent env (autoCreateGroup env s agent).1 msg).id = agent.instanceId := by
    rw [hagent]
    rfl
  unfold InsertsAgent
  rcases createAgent_cases env (autoCreateGroup env s agent).2
      (newServiceAgent env (autoCreateGroup env s agent).1 msg) with
    ⟨hnew, hcreate⟩ | ⟨hnot, err, hcreate⟩
  · rw [hagents, hid] at hnew
    rw [hcreate]
    refine ⟨rfl, ?_⟩
    show (autoCreateGroup env s agent).2.agents ++ _ = s.agents ↔ _
    rw [hagents]
    exact iff_of_false (by simp) (not_not.mpr hnew)
  · rw [hagents, hid] at hnot
    rw [hcreate]
    exact ⟨rfl, iff_of_true hagents hnot⟩

/-- A failed read creates nothing exactly if neither a group nor an agent is inserted. -/
theorem createsNothing_iff (env : Env) (s : Storage) (agent : Agent) (msg : AgentToServer) :
    CreatesNothing env s agent msg ↔
      (ReadFails env s agent → ¬ InsertsGroup env s agent ∧ ¬ InsertsAgent env s agent) := by
  unfold CreatesNothing
  refine forall_congr' ?_
  intro hfails
  rw [persistAgent_of_noRow (getAgent_of_readFails hfails)]
  dsimp only
  obtain ⟨hgroups, hagents⟩ := logged_createAgent_iff env s agent msg
  rw [hgroups, hagents]
  by_cases hinserts : InsertsGroup env s agent
  · obtain ⟨name, hgroups⟩ := autoCreateGroup_of_inserts hinserts
    rw [hgroups]
    refine iff_of_false ?_ fun h => h.1 hinserts
    rintro ⟨hsame, -⟩
    simp at hsame
  · rw [autoCreateGroup_of_not_inserts hinserts]
    constructor
    · rintro ⟨-, hnot, -⟩
      exact ⟨hinserts, hnot⟩
    · rintro ⟨-, hnot⟩
      exact ⟨rfl, hnot, fun ⟨group, hgroup, hnew, _⟩ => hnew hgroup⟩

/-- A database with a group `"g"` and an agent in it. -/
def storedMember : Storage where
  agents := [{
    id := .nil, name := "a", labels := ∅, status := .online, lastSeen := 0, groupID := some "g",
    groupName := some "ops", version := "1", capabilities := [], createdAt := 0, updatedAt := 0 }]
  groups := [⟨"g", "ops", ∅, 0, 0⟩]
  configs := []

/-- The agent of that row in memory. -/
def member : Agent :=
  { newAgent .nil 0 with groupID := some "g", groupName := some "ops" }

/-- A message without any report. -/
def emptyReport : AgentToServer where
  instanceUid := UUID.nil.bytes

/-- An environment in which the reads of the agent and of the groups fail. -/
def lockedEnv : Env :=
  { Env.quiet 1 "u" with
    faults := fun op => if op = .getAgent ∨ op = .listGroups then some "locked" else none }

/-- The agent and its group are stored. A second group with the name is created, and the agent in
memory moves to it. -/
theorem group_created_after_failed_read :
    (persistAgent lockedEnv storedMember member emptyReport).2.groups
        = storedMember.groups ++ [⟨"u", "ops", ∅, 1, 1⟩] ∧
      (persistAgent lockedEnv storedMember member emptyReport).1.groupID = some "u" ∧
      ¬ ∀ env s agent msg, CreatesNothing env s agent msg := by
  refine ⟨rfl, rfl, ?_⟩
  intro hall
  have hgroups := (hall lockedEnv storedMember member emptyReport (Or.inl (by decide))).1
  exact absurd (congrArg List.length hgroups) (by decide)

end OtelHive.Opamp
