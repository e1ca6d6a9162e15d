import OtelHive.Api.Groups
import OtelHive.Lib.References
import OtelHive.Lib.Runs
import OtelHive.Proofs.Opamp.Groups

/-!
# `OtelHive.Proofs.Api.Groups`: which groups the agents name

The column `group_id` of `agents` is a reference to `groups` that the schema does not declare.
`GroupsExist` says that each id in it that is not empty is the id of a group.

Two handlers can break it. The row that `persistAgent` creates takes the group id that the agent
reports, unless the group name leads to a group. `HandleDeleteGroup` deletes a group that agents
name. `groupsExist_along_iff` says that nothing else does.
-/

set_option autoImplicit false

namespace OtelHive.Api.Groups

open OtelHive.Lib
open OtelHive.Opamp
open OtelHive.Sqlite (Storage)
open OtelHive.Types (Group)

/-- Each stored agent whose group id is not empty names a stored group. -/
def GroupsExist (s : Storage) : Prop :=
  ∀ agent ∈ s.agents, ∀ id ∈ agent.groupID, id ≠ "" → ∃ group ∈ s.groups, group.id = id

instance (s : Storage) : Decidable (GroupsExist s) :=
  inferInstanceAs (Decidable (∀ agent ∈ s.agents, ∀ id ∈ agent.groupID,
    id ≠ "" → ∃ group ∈ s.groups, group.id = id))

/-! ### The condition -/

/-- `persistAgent` creates no row, or one that names a stored group or none. -/
def RowFindsGroup (env : Env) (s : Storage) (instanceId : UUID)
    (groupID groupName : Option String) : Prop :=
  (∃ row ∈ s.agents, row.id = instanceId) ∨ env.faults .createAgent ≠ none ∨
    (∃ name ∈ groupName, NamesGroup env s name) ∨
    ∀ id ∈ groupID, id ≠ "" → ∃ group ∈ s.groups, group.id = id

instance (env : Env) (s : Storage) (instanceId : UUID) (groupID groupName : Option String) :
    Decidable (RowFindsGroup env s instanceId groupID groupName) :=
  inferInstanceAs (Decidable (_ ∨ _ ∨ _ ∨ ∀ id ∈ groupID, id ≠ "" → _))

/-- The handlers that leave each agent with a stored group. -/
def KeepsGroups (srv : Server) : Event → Prop
  | .opamp (.message env _ msg) =>
    match UUID.ofSlice msg.instanceUid with
    | .ok instanceId =>
      RowFindsGroup env srv.store instanceId (srv.groupAfter instanceId msg)
        (srv.groupNameAfter instanceId msg)
    | .error _ => True
  | .opamp (.disconnect _ _) => True
  | .createGroup _ _ => True
  | .deleteGroup _ fault groupID =>
    groupID = "" ∨ fault ≠ none ∨ ∀ agent ∈ srv.store.agents, agent.groupID ≠ some groupID

instance (srv : Server) (e : Event) : Decidable (KeepsGroups srv e) :=
  match e with
  | .opamp (.message env _ msg) =>
    match h : UUID.ofSlice msg.instanceUid with
    | .ok instanceId =>
      decidable_of_iff (RowFindsGroup env srv.store instanceId (srv.groupAfter instanceId msg)
        (srv.groupNameAfter instanceId msg))
        (by simp only [KeepsGroups, h])
    | .error _ => .isTrue (by simp only [KeepsGroups, h])
  | .opamp (.disconnect _ _) => .isTrue trivial
  | .createGroup _ _ => .isTrue trivial
  | .deleteGroup _ fault groupID => inferInstanceAs (Decidable (_ ∨ fault ≠ none ∨ _))

/-! ### The references -/

/-- The column `group_id` as a reference to the groups. -/
theorem groupsExist_iff (s : Storage) :
    GroupsExist s ↔
      Refers (Option.filter (· != "")) Group.id (s.agents.map (·.groupID)) s.groups := by
  simp only [GroupsExist, Refers, List.forall_mem_map, Option.filter_eq_some_iff,
    Option.mem_def, bne_iff_ne, and_imp]

/-- The same group ids, and the same groups. -/
structure SameGroups (s s' : Storage) : Prop where
  ids : s'.agents.map (·.groupID) = s.agents.map (·.groupID)
  groups : s'.groups = s.groups

theorem SameGroups.refl (s : Storage) : SameGroups s s := ⟨rfl, rfl⟩

theorem SameGroups.trans {s₁ s₂ s₃ : Storage} (h₁ : SameGroups s₁ s₂) (h₂ : SameGroups s₂ s₃) :
    SameGroups s₁ s₃ :=
  ⟨h₂.ids.trans h₁.ids, h₂.groups.trans h₁.groups⟩

theorem SameGroups.iff {s s' : Storage} (h : SameGroups s s') :
    GroupsExist s' ↔ GroupsExist s := by
  rw [groupsExist_iff, groupsExist_iff, h.ids, h.groups]

/-- A logged update of one row, whether or not it succeeds. -/
theorem sameGroups_logged_updateAgent {env : Env} {op : StoreOp} {id : UUID}
    {f : Types.Agent → Types.Agent} (hf : ∀ row, (f row).groupID = row.groupID) (s : Storage) :
    SameGroups s (logged s (env.call op (s.updateAgent id f))) := by
  rcases logged_updateAgent_cases env op s id f with hlogged | hlogged
  · rw [hlogged]
    exact SameGroups.refl s
  · rw [hlogged]
    refine ⟨?_, rfl⟩
    show (s.agents.map fun agent => if agent.id = id then f agent else agent).map (·.groupID) = _
    rw [List.map_map]
    refine List.map_congr_left ?_
    intro row _
    show (if row.id = id then f row else row).groupID = row.groupID
    split
    · exact hf row
    · rfl

/-- The writes for an agent that has a row. -/
theorem sameGroups_updateServiceAgent (env : Env) (s : Storage) (agent : Agent)
    (msg : AgentToServer) : SameGroups s (updateServiceAgent env s agent msg) := by
  refine @updateServiceAgent_keeps (SameGroups s) env agent ?_ s (SameGroups.refl s) msg
  intro op store f hf h
  exact h.trans (sameGroups_logged_updateAgent hf.groupID store)

/-- A closed connection. -/
theorem sameGroups_onDisconnect (env : Env) (conn : Conn) (srv : Server) :
    SameGroups srv.store (Server.onDisconnect env conn srv).store := by
  refine @Server.onDisconnect_keeps (SameGroups srv.store) env conn srv ?_ (SameGroups.refl _)
  intro op store id f _ hf h
  exact h.trans (sameGroups_logged_updateAgent hf.groupID store)

/-- More groups. -/
theorem GroupsExist.of_subset {s s' : Storage} (h : GroupsExist s) (hagents : s'.agents = s.agents)
    (hgroups : ∀ group ∈ s.groups, group ∈ s'.groups) : GroupsExist s' := by
  intro agent hagent id hid hne
  rw [hagents] at hagent
  obtain ⟨group, hgroup, hkey⟩ := h agent hagent id hid hne
  exact ⟨group, hgroups group hgroup, hkey⟩

/-! ### One handler -/

/-- A logged insert of a row, into tables where the other rows have their groups. -/
theorem groupsExist_createAgent_iff {s : Storage} (h : GroupsExist s) (env : Env)
    (row : Types.Agent) :
    GroupsExist (logged s (Services.createAgent env s row)) ↔
      (∃ stored ∈ s.agents, stored.id = row.id) ∨ env.faults .createAgent ≠ none ∨
        ∀ id ∈ row.groupID, id ≠ "" → ∃ group ∈ s.groups, group.id = id := by
  rcases createAgent_cases env s row with ⟨⟨hfault, hnew⟩, hcreate⟩ | ⟨hfail, err, hcreate⟩
  · have hstored : ¬ ∃ stored ∈ s.agents, stored.id = row.id := by
      rintro ⟨stored, hstored, hid⟩
      exact hnew stored hstored hid
    rw [hcreate]
    rw [groupsExist_iff] at h ⊢
    show Refers _ _ ((s.agents ++ [{ row with effectiveConfig := [] }]).map
      fun agent : Types.Agent => agent.groupID) s.groups ↔ _
    rw [List.map_append, List.map_singleton, h.concat_iff]
    simp [hstored, hfault, Option.filter_eq_some_iff]
  · rw [hcreate]
    refine ⟨fun _ => ?_, fun _ => h⟩
    by_cases hstored : ∃ stored ∈ s.agents, stored.id = row.id
    · exact Or.inl hstored
    · refine Or.inr (Or.inl ?_)
      intro hfault
      refine hfail ⟨hfault, ?_⟩
      intro stored hmem hid
      exact hstored ⟨stored, hmem, hid⟩

/-- `persistAgent`. -/
theorem groupsExist_persistAgent_iff {s : Storage} (h : GroupsExist s) (env : Env) (agent : Agent)
    (msg : AgentToServer) :
    GroupsExist (persistAgent env s agent msg).2 ↔
      RowFindsGroup env s agent.instanceId agent.groupID agent.groupName := by
  rcases getAgent_cases env s agent.instanceId with ⟨row, hrow, hid, hget⟩ | hget
  · rw [persistAgent_of_row hget]
    exact ⟨fun _ => Or.inl ⟨row, hrow, hid⟩,
      fun _ => (sameGroups_updateServiceAgent env s agent msg).iff.mpr h⟩
  · rw [persistAgent_of_noRow hget]
    dsimp only
    obtain ⟨⟨groupID, hagent⟩, ⟨groups, hstore⟩⟩ := autoCreateGroup_frame env s agent
    rcases autoCreateGroup_cases env s agent with
      ⟨hnamed, ⟨group, hgroup, hid⟩, hgroups⟩ | ⟨hnamed, hsame⟩
    · refine ⟨fun _ => Or.inr (Or.inr (Or.inl hnamed)), fun _ => ?_⟩
      have hexist : GroupsExist (autoCreateGroup env s agent).2 :=
        h.of_subset (by rw [hstore]) hgroups
      rw [groupsExist_createAgent_iff hexist]
      refine Or.inr (Or.inr ?_)
      intro id hnew _
      rw [newServiceAgent, hid] at hnew
      cases hnew
      exact ⟨group, hgroup, rfl⟩
    · rw [hsame, groupsExist_createAgent_iff h]
      simp only [RowFindsGroup, hnamed, false_or]
      exact Iff.rfl

/-- `HandleCreateGroup`. -/
theorem groupsExist_handleCreateGroup {s : Storage} (h : GroupsExist s) (env : Env)
    (body : Except String CreateGroupRequest) : GroupsExist (handleCreateGroup env body s).1 := by
  rw [handleCreateGroup]
  cases bind "CreateGroupRequest" CreateGroupRequest.required body with
  | error err => exact h
  | ok req =>
    dsimp only
    rcases createGroup_cases env s ⟨env.newUUID, req.name, req.labels, env.now, env.now⟩ with
      ⟨_, hcreate⟩ | ⟨_, err, hcreate⟩
    · rw [hcreate]
      exact h.of_subset rfl fun g hg => List.mem_append_left _ hg
    · rw [hcreate]
      exact h

/-- `HandleDeleteGroup`. -/
theorem groupsExist_handleDeleteGroup_iff {s : Storage} (h : GroupsExist s) (env : Env)
    (fault : Option String) (groupID : String) :
    GroupsExist (handleDeleteGroup env fault groupID s).1 ↔
      groupID = "" ∨ fault ≠ none ∨ ∀ agent ∈ s.agents, agent.groupID ≠ some groupID := by
  rw [handleDeleteGroup]
  by_cases hempty : groupID = ""
  · rw [if_pos hempty]
    exact ⟨fun _ => Or.inl hempty, fun _ => h⟩
  · rw [if_neg hempty]
    -- An id that is not empty is a reference.
    have href : (∀ id ∈ s.agents.map (·.groupID), id.filter (· != "") ≠ some groupID) ↔
        ∀ agent ∈ s.agents, agent.groupID ≠ some groupID := by
      simp [Option.filter_eq_some_iff, hempty]
    cases fault with
    | some err => exact ⟨fun _ => Or.inr (Or.inl (by simp)), fun _ => h⟩
    | none =>
      simp only [deleteGroup, Storage.deleteGroup, hempty, ne_eq, not_true_eq_false, false_or]
      by_cases hid : s.groups.any (·.id == groupID)
      · rw [if_pos hid, groupsExist_iff]
        rw [groupsExist_iff] at h
        exact (h.delete_iff fun _ hb => hb).trans href
      · rw [if_neg hid]
        rw [groupsExist_iff] at h
        exact ⟨fun _ => href.mp (h.ne_of_missing (not_any_key_iff.mp hid)),
          fun _ => (groupsExist_iff s).mpr h⟩

/-- One handler leaves each agent with a stored group exactly if it meets the condition. -/
theorem groupsExist_step_iff {srv srv' : Server} {e : Event} (hwf : srv.agents.WellFormed)
    (h : GroupsExist srv.store) (hstep : step srv e = some srv') :
    GroupsExist srv'.store ↔ KeepsGroups srv e := by
  cases e with
  | opamp e =>
    cases e with
    | message env conn msg =>
      obtain ⟨id, agent, hid, hinstance, _, hgroup, _, hstore, hname, _⟩ :=
        Server.step_message hwf hstep
      rw [hstore, groupsExist_persistAgent_iff h, hinstance, hgroup, hname]
      simp only [KeepsGroups, hid]
    | disconnect env conn =>
      cases hstep
      exact ⟨fun _ => trivial, fun _ => (sameGroups_onDisconnect env conn srv).iff.mpr h⟩
  | createGroup env body =>
    cases hstep
    exact ⟨fun _ => trivial, fun _ => groupsExist_handleCreateGroup h env body⟩
  | deleteGroup env fault groupID =>
    cases hstep
    exact groupsExist_handleDeleteGroup_iff h env fault groupID

/-- The group handlers do not touch the registry. -/
theorem wellFormed_step {srv srv' : Server} {e : Event} (hwf : srv.agents.WellFormed)
    (hstep : step srv e = some srv') : srv'.agents.WellFormed := by
  cases e with
  | opamp e => exact Server.wellFormed_step hwf hstep
  | createGroup env body =>
    cases hstep
    exact hwf
  | deleteGroup env fault groupID =>
    cases hstep
    exact hwf

/-! ### Runs -/

/-- In a run of message handlers and group requests, each stored agent whose group id is not empty
names a stored group in every state, exactly if every handler meets `KeepsGroups`: a message
creates no row, or one with the id of a stored group or none, and no group is deleted while an
agent names it. -/
theorem groupsExist_along_iff {srv : Server} (hwf : srv.agents.WellFormed)
    (hstart : GroupsExist srv.store) (es : List Event) (hrun : (run step srv es).isSome) :
    Along step (fun srv => GroupsExist srv.store) srv es ↔ StepsMeet step KeepsGroups srv es :=
  along_iff_stepsMeet (D := fun _ => True) (fun _ _ _ hwf hs => wellFormed_step hwf hs)
    (fun _ _ _ _ hwf h hs => groupsExist_step_iff hwf h hs) (fun _ _ => trivial) hwf hstart hrun

/-- A report of an agent with one attribute. -/
def reportWith (key value : String) : AgentToServer where
  instanceUid := UUID.nil.bytes
  agentDescription := some ⟨[⟨key, some (.stringValue value)⟩], []⟩

/-- An agent that reports a group name, and another group that comes and goes. -/
theorem groupsExist_along_other_group :
    Along step (fun srv => GroupsExist srv.store) (Server.newServer .empty "" "")
      [.opamp (.message (.quiet 0 "g-1") 1 (reportWith "group.name" "prod")),
        .createGroup (.quiet 1 "g-2") (.ok { name := "test" }),
        .deleteGroup (.quiet 2 "") none "g-2"] :=
  (groupsExist_along_iff Agents.wellFormed_newAgents (by decide) _ (by decide +kernel)).mpr
    (by decide +kernel)

/-- The id of a group that does not exist is stored, and so is the id of a group that is deleted
under its agent. -/
theorem agents_without_group :
    (∃ srv, run step (Server.newServer .empty "" "")
        [.opamp (.message (.quiet 0 "g-1") 1 (reportWith "group.id" "prod"))] = some srv ∧
      ¬ GroupsExist srv.store) ∧
    ∃ srv, run step (Server.newServer .empty "" "")
        [.opamp (.message (.quiet 0 "g-1") 1 (reportWith "group.name" "prod")),
          .deleteGroup (.quiet 1 "") none "g-1"] = some srv ∧
      ¬ GroupsExist srv.store := by
  have hend : ∀ {es : List Event},
      ((run step (Server.newServer .empty "" "") es).any fun srv => !GroupsExist srv.store) →
      ∃ srv, run step (Server.newServer .empty "" "") es = some srv ∧
        ¬ GroupsExist srv.store := by
    intro es h
    cases hrun : run step (Server.newServer .empty "" "") es with
    | none =>
      rw [hrun] at h
      cases h
    | some srv =>
      rw [hrun] at h
      exact ⟨srv, rfl, by simpa using h⟩
  exact ⟨hend (by decide +kernel), hend (by decide +kernel)⟩

end OtelHive.Api.Groups
