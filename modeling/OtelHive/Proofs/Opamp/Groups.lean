import OtelHive.Proofs.Opamp.Server

/-!
# `OtelHive.Proofs.Opamp.Groups`: the group of a new row

`getGroupByName_cases` and `createGroup_cases` say what the two calls of `autoCreateGroup` do,
`createAgent_cases` what the insert of the row does, and `NamesGroup` when a name leads to a
group. Then the new row names a stored group, and otherwise it keeps the group id that the agent
reported (`autoCreateGroup_cases`).
-/

set_option autoImplicit false

namespace OtelHive.Opamp

open OtelHive.Lib
open OtelHive.Sqlite (Storage)
open OtelHive.Types (Group)

/-- `GetAgent` finds a row with the id, or there is none that can be read. -/
theorem getAgent_cases (env : Env) (s : Storage) (id : UUID) :
    (∃ row ∈ s.agents, row.id = id ∧ Services.getAgent env s id = .ok (some row)) ∨
      Services.getAgent env s id = .ok none ∨ ∃ err, Services.getAgent env s id = .error err := by
  rw [Services.getAgent, Env.call]
  cases env.faults .getAgent with
  | some err => exact Or.inr (Or.inr ⟨err, rfl⟩)
  | none =>
    dsimp only
    cases hfind : s.getAgent id with
    | none => exact Or.inr (Or.inl rfl)
    | some row => exact Or.inl ⟨row, List.mem_of_find?_eq_some hfind, key_of_find? hfind, rfl⟩

/-- `GetGroupByName` finds a group with the name, or there is none that can be read. -/
theorem getGroupByName_cases (env : Env) (s : Storage) (name : String) :
    (env.faults .listGroups = none ∧ ∃ group ∈ s.groups, group.name = name ∧
        Services.getGroupByName env s name = .ok (some group)) ∨
      ((env.faults .listGroups = none → ∀ group ∈ s.groups, group.name ≠ name) ∧
        (Services.getGroupByName env s name = .ok none ∨
          ∃ err, Services.getGroupByName env s name = .error err)) := by
  rw [Services.getGroupByName, Env.call]
  cases hfault : env.faults .listGroups with
  | some err =>
    refine Or.inr ⟨?_, Or.inr ⟨err, rfl⟩⟩
    intro h
    cases h
  | none =>
    dsimp only
    cases hfind : s.listGroups.find? (·.name == name) with
    | none =>
      refine Or.inr ⟨?_, Or.inl rfl⟩
      intro _ group hgroup hname
      have hlisted : group ∈ s.listGroups := (List.mem_insertionSort _).mpr hgroup
      have hskipped := List.find?_eq_none.mp hfind group hlisted
      simp [hname] at hskipped
    | some group =>
      have hlisted : group ∈ s.listGroups := List.mem_of_find?_eq_some hfind
      exact Or.inl ⟨rfl, group, (List.mem_insertionSort _).mp hlisted, key_of_find? hfind, rfl⟩

/-- `CreateGroup` adds a group with a new id, or fails. -/
theorem createGroup_cases (env : Env) (s : Storage) (group : Group) :
    ((env.faults .createGroup = none ∧ ∀ g ∈ s.groups, g.id ≠ group.id) ∧
        Services.createGroup env s group = .ok { s with groups := s.groups ++ [group] }) ∨
      (¬ (env.faults .createGroup = none ∧ ∀ g ∈ s.groups, g.id ≠ group.id) ∧
        ∃ err, Services.createGroup env s group = .error err) := by
  rw [Services.createGroup, Env.call]
  cases hfault : env.faults .createGroup with
  | some err => exact Or.inr ⟨by simp, err, rfl⟩
  | none =>
    dsimp only
    rw [Storage.createGroup]
    by_cases hid : s.groups.any (·.id == group.id)
    · rw [if_pos hid]
      refine Or.inr ⟨?_, _, rfl⟩
      rintro ⟨_, hnew⟩
      exact not_any_key_iff.mpr hnew hid
    · rw [if_neg hid]
      exact Or.inl ⟨⟨rfl, not_any_key_iff.mp hid⟩, rfl⟩

/-- `CreateAgent` adds a row with a new id, or fails. -/
theorem createAgent_cases (env : Env) (s : Storage) (row : Types.Agent) :
    ((env.faults .createAgent = none ∧ ∀ stored ∈ s.agents, stored.id ≠ row.id) ∧
        Services.createAgent env s row
          = .ok { s with agents := s.agents ++ [{ row with effectiveConfig := [] }] }) ∨
      (¬ (env.faults .createAgent = none ∧ ∀ stored ∈ s.agents, stored.id ≠ row.id) ∧
        ∃ err, Services.createAgent env s row = .error err) := by
  rw [Services.createAgent, Env.call]
  cases hfault : env.faults .createAgent with
  | some err => exact Or.inr ⟨by simp, err, rfl⟩
  | none =>
    dsimp only
    rw [Storage.createAgent]
    by_cases hid : s.agents.any (·.id == row.id)
    · rw [if_pos hid]
      refine Or.inr ⟨?_, _, rfl⟩
      rintro ⟨_, hnew⟩
      exact not_any_key_iff.mpr hnew hid
    · rw [if_neg hid]
      exact Or.inl ⟨⟨rfl, not_any_key_iff.mp hid⟩, rfl⟩

/-- `persistAgent` finds a group with the name, or creates one. -/
def NamesGroup (env : Env) (s : Storage) (name : String) : Prop :=
  name ≠ "" ∧
    (env.faults .listGroups = none ∧ (∃ group ∈ s.groups, group.name = name) ∨
      env.faults .createGroup = none ∧ ∀ group ∈ s.groups, group.id ≠ env.newUUID)

instance (env : Env) (s : Storage) (name : String) : Decidable (NamesGroup env s name) :=
  inferInstanceAs (Decidable (_ ∧ (_ ∧ _ ∨ _ ∧ _)))

/-- The group step of `persistAgent`. With a name that leads to a group, the agent has the id of a
stored group. Otherwise nothing changes. -/
theorem autoCreateGroup_cases (env : Env) (s : Storage) (agent : Agent) :
    ((∃ name ∈ agent.groupName, NamesGroup env s name) ∧
        (∃ group ∈ (autoCreateGroup env s agent).2.groups,
          (autoCreateGroup env s agent).1.groupID = some group.id) ∧
        ∀ group ∈ s.groups, group ∈ (autoCreateGroup env s agent).2.groups) ∨
      ((¬ ∃ name ∈ agent.groupName, NamesGroup env s name) ∧
        autoCreateGroup env s agent = (agent, s)) := by
  rw [autoCreateGroup]
  cases hname : agent.groupName with
  | none => exact Or.inr ⟨by simp, rfl⟩
  | some name =>
    dsimp only
    by_cases hempty : name = ""
    · rw [if_pos hempty]
      exact Or.inr ⟨by simp [NamesGroup, hempty], rfl⟩
    · rw [if_neg hempty]
      rcases getGroupByName_cases env s name with
        ⟨hread, group, hgroup, hsame, hget⟩ | ⟨hnone, hget⟩
      · rw [hget]
        exact Or.inl ⟨⟨name, rfl, hempty, Or.inl ⟨hread, group, hgroup, hsame⟩⟩,
          ⟨group, hgroup, rfl⟩, fun g hg => hg⟩
      · -- Neither an error nor an empty result stops the insert.
        split
        · rename_i group hfound
          rw [hfound] at hget
          rcases hget with hget | ⟨err, hget⟩ <;> cases hget
        · rcases createGroup_cases env s ⟨env.newUUID, name, ∅, env.now, env.now⟩ with
            ⟨hnew, hcreate⟩ | ⟨hnew, err, hcreate⟩
          · rw [hcreate]
            refine Or.inl ⟨⟨name, rfl, hempty, Or.inr hnew⟩, ?_, ?_⟩
            · exact ⟨⟨env.newUUID, name, ∅, env.now, env.now⟩,
                List.mem_append_right _ List.mem_cons_self, rfl⟩
            · intro g hg
              exact List.mem_append_left _ hg
          · rw [hcreate]
            refine Or.inr ⟨?_, rfl⟩
            rintro ⟨_, hsome, _, ⟨hread, group, hgroup, hsame⟩ | hnew'⟩
            · cases hsome
              exact hnone hread group hgroup hsame
            · exact hnew hnew'

/-! ### The two cases of `persistAgent` -/

section Persist

variable {env : Env} {s : Storage} {agent : Agent} {msg : AgentToServer}

/-- With a row, `persistAgent` updates it. -/
theorem persistAgent_of_row {row : Types.Agent}
    (hget : Services.getAgent env s agent.instanceId = .ok (some row)) :
    persistAgent env s agent msg = (agent, updateServiceAgent env s agent msg) := by
  rw [persistAgent, hget]

/-- Without one, it finds the group and inserts a row. -/
theorem persistAgent_of_noRow (hget : Services.getAgent env s agent.instanceId = .ok none ∨
      ∃ err, Services.getAgent env s agent.instanceId = .error err) :
    persistAgent env s agent msg
      = ((autoCreateGroup env s agent).1, logged (autoCreateGroup env s agent).2
          (Services.createAgent env (autoCreateGroup env s agent).2
            (newServiceAgent env (autoCreateGroup env s agent).1 msg))) := by
  rcases hget with hget | ⟨err, hget⟩
  · rw [persistAgent, hget]
  · rw [persistAgent, hget]

end Persist

/-- A logged update of a row writes the table of agents only. -/
theorem logged_updateAgent_frame (env : Env) (op : StoreOp) (s : Storage) (id : UUID)
    (f : Types.Agent → Types.Agent) :
    ∃ agents, logged s (env.call op (s.updateAgent id f)) = { s with agents } := by
  rcases logged_updateAgent_cases env op s id f with hlogged | hlogged
  · exact ⟨s.agents, hlogged⟩
  · exact ⟨_, hlogged⟩

/-- The writes for an agent that has a row. -/
theorem updateServiceAgent_frame (env : Env) (s : Storage) (agent : Agent) (msg : AgentToServer) :
    ∃ agents, updateServiceAgent env s agent msg = { s with agents } := by
  refine @updateServiceAgent_keeps (fun s' => ∃ agents, s' = { s with agents }) env agent ?_
    s ⟨s.agents, rfl⟩ msg
  rintro op _ f - ⟨agents, rfl⟩
  exact logged_updateAgent_frame env op { s with agents } agent.instanceId f

/-- `persistAgent` leaves the configs alone. -/
theorem configs_persistAgent (env : Env) (s : Storage) (agent : Agent) (msg : AgentToServer) :
    (persistAgent env s agent msg).2.configs = s.configs := by
  rcases getAgent_cases env s agent.instanceId with ⟨row, _, _, hget⟩ | hget
  · obtain ⟨agents, hframe⟩ := updateServiceAgent_frame env s agent msg
    rw [persistAgent_of_row hget, hframe]
  · obtain ⟨_, ⟨groups, hstore⟩⟩ := autoCreateGroup_frame env s agent
    rw [persistAgent_of_noRow hget, hstore]
    dsimp only
    rcases createAgent_cases env { s with groups }
        (newServiceAgent env (autoCreateGroup env s agent).1 msg) with
      ⟨_, hcreate⟩ | ⟨_, err, hcreate⟩
    · rw [hcreate]
      rfl
    · rw [hcreate]
      rfl

end OtelHive.Opamp
