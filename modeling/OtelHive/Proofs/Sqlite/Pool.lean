import OtelHive.Lib.References
import OtelHive.Lib.Runs
import OtelHive.Lib.Table
import OtelHive.Sqlite.Pool

/-!
# `OtelHive.Proofs.Sqlite.Pool`: when config rows refer to existing rows

The foreign keys of `configs` are checked on the connections with the pragma on, and only the
first connection has it. `NoDangling` says that each config row finds the rows it references.
Each operation keeps it exactly if it is `Enforced`: three of the operations can break it, and
each of them does so only on a connection with the pragma off.

* `NoDangling.perform_iff`: one operation.
* `noDangling_along_iff`: any run of operations, opened and closed connections.
-/

set_option autoImplicit false

namespace OtelHive.Sqlite

open OtelHive.Lib
open OtelHive.Types

namespace Storage

/-! ### The property and the condition -/

/-- Each config row refers to an existing agent and an existing group, where it refers to one. -/
structure NoDangling (s : Storage) : Prop where
  agent : Refers Config.agentID Agent.id s.configs s.agents
  group : Refers Config.groupID Group.id s.configs s.groups

/-- No config row that the deleted agent or group has owned is left. -/
def Removed (s : Storage) : Option Operation → Prop
  | some (.deleteAgent id) => ∀ config ∈ s.configs, config.agentID ≠ some id
  | some (.deleteGroup id) => ∀ config ∈ s.configs, config.groupID ≠ some id
  | _ => True

/-- The connection checks the foreign keys, or the operation gives it nothing to check. -/
def Enforced (s : Storage) (foreignKeys : Bool) : Operation → Prop
  | .deleteAgent id => foreignKeys = true ∨ ∀ config ∈ s.configs, config.agentID ≠ some id
  | .deleteGroup id => foreignKeys = true ∨ ∀ config ∈ s.configs, config.groupID ≠ some id
  | .createConfig config =>
    foreignKeys = true ∨ (∃ row ∈ s.configs, row.id = config.id) ∨ s.referencesExist config = true
  | _ => True

instance (s : Storage) (foreignKeys : Bool) : ∀ op, Decidable (s.Enforced foreignKeys op)
  | .deleteAgent id => inferInstanceAs <| Decidable <|
      foreignKeys = true ∨ ∀ config ∈ s.configs, config.agentID ≠ some id
  | .deleteGroup id => inferInstanceAs <| Decidable <|
      foreignKeys = true ∨ ∀ config ∈ s.configs, config.groupID ≠ some id
  | .createConfig config => inferInstanceAs <| Decidable <|
      foreignKeys = true ∨ (∃ row ∈ s.configs, row.id = config.id) ∨
        s.referencesExist config = true
  | .createAgent _ | .getAgent _ | .listAgents | .updateAgentStatus _ _
  | .updateAgentLastSeen _ _ | .updateAgentEffectiveConfig _ _ | .createGroup _ | .getGroup _
  | .listGroups | .getConfig _ | .getLatestConfigForAgent _ | .getLatestConfigForGroup _
  | .listConfigs _ => .isTrue trivial

/-- With the foreign keys checked, every operation is enforced. -/
theorem enforced_true (s : Storage) (op : Operation) : s.Enforced true op := by
  cases op with
  | deleteAgent | deleteGroup | createConfig => exact Or.inl rfl
  | createAgent | updateAgentStatus | updateAgentLastSeen | updateAgentEffectiveConfig
  | createGroup | getAgent | listAgents | getGroup | listGroups | getConfig
  | getLatestConfigForAgent | getLatestConfigForGroup | listConfigs => trivial

theorem noDangling_empty : empty.NoDangling where
  agent := refers_nil
  group := refers_nil

/-- A row finds what it references exactly if the check of the foreign keys passes. -/
theorem referencesExist_iff (s : Storage) (config : Config) :
    s.referencesExist config = true ↔
      (∀ id, config.agentID = some id → ∃ agent ∈ s.agents, agent.id = id) ∧
        ∀ id, config.groupID = some id → ∃ group ∈ s.groups, group.id = id := by
  simp only [referencesExist, Bool.and_eq_true, Option.all_eq_true_iff_get]
  cases config.agentID <;> cases config.groupID <;> simp

/-! ### One operation -/

theorem NoDangling.createAgent {s : Storage} (h : s.NoDangling) (agent : Agent) :
    (s.written (s.createAgent agent)).1.NoDangling := by
  unfold Storage.createAgent
  split
  · exact h
  · refine ⟨h.agent.of_subset (fun _ hrow => hrow) ?_, h.group⟩
    intro row hrow
    exact ⟨row, List.mem_append_left _ hrow, rfl⟩

/-- An update that keeps the ids. -/
theorem NoDangling.updateAgent {s : Storage} (h : s.NoDangling) (id : UUID) {f : Agent → Agent}
    (hf : ∀ row, (f row).id = row.id) : (s.written (s.updateAgent id f)).1.NoDangling := by
  unfold Storage.updateAgent
  split
  · refine ⟨h.agent.of_subset (fun _ hrow => hrow) ?_, h.group⟩
    intro row hrow
    refine ⟨_, List.mem_map_of_mem hrow, ?_⟩
    split
    · exact hf row
    · rfl
  · exact h

theorem NoDangling.createGroup {s : Storage} (h : s.NoDangling) (group : Group) :
    (s.written (s.createGroup group)).1.NoDangling := by
  unfold Storage.createGroup
  split
  · exact h
  · refine ⟨h.agent, h.group.of_subset (fun _ hrow => hrow) ?_⟩
    intro row hrow
    exact ⟨row, List.mem_append_left _ hrow, rfl⟩

/-- A delete keeps the rows from dangling exactly if it takes the configs of the agent along. -/
theorem NoDangling.deleteAgent_iff {s : Storage} (h : s.NoDangling) (foreignKeys : Bool)
    (id : UUID) : (s.written (s.deleteAgent foreignKeys id)).1.NoDangling ↔
      foreignKeys = true ∨ ∀ config ∈ s.configs, config.agentID ≠ some id := by
  unfold Storage.deleteAgent
  split
  · rw [← forall_cascade_iff, ← h.agent.delete_iff fun _ => mem_cascade]
    -- The groups keep their rows, and configs can only go.
    exact ⟨NoDangling.agent,
      fun h' => ⟨h', h.group.of_subset (fun _ => mem_cascade) fun g hg => ⟨g, hg, rfl⟩⟩⟩
  · rename_i hmissing
    -- The delete fails, and without dangling rows no config has this agent.
    exact ⟨fun _ => Or.inr (h.agent.ne_of_missing (not_any_key_iff.mp hmissing)), fun _ => h⟩

theorem NoDangling.deleteGroup_iff {s : Storage} (h : s.NoDangling) (foreignKeys : Bool)
    (id : String) : (s.written (s.deleteGroup foreignKeys id)).1.NoDangling ↔
      foreignKeys = true ∨ ∀ config ∈ s.configs, config.groupID ≠ some id := by
  unfold Storage.deleteGroup
  split
  · rw [← forall_cascade_iff, ← h.group.delete_iff fun _ => mem_cascade]
    exact ⟨NoDangling.group,
      fun h' => ⟨h.agent.of_subset (fun _ => mem_cascade) fun a ha => ⟨a, ha, rfl⟩, h'⟩⟩
  · rename_i hmissing
    exact ⟨fun _ => Or.inr (h.group.ne_of_missing (not_any_key_iff.mp hmissing)), fun _ => h⟩

/-- A new config row dangles exactly if it is stored without the check and fails it. -/
theorem NoDangling.createConfig_iff {s : Storage} (h : s.NoDangling) (foreignKeys : Bool)
    (config : Config) : (s.written (s.createConfig foreignKeys config)).1.NoDangling ↔
      foreignKeys = true ∨ (∃ row ∈ s.configs, row.id = config.id) ∨
        s.referencesExist config = true := by
  unfold Storage.createConfig
  split
  · rename_i hduplicate
    exact ⟨fun _ => Or.inr (Or.inl (any_key_iff.mp hduplicate)), fun _ => h⟩
  · rename_i hnew
    have hstored : NoDangling { s with configs := s.configs ++ [config] }
        ↔ s.referencesExist config = true := by
      rw [referencesExist_iff, ← h.agent.concat_iff, ← h.group.concat_iff]
      exact ⟨fun h' => ⟨h'.agent, h'.group⟩, fun h' => ⟨h'.1, h'.2⟩⟩
    split
    · rename_i hrefused
      rw [Bool.and_eq_true] at hrefused
      exact ⟨fun _ => Or.inl hrefused.1, fun _ => h⟩
    · rename_i haccepted
      refine Iff.trans hstored ⟨fun hexist => Or.inr (Or.inr hexist), ?_⟩
      rintro (hon | hduplicate | hexist)
      -- A connection with the pragma on accepts the row only after the check.
      · simpa [hon] using haccepted
      · exact absurd (any_key_iff.mpr hduplicate) hnew
      · exact hexist

/-- An operation keeps the rows from dangling exactly if it is enforced. -/
theorem NoDangling.perform_iff {s : Storage} (h : s.NoDangling) (foreignKeys : Bool) (now : Time)
    (op : Operation) :
    (s.perform foreignKeys now op).1.NoDangling ↔ s.Enforced foreignKeys op := by
  cases op with
  | createAgent agent => exact ⟨fun _ => trivial, fun _ => h.createAgent agent⟩
  | updateAgentStatus id status =>
    exact ⟨fun _ => trivial, fun _ => h.updateAgent id fun _ => rfl⟩
  | updateAgentLastSeen id lastSeen =>
    exact ⟨fun _ => trivial, fun _ => h.updateAgent id fun _ => rfl⟩
  | updateAgentEffectiveConfig id effectiveConfig =>
    exact ⟨fun _ => trivial, fun _ => h.updateAgent id fun _ => rfl⟩
  | createGroup group => exact ⟨fun _ => trivial, fun _ => h.createGroup group⟩
  | deleteAgent id => exact h.deleteAgent_iff foreignKeys id
  | deleteGroup id => exact h.deleteGroup_iff foreignKeys id
  | createConfig config => exact h.createConfig_iff foreignKeys config
  | getAgent | listAgents | getGroup | listGroups | getConfig | getLatestConfigForAgent
  | getLatestConfigForGroup | listConfigs => exact ⟨fun _ => trivial, fun _ => h⟩

/-- A deleted agent or group has no row, so without dangling rows it owns no configs. -/
theorem NoDangling.removed {s : Storage} {foreignKeys : Bool} {now : Time} {op : Operation}
    (h : (s.perform foreignKeys now op).1.NoDangling) :
    (s.perform foreignKeys now op).1.Removed (some op) := by
  cases op with
  | deleteAgent id =>
    have hgone : ∀ agent ∈ (s.written (s.deleteAgent foreignKeys id)).1.agents, agent.id ≠ id := by
      unfold Storage.deleteAgent
      split
      · intro agent hagent
        simpa using (List.mem_filter.mp hagent).2
      · rename_i hmissing
        exact not_any_key_iff.mp hmissing
    exact h.agent.ne_of_missing hgone
  | deleteGroup id =>
    have hgone : ∀ group ∈ (s.written (s.deleteGroup foreignKeys id)).1.groups, group.id ≠ id := by
      unfold Storage.deleteGroup
      split
      · intro group hgroup
        simpa using (List.mem_filter.mp hgroup).2
      · rename_i hmissing
        exact not_any_key_iff.mp hmissing
    exact h.group.ne_of_missing hgone
  | createAgent | updateAgentStatus | updateAgentLastSeen | updateAgentEffectiveConfig
  | createGroup | createConfig | getAgent | listAgents | getGroup | listGroups | getConfig
  | getLatestConfigForAgent | getLatestConfigForGroup | listConfigs => trivial

end Storage

namespace Pool

/-! ### The run -/

/-- The operation of an event. -/
def Event.operation : Event → Option Operation
  | .perform _ _ op => some op
  | .connect | .close _ => none

/-- No config row dangles, and a delete has just removed the configs it owned. The second part
of the state is the operation of the last step. -/
def Consistent (p : Pool × Option Operation) : Prop :=
  p.1.store.NoDangling ∧ p.1.store.Removed p.2

/-- An operation is enforced on its connection. -/
def Enforced (p : Pool) : Event → Prop
  | .perform conn _ op => ∀ foreignKeys ∈ p.connections[conn]?, p.store.Enforced foreignKeys op
  | .connect | .close _ => True

instance (p : Pool) : ∀ e, Decidable (p.Enforced e)
  | .perform conn _ op => inferInstanceAs <| Decidable <|
      ∀ foreignKeys ∈ p.connections[conn]?, p.store.Enforced foreignKeys op
  | .connect | .close _ => .isTrue trivial

/-- The steps of the pool, with the operation of the last one. -/
def recorded : Pool × Option Operation → Event → Option (Pool × Option Operation) :=
  withGhost step fun _ _ e => e.operation

theorem noDangling_step_iff {p p' : Pool} {e : Event} (h : p.store.NoDangling)
    (hstep : p.step e = some p') : p'.store.NoDangling ↔ p.Enforced e := by
  cases e with
  | connect =>
    simp only [step] at hstep
    split at hstep
    · cases hstep
      exact ⟨fun _ => trivial, fun _ => h⟩
    · cases hstep
  | close conn =>
    simp only [step] at hstep
    split at hstep
    · cases hstep
      exact ⟨fun _ => trivial, fun _ => h⟩
    · cases hstep
  | perform conn now op =>
    simp only [step] at hstep
    split at hstep
    · cases hstep
    · rename_i foreignKeys hconn
      cases hstep
      simp only [Enforced, hconn, Option.mem_def, Option.some.injEq, forall_eq']
      exact h.perform_iff foreignKeys now op

/-- After a step that leaves nothing dangling, a delete has removed what it owned. -/
theorem removed_of_step {p p' : Pool} {e : Event} (hstep : p.step e = some p')
    (h : p'.store.NoDangling) : p'.store.Removed e.operation := by
  cases e with
  | connect => trivial
  | close conn => trivial
  | perform conn now op =>
    simp only [step] at hstep
    split at hstep
    · cases hstep
    · cases hstep
      exact h.removed

/-- On a database without dangling rows, no config row dangles along a run, and each delete removes
the configs it owns, exactly if every operation is enforced on its connection. -/
theorem noDangling_along_iff (store : Storage) (hstore : store.NoDangling) (es : List Event)
    (hrun : (run recorded (newSQLiteStorage store, none) es).isSome) :
    Along recorded Consistent (newSQLiteStorage store, none) es ↔
      StepsMeet recorded (fun p e => p.1.Enforced e) (newSQLiteStorage store, none) es := by
  apply along_iff_stepsMeet (I := fun _ => True) (D := fun _ => True) (fun _ _ _ _ _ => trivial) _
    (fun _ _ => trivial) trivial ⟨hstore, trivial⟩ hrun
  intro p e p' _ _ hP hstep
  obtain ⟨hstep', hlast⟩ := withGhost_eq_some.mp hstep
  rw [← noDangling_step_iff hP.1 hstep']
  constructor
  · intro h
    exact h.1
  · intro h
    refine ⟨h, ?_⟩
    rw [hlast]
    exact removed_of_step hstep' h

/-- An agent and its config are created on the first connection, another connection deletes an
agent that owns nothing, and then the first one deletes the agent with its config. -/
theorem noDangling_along_first_connection :
    Along recorded Consistent (newSQLiteStorage .empty, none)
      [.perform 0 1 (.createAgent ⟨.nil, "a", ∅, .online, 1, none, none, "", [], [], 1, 1⟩),
        .perform 0 2 (.createConfig ⟨"c", "", some .nil, none, "", [], .wrap 1, 2⟩),
        .connect, .perform 1 3 (.deleteGroup "g"), .perform 0 4 (.deleteAgent .nil)] :=
  (noDangling_along_iff .empty Storage.noDangling_empty _ (by decide)).mpr (by decide)

/-- The same delete on a connection that the pool has opened later leaves the config behind. -/
theorem dangles_on_later_connection :
    ∃ p, run recorded (newSQLiteStorage .empty, none)
        [.perform 0 1 (.createAgent ⟨.nil, "a", ∅, .online, 1, none, none, "", [], [], 1, 1⟩),
          .perform 0 2 (.createConfig ⟨"c", "", some .nil, none, "", [], .wrap 1, 2⟩),
          .connect, .perform 1 3 (.deleteAgent .nil)] = some p ∧
      p.1.store.agents = [] ∧
      p.1.store.configs = [⟨"c", "", some .nil, none, "", [], .wrap 1, 2⟩] ∧
      ¬ Consistent p := by
  refine ⟨_, rfl, rfl, rfl, ?_⟩
  intro h
  exact h.2 _ List.mem_cons_self rfl

end Pool

end OtelHive.Sqlite
