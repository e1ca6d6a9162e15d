import OtelHive.Memory.Store
import OtelHive.Proofs.Sqlite.Pool
import OtelHive.Proofs.Sqlite.Storage

/-!
# `OtelHive.Proofs.Memory.Agreement`: when the two backends agree

The same operations run on SQLite, with foreign keys enforced, and in memory. `Agree` says that
the last operation succeeded on both or on neither, and that every read returns the same on both.

`Matches` is the relation behind it: the tables stand for the same maps, and no latest-config query
has a tie (`reads_iff`). The operations that read keep it, and the updates do. The others keep it
under a condition that `Compatible` collects:

* `createAgent_iff`: SQLite drops the effective config of a new agent.
* `createConfig_iff`: SQLite refuses a config whose agent or group is missing, and two configs can
  tie for the latest.
* `deleteAgent_iff`, `deleteGroup_iff`: SQLite deletes the configs that are owned.
-/

set_option autoImplicit false

namespace OtelHive.Types

/-! ### Replies -/

/-- The agent without its `updated_at` stamp. -/
def Agent.unstamped (agent : Agent) : Agent := { agent with updatedAt := 0 }

/-- The group without its `updated_at` stamp. -/
def Group.unstamped (group : Group) : Group := { group with updatedAt := 0 }

/-- Two replies are equal up to the order of a list and the `updated_at` stamps. -/
def Reply.Agrees : Reply → Reply → Prop
  | .error _, .error _ => True
  | .done, .done => True
  | .agent a, .agent b => a.map Agent.unstamped = b.map Agent.unstamped
  | .agents as, .agents bs => (as.map Agent.unstamped).Perm (bs.map Agent.unstamped)
  | .group a, .group b => a.map Group.unstamped = b.map Group.unstamped
  | .groups as, .groups bs => (as.map Group.unstamped).Perm (bs.map Group.unstamped)
  | .config a, .config b => a = b
  | .configs as, .configs bs => as.Perm bs
  | _, _ => False

/-- A `Get`, a `GetLatest` or an unlimited `List`. -/
def Operation.IsRead : Operation → Prop
  | .getAgent _ | .listAgents | .getGroup _ | .listGroups | .getConfig _
  | .getLatestConfigForAgent _ | .getLatestConfigForGroup _ => True
  | .listConfigs filter => filter.limit.1 ≤ 0
  | _ => False

end OtelHive.Types

namespace OtelHive.Memory

open OtelHive.Lib
open OtelHive.Types
open OtelHive.Sqlite (Storage)
open OtelHive.Sqlite.Storage (latestKey UniqueIds NoDangling)

/-! ### The two backends -/

/-- The database and the store in memory. -/
structure Backends where
  sqlite : Storage
  memory : Store
deriving DecidableEq

/-- An operation, the times at which either backend runs it, and the orders of its loops. -/
structure Call where
  sqliteNow : Time
  memoryNow : Time
  loops : Loops
  op : Operation

namespace Backends

/-- Both backends before the first operation. -/
def start : Backends := ⟨.empty, newStore⟩

/-- What either backend replies. -/
def replies (b : Backends) (call : Call) : Reply × Reply :=
  ((b.sqlite.perform true call.sqliteNow call.op).2,
    (b.memory.perform call.loops call.memoryNow call.op).2)

/-- Both backends run an operation. -/
def step (b : Backends) (call : Call) : Option Backends :=
  some ⟨(b.sqlite.perform true call.sqliteNow call.op).1,
    (b.memory.perform call.loops call.memoryNow call.op).1⟩

/-- The steps, with whether both backends have given the last operation the same success. -/
def recorded : Backends × Bool → Call → Option (Backends × Bool) :=
  withGhost step fun _ b call => (b.replies call).1.ok == (b.replies call).2.ok

/-- The last operation succeeded on both or on neither, and every read agrees. -/
structure Agree (p : Backends × Bool) : Prop where
  succeeded : p.2 = true
  reads : ∀ call : Call, call.op.IsRead → (p.1.replies call).1.Agrees (p.1.replies call).2

/-- The operation does the same on both backends. -/
def Compatible (b : Backends) : Operation → Prop
  | .createAgent agent => agent.effectiveConfig = [] ∨ (b.sqlite.getAgent agent.id).isSome
  | .deleteAgent id => ∀ config ∈ b.sqlite.configs, config.agentID ≠ some id
  | .deleteGroup id => ∀ config ∈ b.sqlite.configs, config.groupID ≠ some id
  | .createConfig config =>
    (b.sqlite.getConfig config.id).isSome ∨
      b.sqlite.referencesExist config = true ∧
        (∀ id ∈ config.agentID, ∀ latest ∈ b.sqlite.getLatestConfigForAgent id,
          latestKey latest ≠ latestKey config) ∧
        (∀ id ∈ config.groupID, ∀ latest ∈ b.sqlite.getLatestConfigForGroup id,
          latestKey latest ≠ latestKey config)
  | _ => True

/-- The tables stand for the same maps, up to the stamps, and each agent and each group has one
latest config at most. -/
structure Matches (b : Backends) : Prop where
  agents : SameMap Agent.unstamped Agent.id b.sqlite.agents b.memory.agents
  groups : SameMap Group.unstamped Group.id b.sqlite.groups b.memory.groups
  configs : SameMap id Config.id b.sqlite.configs b.memory.configs
  ofAgent : ∀ id, Untied latestKey (b.sqlite.configs.filter (·.agentID == some id))
  ofGroup : ∀ id, Untied latestKey (b.sqlite.configs.filter (·.groupID == some id))

end Backends

/-! ### Reads -/

/-- The loop over the configs finds the first one that is largest in the order. -/
theorem foldl_latestStep (p : Config → Bool) (configs : List Config) :
    configs.foldl (Store.latestStep p) none = (configs.filter p).argmax latestKey := by
  induction configs using List.reverseRecOn with
  | nil => rfl
  | append_singleton configs config ih =>
    rw [List.foldl_append, List.foldl_cons, List.foldl_nil, ih, List.filter_append,
      List.filter_singleton]
    unfold Store.latestStep
    cases hp : p config with
    | false => rw [if_neg Bool.false_ne_true, cond_false, List.append_nil]
    | true =>
      rw [if_pos rfl, cond_true, List.argmax_concat]
      cases (configs.filter p).argmax latestKey with
      | none => rfl
      | some latest =>
        refine if_congr ?_ rfl rfl
        rw [Sqlite.Storage.latestKey_lt_iff, eq_comm (a := config.version)]
        exact Iff.rfl

theorem latestWhere_eq (s : Store) (order : IterOrder String) (p : Config → Bool) :
    s.latestWhere order p = ((s.configs.values order).filter p).argmax latestKey :=
  foldl_latestStep p _

/-- Loops in the stored order, apart from those over the configs. -/
def Loops.over (order : IterOrder String) : Loops :=
  ⟨⟨id, fun _ => .refl _⟩, ⟨id, fun _ => .refl _⟩, order⟩

namespace Backends

/-- The latest-config queries agree for every order of the loop exactly if there is no tie. -/
theorem latestWhere_iff {b : Backends} (hids : b.sqlite.UniqueIds)
    (hconfigs : SameMap id Config.id b.sqlite.configs b.memory.configs) (p : Config → Bool) :
    (∀ order, b.sqlite.latestWhere p = b.memory.latestWhere order p)
      ↔ Untied latestKey (b.sqlite.configs.filter p) := by
  rw [← argmax_values_iff hids.configs hconfigs p]
  refine forall_congr' ?_
  intro order
  rw [latestWhere_eq]
  exact eq_comm

/-- Under unique ids, every read agrees exactly if the tables match. -/
theorem reads_iff {b : Backends} (hids : b.sqlite.UniqueIds) :
    (∀ call : Call, call.op.IsRead → (b.replies call).1.Agrees (b.replies call).2)
      ↔ b.Matches := by
  constructor
  -- Each part of the relation is what one read returns, in some order of the loops.
  · intro h
    have hread : ∀ order op, op.IsRead →
        (b.replies ⟨0, 0, Loops.over order, op⟩).1.Agrees
          (b.replies ⟨0, 0, Loops.over order, op⟩).2 :=
      fun order op hop => h ⟨0, 0, Loops.over order, op⟩ hop
    have hconfigs : SameMap id Config.id b.sqlite.configs b.memory.configs := by
      intro id
      rw [Option.map_id]
      exact hread (.first "") (.getConfig id) trivial
    constructor
    · exact fun id => hread (.first "") (.getAgent id) trivial
    · exact fun id => hread (.first "") (.getGroup id) trivial
    · exact hconfigs
    · intro id
      rw [← latestWhere_iff hids hconfigs]
      exact fun order => hread order (.getLatestConfigForAgent id) trivial
    · intro id
      rw [← latestWhere_iff hids hconfigs]
      exact fun order => hread order (.getLatestConfigForGroup id) trivial
  · rintro h ⟨sqliteNow, memoryNow, loops, op⟩ hop
    cases op with
    | getAgent id => exact h.agents id
    | getGroup id => exact h.groups id
    | getConfig id =>
      have hconfig := h.configs id
      rw [Option.map_id] at hconfig
      exact hconfig
    | listAgents =>
      refine List.Perm.trans ((List.perm_insertionSort _ _).map _) ?_
      exact (h.agents.values_perm Agent.id (fun _ => rfl) hids.agents _).symm
    | listGroups =>
      refine List.Perm.trans ((List.perm_insertionSort _ _).map _) ?_
      exact (h.groups.values_perm Group.id (fun _ => rfl) hids.groups _).symm
    | getLatestConfigForAgent id =>
      exact (latestWhere_iff hids h.configs _).mpr (h.ofAgent id) loops.overConfigs
    | getLatestConfigForGroup id =>
      exact (latestWhere_iff hids h.configs _).mpr (h.ofGroup id) loops.overConfigs
    | listConfigs filter =>
      -- Neither backend cuts the list.
      have hunlimited : ¬ 0 < filter.limit.1 := not_lt.mpr hop
      have hperm := h.configs.values_perm Config.id (fun _ => rfl) hids.configs
        loops.overConfigs
      rw [List.map_id, List.map_id] at hperm
      show (b.sqlite.listConfigs filter).Perm (b.memory.listConfigs loops.overConfigs filter)
      unfold Storage.listConfigs Store.listConfigs
      rw [if_neg hunlimited, if_neg fun hlimit => hunlimited hlimit.1]
      exact (List.perm_insertionSort _ _).trans (hperm.filter _).symm
    | createAgent | updateAgentStatus | updateAgentLastSeen | updateAgentEffectiveConfig
    | deleteAgent | createGroup | deleteGroup | createConfig => cases hop

/-! ### Writes -/

/-- What the backends agree on after a write: both have failed, or both have succeeded and the
tables still match. -/
def Outcome (b : Backends) : Except String Storage → Except String Store → Prop
  | .ok s, .ok m => Matches ⟨s, m⟩
  | .error _, .error _ => b.Matches
  | _, _ => False

theorem createAgent_iff {b : Backends} (h : b.Matches) (agent : Agent) :
    b.Outcome (b.sqlite.createAgent agent) (b.memory.createAgent agent)
      ↔ agent.effectiveConfig = [] ∨ (b.sqlite.getAgent agent.id).isSome := by
  unfold Storage.createAgent Store.createAgent
  rw [← Sqlite.Storage.any_agents_eq, h.agents.any_eq]
  cases hlookup : b.memory.agents.lookup agent.id with
  | some row => exact ⟨fun _ => Or.inr rfl, fun _ => h⟩
  | none =>
    -- SQLite stores the agent without its effective config.
    have hinsert := h.agents.insert_iff hlookup { agent with effectiveConfig := [] } agent rfl
    constructor
    · intro h'
      have hrow := hinsert.mp h'.agents
      exact Or.inl (congrArg Agent.effectiveConfig hrow).symm
    · rintro (hempty | hsome)
      · refine ⟨hinsert.mpr ?_, h.groups, h.configs, h.ofAgent, h.ofGroup⟩
        rw [← hempty]
      · cases hsome

/-- An update finds the agent on both backends or on neither. -/
theorem updateAgent_outcome {b : Backends} (h : b.Matches) (id : UUID) {f f' : Agent → Agent}
    (hid : ∀ row, (f row).id = row.id)
    (hf : ∀ row row', row.unstamped = row'.unstamped → (f row).unstamped = (f' row').unstamped) :
    b.Outcome (b.sqlite.updateAgent id f) (b.memory.updateAgent id f') := by
  unfold Storage.updateAgent Store.updateAgent
  rw [h.agents.any_eq]
  cases hlookup : b.memory.agents.lookup id with
  | none => exact h
  | some row =>
    exact ⟨h.agents.update id hid hf, h.groups, h.configs, h.ofAgent, h.ofGroup⟩

theorem createGroup_outcome {b : Backends} (h : b.Matches) (group : Group) :
    b.Outcome (b.sqlite.createGroup group) (b.memory.createGroup group) := by
  unfold Storage.createGroup Store.createGroup
  rw [h.groups.any_eq]
  cases hlookup : b.memory.groups.lookup group.id with
  | some row => exact h
  | none =>
    have hgroups := (h.groups.insert_iff hlookup group group rfl).mpr rfl
    exact ⟨h.agents, hgroups, h.configs, h.ofAgent, h.ofGroup⟩

/-- A config that one backend has deleted and the other has not tells them apart. -/
theorem forall_of_sameMap_filter {b : Backends} (h : b.Matches) (hids : b.sqlite.UniqueIds)
    {p : Config → Bool}
    (h' : SameMap id Config.id (b.sqlite.configs.filter p) b.memory.configs) :
    ∀ config ∈ b.sqlite.configs, p config = true := by
  intro config hconfig
  have hfound : b.sqlite.configs.find? (·.id == config.id) = some config :=
    (find?_key_iff hids.configs).mpr ⟨hconfig, rfl⟩
  have hkept := (h' config.id).trans (h.configs config.id).symm
  rw [Option.map_id, id, id, hfound] at hkept
  exact (List.mem_filter.mp (List.mem_of_find?_eq_some hkept)).2

/-- A delete does the same on both backends exactly if the agent owns no configs. -/
theorem deleteAgent_iff {b : Backends} (h : b.Matches) (hids : b.sqlite.UniqueIds)
    (hrefs : b.sqlite.NoDangling) (id : UUID) :
    b.Outcome (b.sqlite.deleteAgent true id) (b.memory.deleteAgent id)
      ↔ ∀ config ∈ b.sqlite.configs, config.agentID ≠ some id := by
  unfold Storage.deleteAgent Store.deleteAgent
  have hany := h.agents.any_eq id
  cases hlookup : b.memory.agents.lookup id with
  | none =>
    rw [hlookup] at hany
    rw [hany]
    have hmissing := not_any_key_iff.mp (ne_true_of_eq_false hany)
    exact ⟨fun _ => hrefs.agent.ne_of_missing hmissing, fun _ => h⟩
  | some row =>
    rw [hany, hlookup]
    constructor
    -- The cascade must have found nothing to delete.
    · intro h'
      simpa using forall_of_sameMap_filter h hids h'.configs
    · intro hnone
      have hkept : b.sqlite.configs.filter (·.agentID != some id) = b.sqlite.configs :=
        List.filter_eq_self.mpr (by simpa using hnone)
      show Matches ⟨⟨_, _, b.sqlite.configs.filter (·.agentID != some id)⟩, _⟩
      rw [hkept]
      exact ⟨h.agents.delete id, h.groups, h.configs, h.ofAgent, h.ofGroup⟩

theorem deleteGroup_iff {b : Backends} (h : b.Matches) (hids : b.sqlite.UniqueIds)
    (hrefs : b.sqlite.NoDangling) (id : String) :
    b.Outcome (b.sqlite.deleteGroup true id) (b.memory.deleteGroup id)
      ↔ ∀ config ∈ b.sqlite.configs, config.groupID ≠ some id := by
  unfold Storage.deleteGroup Store.deleteGroup
  have hany := h.groups.any_eq id
  cases hlookup : b.memory.groups.lookup id with
  | none =>
    rw [hlookup] at hany
    rw [hany]
    have hmissing := not_any_key_iff.mp (ne_true_of_eq_false hany)
    exact ⟨fun _ => hrefs.group.ne_of_missing hmissing, fun _ => h⟩
  | some row =>
    rw [hany, hlookup]
    constructor
    · intro h'
      simpa using forall_of_sameMap_filter h hids h'.configs
    · intro hnone
      have hkept : b.sqlite.configs.filter (·.groupID != some id) = b.sqlite.configs :=
        List.filter_eq_self.mpr (by simpa using hnone)
      show Matches ⟨⟨_, _, b.sqlite.configs.filter (·.groupID != some id)⟩, _⟩
      rw [hkept]
      exact ⟨h.agents, h.groups.delete id, h.configs, h.ofAgent, h.ofGroup⟩

/-- A new config does the same on both backends exactly if its id is taken, or its agent and group
exist and have no latest config that it ties with. -/
theorem createConfig_iff {b : Backends} (h : b.Matches) (config : Config) :
    b.Outcome (b.sqlite.createConfig true config) (b.memory.createConfig config)
      ↔ b.Compatible (.createConfig config) := by
  unfold Storage.createConfig Store.createConfig
  simp only [Compatible]
  rw [Storage.getConfig, ← any_key_eq, h.configs.any_eq]
  cases hlookup : b.memory.configs.lookup config.id with
  | some row => exact ⟨fun _ => Or.inl rfl, fun _ => h⟩
  | none =>
    have hmissing : config ∉ b.sqlite.configs := by
      intro hmem
      have hany := h.configs.any_eq config.id
      rw [hlookup] at hany
      exact not_any_key_iff.mp (ne_true_of_eq_false hany) config hmem rfl
    cases hexist : b.sqlite.referencesExist config with
    | false =>
      -- Only the store in memory accepts the config.
      refine ⟨fun h' => h'.elim, ?_⟩
      rintro (hsome | ⟨hexist', _⟩)
      · cases hsome
      · cases hexist'
    | true =>
      have hagent := fun id => (h.ofAgent id).filter_concat_iff hmissing
      have hgroup := fun id => (h.ofGroup id).filter_concat_iff hmissing
      constructor
      · intro h'
        refine Or.inr ⟨rfl, ?_, ?_⟩
        · intro id hid
          exact (hagent id).mp (h'.ofAgent id) (by simpa using hid)
        · intro id hid
          exact (hgroup id).mp (h'.ofGroup id) (by simpa using hid)
      · rintro (hsome | ⟨_, hnoAgentTie, hnoGroupTie⟩)
        · cases hsome
        · have hconfigs := (h.configs.insert_iff hlookup config config rfl).mpr rfl
          refine ⟨h.agents, h.groups, hconfigs, ?_, ?_⟩
          · intro id
            exact (hagent id).mpr fun hid => hnoAgentTie id (by simpa using hid)
          · intro id
            exact (hgroup id).mpr fun hid => hnoGroupTie id (by simpa using hid)

/-! ### The run -/

/-- The replies of a write, and the backends after it. -/
theorem outcome_iff {b : Backends} (rs : Except String Storage) (rm : Except String Store) :
    ((b.sqlite.written rs).2.ok == (b.memory.written rm).2.ok) = true
        ∧ Matches ⟨(b.sqlite.written rs).1, (b.memory.written rm).1⟩
      ↔ b.Outcome rs rm := by
  cases rs <;> cases rm
  · exact ⟨fun h => h.2, fun h => ⟨rfl, h⟩⟩
  · exact ⟨fun h => absurd h.1 Bool.false_ne_true, False.elim⟩
  · exact ⟨fun h => absurd h.1 Bool.false_ne_true, False.elim⟩
  · exact ⟨fun h => h.2, fun h => ⟨rfl, h⟩⟩

/-- An operation does the same on backends that match exactly if it is compatible. -/
theorem Matches.step_iff {b b' : Backends} {call : Call} (h : b.Matches)
    (hids : b.sqlite.UniqueIds) (hrefs : b.sqlite.NoDangling) (hstep : b.step call = some b') :
    ((b.replies call).1.ok == (b.replies call).2.ok) = true ∧ b'.Matches
      ↔ b.Compatible call.op := by
  obtain ⟨sqliteNow, memoryNow, loops, op⟩ := call
  cases hstep
  have hupdate : ∀ id {f f' : Agent → Agent}, (∀ row, (f row).id = row.id) →
      (∀ row row', row.unstamped = row'.unstamped → (f row).unstamped = (f' row').unstamped) →
      (((b.sqlite.written (b.sqlite.updateAgent id f)).2.ok
          == (b.memory.written (b.memory.updateAgent id f')).2.ok) = true
        ∧ Matches ⟨(b.sqlite.written (b.sqlite.updateAgent id f)).1,
            (b.memory.written (b.memory.updateAgent id f')).1⟩ ↔ True) :=
    fun id _ _ hid hf => (outcome_iff _ _).trans (iff_true_intro (updateAgent_outcome h id hid hf))
  cases op with
  | createAgent agent => exact (outcome_iff _ _).trans (createAgent_iff h agent)
  | updateAgentStatus id status =>
    refine hupdate id (fun _ => rfl) ?_
    intro row row' hrow
    exact congrArg (fun agent : Agent => { agent with status := status }) hrow
  | updateAgentLastSeen id lastSeen =>
    refine hupdate id (fun _ => rfl) ?_
    intro row row' hrow
    exact congrArg (fun agent : Agent => { agent with lastSeen := lastSeen }) hrow
  | updateAgentEffectiveConfig id effectiveConfig =>
    refine hupdate id (fun _ => rfl) ?_
    intro row row' hrow
    exact congrArg (fun agent : Agent => { agent with effectiveConfig := effectiveConfig }) hrow
  | deleteAgent id => exact (outcome_iff _ _).trans (deleteAgent_iff h hids hrefs id)
  | createGroup group =>
    exact (outcome_iff _ _).trans (iff_true_intro (createGroup_outcome h group))
  | deleteGroup id => exact (outcome_iff _ _).trans (deleteGroup_iff h hids hrefs id)
  | createConfig config => exact (outcome_iff _ _).trans (createConfig_iff h config)
  | getAgent | listAgents | getGroup | listGroups | getConfig | getLatestConfigForAgent
  | getLatestConfigForGroup | listConfigs => exact ⟨fun _ => trivial, fun _ => ⟨rfl, h⟩⟩

theorem matches_start : start.Matches := by
  refine ⟨fun _ => rfl, fun _ => rfl, fun _ => rfl, ?_, ?_⟩ <;>
  · intro id config hconfig
    cases hconfig

/-- Both backends agree along a run exactly if every operation is compatible. -/
theorem agree_along_iff (calls : List Call) :
    Along recorded Agree (start, true) calls ↔
      StepsMeet recorded (fun p call => p.1.Compatible call.op) (start, true) calls := by
  have hrun : (run recorded (start, true) calls).isSome :=
    isSome_run_of_isSome (fun _ _ => rfl) _ _
  have hinv : ∀ p call p', p.1.sqlite.UniqueIds ∧ p.1.sqlite.NoDangling →
      recorded p call = some p' → p'.1.sqlite.UniqueIds ∧ p'.1.sqlite.NoDangling := by
    rintro p call p' ⟨hids, hrefs⟩ hstep
    obtain ⟨hstep', -⟩ := withGhost_eq_some.mp hstep
    have hsqlite : (p.1.sqlite.perform true call.sqliteNow call.op).1 = p'.1.sqlite :=
      congrArg sqlite (Option.some.inj hstep')
    rw [← hsqlite]
    exact ⟨hids.perform _ _ _,
      (hrefs.perform_iff _ _ _).mpr (Sqlite.Storage.enforced_true _ _)⟩
  have hstart : Agree (start, true) :=
    ⟨rfl, (reads_iff Sqlite.Storage.uniqueIds_empty).mpr matches_start⟩
  apply along_iff_stepsMeet (D := fun _ => True) hinv _ (fun _ _ => trivial)
    ⟨Sqlite.Storage.uniqueIds_empty, Sqlite.Storage.noDangling_empty⟩ hstart hrun
  intro p call p' _ hI hP hstep
  obtain ⟨hids', -⟩ := hinv p call p' hI hstep
  obtain ⟨hstep', hlast⟩ := withGhost_eq_some.mp hstep
  have hmatches := (reads_iff hI.1).mp hP.reads
  rw [← hmatches.step_iff hI.1 hI.2 hstep', ← hlast, ← reads_iff hids']
  exact ⟨fun h => ⟨h.succeeded, h.reads⟩, fun h => ⟨h.1, h.2⟩⟩

/-- An agent and a config of it are created, and the agent is deleted. SQLite has deleted the config
too, and the store in memory still returns it. -/
theorem disagree_after_delete :
    ∃ p, run recorded (start, true)
        [⟨1, 1, Loops.over (.first ""),
            .createAgent ⟨.nil, "a", ∅, .online, 1, none, none, "", [], [], 1, 1⟩⟩,
          ⟨2, 2, Loops.over (.first ""),
            .createConfig ⟨"c", "", some .nil, none, "", [], .wrap 1, 2⟩⟩,
          ⟨3, 3, Loops.over (.first ""), .deleteAgent .nil⟩] = some p ∧
      p.1.sqlite.getConfig "c" = none ∧
      p.1.memory.getConfig "c" = some ⟨"c", "", some .nil, none, "", [], .wrap 1, 2⟩ ∧
      ¬ Agree p := by
  refine ⟨_, rfl, rfl, rfl, ?_⟩
  intro h
  have hread := h.reads ⟨4, 4, Loops.over (.first ""), .getConfig "c"⟩ trivial
  cases hread

end Backends

end OtelHive.Memory
