import OtelHive.Lib.Related
import OtelHive.Proofs.Hex
import OtelHive.Sqlite.Rows

/-!
# `OtelHive.Proofs.Sqlite.Rows`: the columns hold the records

`Sqlite.Storage` has records in its tables, and `Sqlite.Rows` has texts in its columns. `Stores`
relates the two tables row by row, and each operation keeps it (`Stores.perform`). So every run of
operations gives the same replies on both (`rows_agree`). A map of labels comes back with the same
keys and values, and perhaps in another order, so the replies are compared with `Reply.Reads`.

`labels_read_back` is the round trip of the labels, and `capabilities_read_back` that of the
capabilities. Both also say that `json.Unmarshal` does not fail. So the errors that the store drops
never occur: `no_dropped_error` says so for all rows of all runs.
-/

set_option autoImplicit false

namespace OtelHive.Types

open OtelHive.Lib

/-! ### Records read back -/

/-- The map has the same value for each key. -/
def SameLabels (a b : GoMap String String) : Prop := ∀ k, a.lookup k = b.lookup k

/-- The agent is the other one, up to the order of its labels. -/
def Agent.Reads (a b : Agent) : Prop :=
  SameLabels a.labels b.labels ∧ a = { b with labels := a.labels }

/-- The group is the other one, up to the order of its labels. -/
def Group.Reads (a b : Group) : Prop :=
  SameLabels a.labels b.labels ∧ a = { b with labels := a.labels }

/-- The reply is the other one, up to the order of the labels of a record. -/
def Reply.Reads : Reply → Reply → Prop
  | .agent a, .agent b => Option.Rel Agent.Reads a b
  | .agents as, .agents bs => List.Forall₂ Agent.Reads as bs
  | .group a, .group b => Option.Rel Group.Reads a b
  | .groups as, .groups bs => List.Forall₂ Group.Reads as bs
  | r, r' => r = r'

end OtelHive.Types

namespace OtelHive.Sqlite

open OtelHive.Lib
open OtelHive.Types
open List (Forall₂)

/-! ### JSON columns -/

/-- A map that is filled pair by pair, when no key repeats. -/
theorem lookup_labelsOf {pairs : List (String × String)} (hnodup : (pairs.map Prod.fst).Nodup)
    (k v : String) :
    (labelsOf (pairs.map fun (k, v) => (k, .string v))).lookup k = some v ↔ (k, v) ∈ pairs := by
  have hfold : ∀ (pairs : List (String × String)) (m : GoMap String String),
      (pairs.map Prod.fst).Nodup →
      (((pairs.map fun (k, v) => (k, Json.Value.string v)).foldl
        (fun labels m => labels.insert m.1 (stringOf m.2)) m).lookup k = some v ↔
        (k, v) ∈ pairs ∨ (k ∉ pairs.map Prod.fst ∧ m.lookup k = some v)) := by
    intro pairs
    induction pairs with
    | nil => simp
    | cons p pairs ih =>
      intro m hnodup
      obtain ⟨k', v'⟩ := p
      rw [List.map_cons, List.nodup_cons] at hnodup
      rw [List.map_cons, List.foldl_cons, ih _ hnodup.2, GoMap.lookup_insert_eq, List.map_cons,
        List.mem_cons, List.mem_cons, not_or]
      by_cases hk : k = k'
      · subst hk
        have hnew : ∀ w, (k, w) ∉ pairs :=
          fun w hw => hnodup.1 (List.mem_map.mpr ⟨(k, w), hw, rfl⟩)
        simp only [hnodup.1, hnew, not_false_eq_true, if_pos, stringOf, Prod.mk.injEq, true_and,
          false_or, or_false, not_true_eq_false, false_and]
        exact ⟨fun h => (Option.some.inj h).symm, fun h => congrArg some h.symm⟩
      · simp [hk]
  rw [labelsOf, hfold pairs ∅ hnodup]
  simp

theorem sortedPairs_perm (m : GoMap String String) : (sortedPairs m).Perm m.toList :=
  List.perm_insertionSort _ _

/-- The labels that a read of the column returns. -/
def reread (labels : GoMap String String) : GoMap String String :=
  labelsOf ((sortedPairs labels).map fun (k, v) => (k, .string v))

theorem reread_same (labels : GoMap String String) : SameLabels (reread labels) labels := by
  have hnodup : ((sortedPairs labels).map Prod.fst).Nodup :=
    ((sortedPairs_perm labels).map Prod.fst).nodup_iff.mpr (GoMap.nodup_keys_toList labels)
  intro k
  apply Option.ext
  intro v
  rw [reread, lookup_labelsOf hnodup, (sortedPairs_perm labels).mem_iff, GoMap.mem_toList_iff]

/-- The text of the labels is decoded without an error. -/
theorem unmarshalLabels_marshal (isNil : Bool) (labels : GoMap String String) :
    unmarshalLabels (marshalLabels isNil labels) = { value := reread labels, failed := false } := by
  unfold unmarshalLabels marshalLabels
  rw [String.toList_ofList, Json.parse_render]
  by_cases hnil : (isNil && labels.toList.isEmpty) = true
  · rw [if_pos hnil]
    have hempty : labels.toList = [] := by
      simp only [Bool.and_eq_true, List.isEmpty_iff] at hnil
      exact hnil.2
    have hpairs : sortedPairs labels = [] := by
      rw [sortedPairs, hempty]
      rfl
    simp only [reread, hpairs, labelsOf, List.map_nil, List.foldl_nil]
  · rw [if_neg hnil]
    simp [reread, fitsString]

/-- **The labels are read back**, whatever characters they have. -/
theorem labels_read_back (isNil : Bool) (labels : GoMap String String) :
    SameLabels (unmarshalLabels (marshalLabels isNil labels)).value labels
      ∧ (unmarshalLabels (marshalLabels isNil labels)).failed = false := by
  rw [unmarshalLabels_marshal]
  exact ⟨reread_same labels, rfl⟩

/-- **The capabilities are read back.** -/
theorem capabilities_read_back (isNil : Bool) (capabilities : List String) :
    unmarshalCapabilities (marshalCapabilities isNil capabilities)
      = { value := capabilities, failed := false } := by
  unfold unmarshalCapabilities marshalCapabilities
  rw [String.toList_ofList, Json.parse_render]
  by_cases hnil : (isNil && capabilities.isEmpty) = true
  · rw [if_pos hnil]
    simp only [Bool.and_eq_true, List.isEmpty_iff] at hnil
    rw [hnil.2]
  · rw [if_neg hnil]
    simp [Function.comp_def, stringOf, fitsString]

/-! ### Rows -/

/-- The row holds the agent. -/
structure AgentRow.Stores (row : AgentRow) (agent : Agent) : Prop where
  id : row.id = agent.id.toString
  name : row.name = agent.name
  labels : ∃ isNil, row.labels = marshalLabels isNil agent.labels
  status : row.status = agent.status
  lastSeen : row.lastSeen = agent.lastSeen
  groupID : row.groupID = agent.groupID
  groupName : row.groupName = agent.groupName
  version : row.version = agent.version
  capabilities : ∃ isNil, row.capabilities = marshalCapabilities isNil agent.capabilities
  effectiveConfig : row.effectiveConfig.getD [] = agent.effectiveConfig
  createdAt : row.createdAt = agent.createdAt
  updatedAt : row.updatedAt = agent.updatedAt

/-- The row holds the group. -/
def GroupRow.Stores (row : GroupRow) (group : Group) : Prop :=
  ∃ nils, row = GroupRow.insert nils group

/-- The row holds the config. -/
def ConfigRow.Stores (row : ConfigRow) (config : Config) : Prop := row = ConfigRow.insert config

theorem AgentRow.stores_insert (nils : Nils) (agent : Agent) :
    (AgentRow.insert nils agent).Stores { agent with effectiveConfig := [] } where
  id := rfl
  name := rfl
  labels := ⟨nils.labels, rfl⟩
  status := rfl
  lastSeen := rfl
  groupID := rfl
  groupName := rfl
  version := rfl
  capabilities := ⟨nils.capabilities, rfl⟩
  effectiveConfig := rfl
  createdAt := rfl
  updatedAt := rfl

/-- A scan of the row of an agent returns the agent. -/
theorem AgentRow.Stores.scan {row : AgentRow} {agent : Agent} (h : row.Stores agent) :
    (row.scan agent.id).Reads agent := by
  obtain ⟨isNil, hlabels⟩ := h.labels
  obtain ⟨isNil', hcapabilities⟩ := h.capabilities
  constructor
  · show SameLabels (unmarshalLabels row.labels).value agent.labels
    rw [hlabels]
    exact (labels_read_back isNil agent.labels).1
  · simp only [AgentRow.scan, hcapabilities, capabilities_read_back, h.name, h.status, h.lastSeen,
      h.groupID, h.groupName, h.version, h.effectiveConfig, h.createdAt, h.updatedAt]

theorem GroupRow.Stores.scan {row : GroupRow} {group : Group} (h : row.Stores group) :
    row.scan.Reads group := by
  obtain ⟨nils, rfl⟩ := h
  constructor
  · show SameLabels (unmarshalLabels (marshalLabels nils.labels group.labels)).value group.labels
    exact (labels_read_back nils.labels group.labels).1
  · rfl

section Parse

variable {uuidParse : String → Option UUID}

theorem parsedID_toString (hparse : ∀ id : UUID, uuidParse id.toString = some id) (id : UUID) :
    parsedID uuidParse id.toString = id := by
  rw [parsedID, hparse, Option.getD_some]

theorem ConfigRow.Stores.scan (hparse : ∀ id : UUID, uuidParse id.toString = some id)
    {row : ConfigRow} {config : Config} (h : row.Stores config) :
    row.scan uuidParse = config := by
  subst h
  have hid : config.agentID.map (parsedID uuidParse ∘ UUID.toString) = config.agentID := by
    cases config.agentID with
    | none => rfl
    | some id => exact congrArg some (parsedID_toString hparse id)
  simp only [ConfigRow.scan, ConfigRow.insert, Option.map_map, hid, Option.getD_some]

end Parse

/-! ### Tables -/

/-- The tables hold the records. -/
structure Database.Stores (db : Database) (s : Storage) : Prop where
  agents : Forall₂ AgentRow.Stores db.agents s.agents
  groups : Forall₂ GroupRow.Stores db.groups s.groups
  configs : Forall₂ ConfigRow.Stores db.configs s.configs

namespace Database

theorem stores_empty : empty.Stores .empty := ⟨.nil, .nil, .nil⟩

/-- The text of an id names the id. -/
theorem toString_beq (a b : UUID) : (a.toString == b.toString) = (a == b) := by
  by_cases hab : a = b
  · rw [hab, beq_self_eq_true, beq_self_eq_true]
  · rw [beq_false_of_ne hab]
    apply beq_false_of_ne
    intro htext
    exact hab (UUID.toString_injective (congrArg String.toList htext))

theorem agent_id_eq {row : AgentRow} {agent : Agent} (h : row.Stores agent) (id : UUID) :
    (row.id == id.toString) = (agent.id == id) := by
  rw [h.id, toString_beq]

theorem group_id_eq {row : GroupRow} {group : Group} (h : row.Stores group) (id : String) :
    (row.id == id) = (group.id == id) := by
  obtain ⟨nils, rfl⟩ := h
  rfl

theorem config_agentID_eq {row : ConfigRow} {config : Config} (h : row.Stores config) (id : UUID) :
    (row.agentID == some id.toString) = (config.agentID == some id) := by
  subst h
  show (config.agentID.map UUID.toString == some id.toString) = _
  cases config.agentID with
  | none => rfl
  | some agentID =>
    rw [Option.map_some, Option.some_beq_some, Option.some_beq_some]
    exact toString_beq agentID id

/-- A write has the same outcome on both, and it keeps the rows. -/
inductive Wrote : Except String Database → Except String Storage → Prop where
  | ok {db : Database} {s : Storage} (h : db.Stores s) : Wrote (.ok db) (.ok s)
  | error (err : String) : Wrote (.error err) (.error err)

section Writes

variable {db : Database} {s : Storage}

theorem Stores.any_agents (h : db.Stores s) (id : UUID) :
    db.agents.any (·.id == id.toString) = s.agents.any (·.id == id) :=
  any_of_forall₂ h.agents fun _ _ hrow => agent_id_eq hrow id

theorem Stores.any_groups (h : db.Stores s) (id : String) :
    db.groups.any (·.id == id) = s.groups.any (·.id == id) :=
  any_of_forall₂ h.groups fun _ _ hrow => group_id_eq hrow id

theorem Stores.createAgent (h : db.Stores s) (nils : Nils) (agent : Agent) :
    Wrote (db.createAgent nils agent) (s.createAgent agent) := by
  rw [Database.createAgent, Storage.createAgent, h.any_agents]
  split
  · exact .error _
  · exact .ok { h with agents := concat_of_forall₂ h.agents (AgentRow.stores_insert nils agent) }

/-- An update of a row and the same update of the record. -/
theorem Stores.updateAgent (h : db.Stores s) (id : UUID) {f : AgentRow → AgentRow}
    {g : Agent → Agent} (hfg : ∀ row agent, row.Stores agent → (f row).Stores (g agent)) :
    Wrote (db.updateAgent id f) (s.updateAgent id g) := by
  have hid : ∀ (row : AgentRow) (agent : Agent), row.Stores agent →
      (row.id = id.toString ↔ agent.id = id) := by
    intro row agent hrow
    rw [← beq_iff_eq, agent_id_eq hrow id, beq_iff_eq]
  rw [Database.updateAgent, Storage.updateAgent, h.any_agents]
  split
  · exact .ok { h with agents := update_of_forall₂ h.agents hid hfg }
  · exact .error _

theorem Stores.deleteAgent (h : db.Stores s) (foreignKeys : Bool) (id : UUID) :
    Wrote (db.deleteAgent foreignKeys id) (s.deleteAgent foreignKeys id) := by
  have hagents := filter_of_forall₂ (p := (·.id != id.toString)) (q := (·.id != id)) h.agents
    fun _ _ hrow => congrArg (!·) (agent_id_eq hrow id)
  have hconfigs := filter_of_forall₂ (p := (·.agentID != some id.toString))
    (q := (·.agentID != some id)) h.configs
    fun _ _ hrow => congrArg (!·) (config_agentID_eq hrow id)
  rw [Database.deleteAgent, Storage.deleteAgent, h.any_agents]
  split
  · refine .ok ⟨hagents, h.groups, ?_⟩
    cases foreignKeys with
    | true => exact hconfigs
    | false => exact h.configs
  · exact .error _

theorem Stores.createGroup (h : db.Stores s) (nils : Nils) (group : Group) :
    Wrote (db.createGroup nils group) (s.createGroup group) := by
  rw [Database.createGroup, Storage.createGroup, h.any_groups]
  split
  · exact .error _
  · exact .ok { h with groups := concat_of_forall₂ h.groups ⟨nils, rfl⟩ }

theorem Stores.deleteGroup (h : db.Stores s) (foreignKeys : Bool) (id : String) :
    Wrote (db.deleteGroup foreignKeys id) (s.deleteGroup foreignKeys id) := by
  have hgroups := filter_of_forall₂ (p := (·.id != id)) (q := (·.id != id)) h.groups
    fun _ _ hrow => congrArg (!·) (group_id_eq hrow id)
  have hconfigs := filter_of_forall₂ (p := (·.groupID != some id)) (q := (·.groupID != some id))
    h.configs fun _ _ hrow => by rw [hrow]; rfl
  rw [Database.deleteGroup, Storage.deleteGroup, h.any_groups]
  split
  · refine .ok ⟨h.agents, hgroups, ?_⟩
    cases foreignKeys with
    | true => exact hconfigs
    | false => exact h.configs
  · exact .error _

theorem Stores.referencesExist (h : db.Stores s) (config : Config) :
    db.referencesExist (ConfigRow.insert config) = s.referencesExist config := by
  have hagent : (config.agentID.map UUID.toString).all (fun id => db.agents.any (·.id == id))
      = config.agentID.all fun id => s.agents.any (·.id == id) := by
    cases config.agentID with
    | none => rfl
    | some id => exact h.any_agents id
  have hgroup : config.groupID.all (fun id => db.groups.any (·.id == id))
      = config.groupID.all fun id => s.groups.any (·.id == id) := by
    cases config.groupID with
    | none => rfl
    | some id => exact h.any_groups id
  rw [Database.referencesExist, Storage.referencesExist, ← hagent, ← hgroup]
  rfl

theorem Stores.createConfig (h : db.Stores s) (foreignKeys : Bool) (config : Config) :
    Wrote (db.createConfig foreignKeys config) (s.createConfig foreignKeys config) := by
  have hids : db.configs.any (·.id == config.id) = s.configs.any (·.id == config.id) :=
    any_of_forall₂ h.configs fun _ _ hrow => by rw [hrow]; rfl
  rw [Database.createConfig, Storage.createConfig, hids, h.referencesExist]
  split
  · exact .error _
  · split
    · exact .error _
    · exact .ok { h with configs := concat_of_forall₂ h.configs rfl }

/-- The database and the reply after a write. -/
theorem Wrote.written (h : db.Stores s) {result : Except String Database}
    {result' : Except String Storage} (hw : Wrote result result') :
    (db.written result).1.Stores (s.written result').1
      ∧ (db.written result).2.Reads (s.written result').2 := by
  cases hw with
  | ok h' => exact ⟨h', rfl⟩
  | error err => exact ⟨h, rfl⟩

end Writes

section Reads

variable {db : Database} {s : Storage}

theorem Stores.getAgent (h : db.Stores s) (id : UUID) :
    Option.Rel Agent.Reads (db.getAgent id) (s.getAgent id) := by
  have hfind := find?_of_forall₂ h.agents fun _ _ hrow => agent_id_eq hrow id
  have hid : ∀ agent, s.agents.find? (·.id == id) = some agent → agent.id = id :=
    fun agent hagent => by simpa using List.find?_some hagent
  rw [Database.getAgent, Storage.getAgent]
  generalize db.agents.find? (·.id == id.toString) = row at hfind ⊢
  generalize s.agents.find? (·.id == id) = agent at hfind hid ⊢
  cases hfind with
  | none => exact .none
  | some hrow =>
    rw [← hid _ rfl]
    exact .some hrow.scan

theorem Stores.getGroup (h : db.Stores s) (id : String) :
    Option.Rel Group.Reads (db.getGroup id) (s.getGroup id) := by
  have hfind := find?_of_forall₂ h.groups fun _ _ hrow => group_id_eq hrow id
  rw [Database.getGroup, Storage.getGroup]
  generalize db.groups.find? (·.id == id) = row at hfind ⊢
  generalize s.groups.find? (·.id == id) = group at hfind ⊢
  cases hfind with
  | none => exact .none
  | some hrow => exact .some hrow.scan

theorem Stores.listGroups (h : db.Stores s) :
    Forall₂ Group.Reads db.listGroups s.listGroups := by
  have hkey : ∀ row group, GroupRow.Stores row group → row.createdAt = group.createdAt := by
    intro row group hrow
    obtain ⟨nils, rfl⟩ := hrow
    rfl
  rw [Database.listGroups, Storage.listGroups, List.forall₂_map_left_iff]
  exact (insertionSort_of_forall₂ h.groups hkey).imp fun _ _ hrow => hrow.scan

variable {uuidParse : String → Option UUID}

theorem Stores.listAgents (hparse : ∀ id : UUID, uuidParse id.toString = some id)
    (h : db.Stores s) : Forall₂ Agent.Reads (db.listAgents uuidParse) s.listAgents := by
  rw [Database.listAgents, Storage.listAgents, List.forall₂_map_left_iff]
  refine (insertionSort_of_forall₂ h.agents fun _ _ hrow => hrow.createdAt).imp ?_
  intro row agent hrow
  rw [hrow.id, parsedID_toString hparse]
  exact hrow.scan

theorem Stores.getConfig (hparse : ∀ id : UUID, uuidParse id.toString = some id)
    (h : db.Stores s) (id : String) : db.getConfig uuidParse id = s.getConfig id := by
  have hfind := find?_of_forall₂ (p := (·.id == id)) (q := (·.id == id)) h.configs
    fun _ _ hrow => by rw [hrow]; rfl
  have hscan := map_eq_of_rel (f := (·.scan uuidParse)) (g := fun config => config) hfind
    fun _ _ hrow => hrow.scan hparse
  rwa [Option.map_id'] at hscan

/-- The latest of the rows that a condition names. -/
theorem Stores.latestWhere (hparse : ∀ id : UUID, uuidParse id.toString = some id)
    (h : db.Stores s) {p : ConfigRow → Bool} {q : Config → Bool}
    (hpq : ∀ row config, ConfigRow.Stores row config → p row = q config) :
    ((db.configs.filter p).argmax latestKey).map (·.scan uuidParse) = s.latestWhere q := by
  have hkey : ∀ row config, ConfigRow.Stores row config →
      latestKey row = Storage.latestKey config := by
    intro row config hrow
    rw [hrow]
    rfl
  have hmax := argmax_of_forall₂ (filter_of_forall₂ h.configs hpq) hkey
  have hscan := map_eq_of_rel (f := (·.scan uuidParse)) (g := fun config => config) hmax
    fun _ _ hrow => hrow.scan hparse
  rwa [Option.map_id'] at hscan

theorem Stores.listConfigs (hparse : ∀ id : UUID, uuidParse id.toString = some id)
    (h : db.Stores s) (filter : ConfigFilter) :
    db.listConfigs uuidParse filter = s.listConfigs filter := by
  have hadmits : ∀ row config, ConfigRow.Stores row config →
      admits filter row = filter.admits config := by
    intro row config hrow
    unfold admits ConfigFilter.admits
    have hgroup : row.groupID = config.groupID := by rw [hrow]; rfl
    rw [hgroup]
    congr 1
    cases filter.agentID with
    | none => rfl
    | some id => exact config_agentID_eq hrow id
  have hkey : ∀ row config, ConfigRow.Stores row config → row.createdAt = config.createdAt := by
    intro row config hrow
    rw [hrow]
    rfl
  have hfound := insertionSort_of_forall₂ (filter_of_forall₂ h.configs hadmits) hkey
  have hscan : ∀ {rows : List ConfigRow} {configs : List Config},
      Forall₂ ConfigRow.Stores rows configs → rows.map (·.scan uuidParse) = configs := by
    intro rows configs hrows
    have hmap := map_eq_of_forall₂ (f := (·.scan uuidParse)) (g := fun config => config) hrows
      fun _ _ hrow => hrow.scan hparse
    rwa [List.map_id'] at hmap
  rw [Database.listConfigs, Storage.listConfigs]
  by_cases hlimit : 0 < filter.limit.1
  · simp only [if_pos hlimit]
    exact hscan (List.forall₂_take _ hfound)
  · simp only [if_neg hlimit]
    exact hscan hfound

end Reads

/-! ### Runs -/

/-- An operation, on a connection and at a time. -/
structure Call where
  foreignKeys : Bool
  now : Time
  nils : Nils
  operation : Operation

variable (uuidParse : String → Option UUID)

/-- The database and the reply after an operation. -/
def exec (db : Database) (call : Call) : Database × Reply :=
  db.perform uuidParse call.foreignKeys call.now call.nils call.operation

/-- The database after a run. -/
def after (calls : List Call) : Database :=
  calls.foldl (fun db call => (db.exec uuidParse call).1) empty

end Database

namespace Storage

/-- The records and the reply after an operation. -/
def exec (s : Storage) (call : Database.Call) : Storage × Reply :=
  s.perform call.foreignKeys call.now call.operation

/-- The records after a run. -/
def after (calls : List Database.Call) : Storage :=
  calls.foldl (fun s call => (s.exec call).1) empty

end Storage

namespace Database

section Runs

variable {uuidParse : String → Option UUID}

/-- One operation. -/
theorem Stores.exec (hparse : ∀ id : UUID, uuidParse id.toString = some id) {db : Database}
    {s : Storage} (h : db.Stores s) (call : Call) :
    (db.exec uuidParse call).1.Stores (s.exec call).1
      ∧ (db.exec uuidParse call).2.Reads (s.exec call).2 := by
  obtain ⟨foreignKeys, now, nils, operation⟩ := call
  cases operation with
  | createAgent agent => exact (h.createAgent nils agent).written h
  | getAgent id => exact ⟨h, h.getAgent id⟩
  | listAgents => exact ⟨h, h.listAgents hparse⟩
  | updateAgentStatus id status =>
    refine (h.updateAgent id ?_).written h
    exact fun _ _ hrow => { hrow with status := rfl, updatedAt := rfl }
  | updateAgentLastSeen id lastSeen =>
    refine (h.updateAgent id ?_).written h
    exact fun _ _ hrow => { hrow with lastSeen := rfl, updatedAt := rfl }
  | updateAgentEffectiveConfig id effectiveConfig =>
    refine (h.updateAgent id ?_).written h
    exact fun _ _ hrow => { hrow with effectiveConfig := rfl, updatedAt := rfl }
  | deleteAgent id => exact (h.deleteAgent foreignKeys id).written h
  | createGroup group => exact (h.createGroup nils group).written h
  | getGroup id => exact ⟨h, h.getGroup id⟩
  | listGroups => exact ⟨h, h.listGroups⟩
  | deleteGroup id => exact (h.deleteGroup foreignKeys id).written h
  | createConfig config => exact (h.createConfig foreignKeys config).written h
  | getConfig id => exact ⟨h, congrArg Reply.config (h.getConfig hparse id)⟩
  | getLatestConfigForAgent agentID =>
    exact ⟨h, congrArg Reply.config
      (h.latestWhere hparse fun _ _ hrow => config_agentID_eq hrow agentID)⟩
  | getLatestConfigForGroup groupID =>
    refine ⟨h, congrArg Reply.config (h.latestWhere hparse ?_)⟩
    intro row config hrow
    rw [hrow]
    rfl
  | listConfigs filter => exact ⟨h, congrArg Reply.configs (h.listConfigs hparse filter)⟩

/-- A run. -/
theorem stores_after (hparse : ∀ id : UUID, uuidParse id.toString = some id)
    (calls : List Call) : (after uuidParse calls).Stores (Storage.after calls) := by
  have hrun : ∀ (calls : List Call) (db : Database) (s : Storage), db.Stores s →
      (calls.foldl (fun db call => (db.exec uuidParse call).1) db).Stores
        (calls.foldl (fun s call => (s.exec call).1) s) := by
    intro calls
    induction calls with
    | nil => exact fun _ _ h => h
    | cons call calls ih => exact fun db s h => ih _ _ (h.exec hparse call).1
  exact hrun calls empty .empty stores_empty

/-- **The columns hold the records.** After any run, an operation replies from the columns what it
replies from the records. -/
theorem rows_agree (hparse : ∀ id : UUID, uuidParse id.toString = some id) (calls : List Call)
    (call : Call) :
    ((after uuidParse calls).exec uuidParse call).2.Reads ((Storage.after calls).exec call).2 :=
  ((stores_after hparse calls).exec hparse call).2

/-- No call of `json.Unmarshal` or `uuid.Parse` on a column returns an error. -/
structure Decodes (uuidParse : String → Option UUID) (db : Database) : Prop where
  agents : ∀ row ∈ db.agents, (unmarshalLabels row.labels).failed = false
    ∧ (unmarshalCapabilities row.capabilities).failed = false ∧ (uuidParse row.id).isSome
  groups : ∀ row ∈ db.groups, (unmarshalLabels row.labels).failed = false
  configs : ∀ row ∈ db.configs, ∀ text, row.agentID = some text → (uuidParse text).isSome

theorem Stores.decodes (hparse : ∀ id : UUID, uuidParse id.toString = some id) {db : Database}
    {s : Storage} (h : db.Stores s) : db.Decodes uuidParse where
  agents := by
    intro row hmem
    obtain ⟨agent, -, hrow⟩ := exists_of_mem_forall₂ h.agents hmem
    obtain ⟨isNil, hlabels⟩ := hrow.labels
    obtain ⟨isNil', hcapabilities⟩ := hrow.capabilities
    rw [hlabels, hcapabilities, hrow.id, hparse, capabilities_read_back]
    exact ⟨(labels_read_back isNil agent.labels).2, rfl, rfl⟩
  groups := by
    intro row hmem
    obtain ⟨group, -, nils, rfl⟩ := exists_of_mem_forall₂ h.groups hmem
    exact (labels_read_back nils.labels group.labels).2
  configs := by
    intro row hmem text htext
    obtain ⟨config, -, rfl⟩ := exists_of_mem_forall₂ h.configs hmem
    obtain ⟨id, -, rfl⟩ := Option.map_eq_some_iff.mp htext
    rw [hparse, Option.isSome_some]

/-- **No error is dropped.** The store ignores what `json.Unmarshal` and `uuid.Parse` return next to
their results. After any run that is no error, for any row. -/
theorem no_dropped_error (hparse : ∀ id : UUID, uuidParse id.toString = some id)
    (calls : List Call) : (after uuidParse calls).Decodes uuidParse :=
  (stores_after hparse calls).decodes hparse

end Runs

/-! ### A parser of ids -/

/-- The bytes of hexadecimal digits. -/
def hexDecode : List Char → Option Bytes
  | [] => some []
  | [_] => none
  | high :: low :: rest => do
    let high ← Json.hexValue high
    let low ← Json.hexValue low
    let bytes ← hexDecode rest
    some (UInt8.ofNat (high * 16 + low) :: bytes)

/-- The digits of bytes are read back. -/
theorem hexDecode_digits (bytes : Bytes) : hexDecode (bytes.flatMap hexDigits) = some bytes := by
  induction bytes with
  | nil => rfl
  | cons x bytes ih =>
    have hx := x.toNat_lt
    have hhigh := Json.hexValue_digitChar (show x.toNat / 16 < 16 by omega)
    have hlow := Json.hexValue_digitChar (show x.toNat % 16 < 16 by omega)
    have hbyte : UInt8.ofNat (x.toNat / 16 * 16 + x.toNat % 16) = x := by
      rw [show x.toNat / 16 * 16 + x.toNat % 16 = x.toNat by omega, UInt8.ofNat_toNat]
    show hexDecode (Nat.digitChar (x.toNat / 16) :: Nat.digitChar (x.toNat % 16)
      :: bytes.flatMap hexDigits) = some (x :: bytes)
    simp only [hexDecode, hhigh, hlow, ih, hbyte, Option.bind_eq_bind, Option.bind_some]

/-- `uuid.Parse` on the texts of `id.String()`. It rejects the other spellings of an id. -/
def parseCanonical (text : String) : Option UUID := do
  let bytes ← hexDecode (text.toList.filter (· ≠ '-'))
  if h : bytes.length = 16 then
    if (UUID.mk bytes h).toString = text then some ⟨bytes, h⟩ else none
  else none

theorem parseCanonical_toString (id : UUID) : parseCanonical id.toString = some id := by
  rw [parseCanonical, UUID.filter_toString, hexDecode_digits]
  simp [id.length_bytes]

/-- An agent with a label, a config of it, and a status that is reported later. -/
def labelledRun : List Call :=
  let agent : Agent :=
    { id := .nil, name := "edge", labels := (∅ : GoMap String String).insert "env" "prod",
      status := .online, lastSeen := 3, groupID := some "g-1", groupName := none, version := "1",
      capabilities := ["AcceptsRemoteConfig"], createdAt := 3, updatedAt := 3 }
  [⟨true, 3, { }, .createAgent agent⟩,
    ⟨true, 4, { }, .createConfig ⟨"c-1", "edge", some .nil, none, "h", [], .wrap 1, 4⟩⟩,
    ⟨false, 5, { }, .updateAgentStatus .nil .offline⟩]

theorem rows_agree_labelled :
    ((after parseCanonical labelledRun).exec parseCanonical ⟨true, 6, { }, .listAgents⟩).2.Reads
      ((Storage.after labelledRun).exec ⟨true, 6, { }, .listAgents⟩).2 :=
  rows_agree parseCanonical_toString labelledRun ⟨true, 6, { }, .listAgents⟩

theorem no_dropped_error_labelled : (after parseCanonical labelledRun).Decodes parseCanonical :=
  no_dropped_error parseCanonical_toString labelledRun

end Database

end OtelHive.Sqlite
