import Mathlib.Data.List.MinMax
import Mathlib.Data.List.Sort
import Mathlib.Data.Prod.Lex
import OtelHive.Types

/-!
# `OtelHive.Sqlite.Storage`: the application store

`internal/storage/applicationstore/sqlite/sqlite.go` over the tables that `migrate`
creates. A table is the list of its rows, oldest first. Each operation is the SQL statement
it executes: a primary key that repeats and a foreign key without its row are errors,
`UPDATE` and `DELETE` of a missing row report "not found", and `ON DELETE CASCADE` removes
the configs of a deleted agent or group. SQLite enforces foreign keys only on a connection
with the pragma on, which `foreignKeys` says.

`ORDER BY ... LIMIT 1` returns one row that is maximal in the order. Here it is the oldest
such row.
-/

set_option autoImplicit false

namespace OtelHive.Sqlite

open OtelHive.Types

/-- The database. -/
structure Storage where
  agents : List Agent
  groups : List Group
  configs : List Config
deriving DecidableEq

namespace Storage

/-- The database after `migrate` on an empty file. -/
def empty : Storage := ⟨[], [], []⟩

/-! ### Agents -/

/-- `CreateAgent`. -/
def createAgent (s : Storage) (agent : Agent) : Except String Storage :=
  if s.agents.any (·.id == agent.id) then
    .error "failed to create agent: UNIQUE constraint failed: agents.id"
  -- The INSERT does not list `effective_config`.
  else .ok { s with agents := s.agents ++ [{ agent with effectiveConfig := [] }] }

/-- `GetAgent`. -/
def getAgent (s : Storage) (id : UUID) : Option Agent :=
  s.agents.find? (·.id == id)

/-- `ListAgents`: newest first. -/
def listAgents (s : Storage) : List Agent :=
  s.agents.insertionSort fun a b => b.createdAt ≤ a.createdAt

/-- `UPDATE agents SET ... WHERE id = ?`. -/
def updateAgent (s : Storage) (id : UUID) (f : Agent → Agent) : Except String Storage :=
  if s.agents.any (·.id == id) then
    .ok { s with agents := s.agents.map fun agent => if agent.id = id then f agent else agent }
  else .error ("agent not found: " ++ id.toString)

/-- `UpdateAgentStatus`. -/
def updateAgentStatus (s : Storage) (now : Time) (id : UUID) (status : AgentStatus) :
    Except String Storage :=
  s.updateAgent id fun agent => { agent with status := status, updatedAt := now }

/-- `UpdateAgentLastSeen`. -/
def updateAgentLastSeen (s : Storage) (now : Time) (id : UUID) (lastSeen : Time) :
    Except String Storage :=
  s.updateAgent id fun agent => { agent with lastSeen := lastSeen, updatedAt := now }

/-- `UpdateAgentEffectiveConfig`. -/
def updateAgentEffectiveConfig (s : Storage) (now : Time) (id : UUID) (effectiveConfig : Bytes) :
    Except String Storage :=
  s.updateAgent id fun agent => { agent with effectiveConfig := effectiveConfig, updatedAt := now }

/-- `DeleteAgent`. -/
def deleteAgent (s : Storage) (foreignKeys : Bool) (id : UUID) : Except String Storage :=
  if s.agents.any (·.id == id) then
    .ok { s with
      agents := s.agents.filter (·.id != id)
      configs := if foreignKeys then s.configs.filter (·.agentID != some id) else s.configs }
  else .error ("agent not found: " ++ id.toString)

/-! ### Groups -/

/-- `CreateGroup`. -/
def createGroup (s : Storage) (group : Group) : Except String Storage :=
  if s.groups.any (·.id == group.id) then
    .error "failed to create group: UNIQUE constraint failed: groups.id"
  else .ok { s with groups := s.groups ++ [group] }

/-- `GetGroup`. -/
def getGroup (s : Storage) (id : String) : Option Group :=
  s.groups.find? (·.id == id)

/-- `ListGroups`: newest first. -/
def listGroups (s : Storage) : List Group :=
  s.groups.insertionSort fun a b => b.createdAt ≤ a.createdAt

/-- `DeleteGroup`. -/
def deleteGroup (s : Storage) (foreignKeys : Bool) (id : String) : Except String Storage :=
  if s.groups.any (·.id == id) then
    .ok { s with
      groups := s.groups.filter (·.id != id)
      configs := if foreignKeys then s.configs.filter (·.groupID != some id) else s.configs }
  else .error ("group not found: " ++ id)

/-! ### Configs -/

/-- The agent and the group that a config row references exist. -/
def referencesExist (s : Storage) (config : Config) : Bool :=
  config.agentID.all (fun id => s.agents.any (·.id == id))
    && config.groupID.all (fun id => s.groups.any (·.id == id))

/-- `CreateConfig`. -/
def createConfig (s : Storage) (foreignKeys : Bool) (config : Config) : Except String Storage :=
  if s.configs.any (·.id == config.id) then
    .error "failed to create config: UNIQUE constraint failed: configs.id"
  else if foreignKeys && !s.referencesExist config then
    .error "failed to create config: FOREIGN KEY constraint failed"
  else .ok { s with configs := s.configs ++ [config] }

/-- `GetConfig`. -/
def getConfig (s : Storage) (id : String) : Option Config :=
  s.configs.find? (·.id == id)

/-- The order of the versions. -/
instance : Preorder GoInt := (Subtype.instLinearOrder _).toPreorder

/-- The key of `ORDER BY version DESC, created_at DESC`. -/
def latestKey (config : Config) : GoInt ×ₗ Time :=
  toLex (config.version, config.createdAt)

/-- The latest of the config rows that satisfy `p`. -/
def latestWhere (s : Storage) (p : Config → Bool) : Option Config :=
  (s.configs.filter p).argmax latestKey

/-- `GetLatestConfigForAgent`. -/
def getLatestConfigForAgent (s : Storage) (agentID : UUID) : Option Config :=
  s.latestWhere (·.agentID == some agentID)

/-- `GetLatestConfigForGroup`. -/
def getLatestConfigForGroup (s : Storage) (groupID : String) : Option Config :=
  s.latestWhere (·.groupID == some groupID)

/-- `ListConfigs`: newest first. -/
def listConfigs (s : Storage) (filter : ConfigFilter) : List Config :=
  let found := (s.configs.filter filter.admits).insertionSort fun a b => b.createdAt ≤ a.createdAt
  if 0 < filter.limit.1 then found.take filter.limit.1.toNat else found

/-! ### The interface -/

/-- The database and the reply after a write. -/
def written (s : Storage) (result : Except String Storage) : Storage × Reply :=
  match result with
  | .ok s' => (s', .done)
  | .error err => (s, .error err)

/-- An operation on a connection, at a time. `foreignKeys` is the pragma of the connection. -/
def perform (s : Storage) (foreignKeys : Bool) (now : Time) : Operation → Storage × Reply
  | .createAgent agent => s.written (s.createAgent agent)
  | .getAgent id => (s, .agent (s.getAgent id))
  | .listAgents => (s, .agents s.listAgents)
  | .updateAgentStatus id status => s.written (s.updateAgentStatus now id status)
  | .updateAgentLastSeen id lastSeen => s.written (s.updateAgentLastSeen now id lastSeen)
  | .updateAgentEffectiveConfig id effectiveConfig =>
    s.written (s.updateAgentEffectiveConfig now id effectiveConfig)
  | .deleteAgent id => s.written (s.deleteAgent foreignKeys id)
  | .createGroup group => s.written (s.createGroup group)
  | .getGroup id => (s, .group (s.getGroup id))
  | .listGroups => (s, .groups s.listGroups)
  | .deleteGroup id => s.written (s.deleteGroup foreignKeys id)
  | .createConfig config => s.written (s.createConfig foreignKeys config)
  | .getConfig id => (s, .config (s.getConfig id))
  | .getLatestConfigForAgent agentID => (s, .config (s.getLatestConfigForAgent agentID))
  | .getLatestConfigForGroup groupID => (s, .config (s.getLatestConfigForGroup groupID))
  | .listConfigs filter => (s, .configs (s.listConfigs filter))

end Storage

end OtelHive.Sqlite
