import OtelHive.Lib.Json
import OtelHive.Sqlite.Storage

/-!
# `OtelHive.Sqlite.Rows`: the application store on its columns

`internal/storage/applicationstore/sqlite/sqlite.go` once more, below `Sqlite.Storage`: a row has
the columns that the `INSERT` binds, and a read scans them. An id is the text of `id.String()`. Labels
and capabilities are the JSON texts that `json.Marshal` writes. A column that is `NULL` is `none`.

`json.Unmarshal` returns an error next to what it decoded, and the store drops the error.
`Unmarshalled` has both. `uuid.Parse` is a parameter.

A status is a Go string with three constants, and the driver writes and reads a time, so these two
columns hold the values themselves.
-/

set_option autoImplicit false

namespace OtelHive.Sqlite

open OtelHive.Lib
open OtelHive.Types

/-! ### JSON columns -/

/-- What `json.Unmarshal` leaves in its target, and whether it returned an error. -/
structure Unmarshalled (α : Type) where
  value : α
  failed : Bool

/-- A value as a Go string: one that is no string leaves the empty one. -/
def stringOf : Json.Value → String
  | .string s => s
  | _ => ""

/-- A value that a Go string takes without an error: a string, or `null`. -/
def fitsString : Json.Value → Bool
  | .string _ => true
  | .null => true
  | _ => false

/-- The pairs of a map in the order of their keys. -/
def sortedPairs (m : GoMap String String) : List (String × String) :=
  m.toList.insertionSort fun a b => a.1 ≤ b.1

/-- `json.Marshal` of a `map[string]string`. A nil map is `null`. -/
def marshalLabels (isNil : Bool) (labels : GoMap String String) : String :=
  String.ofList (Json.render (
    if isNil && labels.toList.isEmpty then .null
    else .object ((sortedPairs labels).map fun (k, v) => (k, .string v))))

/-- `json.Marshal` of a `[]string`. A nil slice is `null`. -/
def marshalCapabilities (isNil : Bool) (capabilities : List String) : String :=
  String.ofList (Json.render (
    if isNil && capabilities.isEmpty then .null else .array (capabilities.map .string)))

/-- Store the members of an object in a map, one after the other. -/
def labelsOf (members : List (String × Json.Value)) : GoMap String String :=
  members.foldl (fun labels m => labels.insert m.1 (stringOf m.2)) ∅

/-- `json.Unmarshal` into a `map[string]string` that is nil. -/
def unmarshalLabels (text : String) : Unmarshalled (GoMap String String) :=
  match Json.parse text.toList with
  | some (.object members) =>
    { value := labelsOf members, failed := !members.all fun m => fitsString m.2 }
  | some .null => { value := ∅, failed := false }
  | _ => { value := ∅, failed := true }

/-- `json.Unmarshal` into a `[]string` that is nil. -/
def unmarshalCapabilities (text : String) : Unmarshalled (List String) :=
  match Json.parse text.toList with
  | some (.array elems) => { value := elems.map stringOf, failed := !elems.all fitsString }
  | some .null => { value := [], failed := false }
  | _ => { value := [], failed := true }

/-- Which map and which slice of a record are nil. The records do not tell a nil one from an empty
one. -/
structure Nils where
  labels : Bool := false
  capabilities : Bool := false

/-! ### Rows -/

/-- A row of `agents`. -/
structure AgentRow where
  id : String
  name : String
  labels : String
  status : AgentStatus
  lastSeen : Time
  groupID : Option String
  groupName : Option String
  version : String
  capabilities : String
  effectiveConfig : Option Bytes
  createdAt : Time
  updatedAt : Time

/-- A row of `groups`. -/
structure GroupRow where
  id : String
  name : String
  labels : String
  createdAt : Time
  updatedAt : Time

/-- A row of `configs`. -/
structure ConfigRow where
  id : String
  name : Option String
  agentID : Option String
  groupID : Option String
  configHash : String
  content : Bytes
  version : GoInt
  createdAt : Time

/-- The row that the `INSERT` of `CreateAgent` writes. -/
def AgentRow.insert (nils : Nils) (agent : Agent) : AgentRow where
  id := agent.id.toString
  name := agent.name
  labels := marshalLabels nils.labels agent.labels
  status := agent.status
  lastSeen := agent.lastSeen
  groupID := agent.groupID
  groupName := agent.groupName
  version := agent.version
  capabilities := marshalCapabilities nils.capabilities agent.capabilities
  effectiveConfig := none
  createdAt := agent.createdAt
  updatedAt := agent.updatedAt

/-- The row that the `INSERT` of `CreateGroup` writes. -/
def GroupRow.insert (nils : Nils) (group : Group) : GroupRow where
  id := group.id
  name := group.name
  labels := marshalLabels nils.labels group.labels
  createdAt := group.createdAt
  updatedAt := group.updatedAt

/-- The row that the `INSERT` of `CreateConfig` writes. -/
def ConfigRow.insert (config : Config) : ConfigRow where
  id := config.id
  name := some config.name
  agentID := config.agentID.map UUID.toString
  groupID := config.groupID
  configHash := config.configHash
  content := config.content
  version := config.version
  createdAt := config.createdAt

/-- The scan of a row, with the id of the record. -/
def AgentRow.scan (row : AgentRow) (id : UUID) : Agent where
  id := id
  name := row.name
  labels := (unmarshalLabels row.labels).value
  status := row.status
  lastSeen := row.lastSeen
  groupID := row.groupID
  groupName := row.groupName
  version := row.version
  capabilities := (unmarshalCapabilities row.capabilities).value
  effectiveConfig := row.effectiveConfig.getD []
  createdAt := row.createdAt
  updatedAt := row.updatedAt

def GroupRow.scan (row : GroupRow) : Group where
  id := row.id
  name := row.name
  labels := (unmarshalLabels row.labels).value
  createdAt := row.createdAt
  updatedAt := row.updatedAt

section Parse

variable (uuidParse : String → Option UUID)

/-- `id, _ := uuid.Parse(text)`. -/
def parsedID (text : String) : UUID := (uuidParse text).getD UUID.nil

def ConfigRow.scan (row : ConfigRow) : Config where
  id := row.id
  name := row.name.getD ""
  agentID := row.agentID.map (parsedID uuidParse)
  groupID := row.groupID
  configHash := row.configHash
  content := row.content
  version := row.version
  createdAt := row.createdAt

end Parse

/-! ### The tables -/

/-- The database file. -/
structure Database where
  agents : List AgentRow
  groups : List GroupRow
  configs : List ConfigRow

namespace Database

/-- The database after `migrate` on an empty file. -/
def empty : Database := ⟨[], [], []⟩

variable (db : Database)

/-- `CreateAgent`. -/
def createAgent (nils : Nils) (agent : Agent) : Except String Database :=
  if db.agents.any (·.id == agent.id.toString) then
    .error "failed to create agent: UNIQUE constraint failed: agents.id"
  else .ok { db with agents := db.agents ++ [AgentRow.insert nils agent] }

/-- `GetAgent`: the id of the record is the one that was asked for. -/
def getAgent (id : UUID) : Option Agent :=
  (db.agents.find? (·.id == id.toString)).map (·.scan id)

/-- `UPDATE agents SET ... WHERE id = ?`. -/
def updateAgent (id : UUID) (f : AgentRow → AgentRow) : Except String Database :=
  if db.agents.any (·.id == id.toString) then
    .ok { db with
      agents := db.agents.map fun row => if row.id = id.toString then f row else row }
  else .error ("agent not found: " ++ id.toString)

/-- `UpdateAgentStatus`. -/
def updateAgentStatus (now : Time) (id : UUID) (status : AgentStatus) : Except String Database :=
  db.updateAgent id fun row => { row with status := status, updatedAt := now }

/-- `UpdateAgentLastSeen`. -/
def updateAgentLastSeen (now : Time) (id : UUID) (lastSeen : Time) : Except String Database :=
  db.updateAgent id fun row => { row with lastSeen := lastSeen, updatedAt := now }

/-- `UpdateAgentEffectiveConfig`. -/
def updateAgentEffectiveConfig (now : Time) (id : UUID) (effectiveConfig : Bytes) :
    Except String Database :=
  db.updateAgent id fun row =>
    { row with effectiveConfig := some effectiveConfig, updatedAt := now }

/-- `DeleteAgent`. -/
def deleteAgent (foreignKeys : Bool) (id : UUID) : Except String Database :=
  if db.agents.any (·.id == id.toString) then
    .ok { db with
      agents := db.agents.filter (·.id != id.toString)
      configs :=
        if foreignKeys then db.configs.filter (·.agentID != some id.toString) else db.configs }
  else .error ("agent not found: " ++ id.toString)

/-- `CreateGroup`. -/
def createGroup (nils : Nils) (group : Group) : Except String Database :=
  if db.groups.any (·.id == group.id) then
    .error "failed to create group: UNIQUE constraint failed: groups.id"
  else .ok { db with groups := db.groups ++ [GroupRow.insert nils group] }

/-- `GetGroup`. -/
def getGroup (id : String) : Option Group := (db.groups.find? (·.id == id)).map GroupRow.scan

/-- `ListGroups`. -/
def listGroups : List Group :=
  (db.groups.insertionSort fun a b => b.createdAt ≤ a.createdAt).map GroupRow.scan

/-- `DeleteGroup`. -/
def deleteGroup (foreignKeys : Bool) (id : String) : Except String Database :=
  if db.groups.any (·.id == id) then
    .ok { db with
      groups := db.groups.filter (·.id != id)
      configs := if foreignKeys then db.configs.filter (·.groupID != some id) else db.configs }
  else .error ("group not found: " ++ id)

/-- The agent and the group that a row references exist. -/
def referencesExist (row : ConfigRow) : Bool :=
  row.agentID.all (fun id => db.agents.any (·.id == id))
    && row.groupID.all (fun id => db.groups.any (·.id == id))

/-- `CreateConfig`. -/
def createConfig (foreignKeys : Bool) (config : Config) : Except String Database :=
  if db.configs.any (·.id == config.id) then
    .error "failed to create config: UNIQUE constraint failed: configs.id"
  else if foreignKeys && !db.referencesExist (ConfigRow.insert config) then
    .error "failed to create config: FOREIGN KEY constraint failed"
  else .ok { db with configs := db.configs ++ [ConfigRow.insert config] }

section Parse

variable (uuidParse : String → Option UUID)

/-- `ListAgents`. -/
def listAgents : List Agent :=
  (db.agents.insertionSort fun a b => b.createdAt ≤ a.createdAt).map fun row =>
    row.scan (parsedID uuidParse row.id)

/-- `GetConfig`. -/
def getConfig (id : String) : Option Config :=
  (db.configs.find? (·.id == id)).map (·.scan uuidParse)

/-- The key of `ORDER BY version DESC, created_at DESC`. -/
def latestKey (row : ConfigRow) : GoInt ×ₗ Time := toLex (row.version, row.createdAt)

/-- `GetLatestConfigForAgent`. -/
def getLatestConfigForAgent (agentID : UUID) : Option Config :=
  ((db.configs.filter (·.agentID == some agentID.toString)).argmax latestKey).map
    (·.scan uuidParse)

/-- `GetLatestConfigForGroup`. -/
def getLatestConfigForGroup (groupID : String) : Option Config :=
  ((db.configs.filter (·.groupID == some groupID)).argmax latestKey).map (·.scan uuidParse)

/-- The conditions that `ListConfigs` adds to its query. -/
def admits (filter : ConfigFilter) (row : ConfigRow) : Bool :=
  filter.agentID.all (row.agentID == some ·.toString) && filter.groupID.all (row.groupID == some ·)

/-- `ListConfigs`. -/
def listConfigs (filter : ConfigFilter) : List Config :=
  let found := (db.configs.filter (admits filter)).insertionSort
    fun a b => b.createdAt ≤ a.createdAt
  let page := if 0 < filter.limit.1 then found.take filter.limit.1.toNat else found
  page.map (·.scan uuidParse)

/-! ### The interface -/

/-- The database and the reply after a write. -/
def written (result : Except String Database) : Database × Reply :=
  match result with
  | .ok db' => (db', .done)
  | .error err => (db, .error err)

/-- An operation on a connection, at a time. -/
def perform (foreignKeys : Bool) (now : Time) (nils : Nils) : Operation → Database × Reply
  | .createAgent agent => db.written (db.createAgent nils agent)
  | .getAgent id => (db, .agent (db.getAgent id))
  | .listAgents => (db, .agents (db.listAgents uuidParse))
  | .updateAgentStatus id status => db.written (db.updateAgentStatus now id status)
  | .updateAgentLastSeen id lastSeen => db.written (db.updateAgentLastSeen now id lastSeen)
  | .updateAgentEffectiveConfig id effectiveConfig =>
    db.written (db.updateAgentEffectiveConfig now id effectiveConfig)
  | .deleteAgent id => db.written (db.deleteAgent foreignKeys id)
  | .createGroup group => db.written (db.createGroup nils group)
  | .getGroup id => (db, .group (db.getGroup id))
  | .listGroups => (db, .groups db.listGroups)
  | .deleteGroup id => db.written (db.deleteGroup foreignKeys id)
  | .createConfig config => db.written (db.createConfig foreignKeys config)
  | .getConfig id => (db, .config (db.getConfig uuidParse id))
  | .getLatestConfigForAgent agentID => (db, .config (db.getLatestConfigForAgent uuidParse agentID))
  | .getLatestConfigForGroup groupID => (db, .config (db.getLatestConfigForGroup uuidParse groupID))
  | .listConfigs filter => (db, .configs (db.listConfigs uuidParse filter))

end Parse

end Database

end OtelHive.Sqlite
