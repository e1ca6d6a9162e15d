import OtelHive.Api.GitSync
import OtelHive.Api.Groups
import OtelHive.Lib.Tally

/-!
# `OtelHive.Api.Fleet`: the other endpoints, and the whole process

The endpoints of `internal/api/handlers/agents.go`, `groups.go`, `configs.go` and `health.go` that
read the database or restart agents. None of them writes the database or the registry, so each is
a function of the state. A restart sends its message on the connection of the agent.

`Event` is everything that writes the registry or the three tables: an OpAMP handler, an endpoint,
a push of the git sync service, and a start of the process on the database it left.
-/

set_option autoImplicit false

namespace OtelHive.Api.Fleet

open OtelHive.Lib
open OtelHive.Opamp
open OtelHive.Services
open OtelHive.Sqlite (Storage)
open OtelHive.Types (Config ConfigFilter Group)

/-! ### Responses -/

/-- `GetAgentsResponse`. -/
structure GetAgentsResponse where
  agents : GoMap String Types.Agent
  totalCount : Nat
  activeCount : Nat
  inactiveCount : Int
deriving DecidableEq

/-- `GetAgentStatsResponse`. -/
structure GetAgentStatsResponse where
  totalAgents : Nat
  onlineAgents : Nat
  offlineAgents : Nat
  errorAgents : Nat
  groupsCount : Nat
deriving DecidableEq

/-- A group with the two fields that `HandleGetGroups` fills in. An empty name is left out of the
JSON. -/
structure ListedGroup where
  group : Group
  agentCount : Nat
  configName : String := ""
deriving DecidableEq

/-- The HTTP response. -/
inductive Reply where
  | error (status : Nat) (error : String)
  | agents (response : GetAgentsResponse)
  | stats (response : GetAgentStatsResponse)
  | agent (agent : Types.Agent)
  | groups (groups : List ListedGroup) (count : Nat)
  | group (group : Group)
  | groupAgents (agents : List Types.Agent) (count : Nat)
  | config (config : Config)
  | configs (configs : List Config) (count : Nat)
  | restart (status : Nat) (success : Bool) (message : String)
  | restartGroup (status : Nat) (success : Bool) (message : String)
      (restartedCount failedCount : Nat)
  | health (status : Nat) (text : String)
deriving DecidableEq

/-! ### Agents -/

section Agents

variable (env : Env) (s : Storage)

/-- `HandleGetAgents`. -/
def handleGetAgents : Reply :=
  match listAgents env s with
  | .error _ => .error 500 "Failed to fetch agents"
  | .ok agents =>
    let agentsMap := index (fun agent => agent.id.toString) agents
    let activeCount := agents.countP (·.status = .online)
    .agents {
      agents := agentsMap
      totalCount := agents.length
      activeCount
      inactiveCount := (agents.length : Int) - activeCount }

/-- `HandleGetAgent`. -/
def handleGetAgent (agentID : String) : Reply :=
  if agentID = "" then .error 400 "Agent ID is required"
  else
    match env.uuidParse agentID with
    | none => .error 400 "Invalid agent ID format"
    | some agentUUID =>
      match getAgent env s agentUUID with
      | .error _ => .error 500 "Failed to fetch agent"
      | .ok none => .error 404 "Agent not found"
      | .ok (some agent) => .agent agent

/-- `HandleUpdateAgentGroup`. -/
def handleUpdateAgentGroup : Reply := .error 501 "Agent group update not implemented"

/-- `ListGroups` of the agent service. -/
def listGroups : Except String (List Group) := env.call .listGroups (.ok s.listGroups)

/-- `HandleGetAgentStats`. When the read of the groups fails, their count is zero. -/
def handleGetAgentStats : Reply :=
  match listAgents env s with
  | .error _ => .error 500 "Failed to fetch agent statistics"
  | .ok agents =>
    .stats {
      totalAgents := agents.length
      onlineAgents := agents.countP (·.status = .online)
      offlineAgents := agents.countP (·.status = .offline)
      errorAgents := agents.countP (·.status = .error)
      groupsCount :=
        match listGroups env s with
        | .error _ => 0
        | .ok groups => groups.length }

/-- `HandleRestartAgent`: the response, and the message that goes to the agent's connection. -/
def handleRestartAgent (agentID : String) (sender : ConfigSender) :
    Reply × Option ServerToAgent :=
  if agentID = "" then (.error 400 "Agent ID is required", none)
  else
    match env.uuidParse agentID with
    | none => (.error 400 "Invalid agent ID format", none)
    | some agentUUID =>
      match sender.restartAgent agentUUID with
      | .error message =>
        let statusCode :=
          if message = "agent not found" then 404
          else if message = "agent does not support restart command" then 400
          else 500
        (.restart statusCode false message, none)
      | .ok command => (.restart 200 true "Restart command sent to agent successfully", some command)

/-! ### Groups -/

/-- `agentCountByGroup`. -/
def agentCountByGroup (agents : List Types.Agent) : GoMap String Nat :=
  tally (fun agent => agent.groupID) agents

/-- The config name of a listed group: the id of its latest config. A read that fails leaves it
empty. -/
def configName (groupID : String) : String :=
  match getLatestConfigForGroup env s groupID with
  | .ok (some config) => config.id
  | _ => ""

/-- `HandleGetGroups`. -/
def handleGetGroups : Reply :=
  match listGroups env s with
  | .error _ => .error 500 "Failed to fetch groups"
  | .ok groups =>
    match listAgents env s with
    | .error _ => .error 500 "Failed to fetch agents"
    | .ok allAgents =>
      let counts := agentCountByGroup allAgents
      let listed := groups.map fun group => {
        group
        agentCount := (counts.lookup group.id).getD 0
        configName := configName env s group.id : ListedGroup }
      .groups listed listed.length

/-- `HandleGetGroup`. -/
def handleGetGroup (groupID : String) : Reply :=
  if groupID = "" then .error 400 "Group ID is required"
  else
    match getGroup env s groupID with
    | .error _ => .error 500 "Failed to fetch group"
    | .ok none => .error 404 "Group not found"
    | .ok (some group) => .group group

/-- `HandleUpdateGroup`. -/
def handleUpdateGroup : Reply := .error 501 "Group update not implemented"

/-- `HandleGetGroupConfig`. -/
def handleGetGroupConfig (groupID : String) : Reply :=
  if groupID = "" then .error 400 "Group ID is required"
  else
    match getLatestConfigForGroup env s groupID with
    | .error _ => .error 500 "Failed to fetch group config"
    | .ok none => .error 404 "No config assigned to this group"
    | .ok (some config) => .config config

/-- `HandleGetGroupAgents`. The group itself is not looked up. -/
def handleGetGroupAgents (groupID : String) : Reply :=
  if groupID = "" then .error 400 "Group ID is required"
  else
    match listAgents env s with
    | .error _ => .error 500 "Failed to fetch agents"
    | .ok allAgents =>
      let groupAgents := allAgents.filter fun agent => agent.groupID = some groupID
      .groupAgents groupAgents groupAgents.length

/-- The last part of `HandleRestartGroup`: the response for the two counts. -/
def restartGroupReply (restartedCount failedCount : Nat) : Reply :=
  let totalAttempted := restartedCount + failedCount
  let (success, message) :=
    if failedCount = 0 then
      if restartedCount = 0 then (false, "No agents found in group")
      else (true, "Successfully restarted all " ++ toString restartedCount ++ " agent(s)")
    else if restartedCount > 0 then
      (true, "Partially successful: restarted " ++ toString restartedCount ++ "/"
        ++ toString totalAttempted ++ " agent(s)")
    else (false, "Failed to restart all " ++ toString failedCount ++ " agent(s)")
  let statusCode :=
    if success then 200 else if restartedCount = 0 ∧ failedCount > 0 then 400 else 200
  .restartGroup statusCode success message restartedCount failedCount

/-- `HandleRestartGroup`. The run time picks the order of the loop over the registry. -/
def handleRestartGroup (order : IterOrder UUID) (groupID : String) (sender : ConfigSender) :
    Reply :=
  if groupID = "" then .error 400 "Group ID is required"
  else
    match getGroup env s groupID with
    | .error _ => .error 500 "Failed to fetch group"
    | .ok none => .error 404 "Group not found"
    | .ok (some _) =>
      let result := sender.restartAgentsInGroup order groupID
      restartGroupReply result.updatedAgents.length result.errors.length

/-! ### Configs -/

/-- `strconv.Atoi`, with none for an error: digits with an optional sign, inside the range. -/
def atoi (text : String) : Option GoInt :=
  let (negative, digits) :=
    match text.toList with
    | '-' :: digits => (true, digits)
    | '+' :: digits => (false, digits)
    | digits => (false, digits)
  if digits.isEmpty || !digits.all Char.isDigit then none
  else
    let value : Int := digits.foldl (fun n d => 10 * n + (d.toNat - '0'.toNat)) (0 : Nat)
    let z := if negative then -value else value
    if h : -2 ^ 63 ≤ z ∧ z < 2 ^ 63 then some ⟨z, h⟩ else none

/-- The limit of `HandleGetConfigs`. Only a limit above 1000 is cut. -/
def configsLimit (limit : Option String) : GoInt :=
  let parsed := (atoi (limit.getD "100")).getD (.wrap 100)
  if parsed.1 > 1000 then .wrap 1000 else parsed

/-- `ListConfigs` of the agent service. `fault` is the error of the database, `none` for a call
that succeeds. -/
def listConfigs (fault : Option String) (filter : ConfigFilter) : Except String (List Config) :=
  match fault with
  | some err => .error err
  | none => .ok (s.listConfigs filter)

/-- The parameter `agent_id` of a query: none for an empty one. -/
def parseAgentID (agentID : String) : Except Reply (Option UUID) :=
  if agentID = "" then .ok none
  else
    match env.uuidParse agentID with
    | none => .error (.error 400 "Invalid agent ID format")
    | some agentUUID => .ok (some agentUUID)

/-- The parameter `group_id` of a query. -/
def parseGroupID (groupID : String) : Option String := if groupID = "" then none else some groupID

/-- `HandleGetConfigs`. -/
def handleGetConfigs (fault : Option String) (agentID groupID : String) (limit : Option String) :
    Reply :=
  match parseAgentID env agentID with
  | .error reply => reply
  | .ok agentUUID =>
    match listConfigs s fault {
        agentID := agentUUID, groupID := parseGroupID groupID, limit := configsLimit limit } with
    | .error _ => .error 500 "Failed to fetch configs"
    | .ok configs => .configs configs configs.length

/-- `HandleGetConfig`. -/
def handleGetConfig (configID : String) : Reply :=
  if configID = "" then .error 400 "Config ID is required"
  else
    match getConfig env s configID with
    | .error _ => .error 500 "Failed to fetch config"
    | .ok none => .error 404 "Config not found"
    | .ok (some config) => .config config

/-- `HandleDeleteConfig`. -/
def handleDeleteConfig : Reply :=
  .error 501 "Config deletion not implemented - configs are versioned and immutable"

/-- `HandleGetConfigVersions`. The id in the path is not read. -/
def handleGetConfigVersions (fault : Option String) (agentID groupID : String) : Reply :=
  if agentID = "" ∧ groupID = "" then .error 400 "Either agent_id or group_id is required"
  else
    match parseAgentID env agentID with
    | .error reply => reply
    | .ok agentUUID =>
      match listConfigs s fault {
          agentID := agentUUID, groupID := parseGroupID groupID, limit := .wrap 100 } with
      | .error _ => .error 500 "Failed to fetch config versions"
      | .ok versions => .configs versions versions.length

/-- `HandleHealth`: the database is healthy when it lists the agents. -/
def handleHealth : Reply :=
  match listAgents env s with
  | .ok _ => .health 200 "healthy"
  | .error _ => .health 503 "unhealthy"

end Agents

/-! ### The process -/

/-- What happens to the process. -/
inductive Event where
  | request (r : Request)
  /-- A push of the git sync service. -/
  | push (acked : ChanId → Bool) (agentID : UUID) (content : Bytes)
  | createGroup (env : Env) (body : Except String Groups.CreateGroupRequest)
  | deleteGroup (env : Env) (fault : Option String) (groupID : String)
  /-- The process ends, and a new one starts on the database. -/
  | restart

/-- One event. A handler that panics ends the process. -/
def step (s : State) : Event → Option State
  | .request r => s.step r
  | .push acked agentID content => some (s.sendConfigToAgent acked agentID content).1
  | .createGroup env body => some { s with store := (Groups.handleCreateGroup env body s.store).1 }
  | .deleteGroup env fault groupID =>
    some { s with store := (Groups.handleDeleteGroup env fault groupID s.store).1 }
  | .restart => some (State.start s.store)

/-- The process on a new database. -/
def start : State := State.start .empty

end OtelHive.Api.Fleet
