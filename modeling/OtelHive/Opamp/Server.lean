import OtelHive.Opamp.Agents
import OtelHive.Services.AgentService

/-!
# `OtelHive.Opamp.Server`: the OpAMP message handler

`internal/opamp/server.go`. `onMessage` runs the sections of the Go handler in order: find
or create the agent, resolve its group, merge the status report, offer connection settings,
write the agent to the database. Errors of the agent service are logged and dropped, as in
the source. The agent service is always set: `main` passes one.

`step` is the server between two handlers: a message or a closed connection. A handler that
panics has no next state.
-/

set_option autoImplicit false

namespace OtelHive.Opamp

open OtelHive.Lib
open OtelHive.Services
open OtelHive.Sqlite (Storage)

/-- `DefaultOTelConfig`. -/
def defaultOTelConfig : Bytes :=
  "receivers:
  otlp:
    protocols:
      grpc:
        endpoint: 0.0.0.0:4317
      http:
        endpoint: 0.0.0.0:4318

processors:
  batch:

exporters:
  otlp:
    endpoint: localhost:4317
    tls:
      insecure: true

service:
  pipelines:
    traces:
      receivers: [otlp]
      processors: [batch]
      exporters: [otlp]
    metrics:
      receivers: [otlp]
      processors: [batch]
      exporters: [otlp]
    logs:
      receivers: [otlp]
      processors: [batch]
      exporters: [otlp]
".toUTF8.data.toList

/-- `Server`, with the registry and the database it works on. -/
structure Server where
  agents : Agents
  store : Storage
  otlpGRPCEndpoint : String := ""
  otlpHTTPEndpoint : String := ""
deriving DecidableEq

/-! ### Grouping -/

/-- The value of the last attribute under one of the keys that is not empty. -/
def lastAttribute (keys : List String) (attrs : List KeyValue) : String :=
  attrs.foldl (fun acc attr =>
    if keys.contains attr.key && attr.getStringValue != "" then attr.getStringValue else acc) ""

/-- The identifying attributes, then the others. -/
def AgentDescription.attrs (desc : AgentDescription) : List KeyValue :=
  desc.identifyingAttributes ++ desc.nonIdentifyingAttributes

/-- `extractGroupInfo`: the group id and the group name. -/
def extractGroupInfo (desc : AgentDescription) : String × String :=
  (lastAttribute ["group.id", "service.group.id", "agent.group_id"] desc.attrs,
    lastAttribute ["group.name", "service.group.name", "agent.group_name"] desc.attrs)

/-- `getConfigForAgent`: agent config, then group config, then the default. A read that
fails counts as "no config". -/
def getConfigForAgent (env : Env) (store : Storage) (agent : Agent) : Bytes :=
  match getLatestConfigForAgent env store agent.instanceId with
  | .ok (some agentConfig) => agentConfig.content
  | _ =>
    match agent.groupID with
    | none => defaultOTelConfig
    | some groupID =>
      if groupID = "" then defaultOTelConfig
      else
        match getLatestConfigForGroup env store groupID with
        | .ok (some groupConfig) => groupConfig.content
        | _ => defaultOTelConfig

namespace Agent

/-- The group of the description differs from the group the agent has. -/
def groupChanged (agent : Agent) (groupID groupName : String) : Bool :=
  if agent.groupID.isNone && groupID != "" then true
  else if agent.groupID.any (groupID != ·) then true
  else agent.groupName.any (· != groupName)

/-- `processAgentGrouping` up to the config lookup: the agent with the group of the
description, and the config to set. -/
def resolveGrouping (env : Env) (store : Storage) (agent : Agent) (msg : AgentToServer) :
    Agent × Option Bytes :=
  match msg.agentDescription with
  | none => (agent, none)
  | some desc =>
    let (groupID, groupName) := extractGroupInfo desc
    let groupChanged := agent.groupChanged groupID groupName
    -- The group is written in any case, as the empty one when the description names none.
    let agent := { agent with groupID := some groupID, groupName := some groupName }
    -- The status here is the one before this message.
    let isFirstConnect := agent.status.isNone || agent.customInstanceConfig == []
    if (groupChanged || isFirstConnect)
        && agent.hasCapability AgentCapabilities.acceptsRemoteConfig then
      let config := getConfigForAgent env store agent
      (agent, if config = [] then none else some config)
    else (agent, none)

/-- The last section of `processAgentGrouping`: set the config that the lookup found. -/
def setInitialConfig (agent : Agent) (config : Option Bytes) : Agent :=
  match config with
  | none => agent
  | some config => { agent with customInstanceConfig := config }.calcRemoteConfig.1

/-- `processAgentGrouping`. -/
def processAgentGrouping (env : Env) (store : Storage) (agent : Agent) (msg : AgentToServer) :
    Agent :=
  let (agent, config) := agent.resolveGrouping env store msg
  agent.setInitialConfig config

end Agent

/-! ### Persisting the agent -/

/-- The value of the first attribute under one of the keys that is not empty, or
`"unknown"`. -/
def firstAttribute (keys : List String) (desc : Option AgentDescription) : String :=
  match desc with
  | none => "unknown"
  | some desc =>
    match desc.attrs.find? fun attr => keys.contains attr.key && attr.getStringValue != "" with
    | some attr => attr.getStringValue
    | none => "unknown"

/-- `extractAgentName`. -/
def extractAgentName : Option AgentDescription → String :=
  firstAttribute ["service.name", "agent.name"]

/-- `extractAgentVersion`. -/
def extractAgentVersion : Option AgentDescription → String :=
  firstAttribute ["service.version", "agent.version"]

/-- `extractAgentLabels`: the attributes that do not identify the agent and have a value. -/
def extractAgentLabels (desc : Option AgentDescription) : GoMap String String :=
  match desc with
  | none => ∅
  | some desc =>
    desc.nonIdentifyingAttributes.foldl (fun labels attr =>
      if attr.value.isSome then labels.insert attr.key attr.getStringValue else labels) ∅

/-- The capability bits that `extractAgentCapabilities` tests, with their names, in order. -/
def capabilityNames : List (UInt64 × String) :=
  [(AgentCapabilities.reportsStatus, "reports_status"),
    (AgentCapabilities.acceptsRemoteConfig, "accepts_remote_config"),
    (AgentCapabilities.reportsEffectiveConfig, "reports_effective_config"),
    (AgentCapabilities.reportsOwnTraces, "reports_own_traces"),
    (AgentCapabilities.reportsOwnMetrics, "reports_own_metrics"),
    (AgentCapabilities.reportsOwnLogs, "reports_own_logs"),
    (AgentCapabilities.acceptsPackages, "accepts_packages"),
    (AgentCapabilities.reportsPackageStatuses, "reports_package_statuses"),
    (AgentCapabilities.reportsHealth, "reports_health"),
    (AgentCapabilities.reportsRemoteConfig, "reports_remote_config"),
    (AgentCapabilities.acceptsRestartCommand, "accepts_restart_command")]

/-- `extractAgentCapabilities`. -/
def extractAgentCapabilities (caps : UInt64) : List String :=
  (capabilityNames.filter fun (bit, _) => caps &&& bit != 0).map (·.2)

/-- `determineAgentStatus`. -/
def determineAgentStatus (msg : AgentToServer) : Types.AgentStatus :=
  match msg.health with
  | some health => if health.healthy then .online else .error
  | none => .online

/-- The group step of `persistAgent` for an agent without a row: the id of the group with
the agent's group name, which is created when the lookup finds none or fails. -/
def autoCreateGroup (env : Env) (store : Storage) (agent : Agent) : Agent × Storage :=
  match agent.groupName with
  | none => (agent, store)
  | some groupName =>
    if groupName = "" then (agent, store)
    else
      match getGroupByName env store groupName with
      | .ok (some existingGroup) => ({ agent with groupID := some existingGroup.id }, store)
      | _ =>
        let newGroup : Types.Group := {
          id := env.newUUID
          name := groupName
          labels := ∅
          createdAt := env.now
          updatedAt := env.now }
        match createGroup env store newGroup with
        | .error _ => (agent, store)
        | .ok store => ({ agent with groupID := some newGroup.id }, store)

/-- The row that `persistAgent` creates. -/
def newServiceAgent (env : Env) (agent : Agent) (msg : AgentToServer) : Types.Agent where
  id := agent.instanceId
  name := extractAgentName msg.agentDescription
  labels := extractAgentLabels msg.agentDescription
  status := determineAgentStatus msg
  lastSeen := env.now
  groupID := agent.groupID
  groupName := agent.groupName
  version := extractAgentVersion msg.agentDescription
  capabilities := extractAgentCapabilities msg.capabilities
  createdAt := env.now
  updatedAt := env.now

/-- The database after a call whose error is only logged. -/
def logged (store : Storage) (result : Except String Storage) : Storage :=
  match result with
  | .ok store => store
  | .error _ => store

/-- The writes of `persistAgent` for an agent that has a row. -/
def updateServiceAgent (env : Env) (store : Storage) (agent : Agent) (msg : AgentToServer) :
    Storage :=
  let store :=
    logged store (updateAgentStatus env store agent.instanceId (determineAgentStatus msg))
  -- No statement writes the name, the labels, the version or the capabilities.
  let store := logged store (updateAgentLastSeen env store agent.instanceId env.now)
  if agent.effectiveConfig = [] then store
  else
    logged store (updateAgentEffectiveConfig env store agent.instanceId agent.effectiveConfig)

/-- `persistAgent`. A failed read of the row counts as "no row". -/
def persistAgent (env : Env) (store : Storage) (agent : Agent) (msg : AgentToServer) :
    Agent × Storage :=
  match getAgent env store agent.instanceId with
  | .ok (some _) => (agent, updateServiceAgent env store agent msg)
  | _ =>
    -- The new row has no effective config, also when the agent reported one.
    let (agent, store) := autoCreateGroup env store agent
    (agent, logged store (createAgent env store (newServiceAgent env agent msg)))

/-! ### Connection settings -/

/-- `getOTLPEndpointForAgent`. -/
def getOTLPEndpointForAgent (endpoint : String) : String :=
  if "0.0.0.0".toList.isPrefixOf endpoint.toList then
    "localhost" ++ String.ofList (endpoint.toList.drop 7)
  else endpoint

namespace Server

/-- `calcConnectionSettings`. -/
def calcConnectionSettings (srv : Server) (agent : Agent) (response : ServerToAgent) :
    ServerToAgent :=
  let (hasMetrics, hasTraces, hasLogs) := agent.shouldOfferOwnTelemetry
  if !hasMetrics && !hasTraces && !hasLogs then response
  else
    let baseEndpoint :=
      if srv.otlpHTTPEndpoint != "" then getOTLPEndpointForAgent srv.otlpHTTPEndpoint
      else getOTLPEndpointForAgent srv.otlpGRPCEndpoint
    let offer (path : String) : TelemetryConnectionSettings := {
      destinationEndpoint := "http://" ++ baseEndpoint ++ path
      headers := [("x-lawrence-agent-id", agent.instanceId.toString)] }
    let offers := response.connectionSettings.getD {}
    let offers :=
      if hasMetrics then { offers with ownMetrics := some (offer "/v1/metrics") } else offers
    let offers :=
      if hasTraces then { offers with ownTraces := some (offer "/v1/traces") } else offers
    let offers :=
      if hasLogs then { offers with ownLogs := some (offer "/v1/logs") } else offers
    { response with connectionSettings := some offers }

/-! ### The handlers -/

/-- `onMessage`: the response, and the server after the message. -/
def onMessage (env : Env) (conn : Conn) (msg : AgentToServer) (srv : Server) :
    Except Panic (ServerToAgent × Server) := do
  let instanceId ← UUID.ofSlice msg.instanceUid
  let (agents, agent) := srv.agents.findOrCreateAgent instanceId conn
  let agent := agent.processAgentGrouping env srv.store msg
  -- To notify the watchers changes no agent and no row.
  let (agent, response, _) ← agent.updateStatus env.x509 msg {}
  let response := srv.calcConnectionSettings agent response
  let (agent, store) := persistAgent env srv.store agent msg
  pure (response, { srv with agents := agents.update instanceId fun _ => agent, store })

/-- `onDisconnect`: mark the agents of the connection offline, then remove it. -/
def onDisconnect (env : Env) (conn : Conn) (srv : Server) : Server :=
  let store := (srv.agents.agentsOf conn).foldl (fun store agentId =>
    logged store (updateAgentStatus env store agentId .offline)) srv.store
  { srv with store, agents := srv.agents.removeConnection conn }

/-- What happens to the server. -/
inductive Event where
  | message (env : Env) (conn : Conn) (msg : AgentToServer)
  | disconnect (env : Env) (conn : Conn)

/-- One handler. A panic ends the process. -/
def step (srv : Server) : Event → Option Server
  | .message env conn msg =>
    match onMessage env conn msg srv with
    | .ok (_, srv) => some srv
    | .error _ => none
  | .disconnect env conn => some (onDisconnect env conn srv)

/-- The server after `NewServer` on a database: nothing is registered. -/
def newServer (store : Storage) (otlpGRPCEndpoint otlpHTTPEndpoint : String) : Server where
  agents := newAgents
  store
  otlpGRPCEndpoint
  otlpHTTPEndpoint

end Server

end OtelHive.Opamp
