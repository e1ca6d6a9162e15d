import OtelHive.Sqlite.Storage

/-!
# `OtelHive.Services.AgentService`: the agent service

`internal/services/agent_service_impl.go`. `Env.call` decides whether the
database answers a call. A call that fails leaves the tables as they are.
-/

set_option autoImplicit false

namespace OtelHive.Services

open OtelHive.Lib
open OtelHive.Types
open OtelHive.Sqlite

variable (env : Env) (s : Storage)

def createAgent (agent : Agent) : Except String Storage :=
  env.call .createAgent (s.createAgent agent)

def getAgent (id : UUID) : Except String (Option Agent) :=
  env.call .getAgent (.ok (s.getAgent id))

def listAgents : Except String (List Agent) :=
  env.call .listAgents (.ok s.listAgents)

def updateAgentStatus (id : UUID) (status : AgentStatus) : Except String Storage :=
  env.call .updateAgentStatus (s.updateAgentStatus env.now id status)

def updateAgentLastSeen (id : UUID) (lastSeen : Time) : Except String Storage :=
  env.call .updateAgentLastSeen (s.updateAgentLastSeen env.now id lastSeen)

def updateAgentEffectiveConfig (id : UUID) (effectiveConfig : Bytes) : Except String Storage :=
  env.call .updateAgentEffectiveConfig (s.updateAgentEffectiveConfig env.now id effectiveConfig)

def createGroup (group : Group) : Except String Storage :=
  env.call .createGroup (s.createGroup group)

def getGroup (id : String) : Except String (Option Group) :=
  env.call .getGroup (.ok (s.getGroup id))

/-- `GetGroupByName`: the first listed group with the name. -/
def getGroupByName (name : String) : Except String (Option Group) :=
  env.call .listGroups (.ok (s.listGroups.find? (·.name == name)))

def createConfig (config : Config) : Except String Storage :=
  env.call .createConfig (s.createConfig env.foreignKeys config)

def getConfig (id : String) : Except String (Option Config) :=
  env.call .getConfig (.ok (s.getConfig id))

def getLatestConfigForAgent (agentID : UUID) : Except String (Option Config) :=
  env.call .getLatestConfigForAgent (.ok (s.getLatestConfigForAgent agentID))

def getLatestConfigForGroup (groupID : String) : Except String (Option Config) :=
  env.call .getLatestConfigForGroup (.ok (s.getLatestConfigForGroup groupID))

/-- The version that `StoreConfigForAgent` gives the next config. An error of the read
counts as "no config". -/
def nextVersion (agentID : UUID) : GoInt :=
  match getLatestConfigForAgent env s agentID with
  | .ok (some latestConfig) => latestConfig.version.succ
  | _ => ⟨1, by decide⟩

/-- `StoreConfigForAgent`: the stored config and the database after it. -/
def storeConfigForAgent (agentID : UUID) (content : Bytes) : Except String (Config × Storage) :=
  match getAgent env s agentID with
  | .error err => .error ("failed to get agent: " ++ err)
  | .ok none => .error "agent not found"
  | .ok (some agent) =>
    if !agent.capabilities.contains "accepts_remote_config" then
      .error "agent does not support remote config"
    else
      let newConfig : Config := {
        id := env.newUUID
        agentID := some agentID
        configHash := hexEncode (sha256 content)
        content
        version := nextVersion env s agentID
        createdAt := env.now }
      match createConfig env s newConfig with
      | .error err => .error ("failed to store config: " ++ err)
      | .ok s' => .ok (newConfig, s')

end OtelHive.Services
