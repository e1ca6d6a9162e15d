import OtelHive.Basic

/-!
# `OtelHive.Types`: the records of the application store

`internal/storage/applicationstore/types/types.go`. The agent service has records of its
own with the same fields and copies them field by field, so these types stand for both.

`Operation` is a call of the interface `ApplicationStore`, and `Reply` what it returns. Both
backends are functions of these.
-/

set_option autoImplicit false

namespace OtelHive.Types

open OtelHive.Lib

/-- `AgentStatus`. -/
inductive AgentStatus where
  | online
  | offline
  | error
deriving DecidableEq

/-- A row of `agents`. A missing `effective_config` reads back as the empty string. -/
structure Agent where
  id : UUID
  name : String
  labels : GoMap String String
  status : AgentStatus
  lastSeen : Time
  groupID : Option String
  groupName : Option String
  version : String
  capabilities : List String
  effectiveConfig : Bytes := []
  createdAt : Time
  updatedAt : Time
deriving DecidableEq

/-- A row of `groups`. -/
structure Group where
  id : String
  name : String
  labels : GoMap String String
  createdAt : Time
  updatedAt : Time
deriving DecidableEq

/-- A row of `configs`. -/
structure Config where
  id : String
  name : String := ""
  agentID : Option UUID := none
  groupID : Option String := none
  configHash : String
  content : Bytes
  version : GoInt
  createdAt : Time
deriving DecidableEq

/-- `ConfigFilter`. -/
structure ConfigFilter where
  agentID : Option UUID := none
  groupID : Option String := none
  limit : GoInt := .wrap 0
deriving DecidableEq

/-- The filter lets a config pass, whatever its limit. -/
def ConfigFilter.admits (filter : ConfigFilter) (config : Config) : Bool :=
  filter.agentID.all (config.agentID == some ·) && filter.groupID.all (config.groupID == some ·)

/-- A call of `ApplicationStore`. -/
inductive Operation where
  | createAgent (agent : Agent)
  | getAgent (id : UUID)
  | listAgents
  | updateAgentStatus (id : UUID) (status : AgentStatus)
  | updateAgentLastSeen (id : UUID) (lastSeen : Time)
  | updateAgentEffectiveConfig (id : UUID) (effectiveConfig : Bytes)
  | deleteAgent (id : UUID)
  | createGroup (group : Group)
  | getGroup (id : String)
  | listGroups
  | deleteGroup (id : String)
  | createConfig (config : Config)
  | getConfig (id : String)
  | getLatestConfigForAgent (agentID : UUID)
  | getLatestConfigForGroup (groupID : String)
  | listConfigs (filter : ConfigFilter)
deriving DecidableEq

/-- What a call of `ApplicationStore` returns. -/
inductive Reply where
  | error (err : String)
  | done
  | agent (found : Option Agent)
  | agents (found : List Agent)
  | group (found : Option Group)
  | groups (found : List Group)
  | config (found : Option Config)
  | configs (found : List Config)
deriving DecidableEq

/-- The call has succeeded. -/
def Reply.ok : Reply → Bool
  | .error _ => false
  | _ => true

end OtelHive.Types
