import OtelHive.Types

/-!
# `OtelHive.Memory.Store`: the application store in memory

`internal/storage/applicationstore/memory/memory.go`. Each table is a Go map from the id to the
row. A read returns a copy, so a row changes only through the store. A loop over a map visits it
in an order that Go picks, so the functions with a loop take that order.
-/

set_option autoImplicit false

namespace OtelHive.Memory

open OtelHive.Lib
open OtelHive.Types

/-- `Store`. -/
structure Store where
  agents : GoMap UUID Agent
  groups : GoMap String Group
  configs : GoMap String Config
deriving DecidableEq

/-- The orders of the loops of one call. -/
structure Loops where
  overAgents : IterOrder UUID
  overGroups : IterOrder String
  overConfigs : IterOrder String

/-- `NewStore`. -/
def newStore : Store := ⟨∅, ∅, ∅⟩

namespace Store

/-! ### Agents -/

/-- `CreateAgent`. -/
def createAgent (s : Store) (agent : Agent) : Except String Store :=
  match s.agents.lookup agent.id with
  | some _ => .error ("agent already exists: " ++ agent.id.toString)
  | none => .ok { s with agents := s.agents.insert agent.id agent }

/-- `GetAgent`. -/
def getAgent (s : Store) (id : UUID) : Option Agent := s.agents.lookup id

/-- `ListAgents`. -/
def listAgents (s : Store) (order : IterOrder UUID) : List Agent := s.agents.values order

/-- The change of an agent through its pointer in the map. -/
def updateAgent (s : Store) (id : UUID) (f : Agent → Agent) : Except String Store :=
  match s.agents.lookup id with
  | none => .error ("agent not found: " ++ id.toString)
  | some _ => .ok { s with agents := s.agents.modify id f }

/-- `UpdateAgentStatus`. -/
def updateAgentStatus (s : Store) (now : Time) (id : UUID) (status : AgentStatus) :
    Except String Store :=
  s.updateAgent id fun agent => { agent with status := status, updatedAt := now }

/-- `UpdateAgentLastSeen`. -/
def updateAgentLastSeen (s : Store) (now : Time) (id : UUID) (lastSeen : Time) :
    Except String Store :=
  s.updateAgent id fun agent => { agent with lastSeen := lastSeen, updatedAt := now }

/-- `UpdateAgentEffectiveConfig`. -/
def updateAgentEffectiveConfig (s : Store) (now : Time) (id : UUID) (effectiveConfig : Bytes) :
    Except String Store :=
  s.updateAgent id fun agent => { agent with effectiveConfig := effectiveConfig, updatedAt := now }

/-- `DeleteAgent`. The configs of the agent stay. -/
def deleteAgent (s : Store) (id : UUID) : Except String Store :=
  match s.agents.lookup id with
  | none => .error ("agent not found: " ++ id.toString)
  | some _ => .ok { s with agents := s.agents.erase id }

/-! ### Groups -/

/-- `CreateGroup`. -/
def createGroup (s : Store) (group : Group) : Except String Store :=
  match s.groups.lookup group.id with
  | some _ => .error ("group already exists: " ++ group.id)
  | none => .ok { s with groups := s.groups.insert group.id group }

/-- `GetGroup`. -/
def getGroup (s : Store) (id : String) : Option Group := s.groups.lookup id

/-- `ListGroups`. -/
def listGroups (s : Store) (order : IterOrder String) : List Group := s.groups.values order

/-- `DeleteGroup`. The configs of the group stay. -/
def deleteGroup (s : Store) (id : String) : Except String Store :=
  match s.groups.lookup id with
  | none => .error ("group not found: " ++ id)
  | some _ => .ok { s with groups := s.groups.erase id }

/-! ### Configs -/

/-- `CreateConfig`. Nothing checks the agent and the group that the config refers to. -/
def createConfig (s : Store) (config : Config) : Except String Store :=
  match s.configs.lookup config.id with
  | some _ => .error ("config already exists: " ++ config.id)
  | none => .ok { s with configs := s.configs.insert config.id config }

/-- `GetConfig`. -/
def getConfig (s : Store) (id : String) : Option Config := s.configs.lookup id

/-- A round of the loop that looks for the latest of the configs that satisfy `p`. -/
def latestStep (p : Config → Bool) (latestConfig : Option Config) (config : Config) :
    Option Config :=
  if p config then
    match latestConfig with
    | none => some config
    | some latest =>
      if latest.version.1 < config.version.1 ∨
          config.version = latest.version ∧ latest.createdAt < config.createdAt then some config
      else latestConfig
  else latestConfig

/-- The loop of `GetLatestConfigForAgent` and `GetLatestConfigForGroup`. -/
def latestWhere (s : Store) (order : IterOrder String) (p : Config → Bool) : Option Config :=
  (s.configs.values order).foldl (latestStep p) none

/-- `GetLatestConfigForAgent`. -/
def getLatestConfigForAgent (s : Store) (order : IterOrder String) (agentID : UUID) :
    Option Config :=
  s.latestWhere order (·.agentID == some agentID)

/-- `GetLatestConfigForGroup`. -/
def getLatestConfigForGroup (s : Store) (order : IterOrder String) (groupID : String) :
    Option Config :=
  s.latestWhere order (·.groupID == some groupID)

/-- `ListConfigs`. -/
def listConfigs (s : Store) (order : IterOrder String) (filter : ConfigFilter) : List Config :=
  let configs := (s.configs.values order).filter filter.admits
  if 0 < filter.limit.1 ∧ filter.limit.1 < configs.length then configs.take filter.limit.1.toNat
  else configs

/-! ### The interface -/

/-- The store and the reply after a write. -/
def written (s : Store) (result : Except String Store) : Store × Reply :=
  match result with
  | .ok s' => (s', .done)
  | .error err => (s, .error err)

/-- An operation at a time, with the orders of its loops. -/
def perform (s : Store) (loops : Loops) (now : Time) : Operation → Store × Reply
  | .createAgent agent => s.written (s.createAgent agent)
  | .getAgent id => (s, .agent (s.getAgent id))
  | .listAgents => (s, .agents (s.listAgents loops.overAgents))
  | .updateAgentStatus id status => s.written (s.updateAgentStatus now id status)
  | .updateAgentLastSeen id lastSeen => s.written (s.updateAgentLastSeen now id lastSeen)
  | .updateAgentEffectiveConfig id effectiveConfig =>
    s.written (s.updateAgentEffectiveConfig now id effectiveConfig)
  | .deleteAgent id => s.written (s.deleteAgent id)
  | .createGroup group => s.written (s.createGroup group)
  | .getGroup id => (s, .group (s.getGroup id))
  | .listGroups => (s, .groups (s.listGroups loops.overGroups))
  | .deleteGroup id => s.written (s.deleteGroup id)
  | .createConfig config => s.written (s.createConfig config)
  | .getConfig id => (s, .config (s.getConfig id))
  | .getLatestConfigForAgent agentID =>
    (s, .config (s.getLatestConfigForAgent loops.overConfigs agentID))
  | .getLatestConfigForGroup groupID =>
    (s, .config (s.getLatestConfigForGroup loops.overConfigs groupID))
  | .listConfigs filter => (s, .configs (s.listConfigs loops.overConfigs filter))

end Store

end OtelHive.Memory
