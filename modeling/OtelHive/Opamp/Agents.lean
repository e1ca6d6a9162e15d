import OtelHive.Opamp.Agent

/-!
# `OtelHive.Opamp.Agents`: the registry of connected agents

`internal/opamp/agents.go`. The registry maps an instance id to its agent, and a connection
to the set of instance ids it brought. The Go map holds pointers, and the handlers change
the agent through them. Here `update` writes the changed agent back under its id.
-/

set_option autoImplicit false

namespace OtelHive.Opamp

open OtelHive.Lib

/-- `NewAgent`. -/
def newAgent (instanceId : UUID) (conn : Conn) : Agent := { instanceId, conn }

/-- `Agents`. -/
structure Agents where
  agentsById : GoMap UUID Agent
  connections : GoMap Conn (GoMap UUID Bool)
deriving DecidableEq

/-- `NewAgents`. -/
def newAgents : Agents := ⟨∅, ∅⟩

namespace Agents

/-- `FindAgent`. -/
def findAgent (agents : Agents) (agentId : UUID) : Option Agent :=
  agents.agentsById.lookup agentId

/-- Change the agent under `agentId` through its pointer. -/
def update (agents : Agents) (agentId : UUID) (f : Agent → Agent) : Agents :=
  { agents with agentsById := agents.agentsById.modify agentId f }

/-- The ids in `connections[conn]`, in iteration order. -/
def agentsOf (agents : Agents) (conn : Conn) : List UUID :=
  ((agents.connections.lookup conn).getD ∅).keys

/-- `FindOrCreateAgent`. An agent that is registered keeps its connection. -/
def findOrCreateAgent (agents : Agents) (agentId : UUID) (conn : Conn) : Agents × Agent :=
  match agents.findAgent agentId with
  | some agent => (agents, agent)
  | none =>
    let agent := newAgent agentId conn
    let ids := (agents.connections.lookup conn).getD ∅
    ({ agentsById := agents.agentsById.insert agentId agent
       connections := agents.connections.insert conn (ids.insert agentId true) }, agent)

/-- `RemoveConnection`. -/
def removeConnection (agents : Agents) (conn : Conn) : Agents where
  agentsById := agents.agentsById.eraseAll (agents.agentsOf conn)
  connections := agents.connections.erase conn

/-- A call that registers an agent or drops a connection. -/
inductive Operation where
  | findOrCreateAgent (agentId : UUID) (conn : Conn)
  | removeConnection (conn : Conn)

/-- The registry after a call. -/
def perform (agents : Agents) : Operation → Agents
  | .findOrCreateAgent agentId conn => (agents.findOrCreateAgent agentId conn).1
  | .removeConnection conn => agents.removeConnection conn

end Agents

end OtelHive.Opamp
