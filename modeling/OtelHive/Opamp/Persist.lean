import OtelHive.Opamp.Server

/-!
# `OtelHive.Opamp.Persist`: message handlers that write their rows at the same time

`persistAgent` one storage call at a time, for message handlers that run in goroutines of their
own. The events of a run are the order in which the goroutines make their calls. What a handler
does before `persistAgent` is one step here: for an agent without a status it reads no config from
the database.
-/

set_option autoImplicit false

namespace OtelHive.Opamp.Persist

open OtelHive.Lib
open OtelHive.Services
open OtelHive.Sqlite (Storage)

/-- How far a call of `persistAgent` is. -/
inductive Stage where
  | getAgent
  | getGroupByName (groupName : String)
  | createGroup (groupName : String)
  | createAgent
  /-- Before the writes for an agent that has a row. -/
  | updateAgent
  | returned
deriving DecidableEq

/-- A call of `persistAgent`. -/
structure Call where
  env : Env
  agent : Agent
  msg : AgentToServer
  stage : Stage := .getAgent

/-- The group that `persistAgent` creates. -/
def newGroup (env : Env) (groupName : String) : Types.Group where
  id := env.newUUID
  name := groupName
  labels := ∅
  createdAt := env.now
  updatedAt := env.now

/-- The handler after a read that returned no row. -/
def Call.findGroup (call : Call) : Call :=
  match call.agent.groupName with
  | none => { call with stage := .createAgent }
  | some groupName =>
    if groupName = "" then { call with stage := .createAgent }
    else { call with stage := .getGroupByName groupName }

/-- The next storage call: the call and the database after it. -/
def Call.advance (call : Call) (store : Storage) : Option (Call × Storage) :=
  match call.stage with
  | .getAgent =>
    match Services.getAgent call.env store call.agent.instanceId with
    | .ok (some _) => some ({ call with stage := .updateAgent }, store)
    | _ => some (call.findGroup, store)
  | .getGroupByName groupName =>
    match Services.getGroupByName call.env store groupName with
    | .ok (some existingGroup) =>
      some ({ call with
        agent := { call.agent with groupID := some existingGroup.id }
        stage := .createAgent }, store)
    | _ => some ({ call with stage := .createGroup groupName }, store)
  | .createGroup groupName =>
    let group := newGroup call.env groupName
    match Services.createGroup call.env store group with
    | .error _ => some ({ call with stage := .createAgent }, store)
    | .ok store =>
      some ({ call with
        agent := { call.agent with groupID := some group.id }
        stage := .createAgent }, store)
  | .createAgent =>
    some ({ call with stage := .returned }, logged store
      (Services.createAgent call.env store (newServiceAgent call.env call.agent call.msg)))
  | .updateAgent =>
    some ({ call with stage := .returned },
      updateServiceAgent call.env store call.agent call.msg)
  | .returned => none

/-- The registry, the database and the handlers. -/
structure System where
  agents : Agents
  store : Storage
  calls : List Call

/-- What happens next. -/
inductive Event where
  /-- A message arrives. -/
  | message (env : Env) (conn : Conn) (msg : AgentToServer)
  /-- The handler `i` makes its next storage call. -/
  | advance (i : Nat)

namespace System

/-- `onMessage` up to `persistAgent`. -/
def onMessage (env : Env) (conn : Conn) (msg : AgentToServer) (sys : System) : Option System :=
  match UUID.ofSlice msg.instanceUid with
  | .error _ => none
  | .ok instanceId =>
    let (agents, agent) := sys.agents.findOrCreateAgent instanceId conn
    match (agent.processAgentGrouping env sys.store msg).updateStatus env.x509 msg {} with
    | .error _ => none
    | .ok (agent, _, _) =>
      some { sys with
        agents := agents.update instanceId fun _ => agent
        calls := sys.calls ++ [{ env, agent, msg }] }

/-- The handler `i` makes its next storage call. It writes the group of its agent through the
pointer that the registry has. -/
def advance (sys : System) (i : Nat) : Option System := do
  let call ← sys.calls[i]?
  let (call, store) ← call.advance sys.store
  some {
    agents := sys.agents.update call.agent.instanceId fun agent =>
      { agent with groupID := call.agent.groupID }
    store
    calls := sys.calls.set i call }

/-- One step. -/
def step (sys : System) : Event → Option System
  | .message env conn msg => sys.onMessage env conn msg
  | .advance i => sys.advance i

end System

end OtelHive.Opamp.Persist
