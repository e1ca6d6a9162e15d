import OtelHive.Opamp.ConfigSender
import OtelHive.Opamp.Sections

/-!
# `OtelHive.Opamp.Deliveries`: the calls that send a remote config

`SendConfigToAgentsInGroup` and `Server.UpdateConfig` run in goroutines of their own, next to
those of `Opamp.Concurrent`. A group push clones the registry. Then it calls `SendConfigToAgent`
for one agent of the group after the other and waits for each call, which takes its own steps.
`UpdateConfig` looks the agent up twice, as `SetCustomConfigForAgent` does it once more, and then
it sets the default config.

A `ServerToAgent` gets its remote config in a section under the agent's mutex: the response in
`UpdateStatus`, a push in `SetCustomConfig`. `Process.sendingSection` is the section of that kind
that a step runs, and `Agent.Section.message` the message that it makes. The handler and the
connection only pass the message on, and no later step changes its remote config.
-/

set_option autoImplicit false

namespace OtelHive.Opamp

open OtelHive.Lib
open OtelHive.Sqlite (Storage)

/-- The message to the agent that a section makes. -/
def Agent.Section.message (agent : Agent) : Agent.Section → Option ServerToAgent
  | .updateStatus x509 msg =>
    match agent.updateStatus x509 msg {} with
    | .ok (_, response, _) => some response
    | .error _ => none
  | .setCustomConfig config notify =>
    match (agent.setCustomConfig config notify).2 with
    | .send msg => some msg
    | .notifyNow => none
  | _ => none

namespace Deliveries

open Concurrent (System)

/-! ### The goroutines -/

/-- How far a call of `UpdateConfig` is. -/
inductive Update.Stage where
  | findAgent
  | setCustomConfigForAgent
  | setCustomConfig (agent : Ref)
  /-- In `conn.Send`. -/
  | send (agent : Ref) (msg : ServerToAgent)
  /-- Before the token for a config that did not change. -/
  | notifyNow
  | returned (err : Option String)
deriving DecidableEq

/-- A call of `UpdateConfig`. The config of the caller is not read. Its channel, if there is one,
can be any channel. -/
structure Update where
  agentId : UUID
  notifyNextStatusUpdate : Option ChanId
  stage : Update.Stage := .findAgent
deriving DecidableEq

/-- How far a call of `SendConfigToAgentsInGroup` is. -/
inductive GroupPush.Stage where
  /-- In `GetAllAgentsReadonlyClone`, with the agents left to clone. The loop reads the id and the
  group of a clone. -/
  | clone (agents : List (UUID × Ref)) (clones : List (UUID × Option String))
  /-- In the loop over the clones, with those that are left. -/
  | loop (clones : List (UUID × Option String))
  /-- Waits for the call `ch` of `SendConfigToAgent`. -/
  | sendConfigToAgent (agentId : UUID) (ch : ChanId) (clones : List (UUID × Option String))
  | returned

/-- A call of `SendConfigToAgentsInGroup`. `order` is the order of the loop. -/
structure GroupPush where
  order : IterOrder (UUID × Option String)
  groupId : String
  configContent : Bytes
  result : ConfigSender.GroupResult := {}
  stage : GroupPush.Stage

/-- The goroutines of the OpAMP server, and the calls on top of them. -/
structure Process where
  server : System
  updates : List Update := []
  groupPushes : List GroupPush := []

/-- What happens next. -/
inductive Event where
  | server (e : Concurrent.Event)
  /-- Someone calls `UpdateConfig`. -/
  | updateConfig (agentId : UUID) (notifyNextStatusUpdate : Option ChanId)
  /-- The call `u` of `UpdateConfig` takes its next step. -/
  | advanceUpdate (u : Nat)
  /-- Someone calls `SendConfigToAgentsInGroup`. `cloneOrder` is the order in which the agents are
  cloned. -/
  | sendConfigToAgentsInGroup (cloneOrder : IterOrder (UUID × Ref))
      (order : IterOrder (UUID × Option String)) (groupId : String) (configContent : Bytes)
  /-- The group push `g` takes its next step. -/
  | advanceGroupPush (g : Nat)

namespace Process

/-- The call `u` goes on to a stage. -/
def setUpdate (p : Process) (u : Nat) (update : Update) (stage : Update.Stage) : Process :=
  { p with updates := p.updates.set u { update with stage } }

/-- The group push `g` goes on to a stage. -/
def setGroupPush (p : Process) (g : Nat) (push : GroupPush) (stage : GroupPush.Stage) : Process :=
  { p with groupPushes := p.groupPushes.set g { push with stage } }

/-- The next step of `UpdateConfig`. The connection and the reader of the channel let the call go
on at any time. -/
def advanceUpdate (p : Process) (u : Nat) : Option Process := do
  let update ← p.updates[u]?
  match update.stage with
  | .findAgent =>
    match p.server.agentsById.lookup update.agentId with
    | none =>
      let err := "agent " ++ update.agentId.toString ++ " not found"
      some (p.setUpdate u update (.returned (some err)))
    -- There is no check of the capability here.
    | some _ => some (p.setUpdate u update .setCustomConfigForAgent)
  | .setCustomConfigForAgent =>
    match p.server.agentsById.lookup update.agentId with
    | none => some (p.setUpdate u update (.returned none))
    | some ref => some (p.setUpdate u update (.setCustomConfig ref))
  | .setCustomConfig ref =>
    let agent ← p.server.heap[ref]?
    let (agent, result) :=
      agent.setCustomConfig (.single defaultOTelConfig) update.notifyNextStatusUpdate
    let p := { p with server := p.server.setAgent ref agent }
    match result with
    | .send msg => some (p.setUpdate u update (.send ref msg))
    | .notifyNow => some (p.setUpdate u update .notifyNow)
  | .send _ _ => some (p.setUpdate u update (.returned none))
  | .notifyNow => some (p.setUpdate u update (.returned none))
  | .returned _ => none

/-- The next step of `SendConfigToAgentsInGroup`. -/
def advanceGroupPush (p : Process) (g : Nat) : Option Process := do
  let push ← p.groupPushes[g]?
  match push.stage with
  | .clone ((agentId, ref) :: agents) clones =>
    let agent ← p.server.heap[ref]?
    some (p.setGroupPush g push (.clone agents (clones ++ [(agentId, agent.groupID)])))
  | .clone [] clones => some (p.setGroupPush g push (.loop (push.order.visit clones)))
  | .loop ((agentId, groupID) :: clones) =>
    if groupID = some push.groupId then
      let server ← p.server.step (.sendConfigToAgent agentId push.configContent)
      some ({ p with server }.setGroupPush g push
        (.sendConfigToAgent agentId p.server.calls.length clones))
    else some (p.setGroupPush g push (.loop clones))
  | .loop [] => some (p.setGroupPush g push .returned)
  | .sendConfigToAgent agentId ch clones =>
    let call ← p.server.calls[ch]?
    match call.stage with
    | .returned err =>
      some (p.setGroupPush g { push with result := push.result.add agentId err } (.loop clones))
    | _ => none
  | .returned => none

/-- One step. -/
def step (p : Process) : Event → Option Process
  | .server e => (p.server.step e).map fun server => { p with server }
  | .updateConfig agentId notifyNextStatusUpdate =>
    some { p with updates := p.updates ++ [{ agentId, notifyNextStatusUpdate }] }
  | .advanceUpdate u => p.advanceUpdate u
  | .sendConfigToAgentsInGroup cloneOrder order groupId configContent =>
    let agents := cloneOrder.visit p.server.agentsById.toList
    let push : GroupPush := { order, groupId, configContent, stage := .clone agents [] }
    some { p with groupPushes := p.groupPushes ++ [push] }
  | .advanceGroupPush g => p.advanceGroupPush g

/-- The program after its start. -/
def newProcess (store : Storage) (otlpGRPCEndpoint otlpHTTPEndpoint : String) : Process where
  server := System.newSystem store otlpGRPCEndpoint otlpHTTPEndpoint

/-! ### The messages that a step makes -/

/-- The section of a step that can make a message with a remote config: the id of the agent that
the message is for, the agent before the section, and the section. -/
def sendingSection (p : Process) : Event → Option (UUID × Agent × Agent.Section)
  | .server (.handle h) => do
    let handler ← p.server.handlers[h]?
    let agent ← p.server.heap[handler.agent]?
    if handler.stage = .updateStatus then
      -- The response goes to the connection that the report came from.
      some (handler.instanceId, agent, .updateStatus handler.env.x509 handler.msg)
    else none
  | .server (.advance ch) => do
    let call ← p.server.calls[ch]?
    match call.stage with
    | .setCustomConfig ref =>
      let agent ← p.server.heap[ref]?
      some (agent.instanceId, agent, .setCustomConfig (.single call.configContent) (some ch))
    | _ => none
  | .advanceUpdate u => do
    let update ← p.updates[u]?
    match update.stage with
    | .setCustomConfig ref =>
      let agent ← p.server.heap[ref]?
      some (agent.instanceId, agent,
        .setCustomConfig (.single defaultOTelConfig) update.notifyNextStatusUpdate)
    | _ => none
  | _ => none

end Process

end Deliveries

end OtelHive.Opamp
