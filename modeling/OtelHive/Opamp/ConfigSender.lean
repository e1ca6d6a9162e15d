import OtelHive.Opamp.Agents

/-!
# `OtelHive.Opamp.ConfigSender`: pushes to agents

`internal/opamp/config_sender.go`, with no other handler between the calls of one push.
`Opamp.Concurrent` interleaves `SendConfigToAgent` with the message handlers.

`make(chan struct{}, 1)` returns the next channel. The caller gives the two answers of the
run time: `acked ch` says whether the channel `ch` has its token within thirty seconds, and
`order` is the order of the loop over the cloned registry.
-/

set_option autoImplicit false

namespace OtelHive.Opamp

open OtelHive.Lib

/-- `ConfigSender`, with the registry it points to and the next channel. -/
structure ConfigSender where
  agents : Agents
  nextChan : ChanId := 0
deriving DecidableEq

namespace ConfigSender

/-- `SendConfigToAgent`: the error, if there is one. -/
def sendConfigToAgent (acked : ChanId → Bool) (agentId : UUID) (configContent : Bytes)
    (cs : ConfigSender) : ConfigSender × Option String :=
  match cs.agents.findAgent agentId with
  | none => (cs, some "agent not found")
  | some agent =>
    if !agent.hasCapability AgentCapabilities.acceptsRemoteConfig then
      (cs, some "agent does not support remote config")
    else
      let notifyChannel := cs.nextChan
      let (agent, result) := agent.setCustomConfig (.single configContent) (some notifyChannel)
      -- The select statement waits for the token or for the timeout.
      let err :=
        match result with
        | .notifyNow => none
        | .send _ =>
          if acked notifyChannel then none
          else some "timeout waiting for agent to apply config"
      ({ agents := cs.agents.update agentId fun _ => agent, nextChan := notifyChannel + 1 }, err)

/-- `RestartAgent`: the message to the agent's connection, or the error. -/
def restartAgent (agentId : UUID) (cs : ConfigSender) : Except String ServerToAgent :=
  match cs.agents.findAgent agentId with
  | none => .error "agent not found"
  | some agent =>
    if !agent.hasCapability AgentCapabilities.acceptsRestartCommand then
      .error "agent does not support restart command"
    else .ok agent.restartCommand

/-- The agents that a group operation visits: `GetAllAgentsReadonlyClone` in loop order, cut
down to the group. -/
def agentsInGroup (order : IterOrder UUID) (groupId : String) (agents : Agents) : List UUID :=
  (order.visit agents.agentsById.keys).filter fun agentId =>
    (agents.findAgent agentId).any (·.groupID == some groupId)

/-- The result of a group operation: the agents it changed, and its errors. -/
structure GroupResult where
  updatedAgents : List UUID := []
  errors : List String := []
deriving DecidableEq

/-- Count one agent of a group operation. -/
def GroupResult.add (result : GroupResult) (agentId : UUID) (err : Option String) :
    GroupResult :=
  match err with
  | none => { result with updatedAgents := result.updatedAgents ++ [agentId] }
  | some err =>
    { result with errors := result.errors ++ ["agent " ++ agentId.toString ++ ": " ++ err] }

/-- One round of the loop of `SendConfigToAgentsInGroup`. -/
def pushStep (acked : ChanId → Bool) (configContent : Bytes) (acc : ConfigSender × GroupResult)
    (agentId : UUID) : ConfigSender × GroupResult :=
  let (cs, err) := acc.1.sendConfigToAgent acked agentId configContent
  (cs, acc.2.add agentId err)

/-- `SendConfigToAgentsInGroup`. -/
def sendConfigToAgentsInGroup (acked : ChanId → Bool) (order : IterOrder UUID) (groupId : String)
    (configContent : Bytes) (cs : ConfigSender) : ConfigSender × GroupResult :=
  (agentsInGroup order groupId cs.agents).foldl (pushStep acked configContent) (cs, {})

/-- `RestartAgentsInGroup`. The restarts do not change the registry. -/
def restartAgentsInGroup (order : IterOrder UUID) (groupId : String) (cs : ConfigSender) :
    GroupResult :=
  (agentsInGroup order groupId cs.agents).foldl (fun result agentId =>
    result.add agentId (match cs.restartAgent agentId with
      | .ok _ => none
      | .error err => some err)) {}

end ConfigSender

end OtelHive.Opamp
