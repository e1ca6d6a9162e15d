import OtelHive.Opamp.Concurrent

/-!
# `OtelHive.Opamp.Sections`: the sections that change one agent

`processAgentGrouping`, `UpdateStatus`, `SetCustomConfig` and `persistAgent` of several
goroutines can work on one agent at the same time. What they do to it, in any interleaving, is
a sequence of sections: the first three calls change the agent under its mutex, and the last
one writes the group id.

The config lookup of `processAgentGrouping` runs between its two sections and reads the
database and the agent without the mutex. So the config that `setInitialConfig` gets can be an
old one. Here it is any config, and the sections come in any order.
-/

set_option autoImplicit false

namespace OtelHive.Opamp.Agent

/-- A section that changes the agent. -/
inductive Section where
  /-- `processAgentGrouping` writes the group of the description. -/
  | setGroup (desc : AgentDescription)
  /-- `processAgentGrouping` sets the config of its lookup. -/
  | setInitialConfig (config : Option Bytes)
  | updateStatus (x509 : X509) (msg : AgentToServer)
  | setCustomConfig (config : CustomConfig) (notify : Option ChanId)
  /-- `persistAgent` writes the id of the group it found or created. -/
  | setGroupID (groupID : Option String)

/-- The agent after a section. `UpdateStatus` can panic. -/
def enter (agent : Agent) : Section → Option Agent
  | .setGroup desc => some (agent.setGroup desc).1
  | .setInitialConfig config => some (agent.setInitialConfig config)
  | .updateStatus x509 msg =>
    match agent.updateStatus x509 msg {} with
    | .ok (agent, _, _) => some agent
    | .error _ => none
  | .setCustomConfig config notify => some (agent.setCustomConfig config notify).1
  | .setGroupID groupID => some { agent with groupID }

end OtelHive.Opamp.Agent

namespace OtelHive.Opamp.Concurrent

/-- The section that a step of the goroutines runs, with the place of its agent. -/
def System.sectionOf (sys : System) : Event → Option (Ref × Agent.Section)
  | .handle h => do
    let handler ← sys.handlers[h]?
    let agent ← sys.heap[handler.agent]?
    match handler.stage with
    | .setGroup => handler.msg.agentDescription.map fun desc => (handler.agent, .setGroup desc)
    | .setInitialConfig config => some (handler.agent, .setInitialConfig config)
    | .updateStatus => some (handler.agent, .updateStatus handler.env.x509 handler.msg)
    | .persistAgent =>
      let (agent, _) := persistAgent handler.env sys.store agent handler.msg
      some (handler.agent, .setGroupID agent.groupID)
    | _ => none
  | .advance ch => do
    let call ← sys.calls[ch]?
    match call.stage with
    | .setCustomConfig ref => some (ref, .setCustomConfig (.single call.configContent) (some ch))
    | _ => none
  | _ => none

end OtelHive.Opamp.Concurrent
