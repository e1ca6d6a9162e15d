import OtelHive.Opamp.Server

/-!
# `OtelHive.Opamp.Concurrent`: pushes and message handlers at the same time

`SendConfigToAgent` and `onMessage` run in goroutines of their own and share the agents. A
step runs one goroutine up to the next point where another one can come between: a section
under a mutex, a read of the database, a send, a channel operation. The events of a run are
the order in which the goroutines take their steps.

`Opamp.Server` keeps an agent in the registry. Here the registry maps an instance id to a
reference (`Ref`) and the agents are in a heap, as a goroutine can hold an agent that the
registry no longer has. The channel of a call is the number of the call.

A message can arrive at any time and with any content, and `conn.Send` can return an error or
none. The timeout of a call can fire whenever the call waits. When the token is there too, the
select statement takes either. `write` is any change that the rest of the program makes to the
database. A handler that panics ends the process.

The first report of an agent is one value in Go for the agent and for the handler of the
message. The model keeps two, which only the row of `persistAgent` could tell apart.
-/

set_option autoImplicit false

namespace OtelHive.Opamp

open OtelHive.Lib
open OtelHive.Sqlite (Storage)

/-- An `*Agent`: its place in the heap. -/
abbrev Ref : Type := Nat

namespace Agent

/-- `processAgentGrouping` up to the section that writes the group. The flag is
`groupChanged`. -/
def setGroup (agent : Agent) (desc : AgentDescription) : Agent × Bool :=
  let (groupID, groupName) := extractGroupInfo desc
  ({ agent with groupID := some groupID, groupName := some groupName },
    agent.groupChanged groupID groupName)

/-- `processAgentGrouping` after that section: the config to set. -/
def findInitialConfig (env : Env) (store : Storage) (agent : Agent) (groupChanged : Bool) :
    Option Bytes :=
  let isFirstConnect := agent.status.isNone || agent.customInstanceConfig == []
  if (groupChanged || isFirstConnect)
      && agent.hasCapability AgentCapabilities.acceptsRemoteConfig then
    let config := getConfigForAgent env store agent
    if config = [] then none else some config
  else none

end Agent

namespace Concurrent

/-! ### The goroutines -/

/-- How far a call of `SendConfigToAgent` is. -/
inductive Call.Stage where
  | findAgent
  | checkCapability (agent : Ref)
  | setCustomConfig (agent : Ref)
  /-- In `conn.Send`. -/
  | send (agent : Ref) (msg : ServerToAgent)
  /-- Before the token that `SetCustomConfig` puts for a config that did not change. -/
  | notifyNow
  /-- In the select statement. -/
  | select
  | returned (err : Option String)
deriving DecidableEq

/-- A call of `SendConfigToAgent`. -/
structure Call where
  agentId : UUID
  configContent : Bytes
  stage : Call.Stage := .findAgent
deriving DecidableEq

/-- How far a call of `onMessage` is. -/
inductive Handler.Stage where
  | setGroup
  | findInitialConfig (groupChanged : Bool)
  | setInitialConfig (config : Option Bytes)
  | updateStatus
  /-- In the loop of `notifyStatusWatchers`, with the channels that are left. -/
  | notifyStatusWatchers (watchers : List ChanId)
  | persistAgent
  | returned
deriving DecidableEq

/-- A call of `onMessage` after `FindOrCreateAgent`. -/
structure Handler where
  env : Env
  instanceId : UUID
  msg : AgentToServer
  agent : Ref
  response : ServerToAgent := {}
  stage : Handler.Stage := .setGroup

/-- The channels that the loop of `notifyStatusWatchers` has left. -/
def Handler.Stage.watchers : Handler.Stage → List ChanId
  | .notifyStatusWatchers watchers => watchers
  | _ => []

/-- The registry, the heap, the database and the goroutines. -/
structure System where
  heap : List Agent
  agentsById : GoMap UUID Ref
  connections : GoMap Conn (GoMap UUID Bool)
  store : Storage
  otlpGRPCEndpoint : String
  otlpHTTPEndpoint : String
  calls : List Call
  handlers : List Handler
  /-- The channels whose buffer holds a token. -/
  tokens : List ChanId

namespace System

/-- The program after its start: nothing is registered and nothing runs. -/
def newSystem (store : Storage) (otlpGRPCEndpoint otlpHTTPEndpoint : String) : System where
  heap := []
  agentsById := ∅
  connections := ∅
  store
  otlpGRPCEndpoint
  otlpHTTPEndpoint
  calls := []
  handlers := []
  tokens := []

/-- `FindOrCreateAgent`. -/
def findOrCreateAgent (sys : System) (agentId : UUID) (conn : Conn) : System × Ref :=
  match sys.agentsById.lookup agentId with
  -- A known agent keeps the connection it was created with.
  | some ref => (sys, ref)
  | none =>
    let ref := sys.heap.length
    let ids := (sys.connections.lookup conn).getD ∅
    ({ sys with
        heap := sys.heap ++ [newAgent agentId conn]
        agentsById := sys.agentsById.insert agentId ref
        connections := sys.connections.insert conn (ids.insert agentId true) }, ref)

/-- Write an agent through its pointer. -/
def setAgent (sys : System) (ref : Ref) (agent : Agent) : System :=
  { sys with heap := sys.heap.set ref agent }

/-- The call `ch` goes on to a stage. -/
def setCall (sys : System) (ch : ChanId) (call : Call) (stage : Call.Stage) : System :=
  { sys with calls := sys.calls.set ch { call with stage } }

/-- The handler `h` goes on to a stage. -/
def setHandler (sys : System) (h : Nat) (handler : Handler) (stage : Handler.Stage) : System :=
  { sys with handlers := sys.handlers.set h { handler with stage } }

/-- A send to the channel that does not block: a full buffer keeps its token. -/
def notify (sys : System) (ch : ChanId) : System :=
  if ch ∈ sys.tokens then sys else { sys with tokens := ch :: sys.tokens }

/-- `onMessage` up to `FindOrCreateAgent`. -/
def onMessage (env : Env) (conn : Conn) (msg : AgentToServer) (sys : System) : Option System :=
  match UUID.ofSlice msg.instanceUid with
  | .error _ => none
  | .ok instanceId =>
    let (sys, agent) := sys.findOrCreateAgent instanceId conn
    some { sys with handlers := sys.handlers ++ [{ env, instanceId, msg, agent }] }

/-- `onDisconnect`: the writes to the database, then `RemoveConnection`. -/
def onDisconnect (env : Env) (conn : Conn) (sys : System) : System :=
  let ids := ((sys.connections.lookup conn).getD ∅).keys
  { sys with
    store := ids.foldl (fun store agentId =>
      logged store (Services.updateAgentStatus env store agentId .offline)) sys.store
    -- The heap keeps the agents, as a goroutine may still hold one.
    agentsById := sys.agentsById.eraseAll ids
    connections := sys.connections.erase conn }

/-- The server of `Opamp.Server`: the agents that the registry points to. -/
def server (sys : System) : Server where
  agents :=
    { agentsById := sys.agentsById.filterMap (sys.heap[·]?)
      connections := sys.connections }
  store := sys.store
  otlpGRPCEndpoint := sys.otlpGRPCEndpoint
  otlpHTTPEndpoint := sys.otlpHTTPEndpoint

/-- The next step of `SendConfigToAgent`. `send` waits for the connection, `select` for the
token, and a call that has returned takes no step. -/
def advance (sys : System) (ch : ChanId) : Option System := do
  let call ← sys.calls[ch]?
  match call.stage with
  | .findAgent =>
    match sys.agentsById.lookup call.agentId with
    | none => some (sys.setCall ch call (.returned (some "agent not found")))
    | some ref => some (sys.setCall ch call (.checkCapability ref))
  | .checkCapability ref =>
    let agent ← sys.heap[ref]?
    if !agent.hasCapability AgentCapabilities.acceptsRemoteConfig then
      some (sys.setCall ch call (.returned (some "agent does not support remote config")))
    else some (sys.setCall ch call (.setCustomConfig ref))
  | .setCustomConfig ref =>
    let agent ← sys.heap[ref]?
    let (agent, result) := agent.setCustomConfig (.single call.configContent) (some ch)
    let sys := sys.setAgent ref agent
    match result with
    | .send msg => some (sys.setCall ch call (.send ref msg))
    | .notifyNow => some (sys.setCall ch call .notifyNow)
  | .notifyNow =>
    -- This send blocks while the buffer is full.
    if ch ∈ sys.tokens then none else some ((sys.notify ch).setCall ch call .select)
  | .select =>
    if ch ∈ sys.tokens then
      some ({ sys with tokens := sys.tokens.erase ch }.setCall ch call (.returned none))
    else none
  | .send _ _ => none
  | .returned _ => none

/-- `conn.Send` returns. `SendToAgent` drops its error. -/
def sent (sys : System) (ch : ChanId) (_err : Option String) : Option System := do
  let call ← sys.calls[ch]?
  match call.stage with
  | .send _ _ => some (sys.setCall ch call .select)
  | _ => none

/-- `time.After` fires. -/
def timeout (sys : System) (ch : ChanId) : Option System := do
  let call ← sys.calls[ch]?
  match call.stage with
  | .select =>
    some (sys.setCall ch call (.returned (some "timeout waiting for agent to apply config")))
  | _ => none

/-- The next step of `onMessage`. -/
def handle (sys : System) (h : Nat) : Option System := do
  let handler ← sys.handlers[h]?
  let agent ← sys.heap[handler.agent]?
  match handler.stage with
  | .setGroup =>
    match handler.msg.agentDescription with
    | none => some (sys.setHandler h handler .updateStatus)
    | some desc =>
      let (agent, groupChanged) := agent.setGroup desc
      some ((sys.setAgent handler.agent agent).setHandler h handler
        (.findInitialConfig groupChanged))
  | .findInitialConfig groupChanged =>
    let config := agent.findInitialConfig handler.env sys.store groupChanged
    some (sys.setHandler h handler (.setInitialConfig config))
  | .setInitialConfig config =>
    some ((sys.setAgent handler.agent (agent.setInitialConfig config)).setHandler h handler
      .updateStatus)
  | .updateStatus =>
    match agent.updateStatus handler.env.x509 handler.msg handler.response with
    | .error _ => none
    | .ok (agent, response, watchers) =>
      some ((sys.setAgent handler.agent agent).setHandler h { handler with response }
        (.notifyStatusWatchers watchers))
  | .notifyStatusWatchers (ch :: watchers) =>
    some ((sys.notify ch).setHandler h handler (.notifyStatusWatchers watchers))
  | .notifyStatusWatchers [] =>
    let response := sys.server.calcConnectionSettings agent handler.response
    some (sys.setHandler h { handler with response } .persistAgent)
  | .persistAgent =>
    let (agent, store) := Opamp.persistAgent handler.env sys.store agent handler.msg
    some (({ sys with store }.setAgent handler.agent agent).setHandler h handler .returned)
  | .returned => none

end System

/-- What happens next. -/
inductive Event where
  /-- A message arrives. -/
  | message (env : Env) (conn : Conn) (msg : AgentToServer)
  /-- The handler `h` takes its next step. -/
  | handle (h : Nat)
  | disconnect (env : Env) (conn : Conn)
  /-- Someone calls `SendConfigToAgent`. -/
  | sendConfigToAgent (agentId : UUID) (configContent : Bytes)
  /-- The call `ch` takes its next step. -/
  | advance (ch : ChanId)
  /-- The connection answers the call `ch`. -/
  | sent (ch : ChanId) (err : Option String)
  | timeout (ch : ChanId)
  /-- The rest of the program changes the database. -/
  | write (store : Storage)

/-- One step. -/
def System.step (sys : System) : Event → Option System
  | .message env conn msg => sys.onMessage env conn msg
  | .handle h => sys.handle h
  | .disconnect env conn => some (sys.onDisconnect env conn)
  | .sendConfigToAgent agentId configContent =>
    some { sys with calls := sys.calls ++ [{ agentId, configContent }] }
  | .advance ch => sys.advance ch
  | .sent ch err => sys.sent ch err
  | .timeout ch => sys.timeout ch
  | .write store => some { sys with store }

end Concurrent

end OtelHive.Opamp
