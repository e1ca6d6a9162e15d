import OtelHive.Api.Handlers
import OtelHive.Opamp.Concurrent

/-!
# `OtelHive.Api.Concurrent`: config requests and message handlers at the same time

`HandleSendConfigToAgent` runs in a goroutine of its own, next to those of `Opamp.Concurrent`. A
request makes one storage call at a time, and then it waits for its call of `SendConfigToAgent`,
which takes its own steps.

A message handler looks its config up in one step. In the source these are two reads, of the agent
config and, when there is none, of the group config. A request writes agent configs only, so the
result is the one of the first read.
-/

set_option autoImplicit false

namespace OtelHive.Api.Concurrent

open OtelHive.Lib
open OtelHive.Opamp (ChanId)
open OtelHive.Services
open OtelHive.Sqlite (Storage)
open OtelHive.Types (Config)

/-- How far a call of `HandleSendConfigToAgent` is. The first three are those of
`StoreConfigForAgent`. -/
inductive Push.Stage where
  | getAgent
  | getLatestConfig
  | createConfig (version : GoInt)
  /-- Waits for the call of `SendConfigToAgent`. -/
  | sendConfigToAgent (ch : ChanId) (configID : String)
  | returned (reply : Reply)
deriving DecidableEq

/-- A call of `HandleSendConfigToAgent`. -/
structure Push where
  env : Env
  agentID : UUID
  content : Bytes
  stage : Push.Stage := .getAgent

namespace Push

/-- The config that `StoreConfigForAgent` stores. -/
def config (push : Push) (version : GoInt) : Config where
  id := push.env.newUUID
  agentID := some push.agentID
  configHash := hexEncode (sha256 push.content)
  content := push.content
  version
  createdAt := push.env.now

/-- The request up to the first storage call, or the reply to a bad one. -/
def start (env : Env) (agentID : String) (body : Except String SendConfigRequest) :
    Except Reply Push :=
  if agentID = "" then .error (.error 400 "Agent ID is required")
  else
    match env.uuidParse agentID with
    | none => .error (.error 400 "Invalid agent ID format")
    | some agentUUID =>
      match bind "SendConfigRequest" SendConfigRequest.required body with
      | .error err => .error (.error 400 ("Invalid request body: " ++ err))
      | .ok req =>
        if req.content = [] then .error (.error 400 "Config content is required")
        else .ok { env, agentID := agentUUID, content := req.content }

/-- The reply to a failure of `StoreConfigForAgent`. -/
def storeFailed (message : String) : Reply :=
  let statusCode :=
    if message = "agent not found" then 404
    else if message = "agent does not support remote config" then 400
    else 500
  .sendConfig statusCode false message ""

/-- The reply once `SendConfigToAgent` has returned. -/
def reply (configID : String) (err : Option String) : Reply :=
  match err with
  | some err => .sendConfig 202 false ("Config stored but delivery failed: " ++ err) configID
  | none => .sendConfig 200 true "Configuration sent to agent successfully" configID

end Push

/-- The goroutines of the OpAMP server, and the requests. -/
structure Process where
  server : Opamp.Concurrent.System
  pushes : List Push

/-- What happens next. -/
inductive Event where
  | server (e : Opamp.Concurrent.Event)
  /-- A request arrives. -/
  | sendConfig (env : Env) (agentID : String) (body : Except String SendConfigRequest)
  /-- The request `i` takes its next step. -/
  | push (i : Nat)

namespace Process

/-- The request `i` goes on to a stage. -/
def setPush (p : Process) (i : Nat) (push : Push) (stage : Push.Stage) : Process :=
  { p with pushes := p.pushes.set i { push with stage } }

/-- The next step of `HandleSendConfigToAgent`. -/
def push (p : Process) (i : Nat) : Option Process := do
  let push ← p.pushes[i]?
  match push.stage with
  | .getAgent =>
    match Services.getAgent push.env p.server.store push.agentID with
    | .error err =>
      some (p.setPush i push (.returned (Push.storeFailed ("failed to get agent: " ++ err))))
    | .ok none => some (p.setPush i push (.returned (Push.storeFailed "agent not found")))
    | .ok (some agent) =>
      if !agent.capabilities.contains "accepts_remote_config" then
        some (p.setPush i push
          (.returned (Push.storeFailed "agent does not support remote config")))
      else some (p.setPush i push .getLatestConfig)
  | .getLatestConfig =>
    some (p.setPush i push
      (.createConfig (nextVersion push.env p.server.store push.agentID)))
  | .createConfig version =>
    match Services.createConfig push.env p.server.store (push.config version) with
    | .error err =>
      some (p.setPush i push (.returned (Push.storeFailed ("failed to store config: " ++ err))))
    | .ok store =>
      -- The row stays when the push fails.
      let server := { p.server with
        store
        calls := p.server.calls ++ [{ agentId := push.agentID, configContent := push.content }] }
      some ({ p with server }.setPush i push
        (.sendConfigToAgent p.server.calls.length (push.config version).id))
  | .sendConfigToAgent ch configID =>
    let call ← p.server.calls[ch]?
    match call.stage with
    | .returned err => some (p.setPush i push (.returned (Push.reply configID err)))
    | _ => none
  | .returned _ => none

/-- One step. -/
def step (p : Process) : Event → Option Process
  | .server e => (p.server.step e).map fun server => { p with server }
  | .sendConfig env agentID body =>
    match Push.start env agentID body with
    | .error _ => some p
    | .ok push => some { p with pushes := p.pushes ++ [push] }
  | .push i => p.push i

end Process

end OtelHive.Api.Concurrent
