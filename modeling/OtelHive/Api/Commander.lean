import OtelHive.Api.Handlers

/-!
# `OtelHive.Api.Commander`: the config handlers over any commander

The handlers reach the connected agents through the interface `AgentCommander`. The handlers
here take it as a parameter, as the source does: `main` passes the config sender, and the
tests pass one that records its calls. `handle` with `processCommander` is the handler
of `OtelHive.Api.Handlers` (`handle_commander`), and `Recorder` is the config sender with the
record of its pushes.
-/

set_option autoImplicit false

namespace OtelHive.Api

open OtelHive.Lib
open OtelHive.Opamp
open OtelHive.Services
open OtelHive.Sqlite (Storage)
open OtelHive.Types (Config)

/-- `AgentCommander`, with a state `γ`: the method that the config handlers call. They only
log its results. -/
structure AgentCommander (γ : Type) where
  sendConfigToAgentsInGroup : String → Bytes → γ → γ

/-- What the handlers change, with the state of the commander. -/
structure StateOver (γ : Type) where
  store : Storage
  commander : γ

/-- The config sender of the process. -/
def processCommander (delivery : Delivery) : AgentCommander ConfigSender where
  sendConfigToAgentsInGroup groupID content cs :=
    (cs.sendConfigToAgentsInGroup delivery.acked delivery.order groupID content).1

section Handlers

variable {γ : Type} (commander : AgentCommander γ) (env : Env)

/-- `HandleCreateConfig`. -/
def createConfigWith (body : Except String CreateConfigRequest) (s : StateOver γ) :
    StateOver γ × Reply :=
  match bind "CreateConfigRequest" CreateConfigRequest.required body with
  | .error err => (s, .error 400 "Invalid request data" (some err))
  | .ok req =>
    let config : Config := {
      id := env.newUUID
      name := req.name
      agentID := req.agentID
      groupID := req.groupID
      configHash := req.configHash
      content := req.content
      version := req.version
      createdAt := env.now }
    match createConfig env s.store config with
    | .error _ => (s, .error 500 "Failed to create config")
    | .ok store =>
      let after :=
        match config.groupID with
        | none => s.commander
        | some groupID =>
          if groupID = "" then s.commander
          else commander.sendConfigToAgentsInGroup groupID config.content s.commander
      (⟨store, after⟩, .config 201 config)

/-- `HandleUpdateConfig`. It does not call the commander. -/
def updateConfigWith (configID : String) (body : Except String UpdateConfigRequest)
    (s : StateOver γ) : StateOver γ × Reply :=
  if configID = "" then (s, .error 400 "Config ID is required")
  else
    match bind "UpdateConfigRequest" UpdateConfigRequest.required body with
    | .error err => (s, .error 400 "Invalid request data" (some err))
    | .ok req =>
      match getConfig env s.store configID with
      | .error _ => (s, .error 500 "Failed to fetch config")
      | .ok none => (s, .error 404 "Config not found")
      | .ok (some existingConfig) =>
        match validateYAMLConfig env req.content with
        | some err => (s, .error 400 "Invalid YAML configuration" (some err))
        | none =>
          let newConfig : Config := {
            id := env.newUUID
            name := if req.name = "" then existingConfig.name else req.name
            agentID := existingConfig.agentID
            groupID := existingConfig.groupID
            configHash := hashConfig req.content
            content := req.content
            version := req.version
            createdAt := env.now }
          match createConfig env s.store newConfig with
          | .error _ => (s, .error 500 "Failed to create config version")
          | .ok store => ({ s with store }, .config 200 newConfig)

/-- `HandleAssignConfig`. -/
def assignConfigWith (groupID : String) (body : Except String AssignConfigRequest)
    (s : StateOver γ) : StateOver γ × Reply :=
  if groupID = "" then (s, .error 400 "Group ID is required")
  else
    match bind "AssignConfigRequest" AssignConfigRequest.required body with
    | .error err => (s, .error 400 "Invalid request data" (some err))
    | .ok req =>
      match getGroup env s.store groupID with
      | .ok (some _) =>
        match getConfig env s.store req.configID with
        | .ok (some config) =>
          let newConfig : Config := {
            id := env.newUUID
            groupID := some groupID
            configHash := config.configHash
            content := config.content
            version := config.version.succ
            createdAt := env.now }
          match createConfig env s.store newConfig with
          | .error _ => (s, .error 500 "Failed to assign config")
          | .ok store =>
            (⟨store, commander.sendConfigToAgentsInGroup groupID newConfig.content s.commander⟩,
              .assigned 200 "Config assigned to group successfully" newConfig)
        | _ => (s, .error 404 "Config not found")
      | _ => (s, .error 404 "Group not found")

/-- A request to store a new version of a config. -/
inductive ConfigRequest where
  | create (body : Except String CreateConfigRequest)
  | update (configID : String) (body : Except String UpdateConfigRequest)
  | assign (groupID : String) (body : Except String AssignConfigRequest)

/-- The handler of the request. -/
def handle (request : ConfigRequest) (s : StateOver γ) : StateOver γ × Reply :=
  match request with
  | .create body => createConfigWith commander env body s
  | .update configID body => updateConfigWith env configID body s
  | .assign groupID body => assignConfigWith commander env groupID body s

end Handlers

/-! ### The record of the pushes -/

/-- The config sender, with the pushes it has attempted: each call of `SendConfigToAgent`. -/
structure Recorder where
  sender : ConfigSender
  attempts : List (UUID × Bytes)

namespace Recorder

/-- `SendConfigToAgent`, recorded. -/
def sendConfigToAgent (acked : ChanId → Bool) (content : Bytes) (r : Recorder) (agentId : UUID) :
    Recorder where
  sender := (r.sender.sendConfigToAgent acked agentId content).1
  attempts := r.attempts ++ [(agentId, content)]

/-- `SendConfigToAgentsInGroup` with the recorded method. -/
def commander (delivery : Delivery) : AgentCommander Recorder where
  sendConfigToAgentsInGroup groupID content r :=
    (ConfigSender.agentsInGroup delivery.order groupID r.sender.agents).foldl
      (sendConfigToAgent delivery.acked content) r

end Recorder

/-- The handler of the process on a request, with the record of its pushes. -/
def recorded (env : Env) (delivery : Delivery) (request : ConfigRequest) (s : State) :
    StateOver Recorder × Reply :=
  handle (Recorder.commander delivery) env request ⟨s.store, ⟨s.sender, []⟩⟩

/-- The pushes that the handler attempts. -/
def attempts (env : Env) (delivery : Delivery) (request : ConfigRequest) (s : State) :
    List (UUID × Bytes) :=
  (recorded env delivery request s).1.commander.attempts

end OtelHive.Api
