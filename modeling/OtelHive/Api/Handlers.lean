import OtelHive.Opamp.ConfigSender
import OtelHive.Services.AgentService

/-!
# `OtelHive.Api.Handlers`: the config endpoints

`HandleCreateConfig` and `HandleUpdateConfig` of `internal/api/handlers/configs.go`,
`HandleAssignConfig` of `groups.go` and `HandleSendConfigToAgent` of `agents.go`.

A handler gets the decoded request body, or the text of the decoder's error. It changes the
database and, through `ConfigSender`, the registry. The result of a group push is only
logged. Which channels get a token and the order of the push loop come from `Delivery`.
-/

set_option autoImplicit false

namespace OtelHive.Api

open OtelHive.Lib
open OtelHive.Opamp
open OtelHive.Services
open OtelHive.Sqlite (Storage)
open OtelHive.Types (Config)

/-- What the handlers change. -/
structure State where
  store : Storage
  sender : ConfigSender
deriving DecidableEq

/-- The answers of the run time to the pushes of a handler. -/
structure Delivery where
  acked : ChanId → Bool
  order : IterOrder UUID

/-- The HTTP response. -/
inductive Reply where
  | error (status : Nat) (error : String) (details : Option String := none)
  | config (status : Nat) (config : Config)
  | assigned (status : Nat) (message : String) (config : Config)
  | sendConfig (status : Nat) (success : Bool) (message configID : String)
deriving DecidableEq

/-- The config that a successful create, update or assignment returns. -/
def Reply.written : Reply → Option Config
  | .config _ written => some written
  | .assigned _ _ written => some written
  | _ => none

/-! ### Request bodies -/

/-- The text of the validator for the missing fields of a request struct. -/
def missingRequired (struct : String) (fields : List (String × Bool)) : Option String :=
  match fields.filter (!·.2) with
  | [] => none
  | missing => some ("\n".intercalate (missing.map fun (field, _) =>
      "Key: '" ++ struct ++ "." ++ field ++ "' Error:Field validation for '" ++ field
        ++ "' failed on the 'required' tag"))

/-- `ShouldBindJSON`: the decoder's error, or the error of the required fields. -/
def bind {α : Type} (struct : String) (fields : α → List (String × Bool))
    (body : Except String α) : Except String α :=
  match body with
  | .error err => .error err
  | .ok req =>
    match missingRequired struct (fields req) with
    | some err => .error err
    | none => .ok req

/-- `CreateConfigRequest`. -/
structure CreateConfigRequest where
  name : String := ""
  agentID : Option UUID := none
  groupID : Option String := none
  configHash : String
  content : Bytes
  version : GoInt

/-- The required fields, and whether the request sets them. -/
def CreateConfigRequest.required (req : CreateConfigRequest) : List (String × Bool) :=
  [("ConfigHash", req.configHash != ""), ("Content", req.content != []),
    ("Version", req.version.1 != 0)]

/-- `UpdateConfigRequest`. -/
structure UpdateConfigRequest where
  name : String := ""
  content : Bytes
  version : GoInt

def UpdateConfigRequest.required (req : UpdateConfigRequest) : List (String × Bool) :=
  [("Content", req.content != []), ("Version", req.version.1 != 0)]

/-- `AssignConfigRequest`. -/
structure AssignConfigRequest where
  configID : String

def AssignConfigRequest.required (req : AssignConfigRequest) : List (String × Bool) :=
  [("ConfigID", req.configID != "")]

/-- `SendConfigRequest`. -/
structure SendConfigRequest where
  content : Bytes

def SendConfigRequest.required (req : SendConfigRequest) : List (String × Bool) :=
  [("Content", req.content != [])]

/-! ### Helpers of the config handlers -/

/-- `validateYAMLConfig`: the error, if there is one. -/
def validateYAMLConfig (env : Env) (content : Bytes) : Option String :=
  (env.yamlUnmarshal content).map ("invalid YAML syntax: " ++ ·)

/-- The ASCII white space that `strings.TrimSpace` removes from the ends of a text. -/
def isSpace (b : UInt8) : Bool :=
  b == 0x09 || b == 0x0a || b == 0x0b || b == 0x0c || b == 0x0d || b == 0x20

/-- The white space of more than one byte: U+0085, U+00A0, U+1680, U+2000 to U+200A, U+2028,
U+2029, U+202F, U+205F and U+3000 in UTF-8. -/
def wideSpaces : List Bytes :=
  [[0xc2, 0x85], [0xc2, 0xa0], [0xe1, 0x9a, 0x80]]
    ++ (List.range 11).map (fun i => [0xe2, 0x80, 0x80 + i.toUInt8])
    ++ [[0xe2, 0x80, 0xa8], [0xe2, 0x80, 0xa9], [0xe2, 0x80, 0xaf], [0xe2, 0x81, 0x9f],
      [0xe3, 0x80, 0x80]]

/-- Drop one space from the front, where `spaces` are the encodings of the wide ones. -/
def dropSpace (spaces : List Bytes) (b : Bytes) : Option Bytes :=
  match b with
  | [] => none
  | x :: rest =>
    if isSpace x then some rest
    else (spaces.find? (·.isPrefixOf b)).map fun space => b.drop space.length

/-- Drop all spaces from the front. Each round drops at least one byte, so the length is
enough fuel. -/
def dropSpaces (spaces : List Bytes) : Nat → Bytes → Bytes
  | 0, b => b
  | fuel + 1, b =>
    match dropSpace spaces b with
    | some rest => dropSpaces spaces fuel rest
    | none => b

/-- `strings.TrimSpace`. The right end is the left end of the reversed text. -/
def trimSpace (b : Bytes) : Bytes :=
  let b := dropSpaces wideSpaces b.length b
  (dropSpaces (wideSpaces.map List.reverse) b.length b.reverse).reverse

/-- `hashConfig`. -/
def hashConfig (content : Bytes) : String :=
  hexEncode (sha256 (trimSpace content))

/-! ### The handlers -/

/-- `HandleCreateConfig`. -/
def handleCreateConfig (env : Env) (delivery : Delivery) (body : Except String CreateConfigRequest)
    (s : State) : State × Reply :=
  match bind "CreateConfigRequest" CreateConfigRequest.required body with
  | .error err => (s, .error 400 "Invalid request data" (some err))
  | .ok req =>
    let config : Config := {
      id := env.newUUID
      name := req.name
      agentID := req.agentID
      groupID := req.groupID
      configHash := req.configHash
      content := req.content
      version := req.version
      createdAt := env.now }
    match createConfig env s.store config with
    | .error _ => (s, .error 500 "Failed to create config")
    | .ok store =>
      let sender :=
        match config.groupID with
        | none => s.sender
        | some groupID =>
          if groupID = "" then s.sender
          else
            -- The handler only logs how many agents the push reached.
            (s.sender.sendConfigToAgentsInGroup delivery.acked delivery.order groupID
              config.content).1
      ({ store, sender }, .config 201 config)

/-- `HandleUpdateConfig`. -/
def handleUpdateConfig (env : Env) (configID : String) (body : Except String UpdateConfigRequest)
    (s : State) : State × Reply :=
  if configID = "" then (s, .error 400 "Config ID is required")
  else
    match bind "UpdateConfigRequest" UpdateConfigRequest.required body with
    | .error err => (s, .error 400 "Invalid request data" (some err))
    | .ok req =>
      match getConfig env s.store configID with
      | .error _ => (s, .error 500 "Failed to fetch config")
      | .ok none => (s, .error 404 "Config not found")
      | .ok (some existingConfig) =>
        match validateYAMLConfig env req.content with
        | some err => (s, .error 400 "Invalid YAML configuration" (some err))
        | none =>
          let newConfig : Config := {
            id := env.newUUID
            name := if req.name = "" then existingConfig.name else req.name
            agentID := existingConfig.agentID
            groupID := existingConfig.groupID
            configHash := hashConfig req.content
            content := req.content
            version := req.version
            createdAt := env.now }
          match createConfig env s.store newConfig with
          | .error _ => (s, .error 500 "Failed to create config version")
          -- Nothing is pushed here, also when the config belongs to a group.
          | .ok store => ({ s with store }, .config 200 newConfig)

/-- `HandleAssignConfig`. -/
def handleAssignConfig (env : Env) (delivery : Delivery) (groupID : String)
    (body : Except String AssignConfigRequest) (s : State) : State × Reply :=
  if groupID = "" then (s, .error 400 "Group ID is required")
  else
    match bind "AssignConfigRequest" AssignConfigRequest.required body with
    | .error err => (s, .error 400 "Invalid request data" (some err))
    | .ok req =>
      match getGroup env s.store groupID with
      | .ok (some _) =>
        match getConfig env s.store req.configID with
        | .ok (some config) =>
          let newConfig : Config := {
            id := env.newUUID
            groupID := some groupID
            configHash := config.configHash
            content := config.content
            version := config.version.succ
            createdAt := env.now }
          match createConfig env s.store newConfig with
          | .error _ => (s, .error 500 "Failed to assign config")
          | .ok store =>
            let (sender, _) := s.sender.sendConfigToAgentsInGroup delivery.acked delivery.order
              groupID newConfig.content
            ({ store, sender },
              .assigned 200 "Config assigned to group successfully" newConfig)
        | _ => (s, .error 404 "Config not found")
      | _ => (s, .error 404 "Group not found")

/-- `HandleSendConfigToAgent`. The required field makes the second check of the content
unreachable. -/
def handleSendConfigToAgent (env : Env) (delivery : Delivery) (agentID : String)
    (body : Except String SendConfigRequest) (s : State) : State × Reply :=
  if agentID = "" then (s, .error 400 "Agent ID is required")
  else
    match env.uuidParse agentID with
    | none => (s, .error 400 "Invalid agent ID format")
    | some agentUUID =>
      match bind "SendConfigRequest" SendConfigRequest.required body with
      | .error err => (s, .error 400 ("Invalid request body: " ++ err))
      | .ok req =>
        if req.content = [] then (s, .error 400 "Config content is required")
        else
          match storeConfigForAgent env s.store agentUUID req.content with
          | .error message =>
            let statusCode :=
              if message = "agent not found" then 404
              else if message = "agent does not support remote config" then 400
              else 500
            (s, .sendConfig statusCode false message "")
          | .ok (config, store) =>
            -- The row stays when the push fails.
            match s.sender.sendConfigToAgent delivery.acked agentUUID req.content with
            | (sender, some err) =>
              ({ store, sender },
                .sendConfig 202 false ("Config stored but delivery failed: " ++ err) config.id)
            | (sender, none) =>
              ({ store, sender },
                .sendConfig 200 true "Configuration sent to agent successfully" config.id)

end OtelHive.Api
