import OtelHive.Opamp.Protobufs

/-!
# `OtelHive.Opamp.Agent`: one connected agent

`internal/opamp/agent_core.go`, `agent_config.go`, `agent_status.go` and
`agent_connection.go`: the state the server keeps for a connected agent, and the sections
that change it under the agent's mutex. A section is a function from the agent to the
agent. A section that can panic returns `Except Panic`: the Go code panics with the mutex
held.

`updateStatus` returns the watcher channels it took from the agent. Go notifies them after
it releases the mutex.
-/

set_option autoImplicit false

namespace OtelHive.Opamp

open OtelHive.Lib

/-- The identity of a `types.Connection`. -/
abbrev Conn : Type := Nat

/-- The identity of a notify channel. -/
abbrev ChanId : Type := Nat

/-- `Agent`, without the certificate fields that only the UI reads. -/
structure Agent where
  instanceId : UUID
  groupID : Option String := none
  groupName : Option String := none
  conn : Conn
  status : Option AgentToServer := none
  /-- `StartedAt` in nanoseconds since 1970, `none` for the zero time. -/
  startedAt : Option Int := none
  effectiveConfig : Bytes := []
  customInstanceConfig : Bytes := []
  remoteConfig : Option AgentRemoteConfig := none
  statusUpdateWatchers : List ChanId := []
deriving DecidableEq

namespace Agent

/-- `hasCapability`. -/
def hasCapability (agent : Agent) (capability : UInt64) : Bool :=
  match agent.status with
  | some status => status.capabilities &&& capability != 0
  | none => false

end Agent

/-! ### Comparing remote configs -/

/-- `isEqualConfigFile`, for files that are not nil. -/
def isEqualConfigFile (f1 f2 : AgentConfigFile) : Bool :=
  f1.body == f2.body && f1.contentType == f2.contentType

/-- `isEqualConfigSet`. The loop visits the files of the first map. -/
def isEqualConfigSet (c1 c2 : Option AgentConfigMap) : Bool :=
  match c1, c2 with
  | none, none => true
  | some c1, some c2 =>
    if c1.configMap.entries.length != c2.configMap.entries.length then false
    else c1.configMap.toList.all fun (k, f1) =>
      match c2.configMap.lookup k with
      | some f2 => isEqualConfigFile f1 f2
      | none => false
  | _, _ => false

/-- `isEqualRemoteConfig`. The hashes are not compared. -/
def isEqualRemoteConfig (c1 c2 : Option AgentRemoteConfig) : Bool :=
  match c1, c2 with
  | none, none => true
  | some c1, some c2 => isEqualConfigSet c1.config c2.config
  | _, _ => false

/-! ### Configuration -/

/-- The config map with one file, under the empty name. -/
def singleFile (body : Bytes) : AgentConfigMap :=
  ⟨(∅ : GoMap String AgentConfigFile).insert "" { body }⟩

/-- The bytes that `calcRemoteConfig` hashes: key, body and content type of each file. -/
def hashInput (config : AgentConfigMap) : Bytes :=
  config.configMap.toList.flatMap fun (k, v) =>
    k.toUTF8.data.toList ++ v.body ++ v.contentType.toUTF8.data.toList

namespace Agent

/-- `calcRemoteConfig`: rebuild the remote config from `customInstanceConfig`. The flag
says whether it differs from the one held before. -/
def calcRemoteConfig (agent : Agent) : Agent × Bool :=
  let config := singleFile agent.customInstanceConfig
  let cfg : AgentRemoteConfig := { config := some config, configHash := sha256 (hashInput config) }
  let configChanged := !isEqualRemoteConfig agent.remoteConfig (some cfg)
  ({ agent with remoteConfig := some cfg }, configChanged)

end Agent

/-- A config map that holds a file under the empty name. Both callers of `SetCustomConfig`
build one, and the Go code would dereference nil on any other map. -/
structure CustomConfig extends AgentConfigMap where
  file : AgentConfigFile
  lookup_file : configMap.lookup "" = some file

/-- The map that `SendConfigToAgent` and `UpdateConfig` pass to `SetCustomConfig`. -/
def CustomConfig.single (body : Bytes) : CustomConfig where
  toAgentConfigMap := singleFile body
  file := { body }
  lookup_file := AList.lookup_insert _

/-- What `SetCustomConfig` does after it releases the mutex. -/
inductive SetCustomConfigResult where
  /-- The config changed: the message goes to the agent's connection. The error of `Send`
  is dropped. -/
  | send (msg : ServerToAgent)
  /-- The config did not change: the notify channel gets its token at once. -/
  | notifyNow
deriving DecidableEq

namespace Agent

/-- `SetCustomConfig`, the section under the mutex. `notify` is the caller's channel. -/
def setCustomConfig (agent : Agent) (config : CustomConfig) (notify : Option ChanId) :
    Agent × SetCustomConfigResult :=
  let agent := { agent with customInstanceConfig := config.file.body }
  let (agent, configChanged) := agent.calcRemoteConfig
  if configChanged then
    -- The token comes with the next status report.
    let agent := { agent with
      statusUpdateWatchers := agent.statusUpdateWatchers ++ notify.toList }
    (agent, .send { remoteConfig := agent.remoteConfig })
  else
    (agent, .notifyNow)

/-! ### Status reports -/

/-- `updateAgentDescription`, the description: the status after it, and whether it changed. -/
def mergeDescription (status newStatus : AgentToServer) : AgentToServer × Bool :=
  match newStatus.agentDescription with
  | none => (status, false)
  | some desc =>
    if status.agentDescription = some desc then (status, false)
    else ({ status with agentDescription := some desc }, true)

/-- `updateAgentDescription`, the config status. -/
def mergeRemoteConfigStatus (status newStatus : AgentToServer) : AgentToServer :=
  if newStatus.remoteConfigStatus.isSome
      && status.remoteConfigStatus != newStatus.remoteConfigStatus then
    { status with remoteConfigStatus := newStatus.remoteConfigStatus }
  else status

/-- `updateAgentDescription`. The flag says whether the description changed. -/
def updateAgentDescription (agent : Agent) (newStatus : AgentToServer) : Agent × Bool :=
  match agent.status with
  | none => ({ agent with status := some newStatus }, true)
  | some prev =>
    let status := { prev with sequenceNum := newStatus.sequenceNum }
    let (status, agentDescrChanged) := mergeDescription status newStatus
    let status := mergeRemoteConfigStatus status newStatus
    ({ agent with status := some status }, agentDescrChanged)

/-- `updateHealth`. The status is not nil when it runs. -/
def updateHealth (agent : Agent) (newStatus : AgentToServer) : Agent :=
  match newStatus.health with
  | none => agent
  | some health =>
    let agent := { agent with
      status := agent.status.map fun status => { status with health := some health } }
    if health.healthy then
      { agent with startedAt := some health.startTimeUnixNano.toInt64.toInt }
    else agent

/-- `updateRemoteConfigStatus`. -/
def updateRemoteConfigStatus (agent : Agent) (newStatus : AgentToServer) : Agent :=
  match newStatus.remoteConfigStatus with
  | none => agent
  | some rcs =>
    { agent with
      status := agent.status.map fun status => { status with remoteConfigStatus := some rcs } }

/-- `updateStatusField`. -/
def updateStatusField (agent : Agent) (newStatus : AgentToServer) : Agent × Bool :=
  -- A first report is the status at once, and the merge below compares it with itself.
  let (agent, agentDescrChanged) :=
    match agent.status with
    | none => ({ agent with status := some newStatus }, true)
    | some _ => (agent, false)
  let (agent, changed) := agent.updateAgentDescription newStatus
  let agent := agent.updateHealth newStatus
  let agent := agent.updateRemoteConfigStatus newStatus
  (agent, changed || agentDescrChanged)

/-- `updateEffectiveConfig`: the body of the first file in iteration order. A report whose
inner config map is missing is a nil dereference. -/
def updateEffectiveConfig (agent : Agent) (newStatus : AgentToServer) : Except Panic Agent :=
  match newStatus.effectiveConfig with
  | none => .ok agent
  | some ⟨none⟩ => .error .nilDereference
  | some ⟨some config⟩ =>
    match config.configMap.toList with
    | [] => .ok agent
    | (_, file) :: _ => .ok { agent with effectiveConfig := file.body }

/-- The agent has reported a config status whose hash is not that of the remote config.
The comparison dereferences the remote config. -/
def remoteConfigDiffers (agent : Agent) : Except Panic Bool :=
  match agent.status.bind (·.remoteConfigStatus) with
  | none => .ok false
  | some rcs =>
    match agent.remoteConfig with
    | none => .error .nilDereference
    | some cfg => .ok (rcs.lastRemoteConfigHash != cfg.configHash)

/-- The condition of `processStatusUpdate` on sending the remote config. A config that changed
short-circuits the comparison of the hashes. -/
def shouldSendConfig (agent : Agent) (configChanged : Bool) : Except Panic Bool :=
  if configChanged then .ok true else agent.remoteConfigDiffers

/-- The status report leaves out a field that the agent's capabilities promise. -/
def statusIsCompressed (agent : Agent) (newStatus : AgentToServer) : Bool :=
  (newStatus.effectiveConfig.isNone
      && agent.hasCapability AgentCapabilities.reportsEffectiveConfig)
    || (newStatus.packageStatuses.isNone
      && agent.hasCapability AgentCapabilities.reportsPackageStatuses)
    || (newStatus.remoteConfigStatus.isNone
      && agent.hasCapability AgentCapabilities.reportsRemoteConfig)
    || (newStatus.health.isNone && agent.hasCapability AgentCapabilities.reportsHealth)

/-- The server has no status for the agent, or missed the report before this one. -/
def lostPreviousUpdate (agent : Agent) (newStatus : AgentToServer) : Bool :=
  match agent.status with
  | none => true
  | some status => status.sequenceNum + 1 != newStatus.sequenceNum

/-- `processStatusUpdate`. -/
def processStatusUpdate (agent : Agent) (newStatus : AgentToServer) (response : ServerToAgent) :
    Except Panic (Agent × ServerToAgent) := do
  -- Before the merge, which takes over the sequence number of the report.
  let lost := agent.lostPreviousUpdate newStatus
  let (agent, agentDescrChanged) := agent.updateStatusField newStatus
  let response :=
    if agent.statusIsCompressed newStatus && lost then
      { response with flags := response.flags ||| reportFullState }
    else response
  let (agent, configChanged) :=
    if agentDescrChanged then agent.calcRemoteConfig else (agent, false)
  let sendConfig ← agent.shouldSendConfig configChanged
  let response :=
    if sendConfig then { response with remoteConfig := agent.remoteConfig } else response
  let agent ← agent.updateEffectiveConfig newStatus
  pure (agent, response)

/-! ### Connection settings -/

/-- `addErrorResponse`. -/
def addErrorResponse (errMsg : String) (response : ServerToAgent) : ServerToAgent :=
  match response.errorResponse with
  | none => { response with errorResponse := some { type := .badRequest, errorMessage := errMsg } }
  | some e =>
    if e.type = .badRequest then
      { response with errorResponse := some { e with errorMessage := e.errorMessage ++ errMsg } }
    else response

/-- `processConnectionSettingsRequest`. When the signature check fails, the source reads the
text of the nil error of the parse before it. -/
def processConnectionSettingsRequest (x509 : X509)
    (request : Option OpAMPConnectionSettingsRequest) (response : ServerToAgent) :
    Except Panic ServerToAgent :=
  match request.bind (·.certificateRequest) with
  | none => .ok response
  | some certificateRequest =>
    match x509.pemDecode certificateRequest.csr with
    | none => .ok (addErrorResponse "Failed to decode PEM certificate request" response)
    | some csrDer =>
      match x509.parseCertificateRequest csrDer with
      | .error err =>
        .ok (addErrorResponse ("Failed to parse received certificate request: " ++ err) response)
      | .ok csr =>
        if !csr.signatureValid then .error .nilDereference
        else if csr.commonName = "" then
          .ok (addErrorResponse "CommonName is required in certificate request" response)
        else
          let offers := response.connectionSettings.getD {}
          .ok { response with connectionSettings := some { offers with opamp := true } }

/-- The answer of `UpdateStatus` to a connection settings request, if the report has one. -/
def answerConnectionSettings (x509 : X509) (statusMsg : AgentToServer) (response : ServerToAgent) :
    Except Panic ServerToAgent :=
  match statusMsg.connectionSettingsRequest with
  | some request => processConnectionSettingsRequest x509 request.opamp response
  | none => .ok response

/-- `UpdateStatus`, the section under the mutex. The last component is the watchers that
`notifyStatusWatchers` notifies after the section. -/
def updateStatus (agent : Agent) (x509 : X509) (statusMsg : AgentToServer)
    (response : ServerToAgent) : Except Panic (Agent × ServerToAgent × List ChanId) := do
  let (agent, response) ← agent.processStatusUpdate statusMsg response
  let response ← answerConnectionSettings x509 statusMsg response
  pure ({ agent with statusUpdateWatchers := [] }, response, agent.statusUpdateWatchers)

/-- `shouldOfferOwnTelemetry`: metrics, traces and logs. -/
def shouldOfferOwnTelemetry (agent : Agent) : Bool × Bool × Bool :=
  (agent.hasCapability AgentCapabilities.reportsOwnMetrics,
    agent.hasCapability AgentCapabilities.reportsOwnTraces,
    agent.hasCapability AgentCapabilities.reportsOwnLogs)

/-- The message of `SendRestartCommand`. -/
def restartCommand (agent : Agent) : ServerToAgent where
  instanceUid := agent.instanceId.bytes
  capabilities := (agent.status.map (·.capabilities)).getD 0
  command := some .restart

end Agent

end OtelHive.Opamp
