import OtelHive.Basic

/-!
# `OtelHive.Opamp.Protobufs`: the OpAMP messages

The messages of `opamp-go/protobufs` with the fields that the server reads or writes. An
optional sub-message is an `Option`. The decoder puts no nil entry in a map or a repeated
field, so those hold plain values. A map is a `GoMap` in some iteration order.
-/

set_option autoImplicit false

namespace OtelHive.Opamp

open OtelHive.Lib

/-! ### Agent description -/

/-- `AnyValue`: the string alternative, or another alternative by its encoding. -/
inductive AnyValue where
  | stringValue (s : String)
  | otherValue (encoding : Bytes)
deriving DecidableEq

structure KeyValue where
  key : String
  value : Option AnyValue
deriving DecidableEq

/-- `attr.Value.GetStringValue()`, which is empty for a nil value and for another
alternative. -/
def KeyValue.getStringValue (attr : KeyValue) : String :=
  match attr.value with
  | some (.stringValue s) => s
  | _ => ""

structure AgentDescription where
  identifyingAttributes : List KeyValue
  nonIdentifyingAttributes : List KeyValue
deriving DecidableEq

/-! ### Configuration -/

structure AgentConfigFile where
  body : Bytes
  contentType : String := ""
deriving DecidableEq

structure AgentConfigMap where
  configMap : GoMap String AgentConfigFile
deriving DecidableEq

structure AgentRemoteConfig where
  config : Option AgentConfigMap
  configHash : Bytes
deriving DecidableEq

structure EffectiveConfig where
  configMap : Option AgentConfigMap
deriving DecidableEq

inductive RemoteConfigStatuses where
  | unset
  | applied
  | applying
  | failed
deriving DecidableEq

structure RemoteConfigStatus where
  lastRemoteConfigHash : Bytes
  status : RemoteConfigStatuses := .unset
  errorMessage : String := ""
deriving DecidableEq

/-! ### Agent to server -/

structure ComponentHealth where
  healthy : Bool
  startTimeUnixNano : UInt64 := 0
deriving DecidableEq

structure PackageStatuses where
  errorMessage : String := ""
deriving DecidableEq

structure CertificateRequestMessage where
  csr : Bytes
deriving DecidableEq

structure OpAMPConnectionSettingsRequest where
  certificateRequest : Option CertificateRequestMessage
deriving DecidableEq

structure ConnectionSettingsRequest where
  opamp : Option OpAMPConnectionSettingsRequest
deriving DecidableEq

structure AgentToServer where
  instanceUid : Bytes
  sequenceNum : UInt64 := 0
  agentDescription : Option AgentDescription := none
  capabilities : UInt64 := 0
  health : Option ComponentHealth := none
  effectiveConfig : Option EffectiveConfig := none
  remoteConfigStatus : Option RemoteConfigStatus := none
  packageStatuses : Option PackageStatuses := none
  connectionSettingsRequest : Option ConnectionSettingsRequest := none
deriving DecidableEq

/-! ### Server to agent -/

inductive ServerErrorResponseType where
  | unknown
  | badRequest
  | unavailable
deriving DecidableEq

structure ServerErrorResponse where
  type : ServerErrorResponseType
  errorMessage : String
deriving DecidableEq

structure TelemetryConnectionSettings where
  destinationEndpoint : String
  headers : List (String × String)
deriving DecidableEq

structure ConnectionSettingsOffers where
  /-- Whether `Opamp` is set. The server only sends the empty message. -/
  opamp : Bool := false
  ownMetrics : Option TelemetryConnectionSettings := none
  ownTraces : Option TelemetryConnectionSettings := none
  ownLogs : Option TelemetryConnectionSettings := none
deriving DecidableEq

inductive CommandType where
  | restart
deriving DecidableEq

structure ServerToAgent where
  instanceUid : Bytes := []
  errorResponse : Option ServerErrorResponse := none
  remoteConfig : Option AgentRemoteConfig := none
  connectionSettings : Option ConnectionSettingsOffers := none
  flags : UInt64 := 0
  capabilities : UInt64 := 0
  command : Option CommandType := none
deriving DecidableEq

/-! ### Capability and flag bits -/

namespace AgentCapabilities

def reportsStatus : UInt64 := 0x1
def acceptsRemoteConfig : UInt64 := 0x2
def reportsEffectiveConfig : UInt64 := 0x4
def acceptsPackages : UInt64 := 0x8
def reportsPackageStatuses : UInt64 := 0x10
def reportsOwnTraces : UInt64 := 0x20
def reportsOwnMetrics : UInt64 := 0x40
def reportsOwnLogs : UInt64 := 0x80
def acceptsRestartCommand : UInt64 := 0x400
def reportsHealth : UInt64 := 0x800
def reportsRemoteConfig : UInt64 := 0x1000

end AgentCapabilities

/-- `ServerToAgentFlags_ReportFullState`. -/
def reportFullState : UInt64 := 0x1

end OtelHive.Opamp
