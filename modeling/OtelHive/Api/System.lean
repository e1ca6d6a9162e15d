import OtelHive.Api.Handlers
import OtelHive.Opamp.Server

/-!
# `OtelHive.Api.System`: the API and the OpAMP server together

`main` gives the OpAMP server and the config sender of the API one registry, and both one
database. `State.step` is this process between two handlers: an OpAMP event or an API
request.
-/

set_option autoImplicit false

namespace OtelHive.Api

open OtelHive.Opamp

/-- The OpAMP server of the process. `main` passes no OTLP endpoint. -/
def State.server (s : State) : Server where
  agents := s.sender.agents
  store := s.store

/-- The process after an OpAMP handler. -/
def State.withServer (s : State) (srv : Server) : State where
  store := srv.store
  sender := { s.sender with agents := srv.agents }

/-- What happens to the process. -/
inductive Request where
  | opamp (e : Server.Event)
  | createConfig (env : Env) (delivery : Delivery) (body : Except String CreateConfigRequest)
  | updateConfig (env : Env) (configID : String) (body : Except String UpdateConfigRequest)
  | assignConfig (env : Env) (delivery : Delivery) (groupID : String)
      (body : Except String AssignConfigRequest)
  | sendConfig (env : Env) (delivery : Delivery) (agentID : String)
      (body : Except String SendConfigRequest)

namespace State

/-- One handler. -/
def step (s : State) : Request → Option State
  | .opamp e => (Server.step s.server e).map s.withServer
  | .createConfig env delivery body => some (handleCreateConfig env delivery body s).1
  | .updateConfig env configID body => some (handleUpdateConfig env configID body s).1
  | .assignConfig env delivery groupID body =>
    some (handleAssignConfig env delivery groupID body s).1
  | .sendConfig env delivery agentID body =>
    some (handleSendConfigToAgent env delivery agentID body s).1

/-- The process after a start on a database. -/
def start (store : Sqlite.Storage) : State where
  store
  sender := { agents := newAgents }

end State

end OtelHive.Api
