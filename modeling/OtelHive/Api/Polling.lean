import OtelHive.Api.GitSync

/-!
# `OtelHive.Api.Polling`: the poller beside the OpAMP server

The poller of a git source runs in a goroutine of its own, so OpAMP handlers run between its
calls. A sync reads and writes the registry and the database only in `ListAgents` and in the
pushes. So it is enough to let handlers run during a fetch and during a push, which waits for
the agent. Handlers before `ListAgents` run before the sync, and handlers after the last push
run after it.

`pending` holds the OpAMP events of each wait to come. `pushed` does not change what the
process does. It says for which agents the git sync made the last change of the config: a push
sets it, and the handlers that replace the config or remove the agent clear it.
-/

set_option autoImplicit false

namespace OtelHive.Api

open OtelHive.Opamp
open OtelHive.Gitsync

/-- The running process. -/
structure Live where
  process : State
  pending : List (List Server.Event) := []
  /-- A handler has panicked. -/
  died : Bool := false
  pushed : UUID → Bool := fun _ => false

/-- The handler of the event sets a config that it resolved for the agent, or removes the
agent. -/
def replacesConfig (srv : Server) (e : Server.Event) (id : UUID) : Bool :=
  match e with
  | .disconnect _ conn => (srv.agents.agentsOf conn).contains id
  | .message env conn msg =>
    match UUID.ofSlice msg.instanceUid with
    | .error _ => false
    | .ok instanceId =>
      id == instanceId &&
        ((srv.agents.findOrCreateAgent instanceId conn).2.resolveGrouping env srv.store
          msg).2.isSome

namespace Live

/-- One OpAMP handler. -/
def handle (w : Live) (e : Server.Event) : Live :=
  match Server.step w.process.server e with
  -- The sync still ends in the model, and `Polling.step` then has no next state.
  | none => { w with died := true }
  | some srv =>
    { w with
      process := w.process.withServer srv
      pushed := fun id => w.pushed id && !replacesConfig w.process.server e id }

/-- The handlers that run during the next wait. -/
def wait (w : Live) : Live :=
  match w.pending with
  | [] => w
  | events :: pending => events.foldl handle { w with pending }

/-- The push of a config, before the wait for the agent. It reaches an agent that accepts
remote config. -/
def send (acked : ChanId → Bool) (agentID : UUID) (content : Bytes) (w : Live) :
    Live × Option String :=
  let reached := (w.process.sender.agents.findAgent agentID).any
    (·.hasCapability AgentCapabilities.acceptsRemoteConfig)
  let (process, err) := w.process.sendConfigToAgent acked agentID content
  ({ w with process, pushed := fun id => w.pushed id || (id == agentID && reached) }, err)

/-- `SendConfigToAgent`, with the handlers that run while it waits. -/
def sendConfigToAgent (acked : ChanId → Bool) (agentID : UUID) (content : Bytes) (w : Live) :
    Live × Option String :=
  let (w, err) := w.send acked agentID content
  (w.wait, err)

end Live

/-- The world during one poll. -/
structure LivePoll where
  env : Env
  acked : ChanId → Bool
  remote : Remote
  /-- The OpAMP events of each wait. -/
  during : List (List Server.Event) := []

/-- The git sync service during one poll. -/
def liveService (p : LivePoll) : Service Live where
  provider _ := {
    latestCommitSHA := fun _ _ => p.remote.commitSHA
    listFiles := fun _ _ _ => p.remote.files
    fetchFile := fun path _ w => (w.wait, p.remote.fetch path) }
  listAgents w := Services.listAgents p.env w.process.store
  sendConfigToAgent := Live.sendConfigToAgent p.acked
  foreignKeys := p.env.foreignKeys

/-- The process and the git store. -/
structure Polling where
  live : Live
  store : Gitsync.Store

/-- What happens: an OpAMP event, or a poll. -/
inductive Polling.Event where
  | opamp (e : Server.Event)
  | poll (p : LivePoll)

/-- The step before the process is checked to be alive. -/
def Polling.next (sourceID : String) (s : Polling) : Polling.Event → Polling
  | .opamp e => { s with live := s.live.handle e }
  | .poll p =>
    let (live, store) :=
      doSync (liveService p) sourceID { s.live with pending := p.during } s.store
    { live, store }

/-- One step. A panic ends the process. -/
def Polling.step (sourceID : String) (s : Polling) (e : Polling.Event) : Option Polling :=
  let s' := s.next sourceID e
  if s'.live.died then none else some s'

/-- The process after a start, with nothing connected. -/
def Polling.start (database : Sqlite.Storage) (store : Gitsync.Store) : Polling where
  live := { process := .start database }
  store

end OtelHive.Api
