import OtelHive.Api.System
import OtelHive.Gitsync.Service

/-!
# `OtelHive.Api.GitSync`: the git sync service of the process

`main` gives the git sync service the agent service as its lister and the config sender of
the API as its pusher. So a sync lists the rows of the database, and pushes to the registry
of connected agents.

`Remote` is what the provider answers during one sync, and `Snapshot` a state of the
repository. A provider whose calls all succeed answers with the snapshot.
-/

set_option autoImplicit false

namespace OtelHive.Api

open OtelHive.Opamp
open OtelHive.Gitsync

/-- The answers of a provider during one sync. -/
structure Remote where
  commitSHA : Except String String
  files : Except String (List FileEntry)
  fetch : String → Except String Bytes

/-- The provider with the answers. Its calls do not change the world. -/
def Remote.provider {σ : Type} (remote : Remote) : Provider σ where
  latestCommitSHA _ _ := remote.commitSHA
  listFiles _ _ _ := remote.files
  fetchFile path _ world := (world, remote.fetch path)

/-- The repository at one commit: its listing in some order, and the content at each path. -/
structure Snapshot where
  commitSHA : String
  entries : List FileEntry
  blob : String → Bytes

/-- The provider's answers when its calls succeed. -/
def Snapshot.remote (snap : Snapshot) : Remote where
  commitSHA := .ok snap.commitSHA
  files := .ok snap.entries
  fetch path := .ok (snap.blob path)

/-- `SendConfigToAgent` of the process. -/
def State.sendConfigToAgent (acked : ChanId → Bool) (agentID : UUID) (content : Bytes)
    (s : State) : State × Option String :=
  let (sender, err) := s.sender.sendConfigToAgent acked agentID content
  ({ s with sender }, err)

/-- The git sync service of the process during one sync. -/
def gitService (env : Env) (acked : ChanId → Bool) (remote : Remote) : Service State where
  provider _ := remote.provider
  listAgents s := Services.listAgents env s.store
  sendConfigToAgent := State.sendConfigToAgent acked
  foreignKeys := env.foreignKeys

/-- Everything that changes the registry or the database of the process. -/
inductive Input where
  | request (r : Request)
  /-- A push of the git sync service. -/
  | push (acked : ChanId → Bool) (agentID : UUID) (content : Bytes)
  /-- A write of another part of the program to the database. -/
  | write (store : Sqlite.Storage)

/-- One change of the process. -/
def State.next (s : State) : Input → Option State
  | .request r => s.step r
  | .push acked agentID content => some (s.sendConfigToAgent acked agentID content).1
  | .write store => some { s with store }

end OtelHive.Api
