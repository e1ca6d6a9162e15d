import OtelHive.Gitsync.Steps

/-!
# `OtelHive.Gitsync.Concurrent`: syncs of one source at the same time

No lock keeps two syncs of a source apart: the poller, the Sync Now button and a webhook each
call `runSync` in a goroutine of their own. They share the store, the repository and the agents.
A step runs one of them up to its next call (`Sync.step`). The repository advances between two
steps.

A repository is content-addressed: the SHA of a blob determines its content. GitHub serves a
blob by its SHA. The other providers serve a file by its path, with the content that it has when
they are asked.
-/

set_option autoImplicit false

namespace OtelHive.Gitsync.Concurrent

open OtelHive.Lib

/-! ### The world of the syncs -/

/-- The tree of one commit, as the provider lists it. The generic HTTP provider has no SHAs. -/
structure Tree where
  commitSHA : String
  entries : List FileEntry
deriving DecidableEq

/-- The repository and the agents. -/
structure World where
  tree : Tree
  /-- The content that an agent got with its last push. -/
  held : GoMap UUID Bytes
  /-- The agents that a push has failed for. -/
  failed : List UUID
deriving DecidableEq

/-- What the call of a step returns. -/
structure Answer where
  /-- The error of the call, if it fails. -/
  err : Option String := none
  /-- The content of the file, for a provider that serves it by path. -/
  served : Bytes := []
deriving DecidableEq

/-- A call that succeeds unless the answer is an error. -/
def Answer.call {α : Type} (answer : Answer) (result : α) : Except String α :=
  match answer.err with
  | some err => .error err
  | none => .ok result

section

variable (blob : String → Bytes) (agents : List Types.Agent)

/-- The content that `FetchFile` returns. -/
def fetched (gs : GitSource) (answer : Answer) (sha : String) : Bytes :=
  match gs.providerType with
  | .github => blob sha
  | _ => answer.served

/-- The service during one step. -/
def service (answer : Answer) : Service World where
  provider gs := {
    latestCommitSHA := fun _ world => answer.call world.tree.commitSHA
    listFiles := fun _ _ world => answer.call world.tree.entries
    fetchFile := fun _ sha world => (world, answer.call (fetched blob gs answer sha)) }
  listAgents _ := answer.call agents
  sendConfigToAgent id content world :=
    match answer.err with
    -- The agent may hold the content all the same, so nothing is known of it from now on.
    | some err => ({ world with failed := id :: world.failed }, some err)
    | none => ({ world with held := world.held.insert id content }, none)

/-! ### The system -/

/-- The syncs of one source, in the order in which they started. -/
structure System where
  world : World
  store : Store
  syncs : List Sync
deriving DecidableEq

inductive Event where
  /-- `TriggerSync` forces a sync, and `doSync` does not. -/
  | start (forceAll : Bool)
  /-- The next step of a sync. -/
  | step (i : Nat) (answer : Answer)
  /-- A new commit. -/
  | advance (tree : Tree)

/-- One event of the source `id`. -/
def System.step (id : String) (s : System) : Event → Option System
  | .start forceAll => some { s with syncs := s.syncs ++ [{ id, forceAll }] }
  | .step i answer => do
    let sync ← s.syncs[i]?
    let (sync, world, store) ← sync.step (service blob agents answer) .live s.world s.store
    some { world, store, syncs := s.syncs.set i sync }
  | .advance tree => some { s with world := { s.world with tree } }

end

/-- No sync has started. -/
def newSystem (world : World) (store : Store) : System where
  world
  store
  syncs := []

end OtelHive.Gitsync.Concurrent
