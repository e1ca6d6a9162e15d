import OtelHive.Gitsync.Matcher

/-!
# `OtelHive.Gitsync.Service`: one sync of a git source

`internal/gitsync/service.go` with the store of `store.go` and `doSync` of `worker.go`. The
service talks to three interfaces: the provider, the agent lister and the config pusher.
They act on a world `σ` that the service does not look into, so `runSync` is the same
function over the registry of connected agents and over a log of calls.

The store is the local SQLite file. Its calls succeed here. `runSync` ignores the errors of
the file cache in any case, and only logs an error of `UpdateSyncState`.
-/

set_option autoImplicit false

namespace OtelHive.Gitsync

open OtelHive.Lib

/-! ### Store -/

/-- The tables `git_sources` and `git_source_file_shas`. -/
structure Store where
  sources : List GitSource
  fileSHAs : GoMap (String × String) String
deriving DecidableEq

namespace Store

/-- `Get`. -/
def get (s : Store) (id : String) : Except String GitSource :=
  match s.sources.find? (·.id == id) with
  | some gs => .ok gs
  | none => .error "sql: no rows in result set"

/-- `UpdateSyncState`. -/
def updateSyncState (s : Store) (id sha : String) (status : SyncStatus) (syncErr : String) :
    Store :=
  { s with sources := s.sources.map fun gs =>
      if gs.id = id then
        { gs with lastSyncSHA := sha, lastSyncStatus := status, lastSyncError := syncErr }
      else gs }

/-- `GetFileSHA`. -/
def getFileSHA (s : Store) (sourceID path : String) : String :=
  (s.fileSHAs.lookup (sourceID, path)).getD ""

/-- `UpsertFileSHA`. The row references the source. -/
def upsertFileSHA (s : Store) (foreignKeys : Bool) (sourceID path sha : String) : Store :=
  if foreignKeys && !s.sources.any (·.id == sourceID) then s
  else { s with fileSHAs := s.fileSHAs.insert (sourceID, path) sha }

end Store

/-! ### Interfaces -/

variable {σ : Type}

/-- `providers.Provider`. A fetch may change the world. -/
structure Provider (σ : Type) where
  latestCommitSHA : String → σ → Except String String
  listFiles : String → String → σ → Except String (List FileEntry)
  fetchFile : String → String → σ → σ × Except String Bytes

/-- `Service`: the interfaces it works with. -/
structure Service (σ : Type) where
  /-- The constructors of the known providers. -/
  provider : GitSource → Provider σ
  listAgents : σ → Except String (List Types.Agent)
  /-- `SendConfigToAgent`: the error, if there is one. -/
  sendConfigToAgent : UUID → Bytes → σ → σ × Option String
  foreignKeys : Bool := true
  /-- The text of a string under the `%q` verb. -/
  quote : String → String := fun s => "\"" ++ s ++ "\""

/-- `NewProvider`. -/
def newProvider (svc : Service σ) (gs : GitSource) : Except String (Provider σ) :=
  match gs.providerType with
  | .other name =>
    .error ("unknown provider type: " ++ svc.quote name
      ++ "; must be one of: github, gitlab, gitea, http")
  | _ => .ok (svc.provider gs)

/-! ### The loop over the rules -/

/-- The variables of the loop over the rules. -/
structure Loop (σ : Type) where
  world : σ
  store : Store
  filesChanged : Nat := 0
  agentsUpdated : Nat := 0
  pushErrors : List String := []

/-- Push the content to one matched agent. -/
def pushTo (svc : Service σ) (content : Bytes) (acc : Loop σ) (a : Types.Agent) : Loop σ :=
  match svc.sendConfigToAgent a.id content acc.world with
  | (world, some err) =>
    { acc with
      world
      pushErrors := acc.pushErrors ++ ["agent " ++ a.id.toString ++ ": " ++ err] }
  | (world, none) => { acc with world, agentsUpdated := acc.agentsUpdated + 1 }

/-- The file SHAs of the listing by path. -/
def shaByPath (entries : List FileEntry) : GoMap String String :=
  entries.foldl (fun m e => m.insert e.path e.sha) ∅

/-- The file cache after a file that the loop is done with. -/
def cacheFileSHA (svc : Service σ) (gs : GitSource) (store : Store) (path fileSHA : String) :
    Store :=
  if fileSHA = "" then store else store.upsertFileSHA svc.foreignKeys gs.id path fileSHA

/-- Whether the loop skips a file: its SHA is the cached one. -/
def fileUnchanged (gs : GitSource) (store : Store) (path fileSHA : String) : Bool :=
  let cached := store.getFileSHA gs.id path
  cached != "" && cached == fileSHA

/-- One round of the loop over the rules. -/
def syncRule (svc : Service σ) (prov : Provider σ) (gs : GitSource) (forceAll : Bool)
    (shas : GoMap String String) (agents : List Types.Agent) (acc : Loop σ) (rule : LabelRule) :
    Loop σ :=
  let fileSHA := (shas.lookup rule.filePath).getD ""
  if !forceAll && fileUnchanged gs acc.store rule.filePath fileSHA then acc
  else
    match prov.fetchFile rule.filePath fileSHA acc.world with
    | (world, .error err) =>
      -- The cached SHA stays, so the next sync fetches the file again.
      { acc with
        world
        pushErrors := acc.pushErrors ++ ["fetch " ++ rule.filePath ++ ": " ++ err] }
    | (world, .ok content) =>
      let acc := { acc with world }
      let matched := matchAgents rule agents
      if matched = [] then
        { acc with store := cacheFileSHA svc gs acc.store rule.filePath fileSHA }
      else
        let acc := matched.foldl (pushTo svc content) acc
        -- The file counts as synced even when a push to a matched agent failed.
        { acc with
          store := cacheFileSHA svc gs acc.store rule.filePath fileSHA
          filesChanged := acc.filesChanged + 1 }

/-! ### Syncs -/

/-- The world and the store after a sync, and what `runSync` returns. -/
structure Outcome (σ : Type) where
  world : σ
  store : Store
  result : SyncResult
  err : Option String := none

/-- `recordFailure`. -/
def recordFailure (store : Store) (sourceID sha err : String) : Store :=
  store.updateSyncState sourceID sha .failed err

/-- Step 7 of `runSync`: persist the outcome of the loop. -/
def persistOutcome (gs : GitSource) (commitSHA : String) (acc : Loop σ) : Outcome σ :=
  let finalSHA := if commitSHA = "" then gs.lastSyncSHA else commitSHA
  let result : SyncResult := {
    sourceID := gs.id
    filesChanged := acc.filesChanged
    agentsUpdated := acc.agentsUpdated }
  match acc.pushErrors with
  | [] =>
    { world := acc.world
      store := acc.store.updateSyncState gs.id finalSHA .success ""
      result }
  | err :: _ =>
    { world := acc.world
      store := recordFailure acc.store gs.id finalSHA
        (toString acc.pushErrors.length ++ " error(s): " ++ err)
      result := { result with errors := acc.pushErrors } }

/-- `runSync`. -/
def runSync (svc : Service σ) (gs : GitSource) (forceAll : Bool) (world : σ) (store : Store) :
    Outcome σ :=
  let failed (sha err text : String) : Outcome σ := {
    world
    store := recordFailure store gs.id sha err
    result := { sourceID := gs.id }
    err := some text }
  match newProvider svc gs with
  -- This failure clears the SHA of the last sync. The later ones keep it.
  | .error err => failed "" err err
  | .ok prov =>
    match prov.latestCommitSHA gs.branch world with
    | .error err => failed gs.lastSyncSHA err ("fetching commit SHA: " ++ err)
    | .ok commitSHA =>
      if !forceAll && commitSHA != "" && commitSHA == gs.lastSyncSHA then
        { world, store, result := { sourceID := gs.id } }
      else
        match prov.listFiles gs.branch gs.configRoot world with
        | .error err => failed gs.lastSyncSHA err ("listing files: " ++ err)
        | .ok entries =>
          let rules := parseRules entries gs.configRoot
          match svc.listAgents world with
          | .error err => failed gs.lastSyncSHA err ("listing agents: " ++ err)
          | .ok agentList =>
            persistOutcome gs commitSHA
              (rules.foldl (syncRule svc prov gs forceAll (shaByPath entries) agentList)
                { world, store })

/-- `ErrNotFound`. -/
def errNotFound : String := "git source not found"

/-- `TriggerSync`: the outcome, or the error of a missing source. -/
def triggerSync (svc : Service σ) (id : String) (world : σ) (store : Store) :
    Except String (Outcome σ) :=
  match store.get id with
  | .error _ => .error errNotFound
  | .ok gs => .ok (runSync svc gs true world store)

/-- `doSync`, as the poller calls it: the world and the store after it. The source is read
again. Errors are logged. -/
def doSync (svc : Service σ) (id : String) (world : σ) (store : Store) : σ × Store :=
  match store.get id with
  | .error _ => (world, store)
  | .ok gs =>
    let outcome := runSync svc gs false world store
    (outcome.world, outcome.store)

end OtelHive.Gitsync
