import OtelHive.Gitsync.Service

/-!
# `OtelHive.Gitsync.Steps`: a sync step by step

`TriggerSync` and `doSync` of `internal/gitsync`, one call to a store, a provider or an agent at
a time. Between two steps another goroutine can come, or the context of the sync can be cancelled.

A cancelled context fails the calls that take it. `runSync` ignores the error of `GetFileSHA` and
of `UpsertFileSHA`, and only logs an error of the last `UpdateSyncState`. A push takes no context,
and `recordFailure` brings its own.

`Gitsync.Service` has the same sync in one step.
-/

set_option autoImplicit false

namespace OtelHive.Gitsync

open OtelHive.Lib

variable {σ : Type}

/-! ### Contexts -/

/-- The calls of an interface that take the context of the sync. -/
inductive ContextCall where
  | latestCommitSHA
  | listFiles
  | listAgents
  | fetchFile (path : String)

/-- A context. After its cancellation a call fails with the text of an error. -/
inductive Context where
  | live
  | cancelled (err : ContextCall → String)

def Context.isLive : Context → Bool
  | .live => true
  | .cancelled _ => false

/-- The provider of a source under a context. The first two calls of the generic HTTP provider
make no request. -/
def Provider.under (prov : Provider σ) (type : ProviderType) : Context → Provider σ
  | .live => prov
  | .cancelled err => {
    latestCommitSHA := fun branch world =>
      if type = .http then prov.latestCommitSHA branch world else .error (err .latestCommitSHA)
    listFiles := fun branch rootPath world =>
      if type = .http then prov.listFiles branch rootPath world else .error (err .listFiles)
    fetchFile := fun path _ world => (world, .error (err (.fetchFile path))) }

/-- The interfaces of the service under a context. -/
def Service.under (svc : Service σ) (ctx : Context) : Service σ :=
  { svc with
    provider := fun gs => (svc.provider gs).under gs.providerType ctx
    listAgents := fun world =>
      match ctx with
      | .live => svc.listAgents world
      | .cancelled err => .error (err .listAgents) }

/-! ### Stages -/

/-- The local variables of `runSync` from the loop over the rules on. -/
structure Locals where
  gs : GitSource
  commitSHA : String
  shas : GoMap String String
  agents : List Types.Agent
  /-- The rules that the loop has left. -/
  rules : List LabelRule
  filesChanged : Nat := 0
  agentsUpdated : Nat := 0
  pushErrors : List String := []
deriving DecidableEq

/-- `fileSHA`. -/
def Locals.fileSHA (l : Locals) (rule : LabelRule) : String :=
  (l.shas.lookup rule.filePath).getD ""

/-- How far a sync is. -/
inductive Sync.Stage where
  /-- Before the read of the source. -/
  | get
  | latestCommitSHA (gs : GitSource)
  | listFiles (gs : GitSource) (commitSHA : String)
  | listAgents (gs : GitSource) (commitSHA : String) (entries : List FileEntry)
  /-- At the head of the loop over the rules. -/
  | nextRule (l : Locals)
  | fetchFile (l : Locals) (rule : LabelRule)
  /-- In the loop over the matched agents, with the agents that are left. -/
  | push (l : Locals) (rule : LabelRule) (content : Bytes) (matched : List Types.Agent)
  /-- Before `UpsertFileSHA`. The flag says that the rule matched an agent. -/
  | upsertFileSHA (l : Locals) (rule : LabelRule) (content : Bytes) (pushed : Bool)
  /-- Before the write of `recordFailure`, with what the sync returns after it. -/
  | recordFailure (sourceID sha syncErr : String) (result : SyncResult) (err : Option String)
  | returned (result : Except String (SyncResult × Option String))
deriving DecidableEq

/-- A call of `TriggerSync`, which forces the sync, or of `doSync`. -/
structure Sync where
  id : String
  forceAll : Bool
  stage : Sync.Stage := .get
deriving DecidableEq

namespace Sync

/-- The sync goes on to a stage. -/
def goto (sync : Sync) (stage : Stage) : Sync := { sync with stage }

/-- The stage of an error before the loop. -/
def failWith (gs : GitSource) (sha syncErr err : String) : Stage :=
  .recordFailure gs.id sha syncErr { sourceID := gs.id } (some err)

/-- The push to one matched agent: the next stage, and the world. -/
def afterPush (svc : Service σ) (l : Locals) (rule : LabelRule) (content : Bytes)
    (matched : List Types.Agent) (a : Types.Agent) (world : σ) : Stage × σ :=
  match svc.sendConfigToAgent a.id content world with
  | (world, some err) =>
    (.push { l with pushErrors := l.pushErrors ++ ["agent " ++ a.id.toString ++ ": " ++ err] }
      rule content matched, world)
  | (world, none) =>
    (.push { l with agentsUpdated := l.agentsUpdated + 1 } rule content matched, world)

/-- The result of the loop. -/
def loopResult (l : Locals) : SyncResult where
  sourceID := l.gs.id
  filesChanged := l.filesChanged
  agentsUpdated := l.agentsUpdated
  errors := l.pushErrors

/-- `finalSHA`. -/
def finalSHA (l : Locals) : String := if l.commitSHA = "" then l.gs.lastSyncSHA else l.commitSHA

/-- The next step of a sync, with the world and the store after it. A sync that has returned
takes no step. -/
def step (svc : Service σ) (ctx : Context) (sync : Sync) (world : σ) (store : Store) :
    Option (Sync × σ × Store) :=
  let svc := svc.under ctx
  match sync.stage with
  | .get =>
    match ctx, store.get sync.id with
    | .live, .ok gs => some (sync.goto (.latestCommitSHA gs), world, store)
    -- Any error of the read is `ErrNotFound`.
    | _, _ => some (sync.goto (.returned (.error errNotFound)), world, store)
  | .latestCommitSHA gs =>
    match newProvider svc gs with
    | .error err => some (sync.goto (failWith gs "" err err), world, store)
    | .ok prov =>
      match prov.latestCommitSHA gs.branch world with
      | .error err =>
        some (sync.goto (failWith gs gs.lastSyncSHA err ("fetching commit SHA: " ++ err)),
          world, store)
      | .ok commitSHA =>
        if !sync.forceAll && commitSHA != "" && commitSHA == gs.lastSyncSHA then
          some (sync.goto (.returned (.ok ({ sourceID := gs.id }, none))), world, store)
        else some (sync.goto (.listFiles gs commitSHA), world, store)
  | .listFiles gs commitSHA =>
    match (svc.provider gs).listFiles gs.branch gs.configRoot world with
    | .error err =>
      some (sync.goto (failWith gs gs.lastSyncSHA err ("listing files: " ++ err)), world, store)
    | .ok entries => some (sync.goto (.listAgents gs commitSHA entries), world, store)
  | .listAgents gs commitSHA entries =>
    match svc.listAgents world with
    | .error err =>
      some (sync.goto (failWith gs gs.lastSyncSHA err ("listing agents: " ++ err)), world, store)
    | .ok agents =>
      some (sync.goto (.nextRule {
        gs, commitSHA, agents
        shas := shaByPath entries
        rules := parseRules entries gs.configRoot }), world, store)
  | .nextRule l =>
    match l.rules with
    | rule :: rules =>
      let l := { l with rules }
      -- `GetFileSHA` with a cancelled context reads the empty SHA.
      if !sync.forceAll && ctx.isLive && fileUnchanged l.gs store rule.filePath (l.fileSHA rule)
      then some (sync.goto (.nextRule l), world, store)
      else some (sync.goto (.fetchFile l rule), world, store)
    | [] =>
      match l.pushErrors with
      | err :: _ =>
        some (sync.goto (.recordFailure l.gs.id (finalSHA l)
          (toString l.pushErrors.length ++ " error(s): " ++ err) (loopResult l) none),
          world, store)
      | [] =>
        some (sync.goto (.returned (.ok (loopResult l, none))), world,
          if ctx.isLive then store.updateSyncState l.gs.id (finalSHA l) .success "" else store)
  | .fetchFile l rule =>
    match (svc.provider l.gs).fetchFile rule.filePath (l.fileSHA rule) world with
    | (world, .error err) =>
      some (sync.goto (.nextRule
        { l with pushErrors := l.pushErrors ++ ["fetch " ++ rule.filePath ++ ": " ++ err] }),
        world, store)
    | (world, .ok content) =>
      match matchAgents rule l.agents with
      | [] => some (sync.goto (.upsertFileSHA l rule content false), world, store)
      | matched => some (sync.goto (.push l rule content matched), world, store)
  | .push l rule content (a :: matched) =>
    let (stage, world) := afterPush svc l rule content matched a world
    some (sync.goto stage, world, store)
  | .push l rule content [] =>
    some (sync.goto (.upsertFileSHA l rule content true), world, store)
  | .upsertFileSHA l rule _ pushed =>
    let next := if pushed then { l with filesChanged := l.filesChanged + 1 } else l
    some (sync.goto (.nextRule next), world,
      if ctx.isLive then cacheFileSHA svc l.gs store rule.filePath (l.fileSHA rule) else store)
  | .recordFailure sourceID sha syncErr result err =>
    some (sync.goto (.returned (.ok (result, err))), world,
      Gitsync.recordFailure store sourceID sha syncErr)
  | .returned _ => none

/-- The next step passes the context of the sync to a call. -/
def usesContext (svc : Service σ) (sync : Sync) : Bool :=
  match sync.stage with
  | .get => true
  | .latestCommitSHA gs => (newProvider svc gs).isOk
  | .listFiles _ _ => true
  | .listAgents _ _ _ => true
  | .nextRule l => if l.rules = [] then l.pushErrors = [] else !sync.forceAll
  | .fetchFile _ _ => true
  | .push _ _ _ _ => false
  | .upsertFileSHA l rule _ _ => l.fileSHA rule != ""
  | .recordFailure _ _ _ _ _ => false
  | .returned _ => false

end Sync

end OtelHive.Gitsync
