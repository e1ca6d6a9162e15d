import OtelHive.Api.Handlers
import OtelHive.Gitsync.Sources

/-!
# `OtelHive.Api.GitSources`: the endpoints of the git sources

The authenticated handlers of `internal/api/handlers/gitsync.go`. A handler gets the decoded
request body, or the text of the decoder's error, and writes a JSON value. It changes the table of
the sources. The pollers that it starts and stops are in `OtelHive.Gitsync.Workers`.

A source has two encodings. `sanitise` is the one that leaves the secrets out, and
`SourceRow.toJson` follows the tags of the struct.
-/

set_option autoImplicit false

namespace OtelHive.Api

open OtelHive.Lib
open OtelHive.Gitsync

/-! ### JSON -/

/-- What `c.JSON` writes. -/
inductive JsonValue where
  | null
  | bool (b : Bool)
  | num (z : Int)
  | str (s : String)
  /-- A time, which is written as text. -/
  | time (t : Time)
  | arr (items : List JsonValue)
  | obj (fields : List (String × JsonValue))

/-- A nil pointer to a time is `null`. -/
def JsonValue.ofTime? : Option Time → JsonValue
  | none => .null
  | some t => .time t

/-- The fields of an object. -/
def JsonValue.fields : JsonValue → List (String × JsonValue)
  | .obj fields => fields
  | _ => []

/-- A field with the tag `omitempty`. -/
def omitEmpty (name value : String) : List (String × JsonValue) :=
  if value = "" then [] else [(name, .str value)]

/-- The encoding of `GitSource` by the tags of its fields. -/
def SourceRow.toJson (gs : SourceRow) : JsonValue :=
  .obj <|
    [("id", .str gs.id), ("name", .str gs.name), ("repo_url", .str gs.repoURL)]
      ++ omitEmpty "token" gs.token
      ++ [("branch", .str gs.branch), ("config_root", .str gs.configRoot),
        ("provider", .str gs.provider), ("poll_interval_seconds", .num gs.pollIntervalSeconds.1)]
      ++ omitEmpty "webhook_secret" gs.webhookSecret
      ++ omitEmpty "last_sync_sha" gs.lastSyncSHA
      ++ (gs.lastSyncAt.map fun t => ("last_sync_at", .time t)).toList
      ++ omitEmpty "last_sync_status" gs.lastSyncStatus
      ++ omitEmpty "last_sync_error" gs.lastSyncError
      ++ [("created_at", .time gs.createdAt), ("updated_at", .time gs.updatedAt)]

/-- `sanitise`. The keys of a map are written in order. -/
def sanitise (gs : SourceRow) : JsonValue :=
  .obj [("branch", .str gs.branch), ("config_root", .str gs.configRoot),
    ("created_at", .time gs.createdAt), ("has_token", .bool (gs.token != "")),
    ("has_webhook_secret", .bool (gs.webhookSecret != "")), ("id", .str gs.id),
    ("last_sync_at", .ofTime? gs.lastSyncAt), ("last_sync_error", .str gs.lastSyncError),
    ("last_sync_sha", .str gs.lastSyncSHA), ("last_sync_status", .str gs.lastSyncStatus),
    ("name", .str gs.name), ("poll_interval_seconds", .num gs.pollIntervalSeconds.1),
    ("provider", .str gs.provider), ("repo_url", .str gs.repoURL),
    ("updated_at", .time gs.updatedAt)]

/-! ### Requests and responses -/

/-- `createSourceRequest`. -/
structure CreateSourceRequest where
  name : String := ""
  repoURL : String := ""
  token : String := ""
  branch : String := ""
  configRoot : String := ""
  provider : String := ""
  pollIntervalSeconds : GoInt := .wrap 0
  webhookSecret : String := ""
deriving DecidableEq

/-- The required fields, and whether the request sets them. -/
def CreateSourceRequest.required (req : CreateSourceRequest) : List (String × Bool) :=
  [("Name", req.name != ""), ("RepoURL", req.repoURL != ""), ("Provider", req.provider != "")]

/-- The response. `gin.Recovery` answers a panic with an empty body. -/
structure Response where
  status : Nat
  body : Option JsonValue

/-- `c.JSON(status, gin.H{"error": err})`. -/
def errorResponse (status : Nat) (err : String) : Response :=
  ⟨status, some (.obj [("error", .str err)])⟩

/-- `isValidationErr`. It panics on a short text. -/
def isValidationErr (msg : String) : Option Bool :=
  if msg = "name is required" ∨ msg = "repo_url is required" then some true
  else if msg = "" then some false
  else if msg.utf8ByteSize < 7 then none
  else some ("unknown".toList.isPrefixOf msg.toList)

/-- The response to an error of `CreateSource` or `UpdateSource`. -/
def serviceErrorResponse (err : String) : Response :=
  match isValidationErr err with
  | none => ⟨500, none⟩
  | some true => errorResponse 400 err
  | some false => errorResponse 500 err

/-! ### Handlers -/

/-- `HandleListSources`. -/
def handleListSources (env : SourceEnv) (t : Sources) : Sources × Response :=
  match t.list env with
  | .error err => (t, errorResponse 500 err)
  | .ok sources => (t, ⟨200, some (.obj [("git_sources", .arr (sources.map SourceRow.toJson))])⟩)

/-- `HandleGetSource`. -/
def handleGetSource (env : SourceEnv) (t : Sources) (id : String) : Sources × Response :=
  match t.get env id with
  | .error _ => (t, errorResponse 404 "git source not found")
  | .ok gs => (t, ⟨200, some (sanitise gs)⟩)

/-- The source that `HandleCreateSource` makes of its request. -/
def CreateSourceRequest.newSource (req : CreateSourceRequest) : SourceRow where
  name := req.name
  repoURL := req.repoURL
  token := req.token
  branch := req.branch
  configRoot := req.configRoot
  provider := req.provider
  pollIntervalSeconds := req.pollIntervalSeconds
  webhookSecret := req.webhookSecret

/-- `CreateSource` of the service, apart from the poller. -/
def createSource (env : SourceEnv) (t : Sources) (gs : SourceRow) :
    Except String (Sources × SourceRow) :=
  match validate env.quote gs with
  | some err => .error err
  | none => t.create env gs

/-- `HandleCreateSource`. -/
def handleCreateSource (env : SourceEnv) (t : Sources) (body : Except String CreateSourceRequest) :
    Sources × Response :=
  match bind "createSourceRequest" CreateSourceRequest.required body with
  | .error err => (t, errorResponse 400 err)
  | .ok req =>
    match createSource env t req.newSource with
    | .error err => (t, serviceErrorResponse err)
    | .ok (t', gs) => (t', ⟨201, some (sanitise gs)⟩)

/-- The source that `HandleUpdateSource` makes of the stored one. -/
def CreateSourceRequest.edit (req : CreateSourceRequest) (existing : SourceRow) : SourceRow :=
  { existing with
    name := req.name
    repoURL := req.repoURL
    token := if req.token != "" then req.token else existing.token
    branch := req.branch
    configRoot := req.configRoot
    provider := req.provider
    pollIntervalSeconds :=
      if 0 < req.pollIntervalSeconds.1 then req.pollIntervalSeconds
      else existing.pollIntervalSeconds
    -- A blank secret replaces the stored one.
    webhookSecret := req.webhookSecret }

/-- `UpdateSource` of the service, apart from the poller. -/
def updateSource (env : SourceEnv) (t : Sources) (gs : SourceRow) :
    Except String (Sources × SourceRow) :=
  match validate env.quote gs with
  | some err => .error err
  | none => t.update env gs

/-- `HandleUpdateSource`. -/
def handleUpdateSource (env : SourceEnv) (t : Sources) (id : String)
    (body : Except String CreateSourceRequest) : Sources × Response :=
  match t.get env id with
  | .error _ => (t, errorResponse 404 "git source not found")
  | .ok existing =>
    match bind "createSourceRequest" CreateSourceRequest.required body with
    | .error err => (t, errorResponse 400 err)
    | .ok req =>
      match updateSource env t (req.edit existing) with
      | .error err => (t, serviceErrorResponse err)
      | .ok (t', gs) => (t', ⟨200, some (sanitise gs)⟩)

/-- `HandleDeleteSource`. -/
def handleDeleteSource (env : SourceEnv) (t : Sources) (id : String) : Sources × Response :=
  match t.get env id with
  | .error _ => (t, errorResponse 404 "git source not found")
  | .ok _ =>
    match t.delete env id with
    | .error err => (t, errorResponse 500 err)
    | .ok t' => (t', ⟨204, none⟩)

/-- A request for the sources. -/
inductive SourceRequest where
  | list
  | get (id : String)
  | create (body : Except String CreateSourceRequest)
  | update (id : String) (body : Except String CreateSourceRequest)
  | delete (id : String)

/-- The table after a request, and the response. -/
def handleSource (env : SourceEnv) (t : Sources) : SourceRequest → Sources × Response
  | .list => handleListSources env t
  | .get id => handleGetSource env t id
  | .create body => handleCreateSource env t body
  | .update id body => handleUpdateSource env t id body
  | .delete id => handleDeleteSource env t id

end OtelHive.Api
