import Mathlib.Data.List.Sort
import OtelHive.Gitsync.Service

/-!
# `OtelHive.Gitsync.Sources`: the stored git sources

The operations on `git_sources` of `internal/gitsync/store.go`, and the validation of
`internal/gitsync/service.go`. A row holds every column. The sync reads the columns that
`SourceRow.source` keeps.
-/

set_option autoImplicit false

namespace OtelHive.Gitsync

open OtelHive.Lib

/-- A row of `git_sources`, as `GitSource` holds it: the provider and the status are strings. -/
structure SourceRow where
  id : String := ""
  name : String
  repoURL : String
  token : String := ""
  branch : String := ""
  configRoot : String := ""
  provider : String
  pollIntervalSeconds : GoInt := .wrap 0
  webhookSecret : String := ""
  lastSyncSHA : String := ""
  lastSyncAt : Option Time := none
  lastSyncStatus : String := ""
  lastSyncError : String := ""
  createdAt : Time := 0
  updatedAt : Time := 0
deriving DecidableEq

/-- `Provider(s)`. -/
def ProviderType.ofString (s : String) : ProviderType :=
  if s = "github" then .github
  else if s = "gitlab" then .gitlab
  else if s = "gitea" then .gitea
  else if s = "http" then .http
  else .other s

/-- `SyncStatus(s)`, for the statuses that the service writes. -/
def SyncStatus.ofString (s : String) : SyncStatus :=
  if s = "success" then .success else if s = "failed" then .failed else .pending

/-- What the sync reads of a row. -/
def SourceRow.source (row : SourceRow) : GitSource where
  id := row.id
  name := row.name
  repoURL := row.repoURL
  token := row.token
  branch := row.branch
  configRoot := row.configRoot
  providerType := .ofString row.provider
  pollIntervalSeconds := row.pollIntervalSeconds
  webhookSecret := row.webhookSecret
  lastSyncSHA := row.lastSyncSHA
  lastSyncStatus := .ofString row.lastSyncStatus
  lastSyncError := row.lastSyncError

/-- The columns that `Update` writes. -/
def SourceRow.configuredAs (row gs : SourceRow) (now : Time) : SourceRow :=
  { row with
    name := gs.name
    repoURL := gs.repoURL
    token := gs.token
    branch := gs.branch
    configRoot := gs.configRoot
    provider := gs.provider
    pollIntervalSeconds := gs.pollIntervalSeconds
    webhookSecret := gs.webhookSecret
    updatedAt := now }

/-! ### Validation -/

/-- `unicode.IsSpace`. -/
def isSpaceRune (c : Char) : Bool :=
  let n := c.toNat
  (0x09 ≤ n && n ≤ 0x0d) || n == 0x20 || n == 0x85 || n == 0xa0 || n == 0x1680
    || (0x2000 ≤ n && n ≤ 0x200a) || n == 0x2028 || n == 0x2029 || n == 0x202f || n == 0x205f
    || n == 0x3000

/-- `strings.TrimSpace` leaves nothing of the text. -/
def isBlank (s : String) : Bool := s.toList.all isSpaceRune

/-- `validate`: the error, if there is one. -/
def validate (quote : String → String) (gs : SourceRow) : Option String :=
  if isBlank gs.name then some "name is required"
  else if isBlank gs.repoURL then some "repo_url is required"
  else if gs.provider = "github" ∨ gs.provider = "gitlab" ∨ gs.provider = "gitea"
      ∨ gs.provider = "http" then none
  else some ("unknown provider " ++ quote gs.provider
    ++ "; must be one of: github, gitlab, gitea, http")

/-! ### Store -/

/-- The calls of the store. -/
inductive SourceOp where
  | create
  | get
  | list
  | update
  | delete
deriving DecidableEq

/-- What the world outside answers during a request. -/
structure SourceEnv where
  now : Time
  newUUID : String
  /-- The text of a string under the `%q` verb. -/
  quote : String → String
  /-- The error of the database for a call of the store, `none` for a call that succeeds. -/
  faults : SourceOp → Option String

/-- Every call of the store succeeds. -/
def SourceEnv.quiet (now : Time) (newUUID : String) : SourceEnv where
  now
  newUUID
  quote s := "\"" ++ s ++ "\""
  faults _ := none

/-- Run a call of the store. A failing call returns an error. -/
def SourceEnv.call {α : Type} (env : SourceEnv) (op : SourceOp) (result : Except String α) :
    Except String α :=
  match env.faults op with
  | some err => .error err
  | none => result

/-- A call that returns a value has not failed, and the value is its result. -/
theorem SourceEnv.call_eq_ok {α : Type} {env : SourceEnv} {op : SourceOp}
    {result : Except String α} {a : α} (h : env.call op result = .ok a) :
    env.faults op = none ∧ result = .ok a := by
  unfold SourceEnv.call at h
  split at h
  · cases h
  · exact ⟨by assumption, h⟩

/-- The table `git_sources`. -/
abbrev Sources : Type := List SourceRow

namespace Sources

/-- What `Create` fills in before it inserts the row. -/
def prepare (env : SourceEnv) (gs : SourceRow) : SourceRow :=
  { gs with
    id := if gs.id = "" then env.newUUID else gs.id
    createdAt := env.now
    updatedAt := env.now
    branch := if gs.branch = "" then "main" else gs.branch
    configRoot := if gs.configRoot = "" then "configs" else gs.configRoot
    pollIntervalSeconds :=
      if gs.pollIntervalSeconds.1 = 0 then .wrap 300 else gs.pollIntervalSeconds }

/-- `Create`: the table, and the record that the caller holds. -/
def create (env : SourceEnv) (t : Sources) (gs : SourceRow) :
    Except String (Sources × SourceRow) :=
  let gs := prepare env gs
  env.call .create <|
    if t.any (·.id == gs.id) then .error "UNIQUE constraint failed: git_sources.id"
    -- The INSERT writes the state of the sync itself.
    else .ok (t ++ [{ gs with
      lastSyncSHA := ""
      lastSyncAt := none
      lastSyncStatus := "pending"
      lastSyncError := "" }], gs)

/-- `Get`. -/
def get (env : SourceEnv) (t : Sources) (id : String) : Except String SourceRow :=
  env.call .get <|
    match t.find? (·.id == id) with
    | some gs => .ok gs
    | none => .error "sql: no rows in result set"

/-- `List`: oldest first. -/
def list (env : SourceEnv) (t : Sources) : Except String (List SourceRow) :=
  env.call .list (.ok (t.insertionSort fun a b => a.createdAt ≤ b.createdAt))

/-- `Update`: the table, and the record that the caller holds. A missing row is no error. -/
def update (env : SourceEnv) (t : Sources) (gs : SourceRow) :
    Except String (Sources × SourceRow) :=
  env.call .update <|
    .ok (t.map fun row => if row.id = gs.id then row.configuredAs gs env.now else row,
      { gs with updatedAt := env.now })

/-- `Delete`. A missing row is no error. -/
def delete (env : SourceEnv) (t : Sources) (id : String) : Except String Sources :=
  env.call .delete (.ok (t.filter (·.id != id)))

end Sources

/-! ### Webhooks -/

/-- `computeHMAC`. -/
def computeHMAC (payload : Bytes) (secret : String) : String :=
  hexEncode (hmac secret.toUTF8.data.toList payload)

/-- `ValidateWebhookSignature`: the error, if there is one. -/
def validateWebhookSignature (env : SourceEnv) (t : Sources) (sourceID : String) (payload : Bytes)
    (sigHeader : String) : Option String :=
  match t.get env sourceID with
  | .error _ => some errNotFound
  | .ok gs =>
    if gs.webhookSecret = "" then none
    else if "sha256=".toList.isPrefixOf sigHeader.toList then
      if (computeHMAC payload gs.webhookSecret).toList = sigHeader.toList.drop 7 then none
      else some "webhook signature mismatch"
    else if sigHeader = gs.webhookSecret then none
    else some "webhook signature mismatch"

end OtelHive.Gitsync
