import OtelHive.Types

/-!
# `OtelHive.Gitsync.Types`: git sources and rules

`internal/gitsync/types.go`, and `FileEntry` of `providers/provider.go`.
-/

set_option autoImplicit false

namespace OtelHive.Gitsync

open OtelHive.Lib

/-- `Provider`: the known hosting backends, or another string from the database. -/
inductive ProviderType where
  | github
  | gitlab
  | gitea
  | http
  | other (name : String)
deriving DecidableEq

inductive SyncStatus where
  | pending
  | success
  | failed
deriving DecidableEq

/-- `GitSource`. -/
structure GitSource where
  id : String
  name : String
  repoURL : String := ""
  token : String := ""
  branch : String := "main"
  configRoot : String := "configs"
  providerType : ProviderType
  pollIntervalSeconds : GoInt := .wrap 300
  webhookSecret : String := ""
  lastSyncSHA : String := ""
  lastSyncStatus : SyncStatus := .pending
  lastSyncError : String := ""
deriving DecidableEq

/-- `FileEntry`: a listed file with the SHA of its blob. -/
structure FileEntry where
  path : String
  sha : String
deriving DecidableEq

/-- `LabelRule`. The source never sets the rule's own SHA. -/
structure LabelRule where
  filePath : String
  selectors : GoMap String String
deriving DecidableEq

/-- `SyncResult`. -/
structure SyncResult where
  sourceID : String
  filesChanged : Nat := 0
  agentsUpdated : Nat := 0
  errors : List String := []
deriving DecidableEq

end OtelHive.Gitsync
