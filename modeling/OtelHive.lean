import OtelHive.Lib.Runs
import OtelHive.Opamp.Server
import OtelHive.Opamp.ConfigSender
import OtelHive.Gitsync.Service
import OtelHive.Api.Handlers
import OtelHive.Proofs.Opamp.Agent
import OtelHive.Proofs.Opamp.Agents
import OtelHive.Proofs.Sqlite.Storage
import OtelHive.Proofs.Opamp.FirstConnect
import OtelHive.Proofs.Opamp.GroupAgreement
import OtelHive.Proofs.Opamp.Reconnect
import OtelHive.Proofs.Api.LatestConfig
import OtelHive.Proofs.Opamp.ConfigSender
import OtelHive.Api.System
import OtelHive.Proofs.Api.AgentPriority
import OtelHive.Api.GitSync
import OtelHive.Lib.Overwrite
import OtelHive.Proofs.Gitsync.Service
import OtelHive.Proofs.Api.GitSync
import OtelHive.Proofs.Api.Fallback
import OtelHive.Proofs.Api.Incremental
import OtelHive.Api.Polling
import OtelHive.Proofs.Api.Coverage
import OtelHive.Opamp.Concurrent
import OtelHive.Proofs.Gitsync.Retry
import OtelHive.Proofs.Opamp.Acknowledged
import OtelHive.Proofs.Api.Panics
import OtelHive.Api.Commander
import OtelHive.Proofs.Api.Delivery
import OtelHive.Proofs.Opamp.Health
import OtelHive.Proofs.Opamp.Record
import OtelHive.Lib.GoTime
import OtelHive.Auth.Service
import OtelHive.Proofs.Auth.Expiry
import OtelHive.Auth.Concurrent
import OtelHive.Proofs.Auth.Steps
import OtelHive.Proofs.Auth.Setup
import OtelHive.Proofs.Auth.Rotation
import OtelHive.Proofs.Auth.Logout
import OtelHive.Gitsync.Providers
import OtelHive.Proofs.Gitsync.Providers
import OtelHive.Proofs.Ui.Refresh
import OtelHive.Proofs.Ui.Available
import OtelHive.Sqlite.Pool
import OtelHive.Lib.References
import OtelHive.Proofs.Sqlite.Pool
import OtelHive.Memory.Store
import OtelHive.Proofs.Memory.Agreement
import OtelHive.Api.GitSources
import OtelHive.Proofs.Api.Secrets
import OtelHive.Proofs.Api.EditSource
import OtelHive.Gitsync.Workers
import OtelHive.Proofs.Gitsync.Workers
import OtelHive.Proofs.Gitsync.Stop
import OtelHive.Gitsync.Steps
import OtelHive.Proofs.Gitsync.Steps
import OtelHive.Api.Webhook
import OtelHive.Proofs.Api.Webhook
import OtelHive.Gitsync.Concurrent
import OtelHive.Proofs.Gitsync.Concurrent
import OtelHive.Lib.Collect
import OtelHive.Ui.JsString
import OtelHive.Ui.Validation
import OtelHive.Proofs.Ui.Validation
import OtelHive.Proofs.Gitsync.Turns
import OtelHive.Opamp.Sections
import OtelHive.Proofs.Opamp.RemoteConfig
import OtelHive.Proofs.Opamp.Regrouped
import OtelHive.Proofs.Opamp.StatusMerge
import OtelHive.Auth.ApiKeys
import OtelHive.Proofs.Auth.ApiKeys
import OtelHive.Api.Groups
import OtelHive.Proofs.Api.Groups
import OtelHive.Opamp.Persist
import OtelHive.Proofs.Opamp.Persist
import OtelHive.Api.Concurrent
import OtelHive.Proofs.Api.Concurrent
import OtelHive.Opamp.Deliveries
import OtelHive.Proofs.Opamp.Deliveries
import OtelHive.Proofs.Opamp.FullState
import OtelHive.Proofs.Opamp.WakeUps
import OtelHive.Proofs.Opamp.GroupPush
import OtelHive.Gitsync.Timer
import OtelHive.Proofs.Gitsync.Timer
import OtelHive.Gitsync.Downloads
import OtelHive.Proofs.Gitsync.Downloads
import OtelHive.Proofs.Gitsync.GroupFiles
import OtelHive.Proofs.Api.WebhookAuth
import OtelHive.Proofs.Gitsync.Listing
import OtelHive.Proofs.Api.StoredSources
import OtelHive.Proofs.Ui.Severity
import OtelHive.Proofs.Memory.Configs
import OtelHive.Proofs.Opamp.FailedReads
import OtelHive.Proofs.Services.StoreConfig
import OtelHive.Lib.Numbering
import OtelHive.Proofs.Services.Versions
import OtelHive.Proofs.Api.ConfigHashes
import OtelHive.Proofs.Ui.PathLookup
import OtelHive.Ui.Elements
import OtelHive.Proofs.Ui.Highlight
import OtelHive.Proofs.Opamp.ConfigEquality
import OtelHive.Proofs.Gitsync.StopOnce
import OtelHive.Lib.UrlParse
import OtelHive.Lib.Pages
import OtelHive.Audit.Store
import OtelHive.Gitsync.RepoUrls
import OtelHive.Proofs.Gitsync.RepoUrls
import OtelHive.Proofs.Audit.Pages
import OtelHive.Lib.Layers
import OtelHive.Proofs.Ui.PipelineGraph
import OtelHive.Lib.Joins
import OtelHive.Proofs.Ui.GraphIds
import OtelHive.Ui.BlockConfig
import OtelHive.Proofs.Ui.ComponentLines
import OtelHive.Lib.Json
import OtelHive.Sqlite.Rows
import OtelHive.Lib.Related
import OtelHive.Proofs.Sqlite.Rows
import OtelHive.Api.Gateway
import OtelHive.Proofs.Api.Gateway
import OtelHive.Proofs.Api.AuditTrail
import OtelHive.Api.Fleet
import OtelHive.Proofs.Api.Fleet
import OtelHive.Proofs.Api.ConfigHistory
import OtelHive.Proofs.Api.Dashboards
import OtelHive.Proofs.Api.Presence
import OtelHive.Proofs.Api.Restarts
import OtelHive.Lib.Boxes
import OtelHive.Proofs.Ui.Layout
import OtelHive.Lib.Debounce
import OtelHive.Ui.Editor
import OtelHive.Proofs.Ui.Editor
import OtelHive.Proofs.Ui.Session
import OtelHive.Proofs.Api.Sessions
import OtelHive.Ui.Client
import OtelHive.Proofs.Ui.Client
