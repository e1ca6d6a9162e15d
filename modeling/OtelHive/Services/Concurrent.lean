import OtelHive.Memory.Store
import OtelHive.Services.AgentService

/-!
# `OtelHive.Services.Concurrent`: calls of `StoreConfigForAgent` at the same time

Handlers run in goroutines of their own, and nothing keeps the storage calls of one
`StoreConfigForAgent` together. A step is one storage call, which is atomic on either backend. No
call fails here, apart from an insert that the tables refuse.

`AppStore` is the part of the interface `ApplicationStore` that the service calls. It also names the
stored configs, which only the specification reads.
-/

set_option autoImplicit false

namespace OtelHive.Services.Concurrent

open OtelHive.Lib
open OtelHive.Types
open OtelHive.Sqlite (Storage)
open OtelHive.Memory (Store)

/-- A backend. `κ` is what a call depends on apart from the tables. -/
structure AppStore (σ κ : Type) where
  getAgent : σ → UUID → Option Agent
  getLatestConfigForAgent : σ → κ → UUID → Option Config
  createConfig : σ → κ → Config → Except String σ
  configs : σ → List Config

/-- SQLite, on a connection with or without foreign keys. -/
def sqlite : AppStore Storage Bool where
  getAgent := Storage.getAgent
  getLatestConfigForAgent s _ agentID := s.getLatestConfigForAgent agentID
  createConfig := Storage.createConfig
  configs := Storage.configs

/-- The store in memory, with the order of the loop over the configs. -/
def memory : AppStore Store (IterOrder String) where
  getAgent := Store.getAgent
  getLatestConfigForAgent := Store.getLatestConfigForAgent
  createConfig s _ config := s.createConfig config
  configs s := s.configs.values .asIs

/-- The two backends. -/
inductive Backend where
  | sqlite
  | memory
deriving DecidableEq

namespace Backend

/-- What a backend stores. -/
abbrev Tables : Backend → Type
  | sqlite => Storage
  | memory => Store

/-- What its calls depend on apart from the tables. -/
abbrev Context : Backend → Type
  | sqlite => Bool
  | memory => IterOrder String

def store : (backend : Backend) → AppStore backend.Tables backend.Context
  | sqlite => Concurrent.sqlite
  | memory => Concurrent.memory

end Backend

/-- How far a call of `StoreConfigForAgent` is. -/
inductive Stage where
  | getAgent
  | getLatestConfigForAgent
  /-- With the config that it has read. -/
  | createConfig (latestConfig : Option Config)
  | returned (result : Except String Config)

/-- A call of `StoreConfigForAgent`. -/
structure Call where
  agentID : UUID
  content : Bytes
  stage : Stage := .getAgent

/-- The version of the next config. -/
def versionAfter (latestConfig : Option Config) : GoInt :=
  latestConfig.elim (.wrap 1) (·.version.succ)

/-- The config that a call stores. -/
def Call.newConfig (call : Call) (latestConfig : Option Config) (newUUID : String) (now : Time) :
    Config where
  id := newUUID
  agentID := some call.agentID
  configHash := hexEncode (sha256 call.content)
  content := call.content
  version := versionAfter latestConfig
  createdAt := now

section System

variable {σ κ : Type} (store : AppStore σ κ)

/-- The next storage call: the call and the tables after it. -/
def Call.advance (ctx : κ) (newUUID : String) (now : Time) (call : Call) (s : σ) :
    Option (Call × σ) :=
  match call.stage with
  | .getAgent =>
    match store.getAgent s call.agentID with
    | none => some ({ call with stage := .returned (.error "agent not found") }, s)
    | some agent =>
      if !agent.capabilities.contains "accepts_remote_config" then
        some ({ call with
          stage := .returned (.error "agent does not support remote config") }, s)
      else some ({ call with stage := .getLatestConfigForAgent }, s)
  | .getLatestConfigForAgent =>
    some ({ call with
      stage := .createConfig (store.getLatestConfigForAgent s ctx call.agentID) }, s)
  | .createConfig latestConfig =>
    let newConfig := call.newConfig latestConfig newUUID now
    match store.createConfig s ctx newConfig with
    | .error err =>
      some ({ call with stage := .returned (.error ("failed to store config: " ++ err)) }, s)
    | .ok s => some ({ call with stage := .returned (.ok newConfig) }, s)
  | .returned _ => none

/-- The tables and the calls. -/
structure System (σ : Type) where
  store : σ
  calls : List Call

/-- What happens next. -/
inductive Event (κ : Type) where
  | storeConfigForAgent (agentID : UUID) (content : Bytes)
  /-- The call `i` makes its next storage call. -/
  | advance (i : Nat) (ctx : κ) (newUUID : String) (now : Time)

/-- One step. -/
def System.step (sys : System σ) : Event κ → Option (System σ)
  | .storeConfigForAgent agentID content =>
    some { sys with calls := sys.calls ++ [{ agentID, content }] }
  | .advance i ctx newUUID now => do
    let call ← sys.calls[i]?
    let (call, s) ← call.advance store ctx newUUID now sys.store
    some { store := s, calls := sys.calls.set i call }

/-- Before the first call. -/
def System.new (s : σ) : System σ := ⟨s, []⟩

end System

end OtelHive.Services.Concurrent
